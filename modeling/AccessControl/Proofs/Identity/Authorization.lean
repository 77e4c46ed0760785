import AccessControl.Proofs.Identity.Precedence
import AccessControl.Proofs.Identity.Token
import AccessControl.Proofs.Text.Split
import AccessControl.Proofs.Text.Trim

/-!
# Authorization values

A value of the `authorization` header is a credential, alone or behind the scheme `bearer`, a run of
blanks between them. How the scheme is written makes no difference, nor whether it is there: all
such values leave the same credential, and an identity is made of that. The scheme alone leaves
nothing. Of a credential that is a token, rules that ask for a subject take the claimed subject.

A value from any other place is a text and nothing else: it is trimmed, a scheme in it stays, and no
claim is looked for.
-/

namespace AccessControl

/-- Names of headers are compared without regard to case. -/
theorem Call.header?_congr {name other : String} (h : Text.eqIgnoringCase name other = true)
    (call : Call) : call.header? name = call.header? other := by
  have hname : Text.asciiLowercase name = Text.asciiLowercase other := beq_iff_eq.mp h
  cases hheaders : call.headers <;>
    simp only [header?, Headers.text?, Http.Fields.text?, hheaders, hname]

namespace Identity

open Text (eqIgnoringCase isAsciiBlank isBlank trim)

def IsScheme (scheme : String) : Prop := eqIgnoringCase scheme "bearer" = true

instance (scheme : String) : Decidable (IsScheme scheme) :=
  inferInstanceAs (Decidable (eqIgnoringCase scheme "bearer" = true))

/-- A text that can stand alone in an authorization value: it neither is the scheme nor begins with
it. -/
structure IsCredential (text : String) : Prop where
  readable : Http.isReadable text = true
  trimmed : trim text = text
  ne_empty : text ≠ ""
  ne_scheme : ¬ IsScheme text
  no_scheme : ∀ scheme blank rest, text.toList = scheme ++ blank :: rest →
    isAsciiBlank blank = true → ¬ IsScheme (String.ofList scheme)

inductive Carries (credential : String) : String → Prop where
  | alone : Carries credential credential
  | behind {scheme blanks : String} (hscheme : IsScheme scheme) (hne : blanks ≠ "")
      (hblanks : ∀ c ∈ blanks.toList, c = ' ' ∨ c = '\t') :
      Carries credential (scheme ++ blanks ++ credential)

/-- The rules take this value of the `authorization` header of the call, which they name in any
case. -/
inductive Rules.TakesAuthorization (rules : Rules) (call : Call) (value : String) : Prop where
  | header {before after : List String} {name : String}
      (hsource : rules.source = some (.headers (before ++ name :: after)))
      (hbefore : ∀ earlier ∈ before, ∀ other, ¬ Usable call earlier other)
      (hname : isAuthorization name = true) (hvalue : call.header? "authorization" = some value)
  | metadata {key : String} (hsource : rules.source = some (.metadata key))
      (hname : isAuthorization key = true) (hvalue : call.header? "authorization" = some value)

/-- The rules take this value of the call from another place, or it is their fixed text. -/
inductive Rules.TakesElsewhere (rules : Rules) (call : Call) (value : String) : Prop where
  | header {names : List String} {name : String}
      (hsource : rules.source = some (.headers names)) (hname : isAuthorization name = false)
      (hfirst : FirstUsable call names name value)
  | metadata {key : String} (hsource : rules.source = some (.metadata key))
      (hname : isAuthorization key = false) (hvalue : call.header? key = some value)
  | context {key : String} (hsource : rules.source = some (.context key))
      (hvalue : call.contextText? key = some value)
  | hostname {index : Int} {host : String} (hsource : rules.source = some (.hostname index))
      (hhost : call.host = some host) (hsegment : hostSegment? host index = some value)
  | fixed (hsource : rules.source = none) (hfixed : rules.fixed = some value)

variable {scheme credential value : String}

/-! ## What is left of a value -/

theorem IsScheme.ne_empty (h : IsScheme scheme) : scheme ≠ "" := by
  rintro rfl
  exact absurd h (by decide)

theorem IsScheme.isBlank_eq_false (h : IsScheme scheme) {c : Char} (hc : c ∈ scheme.toList) :
    isBlank c = false := by
  have hlower : Text.asciiLowercase scheme = "bearer" := beq_iff_eq.mp h
  have hmem : c.toLower ∈ "bearer".toList := by
    rw [← hlower, Text.asciiLowercase, String.toList_ofList]
    exact List.mem_map_of_mem hc
  have hletters : "bearer".toList.all (!isBlank ·) = true := by decide
  by_contra hblank
  -- A blank is its own lower-case form, and that is a letter here.
  have hblank : isBlank c = true := by simpa using hblank
  rw [Text.toLower_of_isBlank hblank] at hmem
  have hletter := List.all_eq_true.mp hletters c hmem
  rw [hblank] at hletter
  cases hletter

theorem IsScheme.isAsciiBlank_eq_false (h : IsScheme scheme) {c : Char}
    (hc : c ∈ scheme.toList) : isAsciiBlank c = false := by
  by_contra hblank
  have hblank : isBlank c = true := Text.isBlank_of_isAsciiBlank (by simpa using hblank)
  rw [h.isBlank_eq_false hc] at hblank
  cases hblank

theorem IsScheme.trim_eq (h : IsScheme scheme) : trim scheme = scheme := by
  have hends : Text.trimEnds isBlank scheme.toList = scheme.toList :=
    Text.trimEnds_eq_self_iff.mpr
      ⟨fun c hc => h.isBlank_eq_false (List.mem_of_mem_head? hc),
        fun c hc => h.isBlank_eq_false (List.mem_of_mem_getLast? hc)⟩
  rw [trim, hends, String.ofList_toList]

theorem IsScheme.stripBearer_eq (h : IsScheme scheme) : stripBearer scheme = "" := by
  have hscheme : eqIgnoringCase scheme "bearer" = true := h
  simp only [stripBearer, h.trim_eq, hscheme, if_true]

theorem IsCredential.stripBearer_eq (h : IsCredential credential) :
    stripBearer credential = credential := by
  have hscheme : ¬ eqIgnoringCase credential "bearer" = true := h.ne_scheme
  simp only [stripBearer, h.trimmed, if_neg hscheme]
  split
  · rename_i first rest hsplit
    obtain ⟨c, hlist, hc, -⟩ := Text.splitOnce_eq_some_iff.mp hsplit
    exact if_neg (h.no_scheme first c rest hlist hc)
  · rfl

/-- A value with a scheme has no blanks at its ends. -/
theorem IsCredential.trim_behind (h : IsCredential credential) (hscheme : IsScheme scheme)
    (blanks : String) : trim (scheme ++ blanks ++ credential) = scheme ++ blanks ++ credential := by
  have hcredential : credential.toList ≠ [] := fun hnil =>
    h.ne_empty (String.toList_eq_nil_iff.mp hnil)
  have hends : Text.trimEnds isBlank credential.toList = credential.toList := by
    rw [← Text.toList_trim, h.trimmed]
  rw [trim, Text.trimEnds_eq_self_iff.mpr, String.ofList_toList]
  simp only [String.toList_append]
  constructor
  · intro c hc
    have hne : scheme.toList ≠ [] := fun hnil =>
      hscheme.ne_empty (String.toList_eq_nil_iff.mp hnil)
    rw [List.append_assoc, List.head?_append_of_ne_nil _ hne] at hc
    exact hscheme.isBlank_eq_false (List.mem_of_mem_head? hc)
  · intro c hc
    rw [List.getLast?_append_of_ne_nil _ hcredential] at hc
    exact (Text.trimEnds_eq_self_iff.mp hends).2 c hc

theorem IsCredential.stripBearer_behind (h : IsCredential credential) (hscheme : IsScheme scheme)
    {blanks : String} (hne : blanks ≠ "") (hblanks : ∀ c ∈ blanks.toList, c = ' ' ∨ c = '\t') :
    stripBearer (scheme ++ blanks ++ credential) = credential := by
  obtain ⟨first, rest, hlist⟩ :=
    List.exists_cons_of_ne_nil fun hnil => hne (String.toList_eq_nil_iff.mp hnil)
  have hascii : ∀ c ∈ blanks.toList, isAsciiBlank c = true := by
    intro c hc
    rcases hblanks c hc with rfl | rfl <;> decide
  have hfirst : isAsciiBlank first = true := hascii first (by simp [hlist])
  have hwhole : ¬ IsScheme (scheme ++ blanks ++ credential) := by
    intro hwhole
    have hletter := hwhole.isAsciiBlank_eq_false (c := first) (by simp [hlist])
    rw [hfirst] at hletter
    cases hletter
  have hsplit : Text.splitOnce isAsciiBlank (scheme ++ blanks ++ credential).toList =
      some (scheme.toList, rest ++ credential.toList) :=
    Text.splitOnce_eq_some_iff.mpr
      ⟨first, by simp [hlist], hfirst, fun c hc => hscheme.isAsciiBlank_eq_false hc⟩
  have hrest : trim (String.ofList (rest ++ credential.toList)) = credential := by
    have hdropped : ∀ c ∈ rest, isBlank c = true := fun c hc =>
      Text.isBlank_of_isAsciiBlank (hascii c (by simp [hlist, hc]))
    rw [trim, String.toList_ofList, Text.trimEnds_append_of_forall hdropped, ← trim, h.trimmed]
  simp only [stripBearer, h.trim_behind hscheme, hsplit, String.ofList_toList]
  exact (if_neg hwhole).trans ((if_pos hscheme).trans hrest)

theorem Carries.stripBearer_eq (h : Carries credential value)
    (hcredential : IsCredential credential) : stripBearer value = credential := by
  cases h with
  | alone => exact hcredential.stripBearer_eq
  | behind hscheme hne hblanks => exact hcredential.stripBearer_behind hscheme hne hblanks

theorem Carries.trim_eq (h : Carries credential value) (hcredential : IsCredential credential) :
    trim value = value := by
  cases h with
  | alone => exact hcredential.trimmed
  | behind hscheme hne hblanks => exact hcredential.trim_behind hscheme _

theorem Carries.trim_ne_empty (h : Carries credential value)
    (hcredential : IsCredential credential) : trim value ≠ "" := by
  intro hblank
  -- Of a blank value nothing would be left.
  have hnothing := remainder_of_blank hblank true
  rw [remainder, if_pos rfl, h.stripBearer_eq hcredential] at hnothing
  exact hcredential.ne_empty hnothing

/-! ## What is made of it -/

variable {rules : Rules} {call : Call}

theorem Rules.TakesAuthorization.value_eq (h : rules.TakesAuthorization call value)
    (hblank : trim value ≠ "") : rules.value call = (value, true) := by
  cases h with
  | @header before after name hsource hbefore hname hvalue =>
      rw [← Call.header?_congr hname] at hvalue
      have hfirst : FirstUsable call (before ++ name :: after) name value :=
        ⟨usable_iff.mpr ⟨hvalue, hblank⟩, before, after, rfl, hbefore⟩
      rw [Rules.value, hsource]
      exact (Source.read_headers_of_firstUsable hfirst).trans (by rw [hname])
  | metadata hsource hname hvalue =>
      rw [← Call.header?_congr hname] at hvalue
      simp only [Rules.value, hsource, Source.read, hvalue, hname, Option.getD_some]

theorem Rules.TakesElsewhere.value_eq (h : rules.TakesElsewhere call value) :
    rules.value call = (value, false) := by
  cases h with
  | header hsource hname hfirst =>
      rw [Rules.value, hsource]
      exact (Source.read_headers_of_firstUsable hfirst).trans (by rw [hname])
  | metadata hsource hname hvalue =>
      simp only [Rules.value, hsource, Source.read, hvalue, hname, Option.getD_some]
  | context hsource hvalue =>
      simp only [Rules.value, hsource, Source.read, hvalue, Option.getD_some]
  | hostname hsource hhost hsegment =>
      simp only [Rules.value, hsource, Source.read, hhost, Option.bind_some, hsegment,
        Option.getD_some]
  | fixed hsource hfixed =>
      simp only [Rules.value, hsource, hfixed, Option.getD_some]

theorem of_eq_mk {kind : Kind} (hkind : kind ≠ .anonymous) {text : String} (htext : text ≠ "") :
    of kind text = ⟨text, kind⟩ := by
  simp [of, hkind, htext]

/-- A claimed subject takes the place of the token. -/
theorem ofValue_subject_eq_iff {text : String} (htext : text ≠ "") (subject : String) :
    ofValue (some .subject) true text = ⟨subject, .subject⟩ ↔
      Token.HasSubject text subject ∨
        subject = text ∧ ∀ claimed, ¬ Token.HasSubject text claimed := by
  have hvalue : ofValue (some .subject) true text = of .subject ((Token.subject? text).getD text) :=
    rfl
  have hsubject : Kind.subject ≠ .anonymous := by decide
  rw [hvalue]
  simp only [← Token.subject?_eq_some_iff]
  cases hclaimed : Token.subject? text with
  | none =>
      rw [Option.getD_none, of_eq_mk hsubject htext]
      simp [eq_comm]
  | some claimed =>
      have hne : claimed ≠ "" := (Token.subject?_eq_some_iff.mp hclaimed).ne_empty
      rw [Option.getD_some, of_eq_mk hsubject hne]
      simp

theorem Rules.resolve_of_carries (hmapper : rules.mapper = none)
    (hcredential : IsCredential credential) (htakes : rules.TakesAuthorization call value)
    (hcarries : Carries credential value) :
    rules.resolve call = ofValue rules.kind true credential := by
  have hvalue := htakes.value_eq (hcarries.trim_ne_empty hcredential)
  rw [resolve_eq_ofValue hmapper hvalue, remainder, if_pos rfl, hcarries.stripBearer_eq hcredential]

theorem Rules.resolve_of_scheme (hmapper : rules.mapper = none)
    (htakes : rules.TakesAuthorization call scheme) (hscheme : IsScheme scheme) :
    rules.resolve call = unknown := by
  have hblank : trim scheme ≠ "" := hscheme.trim_eq.symm ▸ hscheme.ne_empty
  rw [resolve_eq_ofValue hmapper (htakes.value_eq hblank), ← ofText_eq_ofValue]
  refine ofText_of_remainder ?_
  rw [remainder, if_pos rfl, hscheme.stripBearer_eq]

/-- Values of the `authorization` header that carry one credential resolve alike, and the scheme
alone resolves to nobody. Of a credential that claims a subject, rules that ask for subjects take
that; otherwise the credential stays as it is. Values from elsewhere are trimmed, no more, so the
same values keep their scheme there. -/
theorem Rules.resolve_authorization (hmapper : rules.mapper = none)
    (hcredential : IsCredential credential) :
    (∀ call other value value', rules.TakesAuthorization call value →
      rules.TakesAuthorization other value' → Carries credential value →
      Carries credential value' → rules.resolve call = rules.resolve other) ∧
    (∀ call scheme, rules.TakesAuthorization call scheme → IsScheme scheme →
      rules.resolve call = unknown) ∧
    (∀ call value, rules.TakesAuthorization call value → Carries credential value →
      (rules.kind = some .subject → ∀ subject, rules.resolve call = ⟨subject, .subject⟩ ↔
        Token.HasSubject credential subject ∨
          subject = credential ∧ ∀ claimed, ¬ Token.HasSubject credential claimed) ∧
      (∀ kind, kind = .jwt ∨ kind = .manual → rules.kind = some kind →
        rules.resolve call = ⟨credential, kind⟩) ∧
      (rules.kind = none → rules.resolve call =
        ⟨credential, if Token.looksLike credential then .jwt else .subject⟩)) ∧
    (∀ call value, rules.TakesElsewhere call value →
      rules.resolve call = of (kindOf rules.kind (trim value)) (trim value) ∧
      (Carries credential value → rules.resolve call = of (kindOf rules.kind value) value)) := by
  refine ⟨?_, ?_, ?_, ?_⟩
  · intro call other value value' htakes htakes' hcarries hcarries'
    rw [resolve_of_carries hmapper hcredential htakes hcarries,
      resolve_of_carries hmapper hcredential htakes' hcarries']
  · intro call scheme htakes hscheme
    exact resolve_of_scheme hmapper htakes hscheme
  · intro call value htakes hcarries
    rw [resolve_of_carries hmapper hcredential htakes hcarries]
    refine ⟨?_, ?_, ?_⟩
    · intro hkind subject
      rw [hkind]
      exact ofValue_subject_eq_iff hcredential.ne_empty subject
    · intro kind hcases hkind
      rw [hkind]
      rcases hcases with rfl | rfl
      · exact of_eq_mk (by decide) hcredential.ne_empty
      · exact of_eq_mk (by decide) hcredential.ne_empty
    · intro hkind
      rw [hkind, ofValue_none]
      exact of_eq_mk (by split <;> decide) hcredential.ne_empty
  · intro call value htakes
    have htrimmed : rules.resolve call = of (kindOf rules.kind (trim value)) (trim value) := by
      rw [resolve_eq_ofValue hmapper htakes.value_eq]
      exact ofValue_false rules.kind (trim value)
    refine ⟨htrimmed, fun hcarries => ?_⟩
    rw [htrimmed, hcarries.trim_eq hcredential]

/-- A token behind a scheme in odd letters, read under the second of two names. -/
theorem Rules.resolve_authorization_of_token :
    let token := "eyJhbGciOiJIUzI1NiJ9.eyJzdWIiOiJhIn0.x"
    let source := Source.headers ["x-user", "Authorization"]
    let rules : Rules := ⟨some .subject, some "bob", some source, none⟩
    let call := Call.ofDecoded "/shop.Cart/Add" [("authorization", "bEARER" ++ " \t" ++ token)]
      ⟨none, none⟩
    rules.mapper = none ∧ IsCredential token ∧ rules.resolve call = ⟨"a", .subject⟩ := by
  intro token source rules call
  have hcredential : IsCredential token := by
    refine ⟨by decide, by decide, by decide, by decide, ?_⟩
    intro scheme blank rest hlist hblank
    have hall : token.toList.all (!isAsciiBlank ·) = true := by decide
    have hnone := List.all_eq_true.mp hall blank (by simp [hlist])
    rw [hblank] at hnone
    cases hnone
  have htakes : rules.TakesAuthorization call ("bEARER" ++ " \t" ++ token) := by
    have hnone : ∀ name ∈ ["x-user"], call.header? name = none := by decide
    refine @Rules.TakesAuthorization.header _ _ _ ["x-user"] [] "Authorization" rfl
      (fun earlier hearlier other husable => ?_) (by decide) (by decide)
    have hsome := (usable_iff.mp husable).1
    rw [hnone earlier hearlier] at hsome
    cases hsome
  have hcarries : Carries token ("bEARER" ++ " \t" ++ token) :=
    .behind (by decide) (by decide) (by simp)
  have hsubject : Token.HasSubject token "a" :=
    Token.subject?_eq_some_iff.mp (by decide +kernel)
  exact ⟨rfl, hcredential, ((((resolve_authorization rfl hcredential).2.2.1 call _ htakes
    hcarries).1 rfl) "a").mpr (.inl hsubject)⟩

end Identity

end AccessControl
