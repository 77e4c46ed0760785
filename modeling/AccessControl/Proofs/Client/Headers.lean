import AccessControl.Client.Headers
import AccessControl.Proofs.Entries
import AccessControl.Proofs.Fold
import AccessControl.Proofs.Steps
import AccessControl.Proofs.Text.Lowercase
import AccessControl.Proofs.Text.Utf8

/-!
# Which headers a client sends

The extra headers of a configuration are set first, in the order of their names, then the
identifiers and the credentials. Setting a header goes by its name in lower case, so of two extras
that are spelled differently the one with the greater name stays, and no extra stays beside a header
that the configuration fills itself. All of them are checked on the way, also those that are not
kept: the first one that cannot be sent is reported under the name that it was given.
-/

namespace AccessControl.Client

/-- A header with a valid name and a valid value. -/
def CanBeSent (header : String × String) : Prop :=
  Http.isHeaderName header.1 = true ∧ Http.isHeaderValue header.2 = true

instance : DecidablePred CanBeSent := fun header =>
  inferInstanceAs (Decidable (Http.isHeaderName header.1 = true ∧ _))

namespace Config

variable {config : Config}

/-- A setting without blanks at its ends, if anything is left of it. -/
def nonBlank? (setting : Option String) : Option String :=
  setting.bind fun text => if Text.trim text = "" then none else some (Text.trim text)

/-- The header that the configuration fills itself: the credentials and the identifiers. -/
def own? (config : Config) (name : String) : Option HeaderValue :=
  if name = "authorization" then config.authorization?.map (⟨·, true⟩)
  else
    (if name = "aserto-tenant-id" then nonBlank? config.tenantId
    else if name = "aserto-account-id" then nonBlank? config.accountId
    else if name = "aserto-session-id" then nonBlank? config.sessionId
    else none).map (⟨·, false⟩)

def ownNames : List String :=
  ["aserto-tenant-id", "aserto-account-id", "aserto-session-id", "authorization"]

/-- All headers that a configuration asks for, in the order in which they are set. -/
def offers (config : Config) : List (String × HeaderValue) :=
  config.headers.map (fun (name, text) => (name, ⟨text, false⟩)) ++
    ownNames.filterMap fun name => (config.own? name).map fun value => (name, value)

/-- An extra header that stands for a name in lower case: among those that are this name up to the
case of letters, the one whose name has the greatest bytes. -/
def StandsFor (config : Config) (name text : String) : Prop :=
  ∃ key, (key, text) ∈ config.headers ∧ Text.asciiLowercase key = name ∧
    ∀ other ∈ config.headers, Text.asciiLowercase other.1 = name →
      other = (key, text) ∨ Text.utf8 other.1 < Text.utf8 key

/-! ## One header after the other -/

def refusal? (offer : String × HeaderValue) : Option ConfigError :=
  if CanBeSent (offer.1, offer.2.text) then none else some (.invalidHeader offer.1)

theorem set_eq (headers : Headers) (offer : String × HeaderValue) :
    Headers.set headers offer.1 offer.2.text offer.2.sensitive =
      if CanBeSent (offer.1, offer.2.text) then
        .ok (headers.put (Text.asciiLowercase offer.1) offer.2)
      else .error (.invalidHeader offer.1) := by
  unfold Headers.set CanBeSent
  simp only [Bool.and_eq_true]
  rfl

theorem set_eq_error_iff (headers : Headers) (offer : String × HeaderValue) (error : ConfigError) :
    Headers.set headers offer.1 offer.2.text offer.2.sensitive = .error error ↔
      refusal? offer = some error := by
  rw [set_eq, refusal?]
  split <;> simp

theorem identifiers_eq (config : Config) :
    config.identifiers = [("aserto-tenant-id", config.tenantId),
      ("aserto-account-id", config.accountId), ("aserto-session-id", config.sessionId)].filterMap
        fun (name, setting) => (nonBlank? setting).map fun text => (name, text) := by
  have hsetting : ∀ setting : Option String,
      (setting.map Text.trim).filter (!·.isEmpty) = nonBlank? setting := by
    rintro (_ | text)
    · rfl
    · by_cases hblank : Text.trim text = "" <;> simp [nonBlank?, Option.filter, hblank]
  simp only [identifiers, hsetting]

theorem offers_eq (config : Config) :
    config.offers =
      (config.headers ++ config.identifiers).map (fun (name, text) => (name, ⟨text, false⟩)) ++
        config.authorization?.toList.map fun text => ("authorization", ⟨text, true⟩) := by
  have hown : ownNames.filterMap (fun name => (config.own? name).map fun value => (name, value)) =
      config.identifiers.map (fun (name, text) => (name, ⟨text, false⟩)) ++
        config.authorization?.toList.map fun text => ("authorization", ⟨text, true⟩) := by
    rw [identifiers_eq]
    cases htenant : nonBlank? config.tenantId <;> cases haccount : nonBlank? config.accountId <;>
      cases hsession : nonBlank? config.sessionId <;>
      cases hauthorization : config.authorization? <;>
      simp [ownNames, own?, htenant, haccount, hsession, hauthorization]
  rw [offers, hown, List.map_append, List.append_assoc]

theorem requestHeaders_eq_foldlM (config : Config) :
    config.requestHeaders = config.offers.foldlM
      (fun headers offer => Headers.set headers offer.1 offer.2.text offer.2.sensitive) [] := by
  rw [offers_eq, List.foldlM_append, List.foldlM_map, requestHeaders]
  cases (config.headers ++ config.identifiers).foldlM
      (fun headers (name, value) => Headers.set headers name value false) [] with
  | error error => rfl
  | ok headers =>
      cases config.authorization? with
      | none => rfl
      | some text => exact (bind_pure _).symm

theorem requestHeaders_eq_error_iff (config : Config) (error : ConfigError) :
    config.requestHeaders = .error error ↔ ∃ before offer after,
      config.offers = before ++ offer :: after ∧ (∀ earlier ∈ before, refusal? earlier = none) ∧
        refusal? offer = some error := by
  rw [requestHeaders_eq_foldlM, foldlM_eq_error_iff set_eq_error_iff]

theorem refusal?_eq_none_iff {offer : String × HeaderValue} :
    refusal? offer = none ↔ CanBeSent (offer.1, offer.2.text) := by
  unfold refusal?
  split <;> simp_all

theorem refusal?_eq_some_iff {offer : String × HeaderValue} {error : ConfigError} :
    refusal? offer = some error ↔
      ¬CanBeSent (offer.1, offer.2.text) ∧ error = .invalidHeader offer.1 := by
  unfold refusal?
  split <;> simp_all [eq_comm]

/-! ## What is kept -/

def under? (name : String) (offer : String × HeaderValue) : Option HeaderValue :=
  if Text.asciiLowercase offer.1 = name then some offer.2 else none

theorem written_of_requestHeaders {headers : Headers} (h : config.requestHeaders = .ok headers) :
    Entries.Sorted headers ∧ ∀ name, headers.get? name = lastSet (under? name) config.offers := by
  rw [requestHeaders_eq_foldlM] at h
  refine foldlM_ok_of_done (P := fun done headers => Entries.Sorted headers ∧
    ∀ name, headers.get? name = lastSet (under? name) done) ?_ ?_ h
  · intro done offer rest headers next _ hdone hnext
    rw [set_eq] at hnext
    split at hnext
    · cases hnext
      refine ⟨hdone.1.put _ _, fun name => ?_⟩
      rw [Entries.get?_put, hdone.2, lastSet_append_singleton, under?]
      split <;> rfl
    · cases hnext
  · exact ⟨List.Pairwise.nil, fun _ => rfl⟩

theorem own?_of_notMem {name : String} (h : name ∉ ownNames) : config.own? name = none := by
  simp only [ownNames, List.mem_cons, List.not_mem_nil, or_false, not_or] at h
  obtain ⟨htenant, haccount, hsession, hauthorization⟩ := h
  rw [own?, if_neg hauthorization, if_neg htenant, if_neg haccount, if_neg hsession]
  rfl

theorem mem_ownNames_of_own? {name : String} {value : HeaderValue}
    (h : config.own? name = some value) : name ∈ ownNames := by
  by_contra hnot
  cases (own?_of_notMem hnot).symm.trans h

theorem lastSet_own (config : Config) (name : String) :
    lastSet (under? name)
        (ownNames.filterMap fun own => (config.own? own).map fun value => (own, value)) =
      config.own? name := by
  have hlower : ∀ own ∈ ownNames, Text.asciiLowercase own = own := by decide +kernel
  have hunder : ∀ own ∈ ownNames, ((config.own? own).map fun value => (own, value)).bind
      (under? name) = if own = name then config.own? name else none := by
    intro own hown
    by_cases hname : own = name
    · subst hname
      cases config.own? own <;> simp [under?, hlower own hown]
    · cases config.own? own <;> simp [under?, hlower own hown, hname]
  rw [lastSet_filterMap, lastSet_congr hunder, lastSet_ite_eq, ite_eq_left_iff]
  exact fun h => (own?_of_notMem h).symm

theorem ascii_of_isHeaderName {name : String} (h : Http.isHeaderName name = true) :
    ∀ c ∈ name.toList, c.toNat < 128 := by
  have hsymbols : ∀ c ∈ "!#$%&'*+-.^_\x60|~".toList, c.toNat < 128 := by simp
  intro c hc
  simp only [Http.isHeaderName, Bool.and_eq_true, List.all_eq_true, Http.isNameChar,
    Bool.or_eq_true, List.contains_iff_mem] at h
  rcases h.2 c hc with hchar | hchar
  · exact (Text.toNat_of_isAlphanum hchar).2.trans_lt (by decide)
  · exact hsymbols c hchar

theorem under?_extra_eq_some_iff {name : String} {header : String × String} {value : HeaderValue} :
    under? name (header.1, ⟨header.2, false⟩) = some value ↔
      Text.asciiLowercase header.1 = name ∧ value = ⟨header.2, false⟩ := by
  rw [under?, Option.ite_none_right_eq_some, Option.some_inj, eq_comm (a := value)]

theorem lastSet_extras_eq_some_iff (hsorted : config.headers.Sorted)
    (hsent : ∀ header ∈ config.headers, CanBeSent header) (name : String) (value : HeaderValue) :
    lastSet (under? name) (config.headers.map fun (name, text) => (name, ⟨text, false⟩)) =
        some value ↔
      ∃ text, config.StandsFor name text ∧ value = ⟨text, false⟩ := by
  have horder : ∀ header ∈ config.headers, ∀ other ∈ config.headers,
      Text.utf8 other.1 < Text.utf8 header.1 ↔ other.1 < header.1 := by
    intro header hheader other hother
    exact Text.utf8_lt_utf8_iff (ascii_of_isHeaderName (hsent other hother).1)
      (ascii_of_isHeaderName (hsent header hheader).1)
  have hset : ∀ header : String × String,
      under? name (header.1, ⟨header.2, false⟩) ≠ none ↔ Text.asciiLowercase header.1 = name := by
    intro header
    rw [Option.ne_none_iff_exists']
    simp only [under?_extra_eq_some_iff, exists_and_left, exists_eq, and_true]
  rw [lastSet_map, lastSet_eq_some_iff_of_pairwise (fun _ _ => lt_asymm) hsorted]
  simp only [under?_extra_eq_some_iff, hset]
  constructor
  · rintro ⟨⟨key, text⟩, hmem, ⟨hkey, rfl⟩, hgreatest⟩
    refine ⟨text, ⟨key, hmem, hkey, fun other hother hname => ?_⟩, rfl⟩
    exact (hgreatest other hother hname).imp_right (horder _ hmem other hother).mpr
  · rintro ⟨text, ⟨key, hmem, hkey, hgreatest⟩, rfl⟩
    refine ⟨(key, text), hmem, ⟨hkey, rfl⟩, fun other hother hname => ?_⟩
    exact (hgreatest other hother hname).imp_right (horder _ hmem other hother).mp

theorem mem_offers_iff {name : String} {value : HeaderValue} :
    (name, value) ∈ config.offers ↔
      (∃ text, (name, text) ∈ config.headers ∧ value = ⟨text, false⟩) ∨
        config.own? name = some value := by
  rw [offers, List.mem_append, List.mem_map, List.mem_filterMap]
  refine or_congr ?_ ?_
  · constructor
    · rintro ⟨header, hmem, heq⟩
      cases heq
      exact ⟨header.2, hmem, rfl⟩
    · rintro ⟨text, hmem, rfl⟩
      exact ⟨(name, text), hmem, rfl⟩
  · constructor
    · rintro ⟨own, -, heq⟩
      obtain ⟨found, hfound, heq⟩ := Option.map_eq_some_iff.mp heq
      cases heq
      exact hfound
    · intro hown
      exact ⟨name, mem_ownNames_of_own? hown, by rw [hown, Option.map_some]⟩

theorem exists_requestHeaders_eq_ok_iff (config : Config) :
    (∃ headers, config.requestHeaders = .ok headers) ↔
      ∀ offer ∈ config.offers, CanBeSent (offer.1, offer.2.text) := by
  rw [requestHeaders_eq_foldlM, exists_foldlM_eq_ok_iff set_eq_error_iff]
  exact forall₂_congr fun _ _ => refusal?_eq_none_iff

/-- The own names are valid, so an own header can only fail by its value. -/
theorem canBeSent_own_iff {name : String} {value : HeaderValue}
    (h : config.own? name = some value) :
    CanBeSent (name, value.text) ↔ Http.isHeaderValue value.text = true := by
  have hnames : ∀ own ∈ ownNames, Http.isHeaderName own = true := by decide +kernel
  exact and_iff_right (hnames name (mem_ownNames_of_own? h))

theorem exists_requestHeaders_eq_error_iff (config : Config) :
    (∃ error, config.requestHeaders = .error error) ↔
      (∃ header ∈ config.headers, ¬CanBeSent header) ∨
        ∃ name value, config.own? name = some value ∧ Http.isHeaderValue value.text = false := by
  have hfails : (∃ error, config.requestHeaders = .error error) ↔
      ¬∃ headers, config.requestHeaders = .ok headers := by
    cases config.requestHeaders <;> simp
  rw [hfails, exists_requestHeaders_eq_ok_iff]
  push Not
  constructor
  · rintro ⟨⟨name, value⟩, hoffer, hnot⟩
    rcases mem_offers_iff.mp hoffer with ⟨text, hmem, rfl⟩ | hown
    · exact .inl ⟨(name, text), hmem, hnot⟩
    · rw [canBeSent_own_iff hown, Bool.not_eq_true] at hnot
      exact .inr ⟨name, value, hown, hnot⟩
  · rintro (⟨⟨name, text⟩, hmem, hnot⟩ | ⟨name, value, hown, hvalue⟩)
    · exact ⟨(name, ⟨text, false⟩), mem_offers_iff.mpr (.inl ⟨text, hmem, rfl⟩), hnot⟩
    · refine ⟨(name, value), mem_offers_iff.mpr (.inr hown), ?_⟩
      rw [canBeSent_own_iff hown, Bool.not_eq_true]
      exact hvalue

theorem mem_requestHeaders_iff (hsorted : config.headers.Sorted) {headers : Headers}
    (h : config.requestHeaders = .ok headers) (name : String) (value : HeaderValue) :
    (name, value) ∈ headers ↔
      config.own? name = some value ∨ config.own? name = none ∧
        ∃ text, config.StandsFor name text ∧ value = ⟨text, false⟩ := by
  obtain ⟨hkeys, hget⟩ := written_of_requestHeaders h
  have hsent : ∀ header ∈ config.headers, CanBeSent header := by
    intro header hmem
    exact (exists_requestHeaders_eq_ok_iff config).mp ⟨headers, h⟩ (header.1, ⟨header.2, false⟩)
      (mem_offers_iff.mpr (.inl ⟨header.2, hmem, rfl⟩))
  rw [← Entries.get?_eq_some_iff_mem hkeys.nodup_keys, hget, offers, lastSet_append, lastSet_own,
    Option.or_eq_some_iff, lastSet_extras_eq_some_iff hsorted hsent]

theorem isSet_eq_isSome_filter (secret : Option String) :
    isSet secret = (secret.filter (!·.isEmpty)).isSome := by
  rw [isSet, Option.isSome_filter]

theorem own?_authorization_of_apiKey {key : String} (h : config.apiKey = some key)
    (hne : key ≠ "") : config.own? "authorization" = some ⟨"basic " ++ key, true⟩ := by
  have hkey : config.apiKey.filter (!·.isEmpty) = some key := by
    simp [h, Option.filter, hne]
  rw [own?, if_pos rfl, authorization?, hkey]
  rfl

theorem isSome_own?_authorization_iff (config : Config) :
    (config.own? "authorization").isSome ↔
      isSet config.apiKey = true ∨ isSet config.token = true := by
  rw [own?, if_pos rfl, Option.isSome_map, authorization?, isSet_eq_isSome_filter,
    isSet_eq_isSome_filter]
  cases config.apiKey.filter (!·.isEmpty) <;> cases config.token.filter (!·.isEmpty) <;> simp

end Config

/-- Sending fails just if an extra header cannot be sent or an own one has a value that cannot, and
reports the first such header. Otherwise there is one header for each name: the own one, and without
it the extra one with the greatest name. So extras have no say in the names that the configuration
fills itself; it does so for the credentials if one of the secrets is set, and prefers the API
key. -/
theorem requestHeaders_own_or_last_extra {config : Config} (hsorted : config.headers.Sorted) :
    (∀ error, config.requestHeaders = .error error ↔
      ∃ before name value after, config.offers = before ++ (name, value) :: after ∧
        (∀ offer ∈ before, CanBeSent (offer.1, offer.2.text)) ∧ ¬CanBeSent (name, value.text) ∧
          error = .invalidHeader name) ∧
    ((∃ error, config.requestHeaders = .error error) ↔
      (∃ header ∈ config.headers, ¬CanBeSent header) ∨
        ∃ name value, config.own? name = some value ∧ Http.isHeaderValue value.text = false) ∧
    (∀ headers, config.requestHeaders = .ok headers →
      (headers.map Prod.fst).Nodup ∧
      ∀ name value, (name, value) ∈ headers ↔
        config.own? name = some value ∨ config.own? name = none ∧
          ∃ text, config.StandsFor name text ∧ value = ⟨text, false⟩) ∧
    (∀ (extras : Entries String) headers, extras.Sorted →
      { config with headers := extras }.requestHeaders = .ok headers →
        ∀ name own, config.own? name = some own → ∀ value, (name, value) ∈ headers ↔ value = own) ∧
    (∀ key, config.apiKey = some key → key ≠ "" →
      config.own? "authorization" = some ⟨"basic " ++ key, true⟩) ∧
    ((config.own? "authorization").isSome ↔
      Config.isSet config.apiKey = true ∨ Config.isSet config.token = true) := by
  refine ⟨?_, Config.exists_requestHeaders_eq_error_iff config, ?_, ?_,
    fun _ => Config.own?_authorization_of_apiKey, Config.isSome_own?_authorization_iff config⟩
  · intro error
    simp only [Config.requestHeaders_eq_error_iff, Config.refusal?_eq_none_iff,
      Config.refusal?_eq_some_iff, Prod.exists]
  · intro headers h
    exact ⟨(Config.written_of_requestHeaders h).1.nodup_keys,
      Config.mem_requestHeaders_iff hsorted h⟩
  · intro extras headers hextras h name own hown value
    have hown' : { config with headers := extras }.own? name = some own := hown
    rw [Config.mem_requestHeaders_iff hextras h, hown']
    simp [eq_comm]

/-- Extras with the names of own headers are forgotten, and of two that differ in case the greater
one stays. -/
theorem requestHeaders_own_or_last_extra_for_tenant :
    let config : Config := { Config.new "authorizer:8282" with
      apiKey := some "key", tenantId := some " acme "
      headers := [("Authorization", "forged"), ("X-A", "1"), ("aserto-tenant-id", "other"),
        ("x-a", "2")] }
    Entries.Sorted config.headers ∧ ∃ headers, config.requestHeaders = .ok headers ∧
      (∀ value, ("authorization", value) ∈ headers ↔ value = ⟨"basic key", true⟩) ∧
      (∀ value, ("aserto-tenant-id", value) ∈ headers ↔ value = ⟨"acme", false⟩) ∧
      ("x-a", ⟨"2", false⟩) ∈ headers := by
  intro config
  have hsorted : Entries.Sorted config.headers := by
    unfold Entries.Sorted
    decide +kernel
  have hsent : config.requestHeaders = .ok [("aserto-tenant-id", ⟨"acme", false⟩),
      ("authorization", ⟨"basic key", true⟩), ("x-a", ⟨"2", false⟩)] := by decide +kernel
  obtain ⟨-, -, hkept, hextras, hkey, -⟩ := requestHeaders_own_or_last_extra hsorted
  refine ⟨hsorted, _, hsent, hextras _ _ hsorted hsent _ _ (hkey "key" rfl (by decide)),
    hextras _ _ hsorted hsent _ _ (by decide +kernel), ?_⟩
  refine ((hkept _ hsent).2 "x-a" ⟨"2", false⟩).mpr (.inr ⟨by decide +kernel, "2", ?_, rfl⟩)
  refine ⟨"x-a", by decide +kernel, by decide +kernel, ?_⟩
  decide +kernel

end AccessControl.Client
