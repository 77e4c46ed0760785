import AccessControl.Identity.Token

/-!
# What makes a token, and the subject that it claims

A text is structurally a token if it has three parts and the first is an object that describes a
signature. `DescribesSignature` says so member by member: the algorithm must be there and be one of
the known ones, the registered members may be missing, and all others are texts.

A token claims a subject if its claims, the record in its second part, hold a `sub` that is a text
and not empty. The record may be an object with one member of this name, whatever else it holds, or
the list of its only field. Everything else that a text may look like claims no subject.
-/

namespace AccessControl

namespace Json.Document

theorem member?_eq_some_some_iff {members : List (Option String × Document)} {name : String}
    {doc : Document} :
    member? members name = some (some doc) ↔
      ∃ before after, members = before ++ (some name, doc) :: after ∧
        (∀ m ∈ before, m.1 ≠ some name) ∧ ∀ m ∈ after, m.1 ≠ some name := by
  have hfilter : member? members name = some (some doc) ↔
      members.filter (fun m => m.1 == some name) = [(some name, doc)] := by
    unfold member?
    constructor
    · intro h
      split at h
      · cases h
      · rename_i key found hfound
        cases h
        have hmem : (key, doc) ∈ members.filter (fun m => m.1 == some name) := by simp [hfound]
        have hkey : key = some name := beq_iff_eq.mp (List.mem_filter.mp hmem).2
        rw [hfound, hkey]
      · cases h
    · intro h
      rw [h]
  rw [hfilter, List.filter_eq_cons_iff]
  simp only [List.filter_eq_nil_iff, beq_iff_eq, true_and, ne_eq]

theorem member?_eq_some_none_iff {members : List (Option String × Document)} {name : String} :
    member? members name = some none ↔ ∀ m ∈ members, m.1 ≠ some name := by
  have hfilter : member? members name = some none ↔
      members.filter (fun m => m.1 == some name) = [] := by
    unfold member?
    constructor
    · intro h
      split at h
      · assumption
      · cases h
      · cases h
    · intro h
      rw [h]
  rw [hfilter]
  simp only [List.filter_eq_nil_iff, beq_iff_eq, ne_eq]

end Json.Document

namespace Token

open Json (Document)
open Json.Document (nullable text? list? variant? member? member?_eq_some_some_iff
  member?_eq_some_none_iff)

/-! ## Headers -/

/-- The members have one of the name, with the value. -/
def HoldsOnce (members : List (Option String × Document)) (name : String) (doc : Document) : Prop :=
  ∃ before after, members = before ++ (some name, doc) :: after ∧
    (∀ m ∈ before, m.1 ≠ some name) ∧ ∀ m ∈ after, m.1 ≠ some name

/-- A member that may be missing or null. -/
inductive MayHold (members : List (Option String × Document)) (name : String)
    (IsValue : Document → Prop) : Prop where
  | missing (absent : ∀ m ∈ members, m.1 ≠ some name)
  | null (once : HoldsOnce members name .null)
  | value {doc : Document} (once : HoldsOnce members name doc) (isValue : IsValue doc)

/-- A name, alone or as the key of a null. -/
inductive IsName (name : String) : Document → Prop where
  | alone : IsName name (.string (some name))
  | key : IsName name (.object [(some name, .null)])

inductive IsText : Document → Prop where
  | mk (text : String) : IsText (.string (some text))

inductive IsTextList : Document → Prop where
  | mk (texts : List String) : IsTextList (.array (texts.map fun text => .string (some text)))

structure DescribesSignature (members : List (Option String × Document)) : Prop where
  algorithm : ∃ doc name, HoldsOnce members "alg" doc ∧ name ∈ algorithms ∧ IsName name doc
  texts : ∀ name ∈ textFields, MayHold members name IsText
  lists : ∀ name ∈ listFields, MayHold members name IsTextList
  key : MayHold members "jwk" fun doc => isKey doc = true
  readable : ∀ m ∈ members, m.1 ≠ none
  others : ∀ name doc, (some name, doc) ∈ members →
    name ∉ "alg" :: "jwk" :: (textFields ++ listFields) → IsText doc

/-- The text is structurally a token. -/
def IsToken (text : String) : Prop :=
  ∃ header payload signature members,
    Text.splitList '.' text.toList = [header, payload, signature] ∧
    document? header = some (.object members) ∧ DescribesSignature members

theorem has_eq_true_iff {members : List (Option String × Document)} {name : String}
    {ok : Document → Bool} :
    has members name ok = true ↔ ∃ doc, HoldsOnce members name doc ∧ ok doc = true := by
  simp only [HoldsOnce, ← member?_eq_some_some_iff]
  unfold has
  rcases member? members name with _ | _ | doc <;> simp

theorem mayHave_eq_true_iff {members : List (Option String × Document)} {name : String}
    {ok : Document → Bool} {IsValue : Document → Prop}
    (hok : ∀ doc, ok doc = true ↔ IsValue doc) :
    mayHave members name ok = true ↔ MayHold members name IsValue := by
  constructor
  · intro h
    unfold mayHave at h
    split at h
    · rename_i hmember
      exact .missing (member?_eq_some_none_iff.mp hmember)
    · rename_i hmember
      exact .null (member?_eq_some_some_iff.mp hmember)
    · rename_i doc _ hmember
      exact .value (member?_eq_some_some_iff.mp hmember) ((hok doc).mp h)
    · cases h
  · rintro (habsent | hnull | ⟨hvalue, hdoc⟩)
    · rw [mayHave, member?_eq_some_none_iff.mpr habsent]
    · rw [mayHave, member?_eq_some_some_iff.mpr hnull]
    · rename_i doc
      rw [mayHave, member?_eq_some_some_iff.mpr hvalue]
      split
      · rfl
      · rfl
      · rename_i found _ hfound
        cases hfound
        exact (hok doc).mpr hdoc
      · rename_i hnone
        cases hnone

theorem isSome_get?_iff (names : List String) (name : String) :
    (Entries.get? (names.map fun name => (name, ())) name).isSome ↔ name ∈ names := by
  induction names with
  | nil => simp
  | cons first rest ih =>
      by_cases hname : first = name
      · simp [Entries.get?, hname]
      · simp [Entries.get?, hname, Ne.symm hname, ← ih]

theorem oneOf_eq_true_iff (names : List String) (doc : Document) :
    oneOf names doc = true ↔ ∃ name ∈ names, IsName name doc := by
  unfold oneOf variant?
  constructor
  · intro h
    split at h
    · exact ⟨_, (isSome_get?_iff names _).mp h, .alone⟩
    · exact ⟨_, (isSome_get?_iff names _).mp h, .key⟩
    · cases h
  · rintro ⟨name, hmem, _ | _⟩
    · exact (isSome_get?_iff names name).mpr hmem
    · exact (isSome_get?_iff names name).mpr hmem

theorem text?_eq_some_iff (doc : Document) (text : String) :
    text? doc = some text ↔ doc = .string (some text) := by
  cases doc <;> simp [text?]

theorem isText_eq_true_iff (doc : Document) : isText doc = true ↔ IsText doc := by
  simp only [isText, Option.isSome_iff_exists, text?_eq_some_iff]
  constructor
  · rintro ⟨text, rfl⟩
    exact .mk text
  · rintro ⟨text⟩
    exact ⟨text, rfl⟩

theorem mapM_text?_eq_some_iff (items : List Document) (texts : List String) :
    items.mapM text? = some texts ↔ items = texts.map fun text => .string (some text) := by
  induction items generalizing texts with
  | nil => cases texts <;> simp
  | cons item rest ih =>
      cases texts with
      | nil => simp [List.mapM_cons, Option.bind_eq_some_iff]
      | cons first others =>
          simp [List.mapM_cons, Option.bind_eq_some_iff, text?_eq_some_iff, ih]

theorem isTextList_eq_true_iff (doc : Document) : isTextList doc = true ↔ IsTextList doc := by
  constructor
  · intro h
    match doc with
    | .array items =>
        obtain ⟨texts, htexts⟩ := Option.isSome_iff_exists.mp h
        rw [(mapM_text?_eq_some_iff items texts).mp htexts]
        exact .mk texts
    | .null | .bool _ | .number _ | .string _ | .object _ => cases h
  · rintro ⟨texts⟩
    exact Option.isSome_iff_exists.mpr ⟨texts, (mapM_text?_eq_some_iff _ texts).mpr rfl⟩

theorem isHeader_eq_true_iff (doc : Document) :
    isHeader doc = true ↔ ∃ members, doc = .object members ∧ DescribesSignature members := by
  cases doc with
  | object members =>
      simp only [isHeader, Bool.and_eq_true, List.all_eq_true, has_eq_true_iff, oneOf_eq_true_iff,
        mayHave_eq_true_iff isText_eq_true_iff, mayHave_eq_true_iff isTextList_eq_true_iff,
        mayHave_eq_true_iff fun doc => Iff.rfl, Document.object.injEq, exists_eq_left']
      constructor
      · rintro ⟨⟨⟨⟨⟨doc, hdoc, name, hname, hnames⟩, htexts⟩, hlists⟩, hkey⟩, hmembers⟩
        refine ⟨⟨doc, name, hdoc, hname, hnames⟩, htexts, hlists, hkey, ?_, ?_⟩
        · intro m hm hnone
          have hreadable := hmembers m hm
          rw [hnone] at hreadable
          cases hreadable
        · intro name doc hmem hother
          have hmember := hmembers (some name, doc) hmem
          simp only [Bool.or_eq_true, List.contains_iff_mem, isText_eq_true_iff] at hmember
          exact hmember.resolve_left hother
      · rintro ⟨⟨doc, name, hdoc, hname, hnames⟩, htexts, hlists, hkey, hreadable, hothers⟩
        refine ⟨⟨⟨⟨⟨doc, hdoc, name, hname, hnames⟩, htexts⟩, hlists⟩, hkey⟩, ?_⟩
        rintro ⟨_ | name, doc⟩ hm
        · exact absurd rfl (hreadable _ hm)
        · simp only [Bool.or_eq_true, List.contains_iff_mem, isText_eq_true_iff]
          exact Decidable.or_iff_not_imp_left.mpr (hothers name doc hm)
  | _ => simp [isHeader]

theorem payload?_eq_some_iff {text : String} {payload : List Char} :
    payload? text = some payload ↔ ∃ header signature members,
      Text.splitList '.' text.toList = [header, payload, signature] ∧
      document? header = some (.object members) ∧ DescribesSignature members := by
  unfold payload?
  constructor
  · intro h
    split at h
    · rename_i header found signature hparts
      split at h
      · rename_i description hdescription
        split at h
        · rename_i hheader
          cases h
          obtain ⟨members, rfl, hmembers⟩ := (isHeader_eq_true_iff description).mp hheader
          exact ⟨header, signature, members, hparts, hdescription, hmembers⟩
        · cases h
      · cases h
    · cases h
  · rintro ⟨header, signature, members, hparts, hdescription, hmembers⟩
    have hheader : isHeader (.object members) = true :=
      (isHeader_eq_true_iff _).mpr ⟨members, rfl, hmembers⟩
    simp only [hparts, hdescription, hheader, if_true]

theorem looksLike_eq_true_iff (text : String) : looksLike text = true ↔ IsToken text := by
  simp only [looksLike, Option.isSome_iff_exists, payload?_eq_some_iff]
  constructor
  · rintro ⟨payload, header, signature, members, htoken⟩
    exact ⟨header, payload, signature, members, htoken⟩
  · rintro ⟨header, payload, signature, members, htoken⟩
    exact ⟨payload, header, signature, members, htoken⟩

/-! ## Claims -/

/-- The record holds the text as its `sub`, once. -/
inductive SubjectClaim (subject : String) : Document → Prop where
  | member {before after : List (Option String × Document)}
      (readable : ∀ m ∈ before ++ after, m.1 ≠ none)
      (once : ∀ m ∈ before ++ after, m.1 ≠ some "sub") :
      SubjectClaim subject (.object (before ++ (some "sub", .string (some subject)) :: after))
  | item : SubjectClaim subject (.array [.string (some subject)])

/-- The text is structurally a token, and its claims are a record that holds the subject. -/
structure HasSubject (text subject : String) : Prop where
  claims : ∃ header payload signature members claims,
    Text.splitList '.' text.toList = [header, payload, signature] ∧
    document? header = some (.object members) ∧ DescribesSignature members ∧
    document? (dropPadding payload) = some claims ∧ SubjectClaim subject claims
  ne_empty : subject ≠ ""

theorem nullable_text?_eq_some_some_iff {doc : Document} {text : String} :
    nullable text? doc = some (some text) ↔ doc = .string (some text) := by
  cases doc <;> simp [nullable, text?]

theorem fields?_object_eq_some_iff {members : List (Option String × Document)} {name : String}
    {field : Option Document} :
    (Document.object members).fields? [name] false = some [field] ↔
      (∀ m ∈ members, m.1 ≠ none) ∧ member? members name = some field := by
  simp only [Document.fields?, Bool.false_and, Bool.false_eq_true, if_false, List.mapM_cons,
    List.mapM_nil, Option.isNone_iff_eq_none, List.any_eq_true]
  by_cases hreadable : ∃ m ∈ members, m.1 = none
  · obtain ⟨m, hm, hnone⟩ := hreadable
    simp only [if_pos (⟨m, hm, hnone⟩ : ∃ m ∈ members, m.1 = none), reduceCtorEq, false_iff]
    exact fun h => h.1 m hm hnone
  · have hall : ∀ m ∈ members, m.1 ≠ none := fun m hm hnone => hreadable ⟨m, hm, hnone⟩
    rw [if_neg hreadable, and_iff_right hall]
    cases member? members name <;> simp

theorem fields?_sub_iff {doc : Document} {subject : String} :
    doc.fields? ["sub"] false = some [some (.string (some subject))] ↔
      SubjectClaim subject doc := by
  constructor
  · intro h
    cases doc with
    | object members =>
        obtain ⟨hreadable, hmember⟩ := fields?_object_eq_some_iff.mp h
        obtain ⟨before, after, rfl, hbefore, hafter⟩ := member?_eq_some_some_iff.mp hmember
        refine .member (fun m hm => hreadable m ?_) fun m hm => ?_
        · simp only [List.mem_append, List.mem_cons] at hm ⊢
          exact hm.imp_right .inr
        · exact (List.mem_append.mp hm).elim (hbefore m) (hafter m)
    | array items =>
        match items with
        | [] => cases h
        | [item] =>
            cases h
            exact .item
        | _ :: _ :: _ => simp [Document.fields?] at h
    | _ => cases h
  · rintro (⟨hreadable, honce⟩ | _)
    · rename_i before after
      refine fields?_object_eq_some_iff.mpr ⟨fun m hm => ?_, member?_eq_some_some_iff.mpr
        ⟨before, after, rfl, fun m hm => honce m (List.mem_append_left _ hm),
          fun m hm => honce m (List.mem_append_right _ hm)⟩⟩
      simp only [List.mem_append, List.mem_cons] at hm hreadable
      obtain hm | rfl | hm := hm
      · exact hreadable m (.inl hm)
      · exact Option.some_ne_none _
      · exact hreadable m (.inr hm)
    · rfl

theorem subject?_eq_some_iff {text subject : String} :
    subject? text = some subject ↔ HasSubject text subject := by
  have hclaims : subject? text = some subject ↔ ∃ payload claims,
      payload? text = some payload ∧ document? (dropPadding payload) = some claims ∧
      SubjectClaim subject claims ∧ subject ≠ "" := by
    unfold subject?
    constructor
    · intro h
      split at h
      · cases h
      · rename_i claims hclaims
        obtain ⟨payload, hpayload, hclaims⟩ := Option.bind_eq_some_iff.mp hclaims
        split at h
        · rename_i claim hclaim
          split at h
          · rename_i found hfound
            split at h
            · cases h
            · rename_i hne
              cases h
              rw [nullable_text?_eq_some_some_iff.mp hfound] at hclaim
              exact ⟨payload, claims, hpayload, hclaims, fields?_sub_iff.mp hclaim,
                by simpa using hne⟩
          · cases h
        · cases h
    · rintro ⟨payload, claims, hpayload, hclaims, hsubject, hne⟩
      have hfound : (payload? text).bind (fun payload => document? (dropPadding payload)) =
          some claims := by
        rw [hpayload, Option.bind_some, hclaims]
      simp only [hfound, fields?_sub_iff.mpr hsubject,
        nullable_text?_eq_some_some_iff.mpr rfl, String.isEmpty_iff, hne, if_false]
  rw [hclaims]
  constructor
  · rintro ⟨payload, claims, hpayload, hclaims, hsubject, hne⟩
    obtain ⟨header, signature, members, hparts, hheader, hmembers⟩ :=
      payload?_eq_some_iff.mp hpayload
    exact ⟨⟨header, payload, signature, members, claims, hparts, hheader, hmembers,
      hclaims, hsubject⟩, hne⟩
  · rintro ⟨⟨header, payload, signature, members, claims, hparts, hheader, hmembers,
      hclaims, hsubject⟩, hne⟩
    exact ⟨payload, claims,
      payload?_eq_some_iff.mpr ⟨header, signature, members, hparts, hheader, hmembers⟩,
      hclaims, hsubject, hne⟩

end Token

end AccessControl
