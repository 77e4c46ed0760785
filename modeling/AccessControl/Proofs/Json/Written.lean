import AccessControl.Json.Record
import AccessControl.Proofs.Entries
import AccessControl.Proofs.Json.Numbers

/-!
# What is written is read back

`v.WrittenAs doc` says that the document has the value as its content. The members of an object may
stand in any order, since a map of members has no order of its own; all else is as in `ofValue`.

A reader recovers what a writer makes if it reads it back from every such document. The readers of
texts, truth values, names, lists and optional values do. A record is recovered field by field:
under each of its names stands a document in which the value of the member is written, or nothing
if the member was left out.
-/

namespace AccessControl.Json

mutual

/-- The document has the value as its content. -/
def WrittenAs : Json → Document → Prop
  | .null, doc => doc = .null
  | .bool b, doc => doc = .bool b
  | .number n, doc => doc = .number (some n)
  | .string s, doc => doc = .string (some s)
  | .array items, doc => ∃ docs, doc = .array docs ∧ ItemsWrittenAs items docs
  | .object members, doc => ∃ docs fields, doc = .object docs ∧
      docs.Perm (fields.map fun field => (some field.1, field.2)) ∧ FieldsWrittenAs members fields

def ItemsWrittenAs : List Json → List Document → Prop
  | [], docs => docs = []
  | item :: rest, docs =>
    ∃ doc later, docs = doc :: later ∧ WrittenAs item doc ∧ ItemsWrittenAs rest later

def FieldsWrittenAs : List (String × Json) → Entries Document → Prop
  | [], fields => fields = []
  | (key, value) :: rest, fields =>
    ∃ doc later, fields = (key, doc) :: later ∧ WrittenAs value doc ∧ FieldsWrittenAs rest later

end

mutual

def depth : Json → Nat
  | .null => 0
  | .bool _ => 0
  | .number _ => 0
  | .string _ => 0
  | .array items => depthOfItems items + 1
  | .object members => depthOfMembers members + 1

def depthOfItems : List Json → Nat
  | [] => 0
  | item :: rest => max (depth item) (depthOfItems rest)

def depthOfMembers : List (String × Json) → Nat
  | [] => 0
  | (_, value) :: rest => max (depth value) (depthOfMembers rest)

end

theorem depthOfItems_le_iff {items : List Json} {limit : Nat} :
    depthOfItems items ≤ limit ↔ ∀ item ∈ items, item.depth ≤ limit := by
  induction items with
  | nil => simp [depthOfItems]
  | cons item rest ih => rw [depthOfItems, max_le_iff, ih, List.forall_mem_cons]

theorem depthOfMembers_le_iff {members : List (String × Json)} {limit : Nat} :
    depthOfMembers members ≤ limit ↔ ∀ member ∈ members, member.2.depth ≤ limit := by
  induction members with
  | nil => simp [depthOfMembers]
  | cons member rest ih => rw [depthOfMembers, max_le_iff, ih, List.forall_mem_cons]

theorem canonicalItems_iff {items : List Json} :
    CanonicalItems items ↔ ∀ item ∈ items, item.Canonical := by
  induction items with
  | nil => simp [CanonicalItems]
  | cons item rest ih => rw [CanonicalItems, ih, List.forall_mem_cons]

theorem canonicalMembers_iff {members : List (String × Json)} :
    CanonicalMembers members ↔ ∀ member ∈ members, member.2.Canonical := by
  induction members with
  | nil => simp [CanonicalMembers]
  | cons member rest ih => rw [CanonicalMembers, ih, List.forall_mem_cons]

/-! ## Every value is written as its own document -/

theorem itemsWrittenAs_ofItems {items : List Json}
    (h : ∀ item ∈ items, item.WrittenAs (.ofValue item)) :
    ItemsWrittenAs items (Document.ofItems items) := by
  induction items with
  | nil => rfl
  | cons item rest ih =>
      obtain ⟨hitem, hrest⟩ := List.forall_mem_cons.mp h
      exact ⟨_, _, rfl, hitem, ih hrest⟩

theorem fieldsWrittenAs_ofValue {members : List (String × Json)}
    (h : ∀ member ∈ members, member.2.WrittenAs (.ofValue member.2)) :
    FieldsWrittenAs members (members.map fun member => (member.1, .ofValue member.2)) := by
  induction members with
  | nil => rfl
  | cons member rest ih =>
      obtain ⟨hmember, hrest⟩ := List.forall_mem_cons.mp h
      exact ⟨_, _, rfl, hmember, ih hrest⟩

theorem Document.ofItems_eq_map (items : List Json) : ofItems items = items.map ofValue := by
  induction items with
  | nil => rfl
  | cons item rest ih => rw [ofItems_cons, ih, List.map_cons]

theorem Document.ofMembers_eq_map (members : List (String × Json)) :
    ofMembers members = members.map fun member => (some member.1, ofValue member.2) := by
  induction members with
  | nil => rfl
  | cons member rest ih => rw [ofMembers_cons, ih, List.map_cons]

theorem writtenAs_ofValue (v : Json) : v.WrittenAs (.ofValue v) := by
  induction v with
  | null => rfl
  | bool b => rfl
  | number n => rfl
  | string s => rfl
  | array items ih => exact ⟨_, rfl, itemsWrittenAs_ofItems ih⟩
  | object members ih =>
      refine ⟨_, _, rfl, ?_, fieldsWrittenAs_ofValue ih⟩
      rw [Document.ofMembers_eq_map, List.map_map]
      exact List.Perm.refl _

/-! ## Fields -/

theorem FieldsWrittenAs.keys_eq {members : List (String × Json)} {fields : Entries Document}
    (h : FieldsWrittenAs members fields) : fields.map Prod.fst = members.map Prod.fst := by
  induction members generalizing fields with
  | nil => rw [show fields = [] from h, List.map_nil, List.map_nil]
  | cons member rest ih =>
      obtain ⟨doc, later, rfl, -, hlater⟩ := h
      rw [List.map_cons, List.map_cons, ih hlater]

theorem FieldsWrittenAs.rel_get? {members : List (String × Json)} {fields : Entries Document}
    (h : FieldsWrittenAs members fields) (name : String) :
    Option.Rel WrittenAs (Entries.get? members name) (fields.get? name) := by
  induction members generalizing fields with
  | nil =>
      rw [show fields = [] from h]
      exact .none
  | cons member rest ih =>
      obtain ⟨doc, later, rfl, hdoc, hlater⟩ := h
      rcases member with ⟨key, value⟩
      by_cases hkey : key = name
      · subst hkey
        rw [Entries.get?_head, Entries.get?_head]
        exact .some hdoc
      · rw [Entries.get?_cons_of_ne hkey, Entries.get?_cons_of_ne hkey]
        exact ih hlater

namespace Document

section

variable {docs : List (Option String × Document)} {fields : Entries Document}

theorem filter_key_eq (hnodup : (fields.map Prod.fst).Nodup) (name : String) :
    (fields.map fun field => ((some field.1 : Option String), field.2)).filter
        (fun m => m.1 == some name) =
      ((fields.get? name).map fun doc => (some name, doc)).toList := by
  induction fields with
  | nil => rfl
  | cons field rest ih =>
      rcases field with ⟨key, doc⟩
      obtain ⟨hfirst, hrest⟩ := List.nodup_cons.mp hnodup
      by_cases hkey : key = name
      · subst hkey
        have habsent : Entries.get? rest key = none := by
          rw [Option.eq_none_iff_forall_ne_some]
          intro other hother
          exact hfirst
            (List.mem_map.mpr ⟨_, (Entries.get?_eq_some_iff_mem hrest).mp hother, rfl⟩)
        rw [List.map_cons, List.filter_cons_of_pos (by simp), ih hrest, habsent,
          Entries.get?_head]
        rfl
      · rw [List.map_cons, List.filter_cons_of_neg (by simpa using hkey), ih hrest,
          Entries.get?_cons_of_ne hkey]

/-- Where no name repeats, a member is found wherever it stands. -/
theorem member?_of_perm (h : docs.Perm (fields.map fun field => (some field.1, field.2)))
    (hnodup : (fields.map Prod.fst).Nodup) (name : String) :
    member? docs name = some (fields.get? name) := by
  have hfilter := h.filter fun m => m.1 == some name
  rw [filter_key_eq hnodup] at hfilter
  unfold member?
  cases hfield : fields.get? name with
  | none =>
      rw [hfield] at hfilter
      rw [List.perm_nil.mp hfilter]
  | some doc =>
      rw [hfield] at hfilter
      rw [List.perm_singleton.mp hfilter]

theorem fields?_of_perm (h : docs.Perm (fields.map fun field => (some field.1, field.2)))
    (hnodup : (fields.map Prod.fst).Nodup) {names : List String}
    (hnames : ∀ field ∈ fields, field.1 ∈ names) (strict : Bool) :
    (object docs).fields? names strict = some (names.map fields.get?) := by
  have hkeys : ∀ m ∈ docs, ∃ key ∈ names, m.1 = some key := by
    intro m hm
    obtain ⟨field, hfield, rfl⟩ := List.mem_map.mp (h.mem_iff.mp hm)
    exact ⟨field.1, hnames field hfield, rfl⟩
  have hread : (docs.any fun m => m.1.isNone) = false := by
    rw [List.any_eq_false]
    intro m hm
    obtain ⟨key, -, hkey⟩ := hkeys m hm
    simp [hkey]
  have hknown : (docs.any fun m => !names.contains (m.1.getD "")) = false := by
    rw [List.any_eq_false]
    intro m hm
    obtain ⟨key, hname, hkey⟩ := hkeys m hm
    simp [hkey, hname]
  simp only [fields?, hread, hknown, Bool.and_false, Bool.false_eq_true, if_false]
  rw [show member? docs = fun name => some (fields.get? name) from
    funext (member?_of_perm h hnodup)]
  exact List.mapM_pure

end

/-- The fields of an object, under the names that it has. -/
theorem exists_fields_of_writtenAs {members : List (String × Json)} {doc : Document}
    (h : (Json.object members).WrittenAs doc) (names : List String) (strict : Bool)
    (hnodup : (members.map Prod.fst).Nodup) (hnames : members.map Prod.fst ⊆ names) :
    ∃ fields : Entries Document, doc.fields? names strict = some (names.map fields.get?) ∧
      ∀ name, Option.Rel WrittenAs (Entries.get? members name) (fields.get? name) := by
  obtain ⟨docs, fields, rfl, hperm, hfields⟩ := h
  have hkeys := hfields.keys_eq
  refine ⟨fields, fields?_of_perm hperm (hkeys ▸ hnodup) ?_ strict, hfields.rel_get?⟩
  intro field hfield
  exact hnames (hkeys ▸ List.mem_map_of_mem hfield)

/-! ## Readers that recover what is written -/

/-- Whatever is written is read back. -/
def Recovers {α : Type} (read : Document → Option α) (write : α → Json) : Prop :=
  ∀ x doc, (write x).WrittenAs doc → read doc = some x

section

variable {α : Type} {read : Document → Option α} {write : α → Json}

theorem recovers_text : Recovers text? .string := by
  rintro s doc rfl
  rfl

theorem recovers_bool : Recovers bool? .bool := by
  rintro b doc rfl
  rfl

theorem recovers_variant {names : Entries α} {name : α → String}
    (h : ∀ x, names.get? (name x) = some x) :
    Recovers (variant? names) fun x => .string (name x) := by
  rintro x doc rfl
  exact h x

theorem Recovers.list (h : Recovers read write) :
    Recovers (list? read) fun items => .array (items.map write) := by
  rintro items doc ⟨docs, rfl, hdocs⟩
  induction items generalizing docs with
  | nil =>
      rw [show docs = [] from hdocs]
      rfl
  | cons item rest ih =>
      obtain ⟨doc, later, rfl, hdoc, hlater⟩ := hdocs
      have hrest : later.mapM read = some rest := ih later hlater
      rw [list?, List.mapM_cons, h item doc hdoc, hrest]
      rfl

theorem recovers_texts : Recovers (list? text?) ofStrings := recovers_text.list

theorem Recovers.nullable (h : Recovers read write) (hnull : ∀ x, ¬ (write x).WrittenAs .null) :
    Recovers (nullable read) fun option => option.elim .null write := by
  intro option doc hdoc
  cases option with
  | none =>
      rw [show doc = .null from hdoc]
      rfl
  | some x =>
      have hread := h x doc hdoc
      unfold Document.nullable
      split
      · exact absurd hdoc (hnull x)
      · rw [hread, Option.map_some]

variable {field : Option Document} {x : α}

theorem required_of_rel {v : Json} (h : ∀ doc, v.WrittenAs doc → read doc = some x)
    (hfield : Option.Rel WrittenAs (some v) field) : required read field = some x := by
  cases hfield with
  | some hdoc => exact h _ hdoc

theorem withDefault_of_rel {v : Json} (h : ∀ doc, v.WrittenAs doc → read doc = some x)
    (hfield : Option.Rel WrittenAs (some v) field) (default : α) :
    withDefault read default field = some x := by
  cases hfield with
  | some hdoc => exact h _ hdoc

theorem Recovers.required (h : Recovers read write)
    (hfield : Option.Rel WrittenAs (some (write x)) field) : required read field = some x :=
  required_of_rel (h x) hfield

theorem Recovers.withDefault (h : Recovers read write)
    (hfield : Option.Rel WrittenAs (some (write x)) field) (default : α) :
    withDefault read default field = some x :=
  withDefault_of_rel (h x) hfield default

theorem withDefault_of_absent (hfield : Option.Rel WrittenAs none field) (default : α) :
    withDefault read default field = some default := by
  cases hfield
  rfl

end

/-! ## Whole values -/

def memberWithin (limit : Nat) (m : Option String × Document) : Option (String × Json) :=
  m.1.bind fun key => (valueWithin limit m.2).map fun value => (key, value)

theorem membersWithin_cons (limit : Nat) (m : Option String × Document)
    (rest : List (Option String × Document)) :
    membersWithin limit (m :: rest) =
      (memberWithin limit m).bind fun member => (membersWithin limit rest).map (member :: ·) := by
  rcases m with ⟨key, doc⟩
  rw [membersWithin.eq_def, memberWithin]
  dsimp only
  cases key <;> cases valueWithin limit doc <;> cases membersWithin limit rest <;> rfl

theorem membersWithin_eq_mapM (limit : Nat) (docs : List (Option String × Document)) :
    membersWithin limit docs = docs.mapM (memberWithin limit) := by
  induction docs with
  | nil => rfl
  | cons m rest ih =>
      rw [membersWithin_cons, ih, List.mapM_cons]
      cases memberWithin limit m with
      | none => rfl
      | some member => cases rest.mapM (memberWithin limit) <;> rfl

theorem exists_mapM_of_perm {α β : Type} {f : α → Option β} {items others : List α}
    (h : items.Perm others) {results : List β} (hresults : others.mapM f = some results) :
    ∃ list, items.mapM f = some list ∧ list.Perm results := by
  induction h generalizing results with
  | nil => exact ⟨results, hresults, List.Perm.refl _⟩
  | cons item h ih =>
      rw [List.mapM_cons] at hresults ⊢
      obtain ⟨first, hfirst, hrest⟩ := Option.bind_eq_some_iff.mp hresults
      obtain ⟨rest, hrest, hdone⟩ := Option.bind_eq_some_iff.mp hrest
      obtain ⟨list, hlist, hperm⟩ := ih hrest
      cases hdone
      exact ⟨first :: list, by rw [hfirst, hlist]; rfl, hperm.cons first⟩
  | swap item other rest =>
      rw [List.mapM_cons, List.mapM_cons] at hresults ⊢
      obtain ⟨first, hfirst, hrest⟩ := Option.bind_eq_some_iff.mp hresults
      obtain ⟨pair, hpair, hdone⟩ := Option.bind_eq_some_iff.mp hrest
      obtain ⟨second, hsecond, hrest⟩ := Option.bind_eq_some_iff.mp hpair
      obtain ⟨list, hlist, hpair⟩ := Option.bind_eq_some_iff.mp hrest
      cases hpair
      cases hdone
      exact ⟨second :: first :: list, by rw [hfirst, hsecond, hlist]; rfl, List.Perm.swap _ _ _⟩
  | trans _ _ ih ih' =>
      obtain ⟨list, hlist, hperm⟩ := ih' hresults
      obtain ⟨list', hlist', hperm'⟩ := ih hlist
      exact ⟨list', hlist', hperm'.trans hperm⟩

theorem itemsWithin_of_writtenAs {limit : Nat} {items : List Json} {docs : List Document}
    (hvalue : ∀ item ∈ items, ∀ doc, item.WrittenAs doc → valueWithin limit doc = some item)
    (h : ItemsWrittenAs items docs) : itemsWithin limit docs = some items := by
  induction items generalizing docs with
  | nil =>
      rw [show docs = [] from h]
      rfl
  | cons item rest ih =>
      obtain ⟨doc, later, rfl, hdoc, hlater⟩ := h
      obtain ⟨hitem, hrest⟩ := List.forall_mem_cons.mp hvalue
      rw [itemsWithin, hitem doc hdoc, ih hrest hlater]

theorem membersWithin_of_writtenAs {limit : Nat} {members : List (String × Json)}
    {fields : Entries Document}
    (hvalue : ∀ m ∈ members, ∀ doc, m.2.WrittenAs doc → valueWithin limit doc = some m.2)
    (h : FieldsWrittenAs members fields) :
    membersWithin limit (fields.map fun field => (some field.1, field.2)) = some members := by
  induction members generalizing fields with
  | nil =>
      rw [show fields = [] from h]
      rfl
  | cons member rest ih =>
      obtain ⟨doc, later, rfl, hdoc, hlater⟩ := h
      obtain ⟨hmember, hrest⟩ := List.forall_mem_cons.mp hvalue
      rw [List.map_cons, membersWithin_cons, ih hrest hlater, memberWithin, hmember doc hdoc]
      rfl

/-- A value with sorted members that does not nest too deep is the value of every document in which
it is written. -/
theorem valueWithin_of_writtenAs {v : Json} (hv : v.Canonical) {limit : Nat}
    (hdepth : v.depth ≤ limit) {doc : Document} (h : v.WrittenAs doc) :
    valueWithin limit doc = some v := by
  induction v generalizing limit doc with
  | null =>
      cases h
      rfl
  | bool b =>
      cases h
      rfl
  | number n =>
      cases h
      rfl
  | string s =>
      cases h
      rfl
  | array items ih =>
      obtain ⟨docs, rfl, hdocs⟩ := h
      cases limit with
      | zero => exact absurd hdepth (Nat.not_succ_le_zero _)
      | succ limit =>
          have hitems := depthOfItems_le_iff.mp (Nat.le_of_succ_le_succ hdepth)
          have hread := itemsWithin_of_writtenAs
            (fun item hitem doc => ih item hitem (canonicalItems_iff.mp hv item hitem)
              (hitems item hitem)) hdocs
          rw [valueWithin, if_neg (Nat.succ_ne_zero _), Nat.add_sub_cancel, hread, Option.map_some]
  | object members ih =>
      obtain ⟨docs, fields, rfl, hperm, hfields⟩ := h
      obtain ⟨hsorted, hmembers⟩ := hv
      cases limit with
      | zero => exact absurd hdepth (Nat.not_succ_le_zero _)
      | succ limit =>
          have hdepths := depthOfMembers_le_iff.mp (Nat.le_of_succ_le_succ hdepth)
          have hread := membersWithin_of_writtenAs
            (fun m hm doc => ih m hm (canonicalMembers_iff.mp hmembers m hm) (hdepths m hm)) hfields
          rw [membersWithin_eq_mapM] at hread
          obtain ⟨list, hlist, hlistPerm⟩ := exists_mapM_of_perm hperm hread
          rw [valueWithin, if_neg (Nat.succ_ne_zero _), Nat.add_sub_cancel, membersWithin_eq_mapM,
            hlist, Option.map_some, Entries.Sorted.ofList_eq_of_perm hsorted hlistPerm]

end Document

end AccessControl.Json
