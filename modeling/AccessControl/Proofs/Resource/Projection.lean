import AccessControl.Proofs.Entries
import AccessControl.Proofs.Resource.NormalForm
import AccessControl.Proofs.Resource.Walk

/-!
# A mask projects a message

Selecting puts what a walk has to show in its place, one path after the other. At a path itself the
result then holds what was put there, unless an object stood there before; and a place that neither
lies on the path nor behind it is not touched. In a mask no path starts with another, so no path
takes away what another one has put, and what the wildcard has put is at most replaced as a whole.
-/

namespace AccessControl.FieldMask

def Reach.value? : Reach → Option Json
  | .value found => some found
  | _ => none

/-- What a walk has to show: the value at its end, or a null that has cut it short. -/
def Reach.shown? : Reach → Option Json
  | .value found => some found
  | .null _ => some .null
  | .stuck _ => none

def valueAt (path : List String) (value : Json) : Option Json := (walk path value).value?

@[simp] theorem valueAt_nil (value : Json) : valueAt [] value = some value := by
  rw [valueAt, walk, Reach.value?]

theorem valueAt_cons_object (segment : String) (rest : List String) (members : Entries Json) :
    valueAt (segment :: rest) (.object members) =
      (Entries.get? members segment).bind (valueAt rest) := by
  unfold valueAt
  rw [walk]
  cases Entries.get? members segment with
  | none => rfl
  | some value => rfl

theorem valueAt_cons_of_not_isObject (segment : String) (rest : List String) {value : Json}
    (h : value.isObject = false) : valueAt (segment :: rest) value = none := by
  cases value with
  | object members => cases h
  | _ => rfl

theorem valueAt_singleton (key : String) (members : Entries Json) :
    valueAt [key] (.object members) = members.get? key := by
  rw [valueAt_cons_object]
  cases Entries.get? members key with
  | none => rfl
  | some value => exact valueAt_nil value

/-! ## Putting a value in its place -/

def graft (out : Entries Json) : List String → Json → Entries Json
  | [], _ => out
  | head :: rest, value => merge out [(head, nest rest value)]

def children : Option Json → Entries Json
  | some (.object members) => members
  | _ => []

/-- A new value replaces what is no object. -/
theorem mergeValue_of_ne {old : Option Json} (h : ∀ members, old ≠ some (.object members))
    (value : Json) : mergeValue old value = value := by
  cases value with
  | object incoming =>
      rw [mergeValue]
      exact h
  | _ => rw [mergeValue]; simp

theorem children_of_ne {old : Option Json} (h : ∀ members, old ≠ some (.object members)) :
    children old = [] := by
  unfold children
  split
  · exact absurd rfl (h _)
  · rfl

/-- Putting a value under a key is putting it into the object there, or into a new one. -/
theorem mergeValue_nest_cons (old : Option Json) (segment : String) (rest : List String)
    (value : Json) :
    mergeValue old (nest (segment :: rest) value) =
      .object (graft (children old) (segment :: rest) value) := by
  by_cases h : ∃ members, old = some (.object members)
  · obtain ⟨members, rfl⟩ := h
    rw [nest, mergeValue]
    rfl
  · rw [not_exists] at h
    have hnone : ∀ members, (none : Option Json) ≠ some (.object members) := fun _ =>
      (Option.some_ne_none _).symm
    rw [mergeValue_of_ne h, children_of_ne h, graft, merge, merge_nil, Entries.get?_nil,
      mergeValue_of_ne hnone]
    rfl

theorem get?_graft (out : Entries Json) (head : String) (rest : List String) (value : Json)
    (key : String) :
    (graft out (head :: rest) value).get? key =
      if head = key then some (mergeValue (out.get? head) (nest rest value)) else out.get? key := by
  rw [graft, merge, merge_nil, Entries.get?_put]

/-- Below a key the value that stands there is looked at, and the empty object if there is none. -/
theorem valueAt_children (old : Option Json) (segment : String) (rest : List String) :
    valueAt (segment :: rest) (.object (children old)) =
      old.bind (valueAt (segment :: rest)) := by
  cases old with
  | none => rfl
  | some value =>
      cases value with
      | object members => rfl
      | _ => rfl

theorem valueAt_graft_self {path : List String} (hpath : path ≠ []) {out : Entries Json}
    (h : ∀ members, valueAt path (.object out) ≠ some (.object members)) (value : Json) :
    valueAt path (.object (graft out path value)) = some value := by
  cases path with
  | nil => exact absurd rfl hpath
  | cons head rest =>
      induction rest generalizing head out with
      | nil =>
          rw [valueAt_singleton, get?_graft, if_pos rfl, nest]
          simp only [valueAt_singleton] at h
          rw [mergeValue_of_ne h]
      | cons next rest ih =>
          rw [valueAt_cons_object, get?_graft, if_pos rfl, mergeValue_nest_cons, Option.bind_some]
          refine ih next (List.cons_ne_nil _ _) fun members => ?_
          rw [valueAt_children, ← valueAt_cons_object]
          exact h members

theorem valueAt_graft_of_incomparable {path other : List String} (h : ¬path <+: other)
    (h' : ¬other <+: path) (out : Entries Json) (value : Json) :
    valueAt other (.object (graft out path value)) = valueAt other (.object out) := by
  cases path with
  | nil => exact absurd List.nil_prefix h
  | cons head rest =>
      induction rest generalizing head other out with
      | nil =>
          cases other with
          | nil => exact absurd List.nil_prefix h'
          | cons key tail =>
              have hkey : head ≠ key := by
                rintro rfl
                exact h (List.cons_prefix_cons.mpr ⟨rfl, List.nil_prefix⟩)
              rw [valueAt_cons_object, get?_graft, if_neg hkey, valueAt_cons_object]
      | cons next rest ih =>
          cases other with
          | nil => exact absurd List.nil_prefix h'
          | cons key tail =>
              rw [valueAt_cons_object, get?_graft, valueAt_cons_object]
              split
              · rename_i hkey
                subst hkey
                rw [List.cons_prefix_cons, and_iff_right rfl] at h h'
                rw [Option.bind_some, mergeValue_nest_cons, ih _ next h h']
                cases tail with
                | nil => exact absurd List.nil_prefix h'
                | cons segment tail => exact valueAt_children _ _ _
              · rfl

/-! ## One path after the other -/

theorem stuck_ne_nil {path : List String} {value : Json} {left : List String}
    (h : walk path value = .stuck left) : left ≠ [] := by
  induction path generalizing value with
  | nil =>
      rw [walk] at h
      cases h
  | cons segment rest ih =>
      cases value with
      | object members =>
          rw [walk] at h
          cases hvalue : Entries.get? members segment with
          | none =>
              rw [hvalue] at h
              cases h
              exact List.cons_ne_nil _ _
          | some value =>
              rw [hvalue] at h
              exact ih h
      | null => cases h
      | _ =>
          cases h
          exact List.cons_ne_nil _ _

/-- Why a path selects nothing from a message: a segment names no field. -/
def fault? (message : Json) (path : List String) : Option MaskError :=
  match walk path message with
  | .stuck left => some (.unknownField (".".intercalate path) (left.headD ""))
  | _ => none

/-- The walk along the path names a field with every segment, until the path ends or a null is met
with segments left. -/
def Resolvable (path : List String) (message : Json) : Prop := ∀ left, walk path message ≠ .stuck left

theorem resolvable_iff_fault? (path : List String) (message : Json) :
    Resolvable path message ↔ fault? message path = none := by
  unfold Resolvable fault?
  cases walk path message <;> simp

theorem fault?_eq_some_iff (path : List String) (message : Json) (error : MaskError) :
    fault? message path = some error ↔ ∃ field rest, walk path message = .stuck (field :: rest) ∧
      error = .unknownField (".".intercalate path) field := by
  unfold fault?
  cases hwalk : walk path message with
  | stuck left =>
      obtain ⟨field, rest, rfl⟩ := List.exists_cons_of_ne_nil (stuck_ne_nil hwalk)
      simp [eq_comm]
  | _ => simp

/-- Selecting one path grafts what the walk along it has to show, or fails. -/
theorem selectPath_merge (path : List String) (members out : Entries Json) :
    (selectPath path members path).map (fun selected => merge out selected) =
      match fault? (.object members) path, (walk path (.object members)).shown? with
      | none, some value => .ok (graft out path value)
      | some error, _ => .error error
      | none, none => .ok out := by
  cases path with
  | nil => simp [selectPath, fault?, walk, Reach.shown?, graft, Except.map]
  | cons head rest =>
      rw [selectPath_cons, fault?]
      cases walk (head :: rest) (.object members) with
      | value found => rfl
      | null left => rfl
      | stuck left => rfl

theorem selectPath_merge_eq_error_iff (path : List String) (members out : Entries Json)
    (error : MaskError) :
    (selectPath path members path).map (fun selected => merge out selected) = .error error ↔
      fault? (.object members) path = some error := by
  rw [selectPath_merge]
  cases hfault : fault? (.object members) path with
  | some found => simp
  | none => cases (walk path (.object members)).shown? <;> simp

theorem shown?_of_selectPath_merge {path : List String} {members out next : Entries Json}
    (h : (selectPath path members path).map (fun selected => merge out selected) = .ok next) :
    ∃ value, (walk path (.object members)).shown? = some value ∧ next = graft out path value := by
  rw [selectPath_merge, fault?] at h
  cases hwalk : walk path (.object members) with
  | value found =>
      rw [hwalk] at h
      cases h
      exact ⟨found, rfl, rfl⟩
  | null left =>
      rw [hwalk] at h
      cases h
      exact ⟨.null, rfl, rfl⟩
  | stuck left =>
      rw [hwalk] at h
      cases h

/-- A string, a number or a truth value, and the text that it is shown as. -/
inductive ShownAs : Json → String → Prop
  | string (s : String) : ShownAs (.string s) s
  | int (n : Int) : ShownAs (.number (.int n)) (toString n)
  | double (d : Double) : ShownAs (.number (.double d)) d.text
  | true : ShownAs (.bool true) "true"
  | false : ShownAs (.bool false) "false"

/-- The mask has the wildcard, and the message has a scalar under the key, whose text is shown. -/
def WildcardShows (mask : FieldMask) (message : Json) (key : String) (shown : Json) : Prop :=
  mask.wildcard = true ∧ ∃ value text, valueAt [key] message = some value ∧ ShownAs value text ∧
    shown = .string text

/-- Some members are what the wildcard of a mask and some paths select from a message: at each path
they hold what the walk has to show; under every other key they hold what the wildcard shows; and
there is nothing else in them. -/
structure Projects (mask : FieldMask) (message : Json) (paths : List (List String))
    (out : Entries Json) : Prop where
  shows : ∀ path ∈ paths, ∃ value, (walk path message).shown? = some value ∧
    valueAt path (.object out) = some value
  unmasked : ∀ key, (∀ path ∈ paths, path.head? ≠ some key) → ∀ shown,
    out.get? key = some shown ↔ mask.WildcardShows message key shown
  covered : ∀ path, path ≠ [] → (valueAt path (.object out)).isSome →
    (∃ other ∈ paths, path <+: other ∨ other <+: path) ∨
      ∃ key shown, path = [key] ∧ mask.WildcardShows message key shown

theorem scalarText?_eq_some_iff (value : Json) (text : String) :
    scalarText? value = some text ↔ ShownAs value text := by
  constructor
  · intro h
    match value with
    | .string s => cases h; exact .string _
    | .number (.int n) => cases h; exact .int _
    | .number (.double d) => cases h; exact .double _
    | .bool true => cases h; exact .true
    | .bool false => cases h; exact .false
    | .null | .array _ | .object _ => cases h
  · rintro (_ | _ | _ | _ | _) <;> rfl

theorem get?_scalarFields {members : Entries Json} (h : members.Sorted) (key : String) :
    (scalarFields members).get? key = ((members.get? key).bind scalarText?).map .string := by
  induction members with
  | nil => rfl
  | cons member rest ih =>
      rcases member with ⟨first, value⟩
      obtain ⟨hfirst, hrest⟩ := List.pairwise_cons.mp h
      have habsent : (scalarFields rest).get? first = none := by
        refine Entries.get?_eq_none_of_lt fun entry hentry => ?_
        obtain ⟨other, hother, hentry⟩ := List.mem_filterMap.mp hentry
        obtain ⟨text, -, rfl⟩ := Option.map_eq_some_iff.mp hentry
        exact hfirst other hother
      by_cases hkey : first = key
      · subst hkey
        rw [Entries.get?_head, Option.bind_some]
        cases htext : scalarText? value with
        | none => simpa [scalarFields, htext] using habsent
        | some text => simp [scalarFields, htext, Entries.get?]
      · rw [Entries.get?_cons_of_ne hkey, ← ih hrest]
        cases htext : scalarText? value with
        | none => simp [scalarFields, htext]
        | some text => simp [scalarFields, htext, Entries.get?, hkey]

theorem WildcardShows.exists_text {mask : FieldMask} {message : Json} {key : String} {shown : Json}
    (h : mask.WildcardShows message key shown) : ∃ text, shown = .string text := by
  obtain ⟨-, -, text, -, -, hshown⟩ := h
  exact ⟨text, hshown⟩

/-- What the selection starts with. -/
theorem get?_wildcard (mask : FieldMask) {members : Entries Json} (h : members.Sorted)
    (key : String) (shown : Json) :
    Entries.get? (if mask.wildcard then scalarFields members else []) key = some shown ↔
      mask.WildcardShows (.object members) key shown := by
  unfold WildcardShows
  cases mask.wildcard with
  | false => simp
  | true =>
      simp only [if_true, true_and, get?_scalarFields h, valueAt_singleton, Option.map_eq_some_iff,
        Option.bind_eq_some_iff, scalarText?_eq_some_iff]
      constructor
      · rintro ⟨text, ⟨value, hvalue, htext⟩, rfl⟩
        exact ⟨value, text, hvalue, htext, rfl⟩
      · rintro ⟨value, text, hvalue, htext, rfl⟩
        exact ⟨text, ⟨value, hvalue, htext⟩, rfl⟩

theorem projects_nil (mask : FieldMask) {members : Entries Json} (h : members.Sorted) :
    Projects mask (.object members) [] (if mask.wildcard then scalarFields members else []) := by
  refine ⟨List.forall_mem_nil _, fun key _ shown => get?_wildcard mask h key shown, ?_⟩
  intro path hpath hsome
  cases path with
  | nil => exact absurd rfl hpath
  | cons key rest =>
      rw [valueAt_cons_object] at hsome
      obtain ⟨found, hfound⟩ := Option.isSome_iff_exists.mp hsome
      obtain ⟨shown, hshown, hfound⟩ := Option.bind_eq_some_iff.mp hfound
      have hwildcard := (get?_wildcard mask h key shown).mp hshown
      obtain ⟨text, rfl⟩ := hwildcard.exists_text
      cases rest with
      | nil => exact .inr ⟨key, _, rfl, hwildcard⟩
      | cons next rest =>
          rw [valueAt_cons_of_not_isObject _ _ rfl] at hfound
          cases hfound

theorem Projects.graft {mask : FieldMask} {message : Json} {done : List (List String)}
    {out : Entries Json} (h : Projects mask message done out) {path : List String}
    (hpath : path ≠ []) (hnew : ∀ other ∈ done, Incomparable path other) {value : Json}
    (hshown : (walk path message).shown? = some value) :
    Projects mask message (done ++ [path]) (FieldMask.graft out path value) := by
  have hkept : ∀ other, Incomparable path other →
      valueAt other (.object (FieldMask.graft out path value)) = valueAt other (.object out) :=
    fun other hother => valueAt_graft_of_incomparable hother.1 hother.2 out value
  constructor
  · intro other hother
    rcases List.mem_append.mp hother with hother | hother
    · rw [hkept other (hnew other hother)]
      exact h.shows other hother
    · cases List.mem_singleton.mp hother
      refine ⟨value, hshown, valueAt_graft_self hpath ?_ value⟩
      intro members hobject
      -- An object at the new path would have been put by a path that is comparable with it.
      rcases h.covered path hpath (by rw [hobject]; rfl) with
        ⟨other, hother, hor⟩ | ⟨key, shown, rfl, -⟩
      · exact hor.elim (hnew other hother).1 (hnew other hother).2
      · have hhead : ∀ other ∈ done, other.head? ≠ some key := by
          intro other hother hkey
          obtain ⟨rest, rfl⟩ := List.head?_eq_some_iff.mp hkey
          exact (hnew _ hother).1 (List.cons_prefix_cons.mpr ⟨rfl, List.nil_prefix⟩)
        rw [valueAt_singleton, h.unmasked key hhead] at hobject
        obtain ⟨text, htext⟩ := hobject.exists_text
        cases htext
  · intro key hkey
    obtain ⟨hdone, hlast⟩ := List.forall_mem_append.mp hkey
    have hother : Incomparable path [key] := by
      have hne := hlast path (List.mem_singleton_self path)
      obtain ⟨head, rest, rfl⟩ := List.exists_cons_of_ne_nil hpath
      simp only [List.head?_cons, ne_eq, Option.some.injEq] at hne
      simp [Incomparable, hne, Ne.symm hne]
    intro shown
    rw [← valueAt_singleton, hkept _ hother, valueAt_singleton]
    exact h.unmasked key hdone shown
  · intro other hother hsome
    by_cases hcomparable : Incomparable path other
    · rw [hkept other hcomparable] at hsome
      refine (h.covered other hother hsome).imp_left ?_
      rintro ⟨covering, hcovering, hor⟩
      exact ⟨covering, List.mem_append_left _ hcovering, hor⟩
    · refine .inl ⟨path, List.mem_append_right _ (List.mem_singleton_self path), ?_⟩
      rw [Incomparable, not_and_or, not_not, not_not] at hcomparable
      exact hcomparable.symm

theorem projects_of_select {mask : FieldMask} (hnormal : Normal mask.paths)
    (hpaths : ∀ path ∈ mask.paths, path ≠ []) {members result : Entries Json}
    (hsorted : members.Sorted) (h : mask.select (.object members) = .ok result) :
    Projects mask (.object members) mask.paths result := by
  refine foldlM_ok_of_done ?_ (projects_nil mask hsorted) h
  intro done path after out next hdone hout hnext
  obtain ⟨value, hshown, rfl⟩ := shown?_of_selectPath_merge hnext
  have hpath : path ∈ mask.paths := by
    rw [hdone]
    exact List.mem_append_right _ List.mem_cons_self
  exact hout.graft (hpaths path hpath) (hdone ▸ hnormal).incomparable hshown

theorem select_eq_notAnObject_iff (mask : FieldMask) (message : Json) :
    mask.select message = .error .notAnObject ↔ message.isObject = false := by
  constructor
  · intro h
    by_contra hobject
    obtain ⟨members, rfl⟩ := exists_members_of_isObject (Bool.not_eq_false _ ▸ hobject)
    obtain ⟨before, path, after, -, -, hfault⟩ :=
      (foldlM_eq_error_iff fun out path => selectPath_merge_eq_error_iff path members out).mp h
    obtain ⟨field, rest, -, herror⟩ := (fault?_eq_some_iff _ _ _).mp hfault
    cases herror
  · exact select_of_not_isObject mask

/-- A mask has its paths in their order. It selects from an object exactly if all its paths can be
resolved in it; else the first of them that cannot is to blame, and the first of its segments that
names no field. What it selects is the projection of the message to its paths and, with the
wildcard, to the texts of the scalars at the top. -/
theorem select_projects {paths : List String} {mask : FieldMask} (hparse : parse paths = .ok mask)
    {message : Json} (hmessage : message.Canonical) :
    mask.paths.Pairwise (fun path other => precedes path other = true) ∧
    (mask.select message = .error .notAnObject ↔ message.isObject = false) ∧
    (message.isObject = true →
      ((∃ result, mask.select message = .ok result) ↔
        ∀ path ∈ mask.paths, Resolvable path message) ∧
      ∀ error, mask.select message = .error error ↔
        ∃ before path after field rest, mask.paths = before ++ path :: after ∧
          (∀ other ∈ before, Resolvable other message) ∧
          walk path message = .stuck (field :: rest) ∧
          error = .unknownField (".".intercalate path) field) ∧
    ∀ result, mask.select message = .ok result → Projects mask message mask.paths result := by
  obtain ⟨hnormal, hpaths⟩ := normal_of_parse hparse
  refine ⟨?_, select_eq_notAnObject_iff mask message, ?_, ?_⟩
  · exact hnormal.sorted.imp fun hlt => (precedes_iff_lt _ _).mpr hlt
  · intro hobject
    obtain ⟨members, rfl⟩ := exists_members_of_isObject hobject
    have hfault := fun out path => selectPath_merge_eq_error_iff path members out
    simp only [resolvable_iff_fault?]
    refine ⟨exists_foldlM_eq_ok_iff hfault, fun error => ?_⟩
    refine (foldlM_eq_error_iff hfault).trans ?_
    simp only [fault?_eq_some_iff]
    constructor
    · rintro ⟨before, path, after, hsplit, hbefore, field, rest, hwalk, herror⟩
      exact ⟨before, path, after, field, rest, hsplit, hbefore, hwalk, herror⟩
    · rintro ⟨before, path, after, field, rest, hsplit, hbefore, hwalk, herror⟩
      exact ⟨before, path, after, hsplit, hbefore, field, rest, hwalk, herror⟩
  · intro result hresult
    cases message with
    | object members => exact projects_of_select hnormal hpaths hmessage.1 hresult
    | _ => cases hresult

/-- Two paths into objects, one of them cut short by a null, beside the wildcard, which shows a
truth value, two numbers and a string, and neither the null nor the list. -/
theorem select_projects_for_count :
    let mask : FieldMask := ⟨[["owner", "city"], ["product", "type"]], true⟩
    let message : Json := .object [("active", .bool true), ("count", Json.ofInt 7),
      ("name", .string "lamp"), ("note", .null), ("owner", .null),
      ("product", .object [("price", Json.ofInt 3), ("type", .string "book")]),
      ("ratio", .number (.double ⟨0x4004000000000000⟩)), ("tags", .array [.string "new"])]
    let result : Entries Json := [("active", .string "true"), ("count", .string "7"),
      ("name", .string "lamp"), ("owner", .object [("city", .null)]),
      ("product", .object [("type", .string "book")]), ("ratio", .string "2.5")]
    parse [" product.type", "*", "owner.city"] = .ok mask ∧ message.Canonical ∧
      mask.select message = .ok result ∧ Projects mask message mask.paths result := by
  intro mask message result
  have hparse : parse [" product.type", "*", "owner.city"] = .ok mask := by decide +kernel
  have hmessage : message.Canonical := by
    simp only [message, Json.Canonical, Json.CanonicalMembers, Json.CanonicalItems, Entries.Sorted,
      Json.ofInt, and_true]
    decide
  have hratio : Double.text ⟨0x4004000000000000⟩ = "2.5" := by decide +kernel
  have hcount : toString (7 : Int) = "7" := rfl
  have hresult : mask.select message = .ok result := by
    simp only [mask, message, result, select, scalarFields, scalarText?, Json.Number.text, Json.ofInt,
      hratio, hcount, selectPath, nullAlong, merge, mergeValue, Entries.get?, Entries.put,
      List.foldlM, List.filterMap, Option.map, Except.map, bind, Except.bind, pure, Except.pure,
      String.reduceEq, String.reduceLT, if_true, if_false]
  obtain ⟨-, -, -, hprojects⟩ := select_projects hparse hmessage
  exact ⟨hparse, hmessage, hresult, hprojects result hresult⟩

end AccessControl.FieldMask
