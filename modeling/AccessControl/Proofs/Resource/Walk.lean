import AccessControl.Proofs.Fold
import AccessControl.Resource.FieldMask

/-!
# Walking along a field path

`walk path message` follows the segments of a path through nested objects. It arrives at a value, or
a null cuts it short, or the next segment names no field. A mask looks at a message in no other way:
what it selects at a path, and the error that it reports there, are read off the walk. Messages on
which the walks along all paths of a mask agree are therefore the same to it, unless the mask has
the wildcard, which looks at every field.
-/

namespace AccessControl

namespace FieldMask

/-- Where a walk along a path ends. In the last two cases with the segments that were left. -/
inductive Reach where
  | value (value : Json)
  | null (rest : List String)
  | stuck (rest : List String)

def walk : List String → Json → Reach
  | [], value => .value value
  | segment :: rest, .object members =>
    match Entries.get? members segment with
    | none => .stuck (segment :: rest)
    | some value => walk rest value
  | rest, .null => .null rest
  | rest, _ => .stuck rest

def nest : List String → Json → Json
  | [], value => value
  | segment :: rest, value => .object [(segment, nest rest value)]

theorem nullAlong_eq_nest (path : List String) : nullAlong path = nest path .null := by
  induction path with
  | nil => rfl
  | cons segment rest ih => rw [nullAlong, nest, ih]

/-- What is selected at a path is what the walk along it arrives at, in its place. -/
theorem selectPath_cons (full : List String) (members : Entries Json) (head : String)
    (rest : List String) :
    selectPath full members (head :: rest) =
      match walk (head :: rest) (.object members) with
      | .value value => .ok [(head, nest rest value)]
      | .null _ => .ok [(head, nest rest .null)]
      | .stuck left => .error (.unknownField (".".intercalate full) (left.headD "")) := by
  induction rest generalizing head members with
  | nil =>
      cases hvalue : members.get? head with
      | none => simp [selectPath, walk, hvalue]
      | some value => simp [selectPath, walk, hvalue, nest]
  | cons next rest ih =>
      cases hvalue : members.get? head with
      | none => simp [selectPath, walk, hvalue]
      | some value =>
          cases value with
          | object children =>
              have hwalk : walk (head :: next :: rest) (.object members) =
                  walk (next :: rest) (.object children) := by
                rw [walk, hvalue]
              rw [hwalk, selectPath, hvalue]
              simp only [ih children next]
              cases walk (next :: rest) (.object children) <;> rfl
          | null => simp [selectPath, walk, hvalue, nullAlong_eq_nest]
          | _ => simp [selectPath, walk, hvalue]

theorem selectPath_congr (full path : List String) {members others : Entries Json}
    (h : walk path (.object members) = walk path (.object others)) :
    selectPath full members path = selectPath full others path := by
  cases path with
  | nil => rfl
  | cons head rest => rw [selectPath_cons, selectPath_cons, h]

/-- Two messages in which a mask without the wildcard finds the same: both are objects and the walks
along all paths end alike, or neither is an object. -/
structure Agrees (mask : FieldMask) (message other : Json) : Prop where
  isObject : message.isObject = other.isObject
  along : message.isObject = true → ∀ path ∈ mask.paths, walk path message = walk path other

theorem exists_members_of_isObject {message : Json} (h : message.isObject = true) :
    ∃ members, message = .object members := by
  cases message with
  | object members => exact ⟨members, rfl⟩
  | _ => cases h

theorem select_of_not_isObject (mask : FieldMask) {message : Json}
    (h : message.isObject = false) : mask.select message = .error .notAnObject := by
  cases message with
  | object members => cases h
  | _ => rfl

theorem select_congr {mask : FieldMask} (hwildcard : mask.wildcard = false) {message other : Json}
    (h : mask.Agrees message other) : mask.select message = mask.select other := by
  cases hobject : message.isObject with
  | false =>
      rw [select_of_not_isObject mask hobject,
        select_of_not_isObject mask (h.isObject ▸ hobject)]
  | true =>
      have hother : other.isObject = true := h.isObject ▸ hobject
      obtain ⟨members, rfl⟩ := exists_members_of_isObject hobject
      obtain ⟨others, rfl⟩ := exists_members_of_isObject hother
      simp only [select, hwildcard]
      refine foldlM_congr_of_mem ?_ _
      intro path hpath out
      rw [selectPath_congr path path (h.along rfl path hpath)]

end FieldMask

end AccessControl
