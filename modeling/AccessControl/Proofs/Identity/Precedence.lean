import AccessControl.Proofs.Identity.Resolve
import AccessControl.Proofs.Steps
import Mathlib.Data.List.DropRight

/-!
# What counts among the steps of identity rules

The order of steps matters in two ways only: of several steps of one group the last one counts, and
`Step.none` forgets the fixed text, the source and the mapper that came before it. Given these last
words the identity of a call follows by a fixed precedence. A mapper comes first, whatever the kind;
then the anonymous kind; then a declared source, also if it yields nothing; and the fixed text comes
last.
-/

namespace AccessControl

/-- The first value under a name, readable or not. Binary metadata has no text at all. -/
def Call.Headers.first? : Headers → String → Option String
  | fields list, name => list.first? (Text.asciiLowercase name)
  | metadata list, name =>
    if isBinaryName (Text.asciiLowercase name) then none
    else list.first? (Text.asciiLowercase name)

/-- A later value does not stand in for a first one that cannot be read. -/
theorem Call.Headers.text?_eq_filter (headers : Headers) (name : String) :
    headers.text? name = (headers.first? name).filter Http.isReadable := by
  cases headers with
  | fields list => rfl
  | metadata list =>
      by_cases hbinary : isBinaryName (Text.asciiLowercase name) = true
      · simp [text?, first?, hbinary]
      · simp [text?, first?, hbinary, Http.Fields.text?]

namespace Identity

inductive Step.Group where
  | kind
  | fixed
  | source
  | mapper
deriving DecidableEq

/-- The group of a step; `Step.none` belongs to none of them. -/
def Step.group? : Step → Option Group
  | .kind _ => some .kind
  | .none => Option.none
  | .fixed _ => some .fixed
  | .source _ => some .source
  | .mapper _ => some .mapper

/-- Whether a step forgets what came before it. -/
def Step.isReset (s : Step) : Bool := s.group?.isNone

/-! What a step declares, one function for each slot. -/

def Step.kind? : Step → Option Kind
  | .kind k => some k
  | .none => some .anonymous
  | _ => Option.none

def Step.fixed? : Step → Option String
  | .fixed value => some value
  | _ => Option.none

def Step.source? : Step → Option Source
  | .source s => some s
  | _ => Option.none

def Step.mapper? : Step → Option (Call → Identity)
  | .mapper f => some f
  | _ => Option.none

def sinceReset (steps : List Step) : List Step := steps.rtakeWhile fun s => !s.isReset

theorem sinceReset_append_reset (steps : List Step) : sinceReset (steps ++ [.none]) = [] :=
  List.rtakeWhile_concat_neg _ _ _ (by simp [Step.isReset, Step.group?])

theorem sinceReset_append_singleton {last : Step} (h : last.isReset = false) (steps : List Step) :
    sinceReset (steps ++ [last]) = sinceReset steps ++ [last] :=
  List.rtakeWhile_concat_pos _ _ _ (by simp [h])

/-- Rules hold the last kind, and what was declared last since they were reset. -/
theorem Rules.ofSteps_eq (steps : List Step) :
    ofSteps steps =
      ⟨lastSet Step.kind? steps, lastSet Step.fixed? (sinceReset steps),
        lastSet Step.source? (sinceReset steps), lastSet Step.mapper? (sinceReset steps)⟩ := by
  induction steps using List.reverseRecOn with
  | nil => rfl
  | append_singleton steps last ih =>
      rw [ofSteps_append_singleton, ih]
      cases last with
      -- Nothing is left of the steps before but that some kind is known, which is the anonymous one.
      | none =>
          rw [sinceReset_append_reset, lastSet_append_singleton]
          rfl
      | _ =>
          rw [sinceReset_append_singleton rfl]
          simp only [lastSet_append_singleton]
          rfl

/-- Steps of different groups set different slots. -/
theorem Rules.step_comm (rules : Rules) {s t : Step} (hs : s.isReset = false)
    (ht : t.isReset = false) (hgroups : s.group? ≠ t.group?) :
    (rules.step s).step t = (rules.step t).step s := by
  cases s <;> cases t <;> simp_all [Step.isReset, Step.group?, step]

theorem Rules.ofSteps_swap {s t : Step} (hs : s.isReset = false) (ht : t.isReset = false)
    (hgroups : s.group? ≠ t.group?) (before after : List Step) :
    ofSteps (before ++ s :: t :: after) = ofSteps (before ++ t :: s :: after) := by
  unfold ofSteps
  rw [List.foldl_append, List.foldl_append, List.foldl_cons, List.foldl_cons, List.foldl_cons,
    List.foldl_cons, step_comm _ hs ht hgroups]

/-- A header that a source can use: its first value is readable and not blank. -/
structure Usable (call : Call) (name value : String) : Prop where
  first : call.headers.first? name = some value
  readable : Http.isReadable value = true
  not_blank : Text.trim value ≠ ""

structure FirstUsable (call : Call) (names : List String) (name value : String) : Prop where
  usable : Usable call name value
  first : ∃ before after, names = before ++ name :: after ∧
    ∀ earlier ∈ before, ∀ other, ¬ Usable call earlier other

def usableHeader? (call : Call) (name : String) : Option (String × String) :=
  match call.header? name with
  | some value => if (Text.trim value).isEmpty then none else some (name, value)
  | none => none

theorem firstHeader?_eq_findSome? (call : Call) (names : List String) :
    firstHeader? call names = names.findSome? (usableHeader? call) := rfl

theorem usable_iff {call : Call} {name value : String} :
    Usable call name value ↔ call.header? name = some value ∧ Text.trim value ≠ "" := by
  rw [Call.header?, Call.Headers.text?_eq_filter, Option.filter_eq_some_iff, and_assoc]
  exact ⟨fun h => ⟨h.first, h.readable, h.not_blank⟩, fun h => ⟨h.1, h.2.1, h.2.2⟩⟩

theorem usableHeader?_eq_some_iff (call : Call) (name : String) (found : String × String) :
    usableHeader? call name = some found ↔ found.1 = name ∧ Usable call name found.2 := by
  rcases found with ⟨other, value⟩
  rw [usable_iff]
  unfold usableHeader?
  cases hheader : call.header? name with
  | none => simp
  | some text =>
      by_cases hblank : Text.trim text = ""
      · simp only [hblank]
        constructor
        · nofun
        · rintro ⟨-, ⟨⟩, hvalue⟩
          exact absurd hblank hvalue
      · have hread : (Text.trim text).isEmpty = false := by simpa using hblank
        simp only [hread]
        constructor
        · rintro ⟨⟩
          exact ⟨rfl, rfl, hblank⟩
        · rintro ⟨rfl, ⟨⟩, -⟩
          rfl

theorem usableHeader?_eq_none_iff (call : Call) (name : String) :
    usableHeader? call name = none ↔ ∀ value, ¬ Usable call name value := by
  rw [Option.eq_none_iff_forall_ne_some]
  constructor
  · intro hnone value husable
    exact hnone (name, value) ((usableHeader?_eq_some_iff call name _).mpr ⟨rfl, husable⟩)
  · intro hnone found hfound
    exact hnone found.2 ((usableHeader?_eq_some_iff call name found).mp hfound).2

theorem firstHeader?_eq_some_iff (call : Call) (names : List String) (name value : String) :
    firstHeader? call names = some (name, value) ↔ FirstUsable call names name value := by
  rw [firstHeader?_eq_findSome?, List.findSome?_eq_some_iff]
  simp only [usableHeader?_eq_some_iff, usableHeader?_eq_none_iff]
  constructor
  · rintro ⟨before, _, after, hnames, ⟨rfl, husable⟩, hbefore⟩
    exact ⟨husable, before, after, hnames, hbefore⟩
  · rintro ⟨husable, before, after, hnames, hbefore⟩
    exact ⟨before, name, after, hnames, ⟨rfl, husable⟩, hbefore⟩

theorem firstHeader?_eq_none_iff (call : Call) (names : List String) :
    firstHeader? call names = none ↔ ∀ name ∈ names, ∀ value, ¬ Usable call name value := by
  rw [firstHeader?_eq_findSome?, List.findSome?_eq_none_iff]
  simp only [usableHeader?_eq_none_iff]

theorem Source.read_headers_of_firstUsable {call : Call} {names : List String} {name value : String}
    (h : FirstUsable call names name value) :
    (Source.headers names).read call = (value, isAuthorization name) := by
  rw [read, (firstHeader?_eq_some_iff call names name value).mpr h]

theorem Source.read_headers_of_none_usable {call : Call} {names : List String}
    (h : ∀ name ∈ names, ∀ value, ¬ Usable call name value) :
    (Source.headers names).read call = ("", false) := by
  rw [read, (firstHeader?_eq_none_iff call names).mpr h]

/-- A kind may be declared again after a reset, and the source before it stays forgotten. -/
example (call : Call) :
    (Rules.ofSteps [.kind .subject, .source (.metadata "x-user"), .none, .fixed "bob",
      .kind .manual]).resolve call = ⟨"bob", .manual⟩ := rfl

end Identity

end AccessControl
