import AccessControl.Route.Matching
import AccessControl.Error

/-!
# Route tables

A table holds the routes that a path can be matched against. A template joins the table if it is
well-formed and conflicts with no route in it. Two routes conflict at the first segment at which
they differ, names of parameters aside, when a path could not tell them apart there; and they
conflict if they do not differ at all.

A refused template leaves the table as it was.
-/

namespace AccessControl.Route

structure Entry where
  template : String
  segments : List Segment
deriving DecidableEq, Inhabited

structure Table where
  routes : List Entry
deriving Inhabited

/-- The shape of a segment: what is left of it without the name of its parameter. -/
def Segment.shape : Segment → Segment
  | literal text => .literal text
  | param before _ after => .param before "" after
  | tail before _ => .tail before ""

def Segment.sides (before after : List Char) : Bool × Bool := (!before.isEmpty, !after.isEmpty)

/-- Whether two segments of different shapes exclude each other. Parameters with text beside them
may share a place only if all have it on the one same side. -/
def Segment.excludes : Segment → Segment → Bool
  | tail p _, tail q _ => p == q
  | tail p _, param q _ _ => p == q
  | param p _ _, tail q _ => p == q
  | param p _ s, param q _ t =>
    let one := sides p s
    let other := sides q t
    one != (false, false) && other != (false, false) && (one != other || one == (true, true))
  | _, _ => false

/-- Whether two lists of segments conflict. The flag tells whether the first one is complete. -/
def conflicts (complete : Bool) : List Segment → List Segment → Bool
  | [], [] => complete
  | s :: ss, t :: ts =>
    if s.shape = t.shape then
      (match s with
        | .tail _ _ => true
        | _ => false) || conflicts complete ss ts
    else s.excludes t
  | _, _ => false

/-- The text that a walk over a route compares: characters, and a mark for a parameter. -/
def Segment.steps : Segment → List (Option Char)
  | literal text => text.map some
  | param before _ after => before.map some ++ none :: after.map some
  | tail before _ => before.map some ++ [none]

def Entry.steps (route : Entry) : List (Option Char) :=
  [some '/'].intercalate (route.segments.map Segment.steps)

/-- The branch that most walks take: the commonest next character, of several the one that was
complete first, and a parameter only if there is no character. -/
def busiestStep (walks : List (List (Option Char))) : Option (Option Char) :=
  let heads := walks.filterMap List.head?
  let rank := fun step => heads.countP (· == step)
  heads.reverse.eraseDups.foldl (fun best step =>
    match best with
    | none => some step
    | some kept =>
      if kept.isNone || (step.isSome && rank kept ≤ rank step) then some step else best) none

def busiest : Nat → List (List (Option Char) × Entry) → Option Entry
  | 0, walks => (walks.head?).map (·.2)
  | fuel + 1, walks =>
    match busiestStep (walks.map (·.1)) with
    | none => (walks.head?).map (·.2)
    | some step =>
      busiest fuel (walks.filterMap fun (walk, route) =>
        match walk with
        | [] => none
        | s :: rest => if s = step then some (rest, route) else none)

def busiestOf (routes : List Entry) : Option Entry :=
  busiest (routes.flatMap Entry.steps).length
    (routes.map fun route => (route.steps, route))

namespace Table

def empty : Table := ⟨[]⟩

/-- The routes that a new one meets. A route for the empty path that stands alone gives way. -/
def standing (table : Table) : List Entry :=
  match table.routes with
  | [⟨_, [.literal []]⟩] => []
  | routes => routes

/-- Adds a template whose parameters are in braces, under the spelling it is known by. -/
def add (table : Table) (template : String) (text : List Char) : Except String Table :=
  let (segments, fault) := readSegments text
  match busiestOf (table.standing.filter fun route => conflicts fault.isNone segments route.segments),
      fault with
  | some route, _ =>
    .error ("Insertion failed due to conflict with previously registered route: " ++
      render route.segments)
  | none, some fault => .error fault.message
  | none, none => .ok ⟨table.standing ++ [⟨template, segments⟩]⟩

def insert (table : Table) (template : String) : Except BuildError Table :=
  (table.add template (braced template.toList)).mapError (.route template)

def ofTemplates (templates : List String) : Except BuildError Table :=
  templates.foldlM insert empty

def ofBraced (templates : List String) : Except BuildError Table :=
  templates.foldlM (fun table template =>
    (table.add template template.toList).mapError (.route template)) empty

/-- The route that matches a path, with the parameters as they stand in the path. -/
def recognize (table : Table) (path : String) : Option RouteMatch :=
  search (Text.splitList '/' path.toList)
    (table.routes.map fun route => ⟨route.template, route.segments, []⟩)

end Table

end AccessControl.Route
