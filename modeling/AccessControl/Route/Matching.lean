import AccessControl.Route.Template
import AccessControl.Call

/-!
# Matching paths

A path is matched segment by segment against all routes at once. At each segment a literal comes
first; then a parameter or tail behind the longest literal beginning. Among parameters behind one
beginning, the longest literal ending that fits decides, without a second try. If the rest of the
path then has no match, the next choice is tried. A parameter takes at least one character, and a
tail takes all that is left of the path.
-/

namespace AccessControl.Route

/-- A route that may still match: the segments ahead and the parameters bound so far. -/
structure Candidate where
  template : String
  ahead : List Segment
  bound : List (String × String)
deriving Inhabited

namespace Candidate

def passLiteral (text : List Char) (candidate : Candidate) : Option Candidate :=
  match candidate.ahead with
  | .literal literal :: ahead => if literal = text then some { candidate with ahead } else none
  | _ => none

/-- The ending of a parameter behind a beginning, if it fits a text and leaves a value. A route
that ends here fits only the last segment of a path. -/
def ending? (before text : List Char) (isLast : Bool) (candidate : Candidate) :
    Option (List Char) :=
  match candidate.ahead with
  | .param start _ after :: ahead =>
    if start = before && ahead.isEmpty == isLast && after.length < text.length &&
        after.isSuffixOf text then some after
    else none
  | _ => none

def passParam (before text ending : List Char) (isLast : Bool) (candidate : Candidate) :
    Option Candidate :=
  if candidate.ending? before text isLast = some ending then
    match candidate.ahead with
    | .param _ name _ :: ahead =>
      some { candidate with
        ahead
        bound := candidate.bound ++
          [(name, String.ofList (text.take (text.length - ending.length)))] }
    | _ => none
  else none

def passTail (before value : List Char) (candidate : Candidate) : Option RouteMatch :=
  match candidate.ahead with
  | .tail start name :: _ =>
    if start = before && !value.isEmpty then
      some ⟨some candidate.template, candidate.bound ++ [(name, String.ofList value)]⟩
    else none
  | _ => none

end Candidate

def longest (endings : List (List Char)) : Option (List Char) :=
  endings.foldl (fun best ending =>
    match best with
    | none => some ending
    | some kept => if kept.length < ending.length then some ending else best) none

/-- A text cut in two in every way, the longest beginning first. -/
def cuts (text : List Char) : List (List Char × List Char) :=
  (List.range (text.length + 1)).reverse.map fun n => (text.take n, text.drop n)

def search : List (List Char) → List Candidate → Option RouteMatch
  | [], candidates =>
    (candidates.find? (·.ahead.isEmpty)).map fun candidate =>
      ⟨some candidate.template, candidate.bound⟩
  | segment :: rest, candidates =>
    let deeper := fun (next : List Candidate) => if next.isEmpty then none else search rest next
    (deeper (candidates.filterMap (·.passLiteral segment))).or <|
      (cuts segment).findSome? fun (before, text) =>
        let value := ['/'].intercalate (text :: rest)
        (candidates.findSome? (·.passTail before value)).or <|
          match longest (candidates.filterMap (·.ending? before text rest.isEmpty)) with
          | none => none
          | some ending =>
            deeper (candidates.filterMap (·.passParam before text ending rest.isEmpty))

end AccessControl.Route
