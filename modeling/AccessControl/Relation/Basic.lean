import AccessControl.Json.Record

/-!
# Relation tuples

A tuple asks whether a subject stands in a relation to an object. All its texts must be given when
it is read from JSON; the wish for a trace may be left out. The outcome of a check may carry a
trace, which is written only when it is not empty.
-/

namespace AccessControl

structure RelationTuple where
  objectType : String
  objectId : String
  relation : String
  subjectType : String
  subjectId : String
  trace : Bool
deriving DecidableEq, Inhabited

structure RelationAnswer where
  holds : Bool
  trace : List String
deriving DecidableEq, Inhabited

namespace RelationTuple

open Json.Document (required withDefault text? bool?)

def toJson (tuple : RelationTuple) : Json :=
  .object [("object_type", .string tuple.objectType), ("object_id", .string tuple.objectId),
    ("relation", .string tuple.relation), ("subject_type", .string tuple.subjectType),
    ("subject_id", .string tuple.subjectId), ("trace", .bool tuple.trace)]

def read? (doc : Json.Document) : Option RelationTuple :=
  match doc.fields? ["object_type", "object_id", "relation", "subject_type", "subject_id", "trace"]
      false with
  | some [objectType, objectId, relation, subjectType, subjectId, trace] =>
    match required text? objectType, required text? objectId,
      required text? relation, required text? subjectType,
      required text? subjectId,
      withDefault bool? false trace with
    | some objectType, some objectId, some relation, some subjectType, some subjectId,
        some trace =>
      some ⟨objectType, objectId, relation, subjectType, subjectId, trace⟩
    | _, _, _, _, _, _ => none
  | _ => none

end RelationTuple

namespace RelationAnswer

open Json.Document (withDefault text? bool? list?)

def toJson (answer : RelationAnswer) : Json :=
  .object (("check", .bool answer.holds) ::
    if answer.trace.isEmpty then [] else [("trace", Json.ofStrings answer.trace)])

/-- Reads the JSON form; a missing outcome is false and a missing trace empty. -/
def read? (doc : Json.Document) : Option RelationAnswer :=
  match doc.fields? ["check", "trace"] false with
  | some [holds, trace] =>
    match withDefault bool? false holds,
      withDefault (list? text?) [] trace with
    | some holds, some trace => some ⟨holds, trace⟩
    | _, _ => none
  | _ => none

end RelationAnswer

end AccessControl
