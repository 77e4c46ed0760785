import AccessControl.Protobuf.Reader
import AccessControl.Protobuf.Value
import AccessControl.Query
import AccessControl.Relation.Basic

/-!
# Messages

The messages that an authorizer and a directory exchange with a client: a query with the module,
the identity, the resource and the instance as parts of their own, each of which may be absent; its
answer; and a relation tuple with its answer. Writing starts from the values of this library and
reading leads back to them. Of a repeated single field the last one counts.
-/

namespace AccessControl.Protobuf

/-- A query as a message. The kind of the identity is a number. -/
structure QueryMessage where
  target : Option (String × List String)
  identity : Option (String × Int)
  resource : Option (List (String × Value))
  inst : Option Policy.Instance
deriving Inhabited

def identityNames : List (Int × String) :=
  (0, "IDENTITY_TYPE_UNKNOWN") ::
    [Identity.Kind.anonymous, .subject, .jwt, .manual].map fun kind => (kind.number, kind.name)

def identityNumber? (name : String) : Option Int :=
  (identityNames.find? fun entry => entry.2 == name).map (·.1)

def identityName? (number : Int) : Option String :=
  (identityNames.find? fun entry => entry.1 == number).map (·.2)

namespace QueryMessage

/-- The message of a query. Only the instance may be absent. -/
def ofQuery (query : Query) : QueryMessage where
  target := some (query.path, query.decisions)
  identity := some (query.identity.value, query.identity.kind.number)
  resource := some (Value.ofMembers query.resource)
  inst := query.inst

/-- A part of a message, written if it is there. -/
def part {α : Type} (number : Nat) (write : α → List UInt8) : Option α → List UInt8
  | none => []
  | some value => counted number (write value)

def encode (message : QueryMessage) : List UInt8 :=
  part 1 (fun (path, decisions) => textField 1 path ++ decisions.flatMap (text 2)) message.target ++
  part 2 (fun (value, kind) => textField 1 value ++ numberField 2 (Value.twosComplement kind))
    message.identity ++
  part 3 Value.encodeFields message.resource ++
  part 4 (fun inst => textField 1 inst.name ++ textField 2 inst.label) message.inst

end QueryMessage

def encodeTuple (tuple : RelationTuple) : List UInt8 :=
  textField 1 tuple.objectType ++ textField 2 tuple.objectId ++ textField 3 tuple.relation ++
  textField 4 tuple.subjectType ++ textField 5 tuple.subjectId ++ flagField 6 tuple.trace

def decisionField : FieldReader Decision
  | 1, layout, bytes, decision =>
    inField "Decision.decision" <|
      ((readText layout bytes).mapError .bare).map fun (name, rest) =>
        ({ decision with name }, rest)
  | 2, layout, bytes, decision =>
    inField "Decision.is" <|
      ((readFlag layout bytes).mapError .bare).map fun (holds, rest) =>
        ({ decision with holds }, rest)
  | number, layout, bytes, decision => skipField (maxDepth - 1) number layout bytes decision

def answerField : FieldReader Answer
  | 1, layout, bytes, answer =>
    inField "IsResponse.decisions" <|
      (readNested decisionField ⟨"", false⟩ layout bytes).map fun (decision, rest) =>
        (⟨answer.decisions ++ [decision]⟩, rest)
  | number, layout, bytes, answer => skipField maxDepth number layout bytes answer

def readAnswer (bytes : List UInt8) : Except ReadError Answer := readMessage answerField ⟨[]⟩ bytes

def relationField : FieldReader RelationAnswer
  | 1, layout, bytes, answer =>
    inField "CheckResponse.check" <|
      ((readFlag layout bytes).mapError .bare).map fun (holds, rest) =>
        ({ answer with holds }, rest)
  | 2, layout, bytes, answer =>
    inField "CheckResponse.trace" <|
      ((readText layout bytes).mapError .bare).map fun (line, rest) =>
        ({ answer with trace := answer.trace ++ [line] }, rest)
  | number, layout, bytes, answer => skipField maxDepth number layout bytes answer

def readRelationAnswer (bytes : List UInt8) : Except ReadError RelationAnswer :=
  readMessage relationField ⟨false, []⟩ bytes

end AccessControl.Protobuf
