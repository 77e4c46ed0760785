import AccessControl.Error

/-!
# Runs

A run is what an authorization leaves behind: its result, the queries that it sent to a backend
and the events that it logged, each in order. A run without queries never reached the backend.
-/

namespace AccessControl

inductive Level where
  | debug
  | info
  | warn
  | error
deriving DecidableEq, Inhabited

structure Event where
  level : Level
  message : String
  fields : List (String × String)
deriving DecidableEq, Inhabited

structure Run (Q α : Type) where
  result : Except AuthorizationError α
  queries : List Q
  events : List Event

namespace Run

variable {Q α : Type}

def pure (value : α) : Run Q α := ⟨.ok value, [], []⟩

def fail (error : AuthorizationError) : Run Q α := ⟨.error error, [], []⟩

/-- The run with earlier events in front of its own. -/
def after (events : List Event) (run : Run Q α) : Run Q α :=
  { run with events := events ++ run.events }

@[simp] theorem result_fail (error : AuthorizationError) :
    (fail error : Run Q α).result = .error error := rfl

@[simp] theorem result_after (events : List Event) (run : Run Q α) :
    (run.after events).result = run.result := rfl

end Run

end AccessControl
