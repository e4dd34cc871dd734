import SchemaChange.Build.Builder
import SchemaChange.Connection.Dialogue
import SchemaChange.Error

/-!
# Operations

An operation on a live schema is a dialogue that may fail and that remembers one thing from one
operation to the next: how the database folds names, once it has been asked. What is learned is
kept when the operation fails later on.
-/

namespace SchemaChange

/-- A dialogue that may fail, with the case rule that has been learned so far. -/
abbrev Operation (α : Type) := ExceptT Failure (StateT (Option CaseRule) Dialogue) α

namespace Operation

variable {α : Type}

/-- The dialogue of an operation, given the case rule learned before it. -/
def dialogue (o : Operation α) (learned : Option CaseRule) :
    Dialogue (Except Failure α × Option CaseRule) :=
  StateT.run (ExceptT.run o) learned

/-- Makes one request and hands on the reply, error or not. -/
def attempt (r : Request) : Operation r.Reply :=
  ExceptT.lift (StateT.lift (Dialogue.request r))

/-- Makes one request and fails where the database does. -/
def request (r : Request) : Operation r.Answer := do
  match ← attempt r with
  | .ok answer => return answer
  | .error e => throw (.database e)

/-- Makes one look-up in the catalog and fails where it does, with the context of the look-up. -/
def lookUp (context : String) (r : Request) : Operation r.Answer := do
  match ← attempt r with
  | .ok answer => return answer
  | .error e => throw (.database (e.inCatalog context))

/-- Fails where a statement cannot be built. -/
def built : Except BuildError α → Operation α
  | .ok a => return a
  | .error e => throw (.build e)

end Operation

end SchemaChange
