import SchemaChange.Editor.Call

/-!
# Sessions

What is done with an editor from the time it is opened, as data (`Use`): its calls, queries as the
caller writes them, further connections, and closing. A session is any sequence of uses. A use that fails
is over, and the session goes on with the next one.
-/

namespace SchemaChange

/-- Carries out an operation, whatever it comes to. -/
def Operation.regardless {α : Type} (o : Operation α) : Operation Unit :=
  tryCatch (do let _ ← o; return) fun _ => return

/-- One thing that is done with an editor. -/
inductive Use where
  | call (call : Call)
  | select (sql : String)
  | newConnection
  | close

namespace Use

/-- What a use gives back. -/
abbrev Result : Use → Type
  | call c => c.Result
  | select _ => QueryResult
  | newConnection => Endpoint
  | close => Unit

/-- Does it. -/
def perform (e : Editor) : (u : Use) → Operation u.Result
  | call c => c.perform e
  | select sql => Editor.executeSelect sql
  | newConnection => e.newConnection
  | close => Editor.close

end Use

/-- Uses an editor, in turn and to the end. -/
def Editor.session (e : Editor) : List Use → Operation Unit
  | [] => return
  | u :: us => do
    Operation.regardless (u.perform e)
    session e us

end SchemaChange
