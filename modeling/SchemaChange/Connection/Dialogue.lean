import SchemaChange.Connection.Request

/-!
# Dialogues

A dialogue is a computation that talks to a database: it is over with a result, or it makes a
request and goes on with the reply. It is data, so it can be run against any database, and what it
asks is known without one.

* `Dialogue.run`: the dialogue with a given connection, with all requests and replies.
-/

namespace SchemaChange

/-- A computation that makes requests to a database. -/
inductive Dialogue (α : Type) where
  | done (result : α)
  | ask (request : Request) (next : request.Reply → Dialogue α)

/-- A request and what came back for it. -/
structure Exchange where
  request : Request
  reply : request.Reply

/-- A database connection with states `σ`: every request is answered and may change the state. -/
structure Connection (σ : Type) where
  answer : σ → (r : Request) → r.Reply × σ

namespace Dialogue

variable {α β σ : Type}

/-- Goes on with the result of a dialogue. -/
def bind : Dialogue α → (α → Dialogue β) → Dialogue β
  | done a, f => f a
  | ask r next, f => ask r fun reply => (next reply).bind f

instance : Monad Dialogue where
  pure := done
  bind := bind

/-- Makes one request. -/
def request (r : Request) : Dialogue r.Reply :=
  ask r done

/-- The transcript of a dialogue: its result, what was asked and answered, and the state the database is
    left in. -/
structure Transcript (α σ : Type) where
  result : α
  exchanges : List Exchange
  state : σ

/-- Holds a dialogue with a connection. -/
def run (c : Connection σ) : Dialogue α → σ → Transcript α σ
  | done a, s => ⟨a, [], s⟩
  | ask r next, s =>
    let (reply, s) := c.answer s r
    let rest := (next reply).run c s
    { rest with exchanges := ⟨r, reply⟩ :: rest.exchanges }

@[simp] theorem bind_done (a : α) (f : α → Dialogue β) : (done a).bind f = f a := rfl

@[simp] theorem bind_ask (r : Request) (next : r.Reply → Dialogue α) (f : α → Dialogue β) :
    (ask r next).bind f = ask r fun reply => (next reply).bind f := rfl

/-- Dialogues go on after each other in whichever way they are grouped. -/
theorem bind_assoc {γ : Type} (d : Dialogue α) (f : α → Dialogue β) (g : β → Dialogue γ) :
    (d.bind f).bind g = d.bind fun a => (f a).bind g := by
  induction d with
  | done a => rfl
  | ask r next ih => simp [ih]

/-- A dialogue that nothing is done after is itself. -/
theorem bind_done_right (d : Dialogue α) : d.bind done = d := by
  induction d with
  | done a => rfl
  | ask r next ih => simp [ih]

end Dialogue

end SchemaChange
