import MqAdmin.Duration
import MqAdmin.Json.Basic

/-!
What an operation asks of the world outside, as data: a dialogue is a tree of questions, each
followed by what comes after every possible answer. Who answers, a server or a script, is left
open, so one statement about a dialogue holds for all of them.
-/

namespace MqAdmin

structure Request where
  url : String
  payload : Json
  headers : KeyMap String
  /-- How long to wait for the answer; none waits for ever. -/
  timeout : Option Duration
  verifyTls : Bool
deriving DecidableEq, Inhabited

/-- An answer of a server, whatever its status. Header names are in small letters. -/
structure Response where
  status : Nat
  body : String
  headers : KeyMap String := ∅
deriving DecidableEq, Inhabited

/-- A header's value, whatever the letter case of the name asked for. -/
def Response.header? (response : Response) (name : String) : Option String :=
  response.headers.get? (name.map Char.toLower)

structure Failure where
  url : String
  message : String
deriving DecidableEq, Inhabited

abbrev Reply := Except Failure Response

/-- What can be asked of the world outside. -/
inductive Question where
  | send (request : Request)
  | sleep (duration : Duration)
  | now
  | read (path : String)
deriving DecidableEq

/-- The answers that a question can get; a file that cannot be read is answered with the reason. -/
abbrev Question.Answer : Question → Type
  | .send _ => Reply
  | .sleep _ => Unit
  | .now => Instant
  | .read _ => Except String String

/-- Why an operation cannot go on at all. -/
inductive Abort where
  /-- A length of time is too long to be counted. -/
  | overflow
  /-- A state was asked for more often than any clock allows that keeps time. -/
  | endless
deriving DecidableEq

/-- An operation in terms of the questions it asks. -/
inductive Dialogue (α : Type) where
  | done (value : α)
  | ask (question : Question) (next : question.Answer → Dialogue α)
  | abort (cause : Abort)

namespace Dialogue

variable {α β γ : Type}

def bind : Dialogue α → (α → Dialogue β) → Dialogue β
  | .done value, next => next value
  | .ask question rest, next => .ask question fun answer => (rest answer).bind next
  | .abort cause, _ => .abort cause

instance : Monad Dialogue where
  pure := .done
  bind := bind

@[simp] theorem pure_eq (value : α) : (pure value : Dialogue α) = .done value := rfl

@[simp] theorem done_bind (value : α) (next : α → Dialogue β) :
    (Dialogue.done value >>= next) = next value := rfl

@[simp] theorem ask_bind (question : Question) (rest : question.Answer → Dialogue α)
    (next : α → Dialogue β) :
    (Dialogue.ask question rest >>= next) = .ask question fun answer => rest answer >>= next := rfl

@[simp] theorem abort_bind (cause : Abort) (next : α → Dialogue β) :
    ((Dialogue.abort cause : Dialogue α) >>= next) = .abort cause := rfl

theorem bind_done (dialogue : Dialogue α) : dialogue.bind .done = dialogue := by
  induction dialogue with
  | done value => rfl
  | ask question rest ih => rw [bind]; simp [ih]
  | abort cause => rfl

theorem bind_bind (dialogue : Dialogue α) (first : α → Dialogue β) (second : β → Dialogue γ) :
    (dialogue.bind first).bind second = dialogue.bind fun value => (first value).bind second := by
  induction dialogue with
  | done value => rfl
  | ask question rest ih => simp only [bind, ih]
  | abort cause => rfl

instance : LawfulMonad Dialogue :=
  LawfulMonad.mk' Dialogue bind_done (fun _ _ => rfl) bind_bind

def answer (question : Question) : Dialogue question.Answer := .ask question .done

/-- Plays a dialogue with someone who answers; `stop` says what an abort comes to. -/
def run {m : Type → Type} [Monad m] (answer : (question : Question) → m question.Answer)
    (stop : Abort → m α) : Dialogue α → m α
  | .done value => pure value
  | .ask question next => do
    let reply ← answer question
    (next reply).run answer stop
  | .abort cause => stop cause

end Dialogue

end MqAdmin
