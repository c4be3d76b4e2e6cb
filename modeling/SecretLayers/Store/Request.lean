import SecretLayers.Json.Basic
import SecretLayers.Error
import SecretLayers.Lease
import SecretLayers.Url.Reference
/-!
Requests to the store, its answers, and dialogues made of them.

A dialogue is what somebody does who may send requests and go on according to the answers.
It says nothing about where answers come from; a run of it against a store, given as a
function of the requests so far, fixes that.
-/
namespace SecretLayers

inductive Verb where
  | get
  | post
  deriving DecidableEq, Repr

structure Request where
  verb : Verb
  url : Url
  token : Option String := none
  namespaceName : Option String := none
  body : Option Json := none

/-- An answer: its status and its body as text. -/
structure Answer where
  status : Nat
  body : String
  deriving DecidableEq, Repr

namespace Answer

def isSuccess (a : Answer) : Bool := 200 ≤ a.status && a.status < 300

end Answer

/-- What comes of a request, and when. -/
structure Arrival where
  outcome : Except NetworkFault Answer
  instant : Instant

/-- Requests, each followed by what its arrival leads to, and a value in the end. -/
inductive Dialogue (α : Type) where
  | done (value : α)
  | send (request : Request) (next : Arrival → Dialogue α)

namespace Dialogue

variable {α β : Type}

def bind : Dialogue α → (α → Dialogue β) → Dialogue β
  | done a, f => f a
  | send r next, f => send r fun arrival => (next arrival).bind f

def map (f : α → β) (d : Dialogue α) : Dialogue β := d.bind fun a => done (f a)

/-- A dialogue that begins at an instant, with the instant at which it ends. -/
def timed (now : Instant) : Dialogue α → Dialogue (Timed α)
  | done a => done ⟨now, a⟩
  | send r next => send r fun arrival => (next arrival).timed (max now arrival.instant)

/-- Runs a dialogue against a store whose state changes with every request. The requests
are reported in order. -/
def run {σ : Type} (store : σ → Request → Arrival × σ) :
    Dialogue α → σ → α × List Request × σ
  | done a, s => (a, [], s)
  | send r next, s =>
    let (arrival, s) := store s r
    let (a, rs, s) := (next arrival).run store s
    (a, r :: rs, s)

/-! ## Small facts -/

theorem bind_assoc {γ : Type} (d : Dialogue α) (f : α → Dialogue β) (g : β → Dialogue γ) :
    (d.bind f).bind g = d.bind fun a => (f a).bind g := by
  induction d with
  | done a => rfl
  | send r next ih => simp only [bind]; exact congrArg _ (funext ih)

end Dialogue
end SecretLayers
