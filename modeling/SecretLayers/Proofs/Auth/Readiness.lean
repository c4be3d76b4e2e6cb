import SecretLayers.Proofs.Store.Dialogues
/-!
Failures that are the store's. A strategy is ready where its paths have addresses and the machine has
what it asks of it. Whatever the store answers, a login with such a strategy fails only for the store
or the way to it, and the strategy is ready for the next login.
-/
namespace SecretLayers
set_option autoImplicit false

namespace Error

/-- The store did not let us in, had no good answer, or could not be asked. -/
def isOfStore : Error → Bool
  | authentication _ | backend .. | transport .. => true
  | _ => false

theorem isFatal_of_isOfStore {e : Error} (h : e.isOfStore = true) : e.isFatal = false := by
  cases e <;> simp_all [isOfStore, isFatal]

end Error

/-- A result that is an error only where the store is what failed. -/
def FailsForStore {α : Type} (result : Except Error α) : Prop :=
  ∀ e, result = .error e → e.isOfStore = true

theorem failsForStore_ok {α : Type} (a : α) : FailsForStore (.ok a) := fun _ h => by cases h

theorem failsForStore_error {α : Type} {e : Error} (h : e.isOfStore = true) :
    FailsForStore (.error e : Except Error α) := fun _ he => Except.error.inj he ▸ h

/-! ## Calls -/

namespace Store.Client
variable {answers : Request → Arrival → Prop} {c : Client}

/-- A path has an address. -/
def Reaches (c : Client) (path : String) : Prop := ∃ url, c.url path = .ok url

theorem call_fails {α : Type} {verb : Verb} {path : String} {token : Option String}
    {body : Option Json} {next : Answer → Instant → Except Error α} (reaches : c.Reaches path)
    (fails : ∀ a now, FailsForStore (next a now)) :
    (c.call verb path token body next).Ensures answers FailsForStore := by
  obtain ⟨url, hurl⟩ := reaches
  unfold call
  simp only [hurl, exchange]
  split
  · exact .done (failsForStore_error rfl)
  · refine .send fun arrival _ => .done ?_
    split
    · exact failsForStore_error rfl
    · exact fails _ _

theorem grantedToken_fails (method : String) (a : Answer) (now : Instant) :
    FailsForStore (grantedToken method a now) := by
  unfold grantedToken
  split
  · exact failsForStore_error rfl
  · split
    · exact failsForStore_error rfl
    · split
      · exact failsForStore_error rfl
      · unfold Grant.token
        split
        · exact failsForStore_error rfl
        · split
          · exact failsForStore_error rfl
          · exact failsForStore_ok _

theorem login_fails {method path : String} {body : Option Json} {wrapping : Option String}
    (reaches : c.Reaches path) : (c.login method path body wrapping).Ensures answers FailsForStore :=
  call_fails reaches (grantedToken_fails method)

theorem readingOf_fails (path : String) (a : Answer) : FailsForStore (readingOf path a) := by
  unfold readingOf
  split
  · exact failsForStore_ok _
  · split
    · exact failsForStore_error rfl
    · split
      · split
        · exact failsForStore_error rfl
        · exact failsForStore_ok _
      · exact failsForStore_error rfl

theorem read_fails {path : String} (reaches : c.Reaches path) (t : Token) :
    (c.read path t).Ensures answers FailsForStore :=
  call_fails reaches fun a _ => readingOf_fails path a

end Store.Client

/-! ## Logins -/

namespace Auth.Strategy
variable {answers : Request → Arrival → Prop} {client : Store.Client} {machine : Machine}

/-- A strategy has addresses for its paths, and finds on the machine what it presents. -/
def Ready (client : Store.Client) (machine : Machine) : Strategy → Prop
  | token _ => True
  | appRole _ _ path | certificate path | awsEc2 _ path _ _ => client.Reaches (loginPath path)
  | appId _ path userId => client.Reaches (loginPath path) ∧
    ∃ user, userId.create machine.files machine.hostAddress = .ok user
  | kubernetes role path source => client.Reaches (loginPath path) ∧ role ≠ "" ∧
    ∃ jwt, source.jwt machine.files = .ok jwt ∧ Text.isBlankText jwt = false
  | cubbyhole .. => client.Reaches "sys/wrapping/unwrap"

theorem Ready.after {s : Strategy} (h : s.Ready client machine) (result : Except Error Token) :
    (s.after result).Ready client machine := by
  cases s with
  | cubbyhole wrapping unwrapped => cases result <;> exact h
  | _ => exact h

theorem login_fails {s : Strategy} (h : s.Ready client machine) (now : Instant) :
    (s.login client machine now).Ensures answers FailsForStore := by
  cases s with
  | token secret => exact .done (failsForStore_ok _)
  | appRole roleId secretId path => exact Store.Client.login_fails h
  | certificate path => exact Store.Client.login_fails h
  | appId id path userId =>
    obtain ⟨reaches, user, created⟩ := h
    simp only [login, created]
    exact Store.Client.login_fails reaches
  | awsEc2 role path document nonce =>
    -- An error of the fetch is told as one of the login.
    refine (Dialogue.ensures_true _).bind fun fetched _ => ?_
    cases fetched with
    | error e => exact .done (failsForStore_error rfl)
    | ok text => exact Store.Client.login_fails h
  | kubernetes role path source =>
    obtain ⟨reaches, given, jwt, supplied, shown⟩ := h
    simp only [login, loginKubernetes, given, supplied, shown, if_false, Bool.false_eq_true]
    exact Store.Client.login_fails reaches
  | cubbyhole wrapping unwrapped =>
    simp only [login]
    split
    · exact .done (failsForStore_error rfl)
    · exact Store.Client.login_fails h

end Auth.Strategy

/-! ## Sessions -/

namespace Seat
variable {answers : Request → Arrival → Prop}

/-- The next login of a session is ready. -/
def Ready (seat : Seat) : Prop := seat.strategy.Ready seat.client seat.machine

/-- A session after another one, with the same client and ready again. -/
structure Readies (seat seat' : Seat) : Prop where
  ready : seat'.Ready
  client : seat'.client = seat.client

theorem token_fails {seat : Seat} (h : seat.Ready) (now : Instant) :
    (seat.token now).Ensures answers fun r => FailsForStore r.1.value ∧ seat.Readies r.2 := by
  unfold token
  split
  · exact .done ⟨failsForStore_ok _, h, rfl⟩
  · exact ((Auth.Strategy.login_fails h now).timed now).map fun r fails => ⟨fails, h.after _, rfl⟩

theorem read_fails {seat : Seat} (h : seat.Ready) {entry : Backend.Entry}
    (reaches : seat.client.Reaches entry.name) (now : Instant) :
    (seat.read now entry).Ensures answers fun r => FailsForStore r.1.value ∧ seat.Readies r.2 := by
  refine (token_fails h now).bind fun (r, seat') ⟨fails, readies⟩ => ?_
  obtain ⟨begun, value⟩ := r
  cases value with
  | error e => exact .done ⟨failsForStore_error (fails e rfl), readies⟩
  | ok t =>
    rw [← readies.client] at reaches
    exact ((Store.Client.read_fails reaches t).timed begun).map fun r fails => ⟨fails, readies⟩

theorem readAll_fails {seat : Seat} (h : seat.Ready) {entries : List Backend.Entry}
    (reaches : ∀ entry ∈ entries, seat.client.Reaches entry.name) (now : Instant) :
    (seat.readAll now entries).Ensures answers fun r => ∀ read ∈ r.1, FailsForStore read.2.value := by
  induction entries generalizing seat with
  | nil => exact .done nofun
  | cons entry rest ih =>
    obtain ⟨first, others⟩ := List.forall_mem_cons.1 reaches
    refine (read_fails h first now).bind fun (r, seat') ⟨fails, readies⟩ => ?_
    refine (ih readies.ready ?_).map fun rs restFails => List.forall_mem_cons.2 ⟨fails, restFails⟩
    exact readies.client ▸ others

end Seat
end SecretLayers
