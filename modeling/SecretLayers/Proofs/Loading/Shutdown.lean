import SecretLayers.Cli.Program
import SecretLayers.Proofs.Loading.Precedence
import SecretLayers.Proofs.Session.Renewal
import SecretLayers.Proofs.Session.Revocation
import SecretLayers.Proofs.Store.Sending
/-!
Ends of sessions. Sessions revoke what their logins brought when they are shut down, and the program
shuts the session of a load down whatever the load comes to: if a login has left its token behind, to
revoke that is the last thing that the store is asked.
-/
namespace SecretLayers
set_option autoImplicit false

/-! ## Requests for a revocation -/

namespace Store

def Client.revocation (c : Client) (url : Url) (t : Token) : Request :=
  { verb := .post, url, token := some t.text, namespaceName := c.namespaceName }

section
variable {σ : Type} {store : σ → Request → Arrival × σ} {c : Client} {url : Url}

theorem Client.requests_revoke (hurl : c.url "auth/token/revoke-self" = .ok url) (t : Token) (s : σ) :
    ((c.revoke t).run store s).2.1 = sent (c.revocation url t) := by
  unfold Client.revoke Client.call
  rw [hurl]
  exact requests_exchange _ _ s

end

end Store

/-! ## Sessions of loads -/

namespace Seat
variable {σ : Type} {store : σ → Request → Arrival × σ} {t : Token}

theorem requests_release (seat : Seat) (s : σ) :
    (seat.release.run store s).2.1 =
      ((seat.held.filter Token.isFromLogin).map fun t => ((seat.client.revoke t).run store s).2.1).getD [] := by
  unfold release
  cases seat.held.filter Token.isFromLogin with
  | some t => exact Dialogue.requests_map _ _ s
  | none => rfl

end Seat

namespace Loader
variable {answers : Request → Arrival → Prop}

theorem load_keeps (l : Loader) (profiles : List String) (now : Instant) :
    (l.load profiles now).Ensures answers fun r => l.seat.Keeps r.2.seat := by
  unfold load
  split
  · exact .done ⟨rfl, rfl⟩
  · exact (l.seat.compose_keeps _ _ now).map fun _ kept => kept

theorem ok_of_bind {ε α β : Type} {x : Except ε α} {f : α → Except ε β} {b : β}
    (h : x.bind f = .ok b) : ∃ a, x = .ok a ∧ f a = .ok b := by
  cases x with
  | error e => cases h
  | ok a => exact ⟨a, rfl, h⟩

theorem startWhere_discipline {tasksRun : Bool} {d : Session.Discipline} {s : Session}
    (h : Session.startWhere tasksRun d = .ok s) : s.discipline = d := by
  unfold Session.startWhere at h
  split at h
  · cases h
  · obtain rfl := Except.ok.inj h
    cases d <;> rfl

theorem ofConfig_seat {c : Config} {factories : List Backend.Factory} {machine : Auth.Machine}
    {nonce : String} {tasksRun : Bool} {l : Loader} (enabled : c.lifecycle.enabled = true)
    (h : ofConfig c factories machine nonce tasksRun = .ok l) :
    l.seat.discipline = .renewing c.lifecycle ∧
      Store.Client.ofAddress c.address c.namespaceName = .ok l.seat.client := by
  obtain ⟨client, hclient, h⟩ := ok_of_bind h
  obtain ⟨-, -, h⟩ := ok_of_bind h
  obtain ⟨strategy, -, h⟩ := ok_of_bind h
  obtain ⟨session, hsession, h⟩ := ok_of_bind h
  obtain rfl := Except.ok.inj h
  refine ⟨(startWhere_discipline hsession).trans ?_, hclient⟩
  rw [disciplineOf, if_pos enabled]

theorem shutdown_renewing {l : Loader} {o : RenewalOptions} (h : l.seat.discipline = .renewing o) :
    l.shutdown = l.seat.release.map l.withSeat := by
  rw [shutdown, h]

end Loader

/-! ## The program -/

namespace Cli
variable {σ : Type} {store : σ → Request → Arrival × σ} {p : Place} {c : Config} {l : Loader}

/-- A run that resolves a configuration: after the load, and whatever comes of that, its session is
given up. -/
theorem resolve_run {profiles : List String} (showValues : Bool) (format : Format)
    (h : Loader.ofConfig c Backend.Factory.builtin p.machine p.nonce true = .ok l)
    (enabled : c.lifecycle.enabled = true) {view : Timed (Except Error View)} {l' : Loader}
    {requests : List Request} {s s' : σ}
    (load : (l.load profiles p.now).run store s = ((view, l'), requests, s')) :
    ((resolve p c profiles showValues format).run store s).1 = shownView p showValues format view ∧
      ((resolve p c profiles showValues format).run store s).2.1 =
        requests ++ (l'.seat.release.run store s').2.1 := by
  have ensured : (l.load profiles p.now).Ensures (Dialogue.answersOf store) fun r =>
      l.seat.Keeps r.2.seat := l.load_keeps profiles p.now
  have kept := ensured.run s
  rw [load] at kept
  have renewing := kept.discipline.trans (Loader.ofConfig_seat enabled h).1
  unfold resolve
  simp only [h]
  rw [Dialogue.run_bind, Dialogue.requests_bind, load]
  simp only [Loader.shutdown_renewing renewing, Dialogue.run_map, Dialogue.requests_map]
  exact ⟨trivial, trivial⟩

/-- What a run shows in the end, and asks of the store after the requests of its load: to revoke the
token that it holds, if a login brought that. -/
structure EndsSession (run : Outcome × List Request × σ) (shown : Outcome) (requests : List Request)
    (client : Store.Client) (held : Option Token) : Prop where
  shows : run.1 = shown
  revokes : ∀ t, held = some t → t.isFromLogin = true →
    ∃ url, client.url "auth/token/revoke-self" = .ok url ∧
      run.2.1 = requests ++ Store.sent (client.revocation url t)
  leaves : (∀ t, held = some t → t.isFromLogin = false) → run.2.1 = requests

theorem resolve_endsSession {profiles : List String} {showValues : Bool} {format : Format}
    (h : Loader.ofConfig c Backend.Factory.builtin p.machine p.nonce true = .ok l)
    (enabled : c.lifecycle.enabled = true) {view : Timed (Except Error View)} {l' : Loader}
    {requests : List Request} {s s' : σ}
    (load : (l.load profiles p.now).run store s = ((view, l'), requests, s')) :
    EndsSession ((resolve p c profiles showValues format).run store s)
      (shownView p showValues format view) requests l.seat.client l'.seat.held := by
  obtain ⟨shows, sends⟩ := resolve_run showValues format h enabled load
  have ensured : (l.load profiles p.now).Ensures (Dialogue.answersOf store) fun r =>
      l.seat.Keeps r.2.seat := l.load_keeps profiles p.now
  have kept := ensured.run s
  rw [load] at kept
  refine ⟨shows, fun t held login => ?_, fun other => ?_⟩
  · obtain ⟨url, hurl⟩ := Store.Client.exists_revoke_url (Loader.ofConfig_seat enabled h).2
    refine ⟨url, hurl, ?_⟩
    rw [sends, Seat.requests_release, held, Option.filter_some, if_pos login, Option.map_some, Option.getD_some,
      kept.client, Store.Client.requests_revoke hurl]
  · have nothing : l'.seat.held.filter Token.isFromLogin = none := by
      cases held : l'.seat.held with
      | none => rfl
      | some t => simp [Option.filter, other t held]
    rw [sends, Seat.requests_release, nothing]
    exact List.append_nil _

end Cli

/-! ## The whole -/

/-- However a session is used and shut down, a token of a login is revoked once at most, only when a
shutdown has taken it out of the slot, and is not handed out any more. The program shuts its session
down after every load. -/
theorem shutdown_revokes (o : RenewalOptions) {client : Store.Client} {ms : List Session.Move}
    {s : Session} (h : Session.History (Session.start (.renewing o)) ms s)
    (uses : ∀ m ∈ ms, m.Uses) (renewed : Session.RenewalsBy client ms)
    (distinct : ((Session.logins ms).map Token.text).Nodup) :
    Session.ShutsDown ms s ∧
    ∀ (p : Cli.Place) (c : Config) (l : Loader), c.lifecycle.enabled = true →
      Loader.ofConfig c Backend.Factory.builtin p.machine p.nonce true = .ok l →
      ∀ (σ : Type) (store : σ → Request → Arrival × σ) (begun ended : σ) (profiles : List String)
        (view : Timed (Except Error View)) (l' : Loader) (requests : List Request),
        (l.load profiles p.now).run store begun = ((view, l'), requests, ended) →
        ∀ (showValues : Bool) (format : Cli.Format),
          Cli.EndsSession ((Cli.resolve p c profiles showValues format).run store begun)
            (Cli.shownView p showValues format view) requests l.seat.client l'.seat.held := by
  refine ⟨h.shutsDown uses renewed distinct, ?_⟩
  intro p c l enabled hl σ store begun ended profiles view l' requests load showValues format
  exact Cli.resolve_endsSession hl enabled load

/-! ## Two shutdowns, and a run -/

/-- A store that grants every login, and has nothing to read. -/
def grantingStore (_ : Unit) (r : Request) : Arrival × Unit :=
  let isLogin := r.url.render = "http://127.0.0.1:8200/v1/auth/cert/login"
  ({ outcome := .ok (if isLogin then Session.lending else ⟨404, ""⟩), instant := 0 }, ())

def certifiedPlace : Cli.Place where
  machine := Session.bare
  environment := []
  nonce := ""
  now := 0
  timeText _ := ""

theorem load_leaves_lent :
    ∃ l, Loader.ofConfig Session.certified Backend.Factory.builtin certifiedPlace.machine
        certifiedPlace.nonce true = .ok l ∧
      ((l.load [] certifiedPlace.now).run grantingStore ()).1.2.seat.held = some Session.lent := by
  have hload : (Loader.ofConfig Session.certified Backend.Factory.builtin certifiedPlace.machine
      certifiedPlace.nonce true).toOption.any (fun l =>
        ((l.load [] certifiedPlace.now).run grantingStore ()).1.2.seat.held = some Session.lent) =
      true := by decide +kernel
  obtain ⟨l, hl, held⟩ := exists_ok hload
  exact ⟨l, hl, of_decide_eq_true held⟩

namespace Session

def closing (held : Option Token) (flight : Option Flight) (queue : List Demand) (poller : Poller)
    (joining revoking : List Nat) : Session :=
  { start (.renewing {}) with
    held, flight, queue, poller, joinable := false, cancelled := true, joining, revoking }

def second : Token := .granted "s.2" 60 true 1

def denied : Except Error Unit := .error (Store.Client.revokeRejected "denied")

/-- Two shutdowns during a login: the first of them waits for the poller, so the other one is served
before it. Between them there is a second login. -/
def closed : List Move :=
  let login (c : Nat) : Option Flight := some (.login c)
  [⟨0, .demand (.token 1), standing none none [] .fresh, standing none none [.token 1] .fresh, []⟩,
    ⟨0, .acquire, standing none none [.token 1] .fresh, standing none (login 1) [] .fresh,
      [.called .login]⟩,
    ⟨0, .shutdown 2, standing none (login 1) [] .fresh, closing none (login 1) [] .fresh [2] [], []⟩,
    ⟨0, .shutdown 3, closing none (login 1) [] .fresh [2] [],
      closing none (login 1) [.removal 3] .fresh [2] [], []⟩,
    ⟨0, .demand (.token 4), closing none (login 1) [.removal 3] .fresh [2] [],
      closing none (login 1) [.removal 3, .token 4] .fresh [2] [], []⟩,
    ⟨0, .stop, closing none (login 1) [.removal 3, .token 4] .fresh [2] [],
      closing none (login 1) [.removal 3, .token 4] .ended [2] [], []⟩,
    ⟨0, .join 2, closing none (login 1) [.removal 3, .token 4] .ended [2] [],
      closing none (login 1) [.removal 3, .token 4, .removal 2] .ended [] [], []⟩,
    ⟨0, .answered (.ok lent), closing none (login 1) [.removal 3, .token 4, .removal 2] .ended [] [],
      closing (some lent) none [.removal 3, .token 4, .removal 2] .ended [] [],
      [.replied 1 (.token (.ok lent))]⟩,
    ⟨0, .acquire, closing (some lent) none [.removal 3, .token 4, .removal 2] .ended [] [],
      closing none none [.token 4, .removal 2] .ended [] [3], [.called (.revoke 3 lent)]⟩,
    ⟨0, .acquire, closing none none [.token 4, .removal 2] .ended [] [3],
      closing none (login 4) [.removal 2] .ended [] [3], [.called .login]⟩,
    ⟨0, .revoked 3 denied, closing none (login 4) [.removal 2] .ended [] [3],
      closing none (login 4) [.removal 2] .ended [] [], [.replied 3 .done]⟩,
    ⟨1, .answered (.ok second), closing none (login 4) [.removal 2] .ended [] [],
      closing (some second) none [.removal 2] .ended [] [], [.replied 4 (.token (.ok second))]⟩,
    ⟨1, .acquire, closing (some second) none [.removal 2] .ended [] [],
      closing none none [] .ended [] [2], [.called (.revoke 2 second)]⟩]

theorem closed_history :
    History (start (.renewing {})) closed (closing none none [] .ended [] [2]) := by
  refine .cons rfl <| .cons rfl <| .cons rfl <| .cons rfl <| .cons rfl <| .cons rfl <| .cons rfl <|
    .cons rfl <| .cons rfl <| .cons rfl <| .cons rfl <| .cons rfl <| .cons rfl (.nil _)

theorem closed_uses : ∀ m ∈ closed, m.Uses := by
  unfold closed
  simp [Move.Uses, Demand.isUse]

theorem closed_renewed (client : Store.Client) : RenewalsBy client closed := by
  unfold RenewalsBy closed
  simp [standing, closing]

end Session

/-- Each of the two tokens is revoked once. A run of the program revokes what its login brought. -/
theorem each_revoked_once :
    Session.logins Session.closed = [Session.lent, Session.second] ∧
      Session.revocations Session.closed = [Session.lent, Session.second] ∧
      Session.ShutsDown Session.closed (Session.closing none none [] .ended [] [2]) ∧
      ∃ l url view l' requests, Loader.ofConfig Session.certified Backend.Factory.builtin
          certifiedPlace.machine certifiedPlace.nonce true = .ok l ∧
        (l.load [] certifiedPlace.now).run grantingStore () = ((view, l'), requests, ()) ∧
        ((Cli.resolve certifiedPlace Session.certified [] false .json).run grantingStore ()).2.1 =
          requests ++ Store.sent (l.seat.client.revocation url Session.lent) := by
  have distinct : ((Session.logins Session.closed).map Token.text).Nodup := by decide
  obtain ⟨closes, resolves⟩ := shutdown_revokes {} Session.closed_history Session.closed_uses
    (Session.closed_renewed Store.loopbackClient) distinct
  obtain ⟨l, hl, held⟩ := load_leaves_lent
  obtain ⟨⟨view, l'⟩, requests, ⟨⟩, load⟩ : ∃ r requests ended,
      (l.load [] certifiedPlace.now).run grantingStore () = (r, requests, ended) := ⟨_, _, _, rfl⟩
  rw [load] at held
  obtain ⟨url, -, sends⟩ := (resolves certifiedPlace Session.certified l rfl hl Unit grantingStore
    () () [] view l' requests load false .json).revokes _ held rfl
  exact ⟨rfl, rfl, closes, l, url, view, l', requests, hl, load, sends⟩

end SecretLayers
