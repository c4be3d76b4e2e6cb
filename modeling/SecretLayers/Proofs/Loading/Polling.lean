import SecretLayers.Proofs.Loading.Alone
import SecretLayers.Proofs.Loading.Shutdown
import SecretLayers.Proofs.Properties.Composition
import SecretLayers.Proofs.Session.Leasing
/-!
Loads whose session is polled meanwhile. A load takes of its session what that gives to a caller who
is alone, and so does a run of the program. A poller makes the readers of a load wait, and it renews
the token that they get; but a renewed token has the text that it had, and no more than the text of
a token is ever sent. So the store is asked the same, and the load comes to the same, and the
shutdown revokes the same, unless a poll has left nothing to revoke.
-/
namespace SecretLayers
set_option autoImplicit false

/-! ## Sessions as their seats have them -/

namespace Session

/-- The session has in its slot what a seat holds, and treats it alike. -/
structure Sits (s : Session) (seat : Seat) : Prop where
  discipline : s.discipline = seat.discipline
  held : s.held = seat.held

/-- The tokens that are handed out, and when. -/
def handedAt (ms : List Move) : List (Instant × Token) := ms.flatMap fun m => m.handed.map (m.now, ·)

section
variable {seat : Seat} {s u : Session} {m last : Move} {ms during later : List Move} {c : Nat}
  {client : Store.Client} {r t : Token} {result : Except Error Token}

/-- Who asks for the token is handed the one of the seat, or begins its login. -/
theorem Sits.token_served (sits : m.before.Sits seat) (served : m.Serves (.token c))
    (step : m.before.step? m.now m.event = some (m.after, m.seen)) :
    (∃ t, seat.token m.now = .done (⟨m.now, .ok t⟩, seat) ∧ m.after.Sits seat ∧
        m.after.flight = none ∧ m.seen = [.replied c (.token (.ok t))]) ∨
      seat.token m.now = ((seat.strategy.login seat.client seat.machine m.now).timed m.now).map
          (fun r => (r, seat.after r.value)) ∧
        m.after.Sits seat ∧ m.after.flight = some (.login c) ∧ m.seen = [.called .login] := by
  obtain ⟨rest, -, serve⟩ := served.serve_eq step
  have same : m.before.discipline.usable? m.before.held m.now =
      seat.discipline.usable? seat.held m.now := by rw [sits.discipline, sits.held]
  simp only [Session.serve, serveToken, withQueue, same] at serve
  cases usable : seat.discipline.usable? seat.held m.now with
  | some t =>
    rw [usable] at serve
    obtain ⟨after, seen⟩ := Prod.mk.inj serve
    refine .inl ⟨t, Seat.token_of_usable usable, ?_, ?_, seen.symm⟩
    · rw [← after]
      exact ⟨sits.discipline, sits.held⟩
    · rw [← after]
      exact served.isFree
  | none =>
    rw [usable] at serve
    obtain ⟨after, seen⟩ := Prod.mk.inj serve
    refine .inr ⟨by simp only [Seat.token, usable], ?_, ?_, seen.symm⟩
    · rw [← after]
      exact ⟨sits.discipline, sits.held⟩
    · rw [← after]

/-- The end of that login leaves what the seat has after it, whoever has come meanwhile. -/
theorem Sits.token_answered (sits : s.Sits seat) (flight : s.flight = some (.login c))
    (h : History s (during ++ last :: later) u) (waits : ∀ n ∈ during, ¬ n.IsAnswer)
    (answer : last.event = .answered result) :
    last.after.Sits (seat.after result) ∧ last.after.flight = none ∧
      last.seen = [.replied c (.token result)] := by
  obtain ⟨hduring, step, -⟩ := h.around
  obtain ⟨busy, held⟩ := hduring.kept_of_unanswered flight waits
  rw [answer, step?, busy] at step
  have discipline : last.before.discipline = seat.discipline := hduring.discipline.trans sits.discipline
  cases result with
  | ok t =>
    obtain ⟨after, seen⟩ := Prod.mk.inj (Option.some.inj step)
    rw [← after, ← seen]
    exact ⟨⟨discipline, rfl⟩, rfl, rfl⟩
  | error e =>
    obtain ⟨after, seen⟩ := Prod.mk.inj (Option.some.inj step)
    rw [← after, ← seen]
    exact ⟨⟨discipline, held.trans sits.held⟩, rfl, rfl⟩

/-- A caller has been replied to what a run of the seat's dialogue comes to, and the session is that
of the seat after it. -/
theorem Sits.replied {σ : Type} {store : σ → Request → Arrival × σ} {before after : σ}
    {ended : Timed (Except Error Token)} {seat' : Seat} {requests : List Request} {first : Move}
    {rest : List Move}
    (sits : first.before.Sits seat) (served : first.Serves (.token c))
    (h : History first.before (first :: rest) u) (ends : CheckEnds first rest last)
    (run : (seat.token first.now).run store before = ((ended, seat'), requests, after))
    (answer : ∀ result, last.event = .answered result → result = ended.value) :
    last.after.Sits seat' ∧ last.after.flight = none ∧ last.seen = [.replied c (.token ended.value)] := by
  have whole : History first.before ([] ++ first :: rest) u := h
  obtain ⟨-, step, onward⟩ := whole.around
  obtain ⟨t, token, after, free, seen⟩ | ⟨token, after, flight, -⟩ := sits.token_served served step
  · rw [token] at run
    obtain ⟨rfl, rfl⟩ := Prod.mk.inj (Prod.mk.inj run).1
    cases ends with
    | here => exact ⟨after, free, seen⟩
    | answered _ _ _ begun => exact absurd free begun
  · cases ends with
    | here _ free => simp [flight] at free
    | answered during _ later _ waits answered =>
      obtain ⟨result, event⟩ := answered
      obtain rfl := answer result event
      have left : seat' = seat.after ended.value := by
        have value := congrArg Prod.fst run
        rw [token, Dialogue.run_map] at value
        obtain ⟨rfl, rfl⟩ := Prod.mk.inj value
        rfl
      rw [left]
      exact after.token_answered flight onward waits event

/-! ## Tokens while nobody logs in -/

/-- Until the next login there are only renewals of the token that is there. -/
theorem History.descends_of_held (h : History s ms u) (renews : s.RenewsHeld) (held : s.held = some r)
    (quiet : logins ms = []) :
    (∀ t, u.held = some t → Descends ms r t) ∧ ∀ t ∈ handedOut ms, Descends ms r t := by
  have unlogged : ∀ m ∈ ms, m.login? = none := List.filterMap_eq_nil_iff.1 quiet
  have onward {past : List Move} {m : Move} (effect : m.Effect) (hm : m ∈ ms)
      (renews : m.before.RenewsHeld) (root : ∀ t, m.before.held = some t → Descends past r t) :
      ∀ t, m.after.held = some t → Descends (past ++ [m]) r t := by
    intro t ht
    obtain ⟨old, hold, descends⟩ := effect.descends renews (unlogged m hm) ht
    exact ((root old hold).mono (List.subset_append_left past [m])).trans
      (descends.mono (List.subset_append_right past [m]))
  obtain ⟨⟨-, kept⟩, before⟩ := h.invariant
    (P := fun past s => s.RenewsHeld ∧ ∀ t, s.held = some t → Descends past r t)
    ⟨renews, fun t ht => Option.some.inj (held.symm.trans ht) ▸ .refl⟩
    fun past m later hms step hb => by
      have effect : m.Effect := effect_step step
      exact ⟨effect.renewsHeld hb.1, onward effect (hms ▸ by simp) hb.1 hb.2⟩
  refine ⟨kept, fun t ht => ?_⟩
  obtain ⟨m, hm, hmt⟩ := List.mem_flatMap.1 ht
  obtain ⟨past, later, rfl⟩ := List.append_of_mem hm
  have effect := h.effect m hm
  obtain ⟨renews, root⟩ := before past m later rfl
  exact (onward effect hm renews root t (effect.handed_cases hmt).1).mono (by simp)

theorem mem_handedOut {x : Instant × Token} (h : x ∈ handedAt ms) : x.2 ∈ handedOut ms := by
  obtain ⟨m, hm, hx⟩ := List.mem_flatMap.1 h
  obtain ⟨t, ht, rfl⟩ := List.mem_map.1 hx
  exact List.mem_flatMap.2 ⟨m, hm, ht⟩

end

end Session

/-! ## Reads with what is handed out -/

namespace Store.Client
variable {σ : Type} {store : σ → Request → Arrival × σ} {c : Client} {t u : Token}
  {asked : List (Backend.Entry × Instant × Token)}

/-- Reads entries, each when its reader is handed a token, and with that one. -/
def readHanded (c : Client) : List (Backend.Entry × Instant × Token) → Dialogue Compose.Ended
  | [] => .done []
  | (entry, now, t) :: rest => ((c.read entry.name t).timed now).bind fun r =>
    (c.readHanded rest).map ((entry, r) :: ·)

theorem read_of_text (same : u.text = t.text) (path : String) : c.read path u = c.read path t := by
  unfold read
  rw [same]

theorem revoke_of_text (same : u.text = t.text) : c.revoke u = c.revoke t := by
  unfold revoke
  rw [same]

/-- Tokens of one text read the same at any time. -/
theorem readHanded_alike (c : Client) (store : σ → Request → Arrival × σ)
    (same : ∀ x ∈ asked, x.2.2.text = t.text) (now : Instant) (s : σ) :
    Compose.outcomes ((c.readHanded asked).run store s).1 =
        Compose.outcomes ((c.readEach t now (asked.map (·.1))).run store s).1 ∧
      ((c.readHanded asked).run store s).2 = ((c.readEach t now (asked.map (·.1))).run store s).2 := by
  induction asked generalizing s with
  | nil => exact ⟨rfl, rfl⟩
  | cons x rest ih =>
    obtain ⟨entry, _, u⟩ := x
    obtain ⟨first, same⟩ := List.forall_mem_cons.1 same
    obtain ⟨outcomes, run⟩ := ih same ((c.read entry.name t).run store s).2.2
    obtain ⟨requests, state⟩ := Prod.ext_iff.1 run
    rw [readHanded, List.map_cons, readEach, read_of_text first]
    refine ⟨?_, Prod.ext ?_ ?_⟩
    · simp only [Dialogue.run_bind, Dialogue.run_map, Dialogue.state_timed, Compose.outcomes,
        List.map_cons, Dialogue.value_timed]
      exact congrArg _ outcomes
    · simp only [Dialogue.requests_bind, Dialogue.requests_map, Dialogue.requests_timed, Dialogue.state_timed]
      exact congrArg _ requests
    · simp only [Dialogue.state_bind, Dialogue.state_map, Dialogue.state_timed]
      exact state

end Store.Client

/-! ## Loads and runs of the program -/

/-- A session that a load has asked for its token, while it goes on: nobody logs in, renewals end as
the store says, and every reader of the load is handed a token. -/
structure Loader.Among (seat : Seat) (plan : Plan) (asked : List (Backend.Entry × Instant × Token))
    (s : Session) (ms : List Session.Move) (u : Session) : Prop where
  sits : s.Sits seat
  renews : s.RenewsHeld
  history : Session.History s ms u
  quiet : Session.logins ms = []
  renewed : Session.RenewalsBy seat.client ms
  planned : asked.map (·.1) = plan.entries
  handed : ∀ x ∈ asked, x.2 ∈ Session.handedAt ms

section
variable {σ : Type} {store : σ → Request → Arrival × σ} {seat : Seat} {plan : Plan}
  {asked : List (Backend.Entry × Instant × Token)} {s u : Session} {ms : List Session.Move} {t : Token}
  {now begun : Instant} {before after : σ} {requests : List Request}

namespace Loader
variable {l : Loader} {profiles : List String}

theorem Among.same (among : Among seat plan asked s ms u) (held : seat.held = some t) :
    (∀ t', u.held = some t' → t'.text = t.text ∧ t'.origin = t.origin) ∧
      ∀ x ∈ asked, x.2.2.text = t.text := by
  obtain ⟨kept, handed⟩ :=
    among.history.descends_of_held among.renews (among.sits.held.trans held) among.quiet
  refine ⟨fun t' ht => among.renewed.same (kept t' ht), fun x hx => ?_⟩
  exact (among.renewed.same (handed _ (Session.mem_handedOut (among.handed x hx)))).1

theorem load_run_whole (hplan : l.plan profiles = .ok plan)
    (hlogin : (l.seat.token now).run store before = ((⟨begun, .ok t⟩, seat), requests, after))
    (usable : seat.discipline.usable? seat.held begun = some t) :
    let reads := (seat.client.readEach t begun plan.entries).run store after
    (l.load profiles now).run store before =
      ((Compose.readsDone l.config.failFast begun reads.1, l.withSeat seat), requests ++ reads.2.1,
        reads.2.2) := by
  simp only [load, hplan]
  refine Prod.ext ?_ (Prod.ext ?_ ?_)
  · rw [Dialogue.run_map, Seat.compose, Dialogue.run_bind, hlogin]
    simp only [Seat.readAll_of_usable usable, Dialogue.run_map]
  · rw [Dialogue.requests_map, Seat.compose, Dialogue.requests_bind, hlogin]
    simp only [Seat.readAll_of_usable usable, Dialogue.requests_map]
  · rw [Dialogue.state_map, Seat.compose, Dialogue.state_bind, hlogin]
    simp only [Seat.readAll_of_usable usable, Dialogue.state_map]

/-- A load whose session is polled comes to the same and asks the same as one that is alone. -/
theorem load_among_polls (hplan : l.plan profiles = .ok plan)
    (hlogin : (l.seat.token now).run store before = ((⟨begun, .ok t⟩, seat), requests, after))
    (usable : seat.discipline.usable? seat.held begun = some t) (among : Among seat plan asked s ms u) :
    let reads := (seat.client.readHanded asked).run store after
    let load := (l.load profiles now).run store before
    Compose.Alike load.1.1.value (Compose.readsDone l.config.failFast begun reads.1).value ∧
      load.1.2 = l.withSeat seat ∧ load.2 = (requests ++ reads.2.1, reads.2.2) := by
  have texts := (among.same (Session.usable?_eq_some usable)).2
  obtain ⟨outcomes, run⟩ := seat.client.readHanded_alike store texts begun after
  rw [among.planned] at outcomes run
  simp only [load_run_whole hplan hlogin usable, run, and_true]
  exact Compose.alike_of_meets outcomes.symm (Compose.readsDone_meets _ _ _) (Compose.readsDone_meets _ _ _)

end Loader

namespace Seat

/-- To give a renewed token up is to give up the one that it was. -/
theorem release_of_text {t' : Token} (held : seat.held = some t) (text : t'.text = t.text)
    (origin : t'.origin = t.origin) (e : σ) :
    (({ seat with held := some t' } : Seat).release.run store e).2.1 =
      (seat.release.run store e).2.1 := by
  have fromLogin : t'.isFromLogin = t.isFromLogin := by rw [Token.isFromLogin, Token.isFromLogin, origin]
  rw [requests_release, requests_release, held]
  simp only [Option.filter, fromLogin]
  split
  · simp only [Option.map_some, Store.Client.revoke_of_text text]
  · rfl

end Seat

namespace Cli
variable {p : Place} {c : Config} {l : Loader} {profiles : List String}

/-- A run of the program asks what the load asks whose readers are handed their tokens among polls,
and then what its session asks for that is shut down as the polls have left it. That is nothing
where they have dropped the token. -/
theorem resolve_among_polls (showValues : Bool) (format : Format)
    (h : Loader.ofConfig c Backend.Factory.builtin p.machine p.nonce true = .ok l)
    (enabled : c.lifecycle.enabled = true) (hplan : l.plan profiles = .ok plan)
    (hlogin : (l.seat.token p.now).run store before = ((⟨begun, .ok t⟩, seat), requests, after))
    (usable : seat.discipline.usable? seat.held begun = some t)
    (among : Loader.Among seat plan asked s ms u) :
    let reads := (seat.client.readHanded asked).run store after
    let polled : Seat := { seat with held := u.held }
    let revocation := (polled.release.run store reads.2.2).2.1
    (u.held.isSome →
      ((resolve p c profiles showValues format).run store before).2.1 =
        requests ++ reads.2.1 ++ revocation) ∧
      (u.held = none → revocation = []) := by
  obtain ⟨-, left, run⟩ := Loader.load_among_polls hplan hlogin usable among
  have held := Session.usable?_eq_some usable
  refine ⟨fun kept => ?_, fun dropped => ?_⟩
  · have loaded : (l.load profiles p.now).run store before =
        ((((l.load profiles p.now).run store before).1.1, l.withSeat seat),
          requests ++ ((seat.client.readHanded asked).run store after).2.1,
          ((seat.client.readHanded asked).run store after).2.2) :=
      Prod.ext (Prod.ext rfl left) run
    rw [(resolve_run showValues format h enabled loaded).2]
    obtain ⟨t', ht⟩ := Option.isSome_iff_exists.1 kept
    obtain ⟨text, origin⟩ := (among.same held).1 t' ht
    rw [ht]
    exact congrArg _ (Seat.release_of_text held text origin _).symm
  · rw [Seat.requests_release, dropped]
    rfl

end Cli

end

/-! ## A run during a renewal -/

namespace Session

/-- A load asks for the token, and the poller starts before its login has come to an end. -/
def whileLoggedIn : List Move :=
  let login : Option Flight := some (.login 1)
  let due : Poller := .sleeping (Span.ofSeconds 5)
  [⟨0, .acquire, standing none none [.token 1] .fresh, standing none login [] .fresh, [.called .login]⟩,
    ⟨0, .launch, standing none login [] .fresh, standing none login [] due, []⟩,
    ⟨0, .answered (.ok lent), standing none login [] due, standing (some lent) none [] due,
      [.replied 1 (.token (.ok lent))]⟩]

theorem whileLoggedIn_history :
    History (standing none none [.token 1] .fresh) whileLoggedIn
      (standing (some lent) none [] (.sleeping (Span.ofSeconds 5))) := by
  exact .cons rfl <| .cons rfl <| .cons rfl (.nil _)

theorem whileLoggedIn_ends : CheckEnds whileLoggedIn[0] whileLoggedIn.tail whileLoggedIn[2] :=
  .answered [whileLoggedIn[1]] whileLoggedIn[2] [] (Option.some_ne_none _)
    (by simp [whileLoggedIn, Move.IsAnswer]) ⟨_, rfl⟩

/-- A poll finds the lent token expiring. Its renewal takes three seconds, and a reader waits for that. -/
def whileRenewed : List Move :=
  let due : Poller := .sleeping (Span.ofSeconds 5)
  let working : Poller := .working (Span.ofSeconds 10)
  let renewal : Option Flight := some (.renewal none lent)
  [⟨Span.ofSeconds 5, .tick, standing (some lent) none [] due, standing (some lent) none [.poll] working, []⟩,
    ⟨Span.ofSeconds 5, .acquire, standing (some lent) none [.poll] working,
      standing (some lent) renewal [] working, [.called (.renew lent)]⟩,
    ⟨Span.ofSeconds 5, .demand (.token 2), standing (some lent) renewal [] working,
      standing (some lent) renewal [.token 2] working, []⟩,
    ⟨Span.ofSeconds 8, .answered (.ok relent), standing (some lent) renewal [.token 2] working,
      standing (some relent) none [.token 2] (.sleeping (Span.ofSeconds 10)), []⟩,
    ⟨Span.ofSeconds 8, .acquire, standing (some relent) none [.token 2] (.sleeping (Span.ofSeconds 10)),
      standing (some relent) none [] (.sleeping (Span.ofSeconds 10)), [.replied 2 (.token (.ok relent))]⟩]

theorem whileRenewed_history :
    History (standing (some lent) none [] (.sleeping (Span.ofSeconds 5))) whileRenewed
      (standing (some relent) none [] (.sleeping (Span.ofSeconds 10))) := by
  have expiring : lent.isExpiring? {} (Span.ofSeconds 5) = some true := by decide +kernel
  have renews := serveCheck_renews (o := {}) (s := standing (some lent) none []
    (.working (Span.ofSeconds 10))) rfl rfl expiring rfl none
  exact .cons rfl <| .cons (congrArg some renews) <| .cons rfl <| .cons rfl <| .cons rfl (.nil _)

theorem whileRenewed_renewed : RenewalsBy Store.loopbackClient whileRenewed := by
  unfold RenewalsBy whileRenewed
  simp only [List.forall_mem_cons]
  refine ⟨nofun, nofun, nofun, ?_, nofun, by simp⟩
  rintro c old result ⟨⟩ ⟨⟩
  exact ⟨_, relent_ends⟩

end Session

/-- The loader of a run with a certificate. -/
def certifiedLoader : Loader where
  config := Session.certified
  factories := Backend.Factory.builtin
  seat :=
    { client := Store.loopbackClient
      machine := Session.bare
      discipline := .renewing {}
      strategy := Session.byCertificate }

theorem ofConfig_certified :
    Loader.ofConfig Session.certified Backend.Factory.builtin certifiedPlace.machine
      certifiedPlace.nonce true = .ok certifiedLoader := by
  have valid : Session.certified.validate = .ok () := Store.ok_of_toOption (by decide +kernel)
  simp only [Loader.ofConfig, Loader.withClient]
  rw [show Store.Client.ofAddress Session.certified.address Session.certified.namespaceName =
    .ok Store.loopbackClient from Store.ofAddress_loopback]
  simp only [valid, bind, Except.bind]
  rfl

/-- The entry that it reads. -/
def applicationEntry : Backend.Entry := Config.Generic.entry "secret" "application"

theorem plan_certified :
    ∃ plan, certifiedLoader.plan [] = .ok plan ∧ plan.entries = [applicationEntry] := by
  refine ⟨⟨[applicationEntry], {}⟩, rfl, ?_⟩
  simp [Plan.entries, Backend.Entry.inOrder]

/-- What its login leaves. -/
def certifiedSeat : Seat := certifiedLoader.seat.after (.ok Session.lent)

theorem certified_logs_in :
    ((certifiedLoader.seat.token certifiedPlace.now).run grantingStore ()).1 =
      (⟨0, .ok Session.lent⟩, certifiedSeat) := by
  let login := (certifiedLoader.seat.strategy.login Store.loopbackClient Session.bare 0).timed 0
  have login_run : (login.run grantingStore ()).1 = ⟨0, .ok Session.lent⟩ := by
    have instant : (login.run grantingStore ()).1.instant = 0 := by decide +kernel
    have value : (login.run grantingStore ()).1.value = .ok Session.lent :=
      Store.ok_of_toOption (by decide +kernel)
    generalize (login.run grantingStore ()).1 = ended at instant value
    obtain ⟨_, _⟩ := ended
    rw [← instant, ← value]
  have token : certifiedLoader.seat.token certifiedPlace.now =
      login.map fun r => (r, certifiedLoader.seat.after r.value) := rfl
  rw [token, Dialogue.run_map, login_run]
  rfl

/-- The session of a run of the program: its login, and then a renewal for which its only reader waits.
It reads with the token that the renewal brings, and what is revoked is what the login has brought. -/
theorem resolve_despite_renewal :
    ∃ plan requests, certifiedLoader.plan [] = .ok plan ∧
      let asked := [(applicationEntry, Span.ofSeconds 8, Session.relent)]
      Loader.Among certifiedSeat plan asked
        (Session.standing (some Session.lent) none [] (.sleeping (Span.ofSeconds 5))) Session.whileRenewed
        (Session.standing (some Session.relent) none [] (.sleeping (Span.ofSeconds 10))) ∧
      ((Cli.resolve certifiedPlace Session.certified [] false .json).run grantingStore ()).2.1 =
        requests ++ ((certifiedSeat.client.readHanded asked).run grantingStore ()).2.1 ++
          ((certifiedSeat.client.revoke Session.lent).run grantingStore ()).2.1 := by
  obtain ⟨plan, hplan, entries⟩ := plan_certified
  let login := (certifiedLoader.seat.token certifiedPlace.now).run grantingStore ()
  have hlogin : login = ((⟨0, .ok Session.lent⟩, certifiedSeat), login.2.1, login.2.2) :=
    Prod.ext certified_logs_in Prod.mk.eta.symm
  have begins : (Session.standing none none [.token 1] .fresh).Sits certifiedLoader.seat := ⟨rfl, rfl⟩
  have served : Session.whileLoggedIn[0].Serves (.token 1) := ⟨rfl, rfl, [], rfl⟩
  have replied := begins.replied served Session.whileLoggedIn_history Session.whileLoggedIn_ends hlogin
    (by rintro result ⟨⟩; rfl)
  let asked := [(applicationEntry, Span.ofSeconds 8, Session.relent)]
  let u := Session.standing (some Session.relent) none [] (.sleeping (Span.ofSeconds 10))
  have among : Loader.Among certifiedSeat plan asked _ Session.whileRenewed u :=
    { sits := replied.1
      renews := nofun
      history := Session.whileRenewed_history
      quiet := rfl
      renewed := Session.whileRenewed_renewed
      planned := entries.symm
      handed := by simp [asked, Session.handedAt, Session.whileRenewed, Session.Move.handed] }
  have usable : certifiedSeat.discipline.usable? certifiedSeat.held 0 = some Session.lent := by
    decide +kernel
  have run := (Cli.resolve_among_polls false .json ofConfig_certified rfl hplan hlogin usable among).1 rfl
  refine ⟨plan, login.2.1, hplan, among, run.trans ?_⟩
  have fromLogin : Session.relent.isFromLogin = true := rfl
  have text : Session.relent.text = Session.lent.text := rfl
  rw [Seat.requests_release]
  simp only [u, Session.standing, Option.filter_some, fromLogin, if_true, Option.map_some, Option.getD_some,
    Store.Client.revoke_of_text text]
  rfl

end SecretLayers
