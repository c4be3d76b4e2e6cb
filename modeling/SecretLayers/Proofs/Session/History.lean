import Mathlib.Data.List.Induction
import Mathlib.Logic.Relation
import SecretLayers.Session.Basic
/-!
Histories of a session: the steps of a run, each with what it found, what it showed and
what it left. What one step can do to the slot is said once, by `Move.Effect`; facts about
whole histories follow from its cases by induction.
-/
namespace SecretLayers.Session
set_option autoImplicit false

/-- One step of a run. -/
structure Move where
  now : Instant
  event : Event
  before : Session
  after : Session
  seen : List Action

/-- Moves from one state to another, each possible where it stands. -/
inductive History : Session → List Move → Session → Prop where
  | nil (s : Session) : History s [] s
  | cons {now : Instant} {e : Event} {s s' t : Session} {seen : List Action} {ms : List Move}
      (step : s.step? now e = some (s', seen)) (rest : History s' ms t) :
      History s (⟨now, e, s, s', seen⟩ :: ms) t

namespace History

theorem split {s u : Session} {ns : List Move} (ms : List Move) (h : History s (ms ++ ns) u) :
    ∃ t, History s ms t ∧ History t ns u := by
  induction ms generalizing s with
  | nil => exact ⟨s, .nil s, h⟩
  | cons m ms ih =>
    cases h with
    | cons step rest =>
      obtain ⟨t, h1, h2⟩ := ih rest
      exact ⟨t, .cons step h1, h2⟩

theorem append {s t u : Session} {ms ns : List Move} (h : History s ms t) (h' : History t ns u) :
    History s (ms ++ ns) u := by
  induction h with
  | nil s => exact h'
  | cons step _ ih => exact .cons step (ih h')

theorem concat {s t t' : Session} {ms : List Move} {now : Instant} {e : Event}
    {seen : List Action} (h : History s ms t) (step : t.step? now e = some (t', seen)) :
    History s (ms ++ [⟨now, e, t, t', seen⟩]) t' := by
  induction h with
  | nil s => exact .cons step (.nil t')
  | cons first _ ih => exact .cons first (ih step)

/-- The runs of a session are its histories, told by their events and what was seen. -/
theorem run?_eq_some_iff (s t : Session) (es : List (Instant × Event)) (seen : List Action) :
    s.run? es = some (t, seen) ↔
      ∃ ms, History s ms t ∧ ms.map (fun m => (m.now, m.event)) = es ∧ ms.flatMap Move.seen = seen := by
  induction es generalizing s seen with
  | nil =>
    constructor
    · intro h
      simp only [run?, Option.some.injEq, Prod.mk.injEq] at h
      obtain ⟨rfl, rfl⟩ := h
      exact ⟨[], .nil s, rfl, rfl⟩
    · rintro ⟨ms, h, he, rfl⟩
      rw [List.map_eq_nil_iff] at he
      subst he
      cases h
      rfl
  | cons e es ih =>
    obtain ⟨now, e⟩ := e
    constructor
    · intro h
      simp only [run?, Option.bind_eq_bind, Option.bind_eq_some_iff, Option.some.injEq] at h
      obtain ⟨⟨s', first⟩, step, ⟨t', more⟩, hr, he⟩ := h
      simp only [Prod.mk.injEq] at he
      obtain ⟨rfl, rfl⟩ := he
      obtain ⟨ms, hm, rfl, rfl⟩ := (ih s' more).1 hr
      exact ⟨_, .cons step hm, rfl, rfl⟩
    · rintro ⟨ms, h, he, rfl⟩
      cases h with
      | nil => simp at he
      | @cons _ _ _ s' _ first ms step rest =>
        simp only [List.map_cons, List.cons.injEq, Prod.mk.injEq] at he
        obtain ⟨⟨rfl, rfl⟩, rfl⟩ := he
        have hr := (ih s' (ms.flatMap Move.seen)).2 ⟨ms, rest, rfl, rfl⟩
        simp [run?, step, hr]

end History

/-! ## What a step makes of a state -/

/-- The session with others who wait. -/
def withQueue (s : Session) (queue : List Demand) : Session := { s with queue }

/-- The steps, each by what it needs and what it leads to. -/
inductive Step (now : Instant) : Event → Session → Session → List Action → Prop where
  | demand (s : Session) (d : Demand) : Step now (.demand d) s (s.enqueue d) []
  | acquire {s : Session} {d : Demand} {rest : List Demand} (free : s.flight = none)
      (first : s.queue = d :: rest) :
      Step now .acquire s ((s.withQueue rest).serve now d).1 ((s.withQueue rest).serve now d).2
  | answered {s : Session} {f : Flight} (flight : s.flight = some f)
      (result : Except Error Token) :
      Step now (.answered result) s (s.land f result).1 (s.land f result).2
  | launch {s : Session} {p : Poller} (launch : s.poller.launch? s.pollSpan now = some p) :
      Step now .launch s { s with poller := p } []
  | tick {s : Session} {p : Poller} (tick : s.poller.tick? s.pollSpan now = some p) :
      Step now .tick s ({ s with poller := p }.enqueue .poll) []
  | stop {s : Session} {p : Poller} (cancelled : s.cancelled = true) (stop : s.poller.stop? = some p) :
      Step now .stop s { s with poller := p } []
  /-- The first shutdown waits for the poller. -/
  | shutdownFirst {s : Session} (joinable : s.joinable = true) (c : Nat) :
      Step now (.shutdown c) s
        { s with cancelled := true, joinable := false, joining := c :: s.joining } []
  | shutdown {s : Session} (joined : s.joinable = false) (c : Nat) :
      Step now (.shutdown c) s ({ s with cancelled := true }.enqueue (.removal c)) []
  | join {s : Session} {c : Nat} (waits : c ∈ s.joining) (ended : s.poller = .ended) :
      Step now (.join c) s ({ s with joining := s.joining.erase c }.enqueue (.removal c)) []
  | revoked {s : Session} {c : Nat} (waits : c ∈ s.revoking) (result : Except Error Unit) :
      Step now (.revoked c result) s { s with revoking := s.revoking.erase c } [.replied c .done]
  | drop (s : Session) : Step now .drop s { s with cancelled := true } []

theorem step_of_step? {s s' : Session} {now : Instant} {e : Event} {seen : List Action}
    (h : s.step? now e = some (s', seen)) : Step now e s s' seen := by
  cases e with
  | demand d =>
    cases h
    exact .demand s d
  | acquire =>
    simp only [step?] at h
    split at h
    · rename_i d rest free first
      have step : Step now .acquire s _ _ := .acquire free first
      rw [show (s.withQueue rest).serve now d = (s', seen) from Option.some.inj h] at step
      exact step
    · cases h
  | answered result =>
    obtain ⟨f, flight, land⟩ := Option.map_eq_some_iff.1 h
    have step : Step now (.answered result) s _ _ := .answered flight result
    rw [land] at step
    exact step
  | launch =>
    obtain ⟨p, launch, made⟩ := Option.map_eq_some_iff.1 h
    cases made
    exact .launch launch
  | tick =>
    obtain ⟨p, tick, made⟩ := Option.map_eq_some_iff.1 h
    cases made
    exact .tick tick
  | stop =>
    simp only [step?] at h
    split at h
    · rename_i cancelled
      obtain ⟨p, stop, made⟩ := Option.map_eq_some_iff.1 h
      cases made
      exact .stop cancelled stop
    · cases h
  | shutdown c =>
    simp only [step?] at h
    split at h
    · rename_i joinable
      cases h
      exact .shutdownFirst joinable c
    · rename_i joined
      cases h
      exact .shutdown (Bool.eq_false_iff.2 joined) c
  | join c =>
    simp only [step?] at h
    split at h
    · rename_i ready
      obtain ⟨waits, ended⟩ := Bool.and_eq_true_iff.1 ready
      cases h
      exact .join (List.contains_iff_mem.1 waits) (beq_iff_eq.1 ended)
    · cases h
  | revoked c result =>
    simp only [step?] at h
    split at h
    · rename_i waits
      cases h
      exact .revoked (List.contains_iff_mem.1 waits) result
    · cases h
  | drop =>
    cases h
    exact .drop s

/-! ## Replies and ends of checks -/

@[simp] theorem conclude_held (s : Session) (c : Option Nat) (o : Outcome) :
    (s.conclude c o).1.held = s.held := by cases c <;> rfl

@[simp] theorem conclude_flight (s : Session) (c : Option Nat) (o : Outcome) :
    (s.conclude c o).1.flight = s.flight := by cases c <;> rfl

@[simp] theorem conclude_discipline (s : Session) (c : Option Nat) (o : Outcome) :
    (s.conclude c o).1.discipline = s.discipline := by cases c <;> rfl

@[simp] theorem abandon_held (s : Session) (c : Option Nat) : (s.abandon c).1.held = s.held := by
  cases c <;> rfl

@[simp] theorem abandon_flight (s : Session) (c : Option Nat) :
    (s.abandon c).1.flight = s.flight := by cases c <;> rfl

@[simp] theorem abandon_discipline (s : Session) (c : Option Nat) :
    (s.abandon c).1.discipline = s.discipline := by cases c <;> rfl

/-- Actions that neither keep the slot nor answer a request for the token. -/
def Action.isAside : Action → Bool
  | .called .login | .called (.renew _) | .replied _ (.token _) => false
  | _ => true

theorem isAside_conclude (s : Session) (c : Option Nat) (o : Outcome) :
    ∀ a ∈ (s.conclude c o).2, a.isAside := by
  cases c <;> simp [conclude, Action.isAside]

theorem isAside_abandon (s : Session) (c : Option Nat) : ∀ a ∈ (s.abandon c).2, a.isAside := by
  cases c <;> simp [abandon, Action.isAside]

/-! ## What a step does to the slot -/

namespace Move

/-- The move gives the slot to the first of those who wait. -/
structure Serves (m : Move) (d : Demand) : Prop where
  event : m.event = .acquire
  isFree : m.before.flight = none
  first : ∃ rest, m.before.queue = d :: rest

/-- What a move does to the token in the slot and to the call that keeps it. -/
inductive Effect (m : Move) : Prop where
  | aside (unanswered : ∀ result, m.event ≠ .answered result)
      (held : m.after.held = m.before.held) (flight : m.after.flight = m.before.flight)
      (seen : ∀ a ∈ m.seen, a.isAside)
  | handsOut (caller : Nat) (token : Token) (served : m.Serves (.token caller))
      (usable : m.before.discipline.usable? m.before.held m.now = some token)
      (held : m.after.held = m.before.held) (flight : m.after.flight = none)
      (seen : m.seen = [.replied caller (.token (.ok token))])
  | startsLogin (caller : Nat) (served : m.Serves (.token caller))
      (unusable : m.before.discipline.usable? m.before.held m.now = none)
      (held : m.after.held = m.before.held) (flight : m.after.flight = some (.login caller))
      (seen : m.seen = [.called .login])
  | startsRenewal (caller : Option Nat) (token : Token)
      (served : m.Serves (caller.elim .poll .check))
      (decided : m.before.discipline.decide? m.before.held m.now = some (.renew token))
      (held : m.after.held = m.before.held) (flight : m.after.flight = some (.renewal caller token))
      (seen : m.seen = [.called (.renew token)])
  | empties (d : Demand) (served : m.Serves d) (other : ∀ caller, d ≠ .token caller)
      (held : m.after.held = none) (flight : m.after.flight = none)
      (seen : ∀ a ∈ m.seen, a.isAside)
  | logsIn (caller : Nat) (token : Token) (event : m.event = .answered (.ok token))
      (before : m.before.flight = some (.login caller))
      (held : m.after.held = some token) (flight : m.after.flight = none)
      (seen : m.seen = [.replied caller (.token (.ok token))])
  | failsLogin (caller : Nat) (e : Error) (event : m.event = .answered (.error e))
      (before : m.before.flight = some (.login caller))
      (held : m.after.held = m.before.held) (flight : m.after.flight = none)
      (seen : m.seen = [.replied caller (.token (.error e))])
  | renews (caller : Option Nat) (old new : Token) (event : m.event = .answered (.ok new))
      (before : m.before.flight = some (.renewal caller old))
      (held : m.after.held = some new) (flight : m.after.flight = none)
      (seen : ∀ a ∈ m.seen, a.isAside)
  | failsRenewal (caller : Option Nat) (old : Token) (e : Error)
      (event : m.event = .answered (.error e))
      (before : m.before.flight = some (.renewal caller old))
      (held : m.after.held = none) (flight : m.after.flight = none)
      (seen : ∀ a ∈ m.seen, a.isAside)

end Move

section
variable {s s' : Session} {now : Instant} {seen : List Action} {rest : List Demand}

theorem decide?_renew {d : Discipline} {held : Option Token} {t : Token}
    (h : d.decide? held now = some (.renew t)) : held = some t := by
  unfold Discipline.decide? at h
  split at h
  · simp only [Option.map_eq_some_iff] at h
    obtain ⟨expiring, -, h⟩ := h
    split at h
    · simp at h
    · split at h
      · simpa using h
      · simp at h
  · simp at h

theorem effect_serveToken (c : Nat) (free : s.flight = none) (first : s.queue = .token c :: rest)
    (h : { s with queue := rest }.serveToken now c = (s', seen)) :
    Move.Effect ⟨now, .acquire, s, s', seen⟩ := by
  have served : Move.Serves ⟨now, .acquire, s, s', seen⟩ (.token c) := ⟨rfl, free, rest, first⟩
  unfold serveToken at h
  split at h
  · rename_i t usable
    obtain ⟨rfl, rfl⟩ := Prod.mk.inj h
    exact .handsOut c t served usable rfl free rfl
  · rename_i unusable
    obtain ⟨rfl, rfl⟩ := Prod.mk.inj h
    exact .startsLogin c served unusable rfl rfl rfl

theorem effect_serveCheck (c : Option Nat) (free : s.flight = none)
    (first : s.queue = c.elim .poll .check :: rest)
    (h : { s with queue := rest }.serveCheck now c = (s', seen)) :
    Move.Effect ⟨now, .acquire, s, s', seen⟩ := by
  have served : Move.Serves ⟨now, .acquire, s, s', seen⟩ (c.elim .poll .check) :=
    ⟨rfl, free, rest, first⟩
  unfold serveCheck at h
  split at h
  · obtain ⟨rfl, rfl⟩ := Prod.mk.inj h
    exact .aside (by simp) (abandon_held _ c) (abandon_flight _ c) (isAside_abandon _ c)
  · obtain ⟨rfl, rfl⟩ := Prod.mk.inj h
    exact .aside (by simp) (conclude_held _ c _) (conclude_flight _ c _) (isAside_conclude _ c _)
  · obtain ⟨rfl, rfl⟩ := Prod.mk.inj h
    exact .empties _ served (by cases c <;> simp) (conclude_held _ c _)
      ((conclude_flight _ c _).trans free) (isAside_conclude _ c _)
  · rename_i t decided
    obtain ⟨rfl, rfl⟩ := Prod.mk.inj h
    exact .startsRenewal c t served decided rfl rfl rfl

theorem effect_serve (d : Demand) (free : s.flight = none) (first : s.queue = d :: rest)
    (h : { s with queue := rest }.serve now d = (s', seen)) :
    Move.Effect ⟨now, .acquire, s, s', seen⟩ := by
  cases d with
  | token c => exact effect_serveToken c free first h
  | check c => exact effect_serveCheck (some c) free first h
  | poll => exact effect_serveCheck none free first h
  | status c =>
    simp only [serve, serveStatus] at h
    split at h <;>
    · obtain ⟨rfl, rfl⟩ := Prod.mk.inj h
      exact .aside (by simp) rfl rfl (by simp [Action.isAside])
  | removal c =>
    simp only [serve, serveRemoval] at h
    split at h <;>
    · obtain ⟨rfl, rfl⟩ := Prod.mk.inj h
      exact .empties (.removal c) ⟨rfl, free, rest, first⟩ (by simp) rfl free (by simp [Action.isAside])
  | invalidation c =>
    obtain ⟨rfl, rfl⟩ := Prod.mk.inj h
    exact .empties (.invalidation c) ⟨rfl, free, rest, first⟩ (by simp) rfl free
      (by simp [Action.isAside])

theorem effect_land {f : Flight} {result : Except Error Token} (before : s.flight = some f)
    (h : s.land f result = (s', seen)) :
    Move.Effect ⟨now, .answered result, s, s', seen⟩ := by
  cases f with
  | login c =>
    cases result with
    | ok t =>
      obtain ⟨rfl, rfl⟩ := Prod.mk.inj h
      exact .logsIn c t rfl before rfl rfl rfl
    | error e =>
      obtain ⟨rfl, rfl⟩ := Prod.mk.inj h
      exact .failsLogin c e rfl before rfl rfl rfl
  | renewal c old =>
    cases result with
    | ok t =>
      obtain ⟨rfl, rfl⟩ := Prod.mk.inj h
      exact .renews c old t rfl before (conclude_held _ c _) (conclude_flight _ c _)
        (isAside_conclude _ c _)
    | error e =>
      obtain ⟨rfl, rfl⟩ := Prod.mk.inj h
      exact .failsRenewal c old e rfl before (conclude_held _ c _) (conclude_flight _ c _)
        (isAside_conclude _ c _)

/-- Every step does one of these things to the slot. -/
theorem effect_step {e : Event} (h : s.step? now e = some (s', seen)) :
    Move.Effect ⟨now, e, s, s', seen⟩ := by
  cases step_of_step? h with
  | acquire free first => exact effect_serve _ free first rfl
  | answered flight result => exact effect_land flight rfl
  | demand | launch | tick | stop | shutdownFirst | shutdown | join | drop =>
    exact .aside (by simp) rfl rfl (by simp)
  | revoked => exact .aside (by simp) rfl rfl (by simp [Action.isAside])

theorem discipline_serve (s : Session) (now : Instant) (d : Demand) :
    (s.serve now d).1.discipline = s.discipline := by
  cases d with
  | token c => simp only [serve, serveToken]; split <;> rfl
  | check c => simp only [serve, serveCheck]; split <;> simp
  | poll => simp only [serve, serveCheck]; split <;> simp
  | status c => simp only [serve, serveStatus]; split <;> rfl
  | removal c => simp only [serve, serveRemoval]; split <;> rfl
  | invalidation c => rfl

theorem discipline_land (s : Session) (f : Flight) (result : Except Error Token) :
    (s.land f result).1.discipline = s.discipline := by
  cases f <;> cases result <;> simp [land]

theorem discipline_step {e : Event} (h : s.step? now e = some (s', seen)) :
    s'.discipline = s.discipline := by
  cases step_of_step? h with
  | acquire free first => exact discipline_serve _ now _
  | answered flight result => exact discipline_land s _ result
  | demand | launch | tick | stop | shutdownFirst | shutdown | join | revoked | drop => rfl

end

namespace History
variable {s t : Session} {ms : List Move}

theorem effect (h : History s ms t) : ∀ m ∈ ms, m.Effect := by
  induction h with
  | nil s => simp
  | cons step _ ih =>
    intro m hm
    rcases List.mem_cons.1 hm with rfl | hm
    · exact effect_step step
    · exact ih m hm

theorem discipline (h : History s ms t) : t.discipline = s.discipline := by
  induction h with
  | nil s => rfl
  | cons step _ ih => exact ih.trans (discipline_step step)

theorem steps (h : History s ms t) :
    ∀ m ∈ ms, m.before.step? m.now m.event = some (m.after, m.seen) := by
  induction h with
  | nil s => simp
  | cons step _ ih => exact List.forall_mem_cons.2 ⟨step, ih⟩

/-- A history around one of its moves. -/
theorem around {past later : List Move} {m : Move} (h : History s (past ++ m :: later) t) :
    History s past m.before ∧ m.before.step? m.now m.event = some (m.after, m.seen) ∧
      History m.after later t := by
  obtain ⟨u, hpast, hlater⟩ := h.split
  cases hlater with
  | cons step rest => exact ⟨hpast, step, rest⟩

theorem before_discipline (h : History s ms t) : ∀ m ∈ ms, m.before.discipline = s.discipline := by
  intro m hm
  obtain ⟨past, later, rfl⟩ := List.append_of_mem hm
  exact h.around.1.discipline

/-- What holds at first and is kept by every move holds in the end, and before each move. The
moves so far may be part of it. -/
theorem invariant {P : List Move → Session → Prop} (h : History s ms t) (base : P [] s)
    (keeps : ∀ past m later, ms = past ++ m :: later →
      m.before.step? m.now m.event = some (m.after, m.seen) → P past m.before →
      P (past ++ [m]) m.after) :
    P ms t ∧ ∀ past m later, ms = past ++ m :: later → P past m.before := by
  have reached (past later : List Move) (hms : ms = past ++ later) (u : Session)
      (hu : History s past u) : P past u := by
    induction past using List.reverseRecOn generalizing later u with
    | nil =>
      cases hu
      exact base
    | append_singleton past m ih =>
      obtain ⟨hpast, step, hlast⟩ := hu.around
      cases hlast
      have hsplit : ms = past ++ m :: later := by rw [hms, List.append_assoc, List.singleton_append]
      exact keeps past m later hsplit step (ih (m :: later) hsplit m.before hpast)
  refine ⟨reached ms [] (List.append_nil ms).symm t h, fun past m later hms => ?_⟩
  rw [hms] at h
  exact reached past (m :: later) hms m.before h.around.1

end History

/-! ## Moves that serve -/

theorem step?_acquire {s : Session} {now : Instant} {d : Demand} {rest : List Demand}
    (free : s.flight = none) (first : s.queue = d :: rest) :
    s.step? now .acquire = some ((s.withQueue rest).serve now d) := by
  simp only [step?, withQueue, free, first]

namespace Move

/-- Whom a move serves, if it gives the slot to anybody. -/
def served? (m : Move) : Option Demand :=
  match m.event, m.before.flight, m.before.queue with
  | .acquire, none, d :: _ => some d
  | _, _, _ => none

theorem served?_eq_some_iff {m : Move} {d : Demand} : m.served? = some d ↔ m.Serves d := by
  constructor
  · intro h
    unfold served? at h
    split at h
    · rename_i event free queue
      obtain rfl := Option.some.inj h
      exact ⟨event, free, _, queue⟩
    · cases h
  · rintro ⟨event, free, rest, queue⟩
    simp [served?, event, free, queue]

theorem Serves.unique {m : Move} {d d' : Demand} (h : m.Serves d) (h' : m.Serves d') : d = d' :=
  Option.some.inj ((served?_eq_some_iff.2 h).symm.trans (served?_eq_some_iff.2 h'))

/-- What a move that serves somebody does. -/
theorem Serves.serve_eq {m : Move} {d : Demand} (h : m.Serves d)
    (step : m.before.step? m.now m.event = some (m.after, m.seen)) :
    ∃ rest, m.before.queue = d :: rest ∧
      (m.before.withQueue rest).serve m.now d = (m.after, m.seen) := by
  obtain ⟨rest, queue⟩ := h.first
  rw [h.event, step?_acquire h.isFree queue] at step
  exact ⟨rest, queue, Option.some.inj step⟩

end Move
end SecretLayers.Session
