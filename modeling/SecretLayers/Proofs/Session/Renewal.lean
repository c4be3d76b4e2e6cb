import SecretLayers.Proofs.Lease.Threshold
import SecretLayers.Proofs.Session.Status
import SecretLayers.Proofs.Session.Waiting
/-!
Renewal keeps ahead of expiry. A poller looks at the token at least once in every interval,
or waits for a renewal that is under way. A token that it leaves alone has more than an
interval left, and one that comes from the store has a longer term than that, so the next
look is always taken before the lease is over.
-/
namespace SecretLayers
set_option autoImplicit false

/-! ## Terms longer than an interval -/

theorem Span.ofSeconds_lt {m n : Nat} (h : m < n) : Span.ofSeconds m < Span.ofSeconds n := by
  unfold Span.ofSeconds
  exact Nat.mul_lt_mul_of_pos_right h (Nat.pow_pos (by decide : 0 < 10))

/-- When the lease is over. -/
def Token.ends (t : Token) : Instant := t.lease.start + Span.ofSeconds t.lease.seconds

/-- A token that can be renewed, with a term that is longer than an interval. -/
structure Token.Lasts (o : RenewalOptions) (t : Token) : Prop where
  renewable : t.renewable = true
  longer : o.pollInterval < t.lease.seconds
  fits : t.lease.seconds < 2 ^ 63

namespace Token.Lasts
variable {o : RenewalOptions} {t : Token} {now : Instant}

theorem expires (h : t.Lasts o) : t.expires = true := by
  have hpos : t.lease.seconds ≠ 0 := Nat.ne_of_gt (Nat.lt_of_le_of_lt (Nat.zero_le _) h.longer)
  simpa [Token.expires] using hpos

theorem pollSpan_lt_ends (h : t.Lasts o) (start : t.lease.start = now) :
    now + o.pollSpan < t.ends := by
  have hspan : o.pollSpan < Span.ofSeconds t.lease.seconds := Span.ofSeconds_lt h.longer
  rw [Token.ends, start]
  exact Nat.add_lt_add_left hspan now

theorem isExpired_eq_false (h : t.Lasts o) (started : t.lease.start ≤ now) (before : now < t.ends) :
    t.isExpired now = false := by
  rw [Token.ends] at before
  have hlt : now - t.lease.start < Span.ofSeconds t.lease.seconds :=
    Nat.sub_lt_left_of_lt_add started before
  have hpos : t.lease.remaining now ≠ 0 := by
    rw [Lease.remaining]
    exact Nat.ne_of_gt (Nat.sub_pos_of_lt hlt)
  rw [Token.isExpired, Token.remaining?, if_pos h.expires, Option.any_some]
  exact decide_eq_false hpos

/-- What is not expiring has more than an interval left. -/
theorem isExpiring?_cases (h : t.Lasts o) (fraction : o.threshold.IsFraction)
    (started : t.lease.start ≤ now) :
    t.isExpiring? o now = some true ∨
      t.isExpiring? o now = some false ∧ now + o.pollSpan < t.ends := by
  simp only [Token.isExpiring?, h.expires, if_true]
  rcases RenewalOptions.isExpiring?_cases fraction h.fits now with due | ⟨calm, hremaining⟩
  · exact .inl due
  · refine .inr ⟨calm, ?_⟩
    rw [Lease.remaining] at hremaining
    have hspan : o.pollSpan + (now - t.lease.start) < Span.ofSeconds t.lease.seconds :=
      Nat.add_lt_of_lt_sub hremaining
    rw [Token.ends]
    calc now + o.pollSpan
        = t.lease.start + (o.pollSpan + (now - t.lease.start)) := by
          rw [Nat.add_comm o.pollSpan, ← Nat.add_assoc, Nat.add_sub_cancel' started]
      _ < t.lease.start + Span.ofSeconds t.lease.seconds := Nat.add_lt_add_left hspan _

end Token.Lasts

/-! ## Pollers within their interval -/

namespace Poller

theorem nextDue_le {interval : Span} {due now : Instant} (h : due ≤ now) :
    nextDue interval due now ≤ now + interval := by
  unfold nextDue
  split
  · exact Nat.le_refl _
  · exact Nat.add_le_add_right h interval

/-- A poller whose next look, or the end of the interval in which it looks, is at most an
interval ahead. -/
inductive Within (interval : Span) (now : Instant) (looks : Prop) : Poller → Prop
  | fresh : Within interval now looks .fresh
  | sleeping {due : Instant} (soon : due ≤ now + interval) : Within interval now looks (.sleeping due)
  | working {next : Instant} (soon : next ≤ now + interval) (look : looks) :
      Within interval now looks (.working next)

/-- The next look is taken before an instant. -/
def Reaches (interval : Span) (now ends : Instant) : Poller → Prop
  | .fresh => now + interval < ends
  | .sleeping due => due < ends
  | _ => True

section
variable {interval : Span} {now ends : Instant} {looks : Prop} {p : Poller}

theorem Within.imp {looks' : Prop} (h : Within interval now looks p) (imp : looks → looks') :
    Within interval now looks' p := by
  cases h with
  | fresh => exact .fresh
  | sleeping soon => exact .sleeping soon
  | working soon look => exact .working soon (imp look)

theorem Within.resume (h : Within interval now looks p) (looks' : Prop) :
    Within interval now looks' p.resume := by
  cases h with
  | fresh => exact .fresh
  | sleeping soon => exact .sleeping soon
  | working soon look => exact .sleeping soon

theorem Within.reaches (h : Within interval now looks p) (longer : now + interval < ends) :
    Reaches interval now ends p := by
  cases h with
  | fresh => exact longer
  | sleeping soon => exact Nat.lt_of_le_of_lt soon longer
  | working soon look => trivial

end

end Poller

namespace Session

/-! ## Uses of a session with a poller -/

/-- One move follows another, and nothing that the session does of its own accord is left
undone while time passes. -/
def Move.Follows (m n : Move) : Prop :=
  m.now ≤ n.now ∧ ∀ u, m.now ≤ u → u < n.now →
    ∀ e ∈ system.urgent m.after ++ [system.tick, system.launch], m.after.step? u e = none

/-- A move before a shutdown, with a store that grants tokens which last, and renews them. -/
structure Move.Attended (o : RenewalOptions) (m : Move) : Prop where
  uses : ∀ d, m.event = .demand d → d.isUse = true
  running : m.after.cancelled = false
  grants : ∀ t, m.login? = some t → t.lease.start = m.now ∧ t.Lasts o
  renews : ∀ c old result, m.before.flight = some (.renewal c old) → m.event = .answered result →
    ∃ t, result = .ok t ∧ t.lease.start = m.now ∧ t.Lasts o

/-! ## The invariant -/

/-- The token in the slot is not yet over, unless it is being renewed, and the next look at
it is taken before it is. -/
structure Covered (o : RenewalOptions) (now : Instant) (s : Session) (t : Token) : Prop where
  lasts : t.Lasts o
  started : t.lease.start ≤ now
  settled : ∀ c, s.flight ≠ some (.login c)
  ahead : s.flight = none → now < t.ends ∧ s.poller.Reaches o.pollSpan now t.ends

structure Ahead (o : RenewalOptions) (now : Instant) (s : Session) : Prop where
  discipline : s.discipline = .renewing o
  running : s.cancelled = false
  queued : ∀ d ∈ s.queue, d.isUse = true ∨ d = .poll
  polls : s.poller.Within o.pollSpan now s.HasLook
  held : ∀ t, s.held = some t → Covered o now s t

section
variable {o : RenewalOptions} {now : Instant} {s : Session}

theorem start_ahead (enabled : o.enabled = true) (now : Instant) :
    Ahead o now (start (.renewing o)) where
  discipline := rfl
  running := rfl
  queued := by simp [start]
  polls := by
    simp only [start, Poller.start, enabled, if_true]
    exact .fresh
  held := by simp [start]

theorem covered_of_granted {t : Token} (lasts : t.Lasts o) (start : t.lease.start = now)
    (free : s.flight = none) (polls : s.poller.Within o.pollSpan now s.HasLook) :
    Covered o now s t where
  lasts := lasts
  started := Nat.le_of_eq start
  settled c := by simp [free]
  ahead _ := by
    have longer := lasts.pollSpan_lt_ends start
    exact ⟨Nat.lt_of_le_of_lt (Nat.le_add_right _ _) longer, polls.reaches longer⟩

theorem Ahead.pollSpan (h : Ahead o now s) : s.pollSpan = o.pollSpan := by
  rw [Session.pollSpan, h.discipline]

theorem Ahead.isExpired_eq_false (h : Ahead o now s) (free : s.flight = none) {t : Token}
    (held : s.held = some t) : t.isExpired now = false := by
  have covered := h.held t held
  exact covered.lasts.isExpired_eq_false covered.started (covered.ahead free).1

theorem Ahead.usable? (h : Ahead o now s) (free : s.flight = none) :
    s.discipline.usable? s.held now = s.held := by
  rw [h.discipline]
  cases hheld : s.held with
  | none => rfl
  | some t => simp [Discipline.usable?, h.isExpired_eq_false free hheld]

/-! ## Time that passes -/

/-- While nothing can happen by itself, the invariant lasts. -/
theorem Ahead.wait {later : Instant} (h : Ahead o now s) (le : now ≤ later)
    (quiet : ∀ u, now ≤ u → u < later →
      ∀ e ∈ system.urgent s ++ [system.tick, system.launch], s.step? u e = none) :
    Ahead o later s := by
  rcases Nat.eq_or_lt_of_le le with rfl | lt
  · exact h
  have notLaunch : s.poller ≠ .fresh := by
    intro fresh
    have hlaunch := quiet now (Nat.le_refl _) lt .launch (by simp [system])
    simp [step?, fresh, Poller.launch?] at hlaunch
  have notDue (due : Instant) (sleeping : s.poller = .sleeping due) : later ≤ due := by
    by_contra hdue
    have htick := quiet (max now due) (Nat.le_max_left _ _) (Nat.max_lt.2 ⟨lt, Nat.not_le.1 hdue⟩)
      .tick (by simp [system])
    simp [step?, sleeping, Poller.tick?] at htick
  have notAsked (free : s.flight = none) : s.queue = [] := by
    have hacquire := quiet now (Nat.le_refl _) lt .acquire (by simp [system])
    cases hqueue : s.queue with
    | nil => rfl
    | cons d rest => simp [step?, free, hqueue] at hacquire
  have further : now + o.pollSpan ≤ later + o.pollSpan := Nat.add_le_add_right le _
  refine ⟨h.discipline, h.running, h.queued, ?_, fun t ht => ?_⟩
  · cases hpolls : s.poller with
    | fresh => exact .fresh
    | sleeping due =>
      have polls := h.polls
      rw [hpolls] at polls
      cases polls with
      | sleeping soon => exact .sleeping (Nat.le_trans soon further)
    | working next =>
      have polls := h.polls
      rw [hpolls] at polls
      cases polls with
      | working soon look => exact .working (Nat.le_trans soon further) look
    | off | ended =>
      have polls := h.polls
      rw [hpolls] at polls
      cases polls
  · have covered := h.held t ht
    refine ⟨covered.lasts, Nat.le_trans covered.started le, covered.settled, fun free => ?_⟩
    have reaches := (covered.ahead free).2
    have polls := h.polls
    -- Nobody waits for the free slot, so the poller is not at work: it sleeps until a look
    -- that is still to come.
    cases hpolls : s.poller with
    | fresh => exact absurd hpolls notLaunch
    | sleeping due =>
      rw [hpolls] at reaches
      exact ⟨Nat.lt_of_le_of_lt (notDue due hpolls) reaches, reaches⟩
    | working next =>
      rw [hpolls] at polls
      cases polls with
      | working soon look => simp [HasLook, notAsked free, free] at look
    | off | ended =>
      rw [hpolls] at polls
      cases polls

/-! ## Serving a demand -/

/-- Other demands may come and go; a look for the poller stays. -/
theorem Ahead.requeue (h : Ahead o now s) {queue : List Demand}
    (queued : ∀ d ∈ queue, d.isUse = true ∨ d = .poll) (kept : .poll ∈ s.queue → .poll ∈ queue) :
    Ahead o now { s with queue } where
  discipline := h.discipline
  running := h.running
  queued := queued
  polls := h.polls.imp fun looks => looks.imp kept id
  held t ht := ⟨(h.held t ht).lasts, (h.held t ht).started, (h.held t ht).settled, (h.held t ht).ahead⟩

theorem Ahead.fly (h : Ahead o now s) (free : s.flight = none) {f : Flight}
    (settled : s.held.isSome → ∀ c, f ≠ .login c) : Ahead o now { s with flight := some f } where
  discipline := h.discipline
  running := h.running
  queued := h.queued
  polls := h.polls.imp fun looks => by
    rcases looks with asked | ⟨t, flight⟩
    · exact .inl asked
    · rw [free] at flight
      cases flight
  held t ht :=
    { lasts := (h.held t ht).lasts
      started := (h.held t ht).started
      settled := fun c hc => settled (by rw [ht]; rfl) c (Option.some.inj hc)
      ahead := by simp }

theorem Ahead.serveToken (h : Ahead o now s) (free : s.flight = none) (c : Nat) :
    Ahead o now (s.serveToken now c).1 := by
  rcases Option.eq_none_or_eq_some s.held with empty | ⟨t, held⟩
  · rw [Session.serveToken, (h.usable? free).trans empty]
    exact h.fly free (by simp [empty])
  · rw [Session.serveToken, (h.usable? free).trans held]
    exact h

theorem Ahead.serveStatus (h : Ahead o now s) (c : Nat) : Ahead o now (s.serveStatus now c).1 := by
  unfold Session.serveStatus
  split <;> exact h

/-- A check leaves a token alone that has more than an interval left, and renews any other. -/
theorem serveCheck_cases (discipline : s.discipline = .renewing o)
    (fraction : o.threshold.IsFraction)
    (held : ∀ t, s.held = some t → t.Lasts o ∧ t.lease.start ≤ now) (c : Option Nat) :
    (s.serveCheck now c = s.conclude c .idle ∧
        ∀ t, s.held = some t → now + o.pollSpan < t.ends) ∨
      ∃ t, s.held = some t ∧
        s.serveCheck now c = ({ s with flight := some (.renewal c t) }, [.called (.renew t)]) := by
  rcases Option.eq_none_or_eq_some s.held with empty | ⟨t, there⟩
  · exact .inl ⟨serveCheck_idle discipline (by simp [empty]) c, by simp [empty]⟩
  · obtain ⟨lasts, started⟩ := held t there
    rcases lasts.isExpiring?_cases fraction started with expiring | ⟨left, longer⟩
    · exact .inr ⟨t, there, serveCheck_renews discipline there expiring lasts.renewable c⟩
    · refine .inl ⟨serveCheck_idle discipline (fun u hu => ?_) c, fun u hu => ?_⟩
      · obtain rfl := Option.some.inj (there.symm.trans hu)
        exact left
      · obtain rfl := Option.some.inj (there.symm.trans hu)
        exact longer

theorem Ahead.serveCheck (h : Ahead o now s) (fraction : o.threshold.IsFraction)
    (free : s.flight = none) (c : Nat) : Ahead o now (s.serveCheck now (some c)).1 := by
  have held (t : Token) (ht : s.held = some t) := h.held t ht
  rcases serveCheck_cases h.discipline fraction
    (fun t ht => ⟨(held t ht).lasts, (held t ht).started⟩) (some c) with ⟨idle, -⟩ | ⟨t, ht, renews⟩
  · rw [idle]
    exact h
  · rw [renews]
    exact h.fly free (by simp)

/-- The look of the poller. It goes back to sleep at once, or when the token is renewed. -/
theorem Ahead.servePoll (h : Ahead o now s) (fraction : o.threshold.IsFraction)
    (free : s.flight = none) {rest : List Demand} (first : s.queue = .poll :: rest) :
    Ahead o now ({ s with queue := rest }.serveCheck now none).1 := by
  have queued : ∀ d ∈ rest, d.isUse = true ∨ d = .poll := fun d hd =>
    h.queued d (first ▸ List.mem_cons_of_mem _ hd)
  have held (t : Token) (ht : s.held = some t) := h.held t ht
  rcases serveCheck_cases (s := { s with queue := rest }) h.discipline fraction
    (fun t ht => ⟨(held t ht).lasts, (held t ht).started⟩) none with ⟨idle, longer⟩ | ⟨t, ht, renews⟩
  · rw [idle]
    refine ⟨h.discipline, h.running, queued, h.polls.resume _, fun t ht => ?_⟩
    have covered := held t ht
    refine ⟨covered.lasts, covered.started, covered.settled, fun _ => ?_⟩
    exact ⟨(covered.ahead free).1, (h.polls.resume True).reaches (longer t ht)⟩
  · rw [renews]
    refine ⟨h.discipline, h.running, queued, h.polls.imp fun _ => .inr ⟨t, rfl⟩, fun u hu => ?_⟩
    exact ⟨(held u hu).lasts, (held u hu).started, by simp, by simp⟩

theorem Ahead.serve (h : Ahead o now s) (fraction : o.threshold.IsFraction) (free : s.flight = none)
    {d : Demand} {rest : List Demand} (first : s.queue = d :: rest) :
    Ahead o now ({ s with queue := rest }.serve now d).1 := by
  have queued : ∀ d ∈ rest, d.isUse = true ∨ d = .poll := fun d hd =>
    h.queued d (first ▸ List.mem_cons_of_mem _ hd)
  have others (other : d ≠ .poll) : Ahead o now { s with queue := rest } := by
    refine h.requeue queued fun asked => ?_
    rw [first] at asked
    exact (List.mem_cons.1 asked).resolve_left fun heq => other heq.symm
  cases d with
  | token c => exact (others (by simp)).serveToken free c
  | check c => exact (others (by simp)).serveCheck fraction free c
  | status c => exact (others (by simp)).serveStatus c
  | poll => exact h.servePoll fraction free first
  | removal c | invalidation c =>
    have use := h.queued _ (first ▸ List.mem_cons_self)
    simp [Demand.isUse] at use

theorem Ahead.held_serve (h : Ahead o now s) (fraction : o.threshold.IsFraction)
    {d : Demand} {rest : List Demand} (first : s.queue = d :: rest) :
    ({ s with queue := rest }.serve now d).1.held = s.held := by
  have check (c : Option Nat) :
      (({ s with queue := rest } : Session).serveCheck now c).1.held = s.held := by
    rcases serveCheck_cases (s := { s with queue := rest }) h.discipline fraction
      (fun t ht => ⟨(h.held t ht).lasts, (h.held t ht).started⟩) c with ⟨idle, -⟩ | ⟨t, -, renews⟩
    · rw [idle, conclude_held]
    · rw [renews]
  cases d with
  | token c =>
    simp only [Session.serve, Session.serveToken]
    split <;> rfl
  | check c => exact check (some c)
  | poll => exact check none
  | status c =>
    simp only [Session.serve, Session.serveStatus]
    split <;> rfl
  | removal c | invalidation c =>
    have use := h.queued _ (first ▸ List.mem_cons_self)
    simp [Demand.isUse] at use

/-! ## Answers of the store -/

theorem Ahead.grant (h : Ahead o now s) {t : Token} (lasts : t.Lasts o)
    (start : t.lease.start = now) {p : Poller}
    (polls : p.Within o.pollSpan now (.poll ∈ s.queue)) :
    Ahead o now { s with flight := none, held := some t, poller := p } where
  discipline := h.discipline
  running := h.running
  queued := h.queued
  polls := polls.imp .inl
  held u hu := by
    obtain rfl := Option.some.inj hu
    exact covered_of_granted lasts start rfl (polls.imp .inl)

theorem Ahead.land (h : Ahead o now s) {f : Flight} (flight : s.flight = some f)
    {result : Except Error Token}
    (grants : ∀ c t, f = .login c → result = .ok t → t.lease.start = now ∧ t.Lasts o)
    (renews : ∀ c old, f = .renewal c old → ∃ t, result = .ok t ∧ t.lease.start = now ∧ t.Lasts o) :
    Ahead o now (s.land f result).1 := by
  cases f with
  | login c =>
    have polls := h.polls.imp (HasLook.landed flight (by simp))
    cases result with
    | ok t =>
      obtain ⟨start, lasts⟩ := grants c t rfl rfl
      exact h.grant lasts start polls
    | error e =>
      refine ⟨h.discipline, h.running, h.queued, polls.imp .inl, fun t ht => ?_⟩
      exact absurd flight ((h.held t ht).settled c)
  | renewal c old =>
    obtain ⟨t, rfl, start, lasts⟩ := renews c old rfl
    -- However long the renewal took, the interval that begins now ends before the new lease.
    cases c with
    | some c => exact h.grant lasts start (h.polls.imp (HasLook.landed flight (by simp)))
    | none => exact h.grant lasts start (h.polls.resume _)

/-! ## Steps and histories -/

theorem Ahead.launch (h : Ahead o now s) {p : Poller}
    (launch : s.poller.launch? o.pollSpan now = some p) : Ahead o now { s with poller := p } := by
  obtain ⟨fresh, rfl⟩ : s.poller = .fresh ∧ .sleeping (now + o.pollSpan) = p := by
    cases hpoller : s.poller <;> simp [hpoller, Poller.launch?] at launch ⊢
    exact launch
  refine ⟨h.discipline, h.running, h.queued, .sleeping (Nat.le_refl _), fun t ht => ?_⟩
  have covered := h.held t ht
  refine ⟨covered.lasts, covered.started, covered.settled, fun free => ?_⟩
  obtain ⟨before, reaches⟩ := covered.ahead free
  rw [fresh] at reaches
  exact ⟨before, reaches⟩

theorem Ahead.tick (h : Ahead o now s) {p : Poller}
    (tick : s.poller.tick? o.pollSpan now = some p) :
    Ahead o now ({ s with poller := p }.enqueue .poll) := by
  obtain ⟨due, hdue, rfl⟩ : ∃ due, due ≤ now ∧ .working (Poller.nextDue o.pollSpan due now) = p := by
    cases hpoller : s.poller with
    | sleeping due =>
      rw [hpoller, Poller.tick?] at tick
      split at tick
      · exact ⟨due, ‹_›, Option.some.inj tick⟩
      · cases tick
    | _ => simp [hpoller, Poller.tick?] at tick
  refine ⟨h.discipline, h.running, ?_, ?_, fun t ht => ?_⟩
  · intro d hd
    rcases List.mem_append.1 hd with queued | hlast
    · exact h.queued d queued
    · exact .inr (List.mem_singleton.1 hlast)
  · exact .working (Poller.nextDue_le hdue)
      (.inl (List.mem_append_right _ (List.mem_singleton_self _)))
  · have covered := h.held t ht
    exact ⟨covered.lasts, covered.started, covered.settled, fun free => ⟨(covered.ahead free).1, trivial⟩⟩

theorem Ahead.step (fraction : o.threshold.IsFraction) {m : Move}
    (step : m.before.step? m.now m.event = some (m.after, m.seen)) (attended : m.Attended o)
    (h : Ahead o m.now m.before) : Ahead o m.now m.after := by
  obtain ⟨now, e, s, s', seen⟩ := m
  dsimp only at step h ⊢
  have made {next : Session × List Action} (hstep : some next = some (s', seen))
      (hnext : Ahead o now next.1) : Ahead o now s' := by
    rw [Option.some.inj hstep] at hnext
    exact hnext
  cases e with
  | demand d =>
    refine made step (h.requeue (fun x hx => ?_) fun asked => List.mem_append_left _ asked)
    rcases List.mem_append.1 hx with queued | hlast
    · exact h.queued x queued
    · exact .inl (attended.uses x (by rw [List.mem_singleton.1 hlast]))
  | acquire =>
    simp only [step?] at step
    split at step
    · rename_i d rest free first
      exact made step (h.serve fraction free first)
    · cases step
  | answered result =>
    obtain ⟨f, flight, hland⟩ := Option.map_eq_some_iff.1 step
    refine made (congrArg some hland) (h.land flight (fun c t hf hresult => ?_) fun c old hf => ?_)
    · exact attended.grants t (by simp [Move.login?, flight, hf, hresult])
    · exact attended.renews c old result (by rw [flight, hf]) rfl
  | launch =>
    obtain ⟨p, hlaunch, hmade⟩ := Option.map_eq_some_iff.1 step
    rw [h.pollSpan] at hlaunch
    exact made (congrArg some hmade) (h.launch hlaunch)
  | tick =>
    obtain ⟨p, htick, hmade⟩ := Option.map_eq_some_iff.1 step
    rw [h.pollSpan] at htick
    exact made (congrArg some hmade) (h.tick htick)
  | stop =>
    simp [step?, h.running] at step
  | shutdown c =>
    have running := attended.running
    simp only [step?] at step
    split at step <;>
    · obtain ⟨rfl, -⟩ := Prod.mk.inj (Option.some.inj step)
      cases running
  | join c =>
    -- The poller has not ended, so no shutdown can go on.
    simp only [step?] at step
    split at step
    · rename_i joins
      have polls := h.polls
      rw [show s.poller = .ended by simp at joins; exact joins.2] at polls
      cases polls
    · cases step
  | revoked c result =>
    simp only [step?] at step
    split at step
    · refine made step ⟨h.discipline, h.running, h.queued, h.polls, fun t ht => ?_⟩
      have covered := h.held t ht
      exact ⟨covered.lasts, covered.started, covered.settled, covered.ahead⟩
    · cases step
  | drop =>
    obtain ⟨rfl, -⟩ := Prod.mk.inj (Option.some.inj step)
    cases attended.running

end

theorem Ahead.not_empties {o : RenewalOptions} (fraction : o.threshold.IsFraction) {m : Move}
    (step : m.before.step? m.now m.event = some (m.after, m.seen)) (attended : m.Attended o)
    (h : Ahead o m.now m.before) : ¬ m.empties := by
  rintro ⟨isSome, emptied⟩
  rw [Option.isSome_iff_ne_none] at isSome
  cases effect_step step with
  | aside _ held | handsOut _ _ _ _ held | startsLogin _ _ _ held | startsRenewal _ _ _ _ held
    | failsLogin _ _ _ _ held => exact isSome (held ▸ emptied)
  | logsIn _ _ _ _ held | renews _ _ _ _ _ held =>
    rw [emptied] at held
    cases held
  | failsRenewal c old e event before =>
    obtain ⟨t, ht, -⟩ := attended.renews c old _ before event
    cases ht
  | empties d served =>
    obtain ⟨rest, queue, hserve⟩ := Move.Serves.serve_eq (m := m) served step
    have held : ((m.before.withQueue rest).serve m.now d).1.held = m.before.held :=
      h.held_serve fraction queue
    rw [hserve, emptied] at held
    exact isSome held.symm

/-- The invariant holds before every move of a history that starts with it. -/
theorem History.ahead {o : RenewalOptions} (fraction : o.threshold.IsFraction) {s t : Session}
    {ms : List Move} (h : History s ms t) (follows : ms.IsChain Move.Follows)
    (attended : ∀ m ∈ ms, m.Attended o) (begun : ∀ m ∈ ms.head?, Ahead o m.now s) :
    ∀ m ∈ ms, Ahead o m.now m.before ∧ Ahead o m.now m.after := by
  induction h with
  | nil s => simp
  | @cons now e s s' t seen ms step rest ih =>
    have before : Ahead o now s := begun _ rfl
    have after : Ahead o now s' := before.step fraction step (attended _ List.mem_cons_self)
    refine List.forall_mem_cons.2 ⟨⟨before, after⟩, ?_⟩
    -- `step` carries the invariant over the move, `wait` over the time to the next one.
    refine ih follows.tail (fun m hm => attended m (List.mem_cons_of_mem _ hm)) fun n hn => ?_
    cases ms with
    | nil => cases hn
    | cons n' ms =>
      obtain rfl := Option.some.inj hn
      obtain ⟨le, quiet⟩ := follows.rel
      exact after.wait le quiet

/-- A session whose store renews its tokens logs in once: after the first login that succeeds
nobody logs in before a shutdown, and the poller never finds a token whose lease is over.
Renewals may take any time. -/
theorem renewal_keeps_ahead (o : RenewalOptions) (enabled : o.enabled = true)
    (fraction : o.threshold.IsFraction) {ms : List Move} {s : Session}
    (h : History (start (.renewing o)) ms s) (follows : ms.IsChain Move.Follows)
    (attended : ∀ m ∈ ms, m.Attended o) :
    (∀ past l later, ms = past ++ l :: later → l.login?.isSome →
      ∀ m ∈ later, .called .login ∉ m.seen) ∧
    ∀ m ∈ ms, m.Serves .poll → ∀ t, m.before.held = some t → t.isExpired m.now = false := by
  have ahead := h.ahead fraction follows attended fun m _ => start_ahead enabled m.now
  refine ⟨?_, fun m hm serves t held => (ahead m hm).1.isExpired_eq_false serves.isFree held⟩
  rintro past l later rfl succeeds m hm login
  obtain ⟨between, after, rfl⟩ := List.append_of_mem hm
  have kept : ∀ n ∈ past ++ l :: (between ++ m :: after), ¬ n.empties := fun n hn =>
    (ahead n hn).1.not_empties fraction (h.steps n hn) (attended n hn)
  obtain ⟨u, -, hl⟩ := h.split past
  obtain ⟨t, ht⟩ := Option.isSome_iff_exists.1 succeeds
  cases hl with
  | cons step rest =>
    have heldAfter := (effect_step step).held_of_login? ht
    obtain ⟨v, hbetween, hm⟩ := rest.split between
    have heldBefore : v.held.isSome := by
      refine hbetween.held_of_kept (by rw [heldAfter]; rfl) fun n hn => kept n ?_
      simp [hn]
    obtain rfl : m.before = v := by cases hm; rfl
    have effect := h.effect m (by simp)
    obtain ⟨c, served, unusable⟩ := effect.startsLogin_of_mem login
    rw [(ahead m (by simp)).1.usable? served.isFree] at unusable
    rw [unusable] at heldBefore
    cases heldBefore

/-! ## A renewal that takes longer than the lease -/

theorem Move.follows_of_eq {m n : Move} (h : m.now = n.now) : m.Follows n :=
  ⟨Nat.le_of_eq h, fun _ le lt => absurd (h ▸ le) (Nat.not_le.2 lt)⟩

/-- Time passes while somebody keeps the slot or nobody wants it, up to the next tick. -/
theorem Move.follows_of_quiet {m n : Move} (le : m.now ≤ n.now) (running : m.after.cancelled = false)
    (alone : m.after.joining = []) (busy : m.after.flight.isSome ∨ m.after.queue = [])
    (launched : m.after.poller ≠ .fresh)
    (due : ∀ due, m.after.poller = .sleeping due → n.now ≤ due) : m.Follows n := by
  refine ⟨le, fun u _ lt e he => ?_⟩
  simp only [system, alone, List.map_nil, List.mem_append, List.mem_cons, List.not_mem_nil,
    or_false] at he
  rcases he with (rfl | rfl) | rfl | rfl
  · rcases busy with flight | queue
    · obtain ⟨f, hf⟩ := Option.isSome_iff_exists.1 flight
      simp [step?, hf]
    · simp [step?, queue]
  · simp [step?, running]
  · cases hpoller : m.after.poller with
    | sleeping d =>
      have later : ¬ d ≤ u := Nat.not_le.2 (Nat.lt_of_lt_of_le lt (due d hpoller))
      simp [step?, hpoller, Poller.tick?, later]
    | _ => simp [step?, hpoller, Poller.tick?]
  · cases hpoller : m.after.poller with
    | fresh => exact absurd hpoller launched
    | _ => simp [step?, hpoller, Poller.launch?]

/-- The token of a login, and the one that a slow renewal brings. -/
def brief (now : Instant) : Token := .granted "s.0" 7 true now

theorem brief_lasts (now : Instant) : (brief now).Lasts {} :=
  ⟨rfl, (by decide : 5 < 7), (by decide : 7 < 2 ^ 63)⟩

/-- A session with the default options. -/
def standing (held : Option Token) (flight : Option Flight) (queue : List Demand) (poller : Poller) :
    Session :=
  { start (.renewing {}) with held, flight, queue, poller }

/-- A login at the first second, and a renewal from the fifth to the twentieth. -/
def slowly : List Move :=
  let a := brief (Span.ofSeconds 1)
  let b := brief (Span.ofSeconds 20)
  let early : Poller := .sleeping (Span.ofSeconds 5)
  let late : Poller := .sleeping (Span.ofSeconds 25)
  [⟨0, .demand (.token 1), standing none none [] .fresh, standing none none [.token 1] .fresh, []⟩,
    ⟨0, .acquire, standing none none [.token 1] .fresh,
      standing none (some (.login 1)) [] .fresh, [.called .login]⟩,
    ⟨0, .launch, standing none (some (.login 1)) [] .fresh, standing none (some (.login 1)) [] early, []⟩,
    ⟨Span.ofSeconds 1, .answered (.ok a), standing none (some (.login 1)) [] early,
      standing (some a) none [] early, [.replied 1 (.token (.ok a))]⟩,
    ⟨Span.ofSeconds 5, .tick, standing (some a) none [] early,
      standing (some a) none [.poll] (.working (Span.ofSeconds 10)), []⟩,
    ⟨Span.ofSeconds 5, .acquire, standing (some a) none [.poll] (.working (Span.ofSeconds 10)),
      standing (some a) (some (.renewal none a)) [] (.working (Span.ofSeconds 10)), [.called (.renew a)]⟩,
    ⟨Span.ofSeconds 20, .answered (.ok b),
      standing (some a) (some (.renewal none a)) [] (.working (Span.ofSeconds 10)),
      standing (some b) none [] (.sleeping (Span.ofSeconds 10)), []⟩,
    ⟨Span.ofSeconds 20, .tick, standing (some b) none [] (.sleeping (Span.ofSeconds 10)),
      standing (some b) none [.poll] (.working (Span.ofSeconds 25)), []⟩,
    ⟨Span.ofSeconds 20, .acquire, standing (some b) none [.poll] (.working (Span.ofSeconds 25)),
      standing (some b) none [] late, []⟩,
    ⟨Span.ofSeconds 21, .demand (.token 2), standing (some b) none [] late,
      standing (some b) none [.token 2] late, []⟩,
    ⟨Span.ofSeconds 21, .acquire, standing (some b) none [.token 2] late,
      standing (some b) none [] late, [.replied 2 (.token (.ok b))]⟩]

theorem slowly_history :
    History (start (.renewing {})) slowly
      (standing (some (brief (Span.ofSeconds 20))) none [] (.sleeping (Span.ofSeconds 25))) := by
  have expiring : (brief (Span.ofSeconds 1)).isExpiring? {} (Span.ofSeconds 5) = some true := by
    decide +kernel
  have left : (brief (Span.ofSeconds 20)).isExpiring? {} (Span.ofSeconds 20) = some false := by
    decide +kernel
  have renews := serveCheck_renews (o := {}) (s := standing (some (brief (Span.ofSeconds 1))) none []
    (.working (Span.ofSeconds 10))) rfl rfl expiring rfl none
  have idle := serveCheck_idle (o := {}) (s := standing (some (brief (Span.ofSeconds 20))) none []
    (.working (Span.ofSeconds 25))) rfl (fun t ht => Option.some.inj ht ▸ left) none
  refine .cons rfl <| .cons rfl <| .cons rfl <| .cons rfl <| .cons rfl <|
    .cons (congrArg some renews) <| .cons rfl <| .cons rfl <| .cons (congrArg some idle) <|
    .cons rfl <| .cons rfl (.nil _)

theorem slowly_follows : slowly.IsChain Move.Follows := by
  refine .cons_cons (Move.follows_of_eq rfl) ?_
  refine .cons_cons (Move.follows_of_eq rfl) ?_
  refine .cons_cons (Move.follows_of_quiet (by decide) rfl rfl (.inl rfl) (by simp [standing]) ?_) ?_
  · rintro due ⟨⟩
    decide
  refine .cons_cons (Move.follows_of_quiet (by decide) rfl rfl (.inr rfl) (by simp [standing]) ?_) ?_
  · rintro due ⟨⟩
    decide
  refine .cons_cons (Move.follows_of_eq rfl) ?_
  refine .cons_cons (Move.follows_of_quiet (by decide) rfl rfl (.inl rfl) (by simp [standing]) ?_) ?_
  · rintro due ⟨⟩
  refine .cons_cons (Move.follows_of_eq rfl) ?_
  refine .cons_cons (Move.follows_of_eq rfl) ?_
  refine .cons_cons (Move.follows_of_quiet (by decide) rfl rfl (.inr rfl) (by simp [standing]) ?_) ?_
  · rintro due ⟨⟩
    decide
  exact .cons_cons (Move.follows_of_eq rfl) (.singleton _)

theorem Move.attended_of_unanswered {o : RenewalOptions} {m : Move}
    (uses : ∀ d, m.event = .demand d → d.isUse = true) (running : m.after.cancelled = false)
    (unanswered : ∀ result, m.event ≠ .answered result) : m.Attended o where
  uses := uses
  running := running
  grants t ht := by
    rw [Move.login?_of_unanswered unanswered] at ht
    cases ht
  renews _ _ result _ event := absurd event (unanswered result)

theorem slowly_attended : ∀ m ∈ slowly, m.Attended {} := by
  unfold slowly
  simp only [List.forall_mem_cons]
  refine ⟨?_, ?_, ?_, ?_, ?_, ?_, ?_, ?_, ?_, ?_, ?_, by simp⟩
  case refine_4 =>
    refine ⟨by simp, rfl, ?_, by simp [standing]⟩
    rintro t ⟨⟩
    exact ⟨rfl, brief_lasts _⟩
  case refine_7 =>
    refine ⟨by simp, rfl, by simp [Move.login?, standing], ?_⟩
    rintro c old result - ⟨⟩
    exact ⟨_, rfl, rfl, brief_lasts _⟩
  all_goals exact Move.attended_of_unanswered (by simp [Demand.isUse]) rfl (by simp)

/-- The session of the slow renewal logs in once. -/
theorem one_login_despite_slow_renewal :
    slowly.IsChain Move.Follows ∧ (∀ m ∈ slowly, m.Attended {}) ∧
      ∀ m ∈ slowly.drop 4, .called .login ∉ m.seen := by
  have fraction : ({} : RenewalOptions).threshold.IsFraction :=
    ⟨by decide +kernel, by decide +kernel, by decide +kernel⟩
  obtain ⟨once, -⟩ :=
    renewal_keeps_ahead {} rfl fraction slowly_history slowly_follows slowly_attended
  exact ⟨slowly_follows, slowly_attended, once (slowly.take 3) slowly[3] (slowly.drop 4) rfl rfl⟩

end Session
end SecretLayers
