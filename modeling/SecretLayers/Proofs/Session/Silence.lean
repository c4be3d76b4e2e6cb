import SecretLayers.Proofs.Session.SingleFlight
import SecretLayers.Proofs.Session.Waiting
/-!
The poller of a session after a shutdown. The poller has one look at the token for each tick, and
goes back to sleep when that has come to its end; so a poller that has stopped has no look waiting
or under way. A shutdown waits for that, unless another one does so already. Once it has returned,
the token is renewed for callers only, whoever logs in again and however long the session goes on.
-/
namespace SecretLayers
set_option autoImplicit false

/-! ## Pollers that have stopped -/

namespace Poller
variable {p p' : Poller} {interval : Span} {now : Instant}

def IsStopped (p : Poller) : Prop := p = .off ∨ p = .ended

def isWorking : Poller → Bool
  | working _ => true
  | _ => false

theorem isWorking_resume (p : Poller) : p.resume.isWorking = false := by
  cases p <;> rfl

theorem isWorking_launch? (h : p.launch? interval now = some p') :
    p.isWorking = false ∧ p'.isWorking = false := by
  cases p with
  | fresh =>
    cases h
    exact ⟨rfl, rfl⟩
  | off | sleeping | working | ended => cases h

theorem isWorking_tick? (h : p.tick? interval now = some p') :
    p.isWorking = false ∧ p'.isWorking = true := by
  cases p with
  | sleeping due =>
    simp only [tick?] at h
    split at h
    · cases h
      exact ⟨rfl, rfl⟩
    · cases h
  | off | fresh | working | ended => cases h

theorem stop?_eq_some (h : p.stop? = some p') : p.isWorking = false ∧ p' = .ended := by
  cases p with
  | fresh | sleeping =>
    cases h
    exact ⟨rfl, rfl⟩
  | off | working | ended => cases h

namespace IsStopped

theorem isWorking (h : p.IsStopped) : p.isWorking = false := by
  rcases h with rfl | rfl <;> rfl

theorem resume (h : p.IsStopped) : p.resume.IsStopped := by
  rcases h with rfl | rfl
  · exact .inl rfl
  · exact .inr rfl

theorem launch? (h : p.IsStopped) : p.launch? interval now = none := by
  rcases h with rfl | rfl <;> rfl

theorem tick? (h : p.IsStopped) : p.tick? interval now = none := by
  rcases h with rfl | rfl <;> rfl

end IsStopped
end Poller

namespace Session

section
variable {s t : Session} {m : Move} {ms : List Move} {o : RenewalOptions}

/-! ## Looks of the poller -/

def Flight.look : Flight → Nat
  | .renewal none _ => 1
  | _ => 0

/-- Whether the token is being renewed for the poller. -/
def looking (s : Session) : Nat := s.flight.elim 0 Flight.look

/-- How many looks of the poller wait or are under way. -/
def looks (s : Session) : Nat := s.queue.count .poll + s.looking

/-- A poller at work has one look, and no other poller has any. -/
def Tended (s : Session) : Prop := s.looks = s.poller.isWorking.toNat

/-- What serving does for the poller: a look of the poller ends, or the token is renewed for it. -/
inductive Look (s : Session) (d : Demand) (s' : Session) : Prop
  | other (other : d ≠ .poll) (poller : s'.poller = s.poller) (looking : s'.looking = 0)
  | begins (look : d = .poll) (poller : s'.poller = s.poller) (looking : s'.looking = 1)
  | ends (look : d = .poll) (poller : s'.poller = s.poller.resume ∨ s'.poller = .ended)
      (looking : s'.looking = 0)

theorem looking_of_free (free : s.flight = none) : s.looking = 0 := by
  rw [looking, free]
  rfl

theorem look_serveCheck (free : s.flight = none) (now : Instant) (c : Option Nat) :
    Look s (c.elim .poll .check) (s.serveCheck now c).1 := by
  unfold serveCheck
  cases c with
  | none =>
    split
    · exact .ends rfl (.inr rfl) (looking_of_free free)
    · exact .ends rfl (.inl rfl) (looking_of_free free)
    · exact .ends rfl (.inl rfl) (looking_of_free free)
    · exact .begins rfl rfl rfl
  | some c =>
    split
    · exact .other (by simp) rfl (looking_of_free free)
    · exact .other (by simp) rfl (looking_of_free free)
    · exact .other (by simp) rfl (looking_of_free free)
    · exact .other (by simp) rfl rfl

theorem look_serve (free : s.flight = none) (now : Instant) (d : Demand) :
    Look s d (s.serve now d).1 := by
  cases d with
  | check c => exact look_serveCheck free now (some c)
  | poll => exact look_serveCheck free now none
  | token c =>
    simp only [serve, serveToken]
    split
    · exact .other (by simp) rfl (looking_of_free free)
    · exact .other (by simp) rfl rfl
  | status c =>
    simp only [serve, serveStatus]
    split <;> exact .other (by simp) rfl (looking_of_free free)
  | removal c =>
    simp only [serve, serveRemoval]
    split <;> exact .other (by simp) rfl (looking_of_free free)
  | invalidation c => exact .other (by simp) rfl (looking_of_free free)

/-- An answer ends the renewal that it is for. -/
theorem land_looking {f : Flight} (flight : s.flight = some f) (result : Except Error Token) :
    (s.land f result).1.looking = 0 ∧
      (s.looking = 0 ∧ (s.land f result).1.poller = s.poller ∨
        s.looking = 1 ∧ (s.land f result).1.poller = s.poller.resume) := by
  have before : s.looking = f.look := by
    rw [looking, flight]
    rfl
  rw [before]
  cases f with
  | login c => cases result <;> exact ⟨rfl, .inl ⟨rfl, rfl⟩⟩
  | renewal c old =>
    cases c with
    | some c => cases result <;> exact ⟨rfl, .inl ⟨rfl, rfl⟩⟩
    | none => cases result <;> exact ⟨rfl, .inr ⟨rfl, rfl⟩⟩

theorem Move.tended (step : m.before.step? m.now m.event = some (m.after, m.seen)) (uses : m.Uses)
    (h : m.before.Tended) : m.after.Tended := by
  obtain ⟨now, e, s, s', seen⟩ := m
  dsimp only at step h ⊢
  unfold Tended looks at h ⊢
  cases step_of_step? step with
  | demand _ d =>
    have other : d ≠ .poll := by
      rintro rfl
      cases uses _ rfl
    have queue : (s.enqueue d).queue.count .poll = s.queue.count .poll := by
      simp [enqueue, other]
    rw [queue]
    exact h
  | @acquire _ d rest free first =>
    have queue : ((s.withQueue rest).serve now d).1.queue = rest :=
      (serve_waiters (s.withQueue rest) now d).queue
    rw [first, looking_of_free free, Nat.add_zero] at h
    rw [queue]
    have atMost : s.poller.isWorking.toNat ≤ 1 := Bool.toNat_le _
    cases look_serve (s := s.withQueue rest) free now d with
    | other other poller looking =>
      rw [List.count_cons_of_ne other] at h
      rw [poller, looking]
      exact h
    | begins look poller looking =>
      rw [look, List.count_cons_self] at h
      rw [poller, looking]
      exact h
    | ends look poller looking =>
      rw [look, List.count_cons_self] at h
      have idle : ((s.withQueue rest).serve now d).1.poller.isWorking = false := by
        rcases poller with resumes | ended
        · rw [resumes]
          exact Poller.isWorking_resume _
        · rw [ended]
          rfl
      rw [looking, idle, Bool.toNat_false]
      omega
  | @answered _ f flight result =>
    have queue := (land_waiters s f result).queue
    obtain ⟨after, ⟨none, poller⟩ | ⟨one, poller⟩⟩ := land_looking flight result
    · rw [queue, after, poller]
      omega
    · have atMost : s.poller.isWorking.toNat ≤ 1 := Bool.toNat_le _
      rw [queue, after, poller, Poller.isWorking_resume, Bool.toNat_false]
      omega
  | @launch _ p launch =>
    obtain ⟨before, after⟩ := Poller.isWorking_launch? launch
    show s.queue.count .poll + s.looking = p.isWorking.toNat
    rw [after, h, before]
  | @tick _ p tick =>
    obtain ⟨before, after⟩ := Poller.isWorking_tick? tick
    show (s.queue ++ [Demand.poll]).count .poll + s.looking = p.isWorking.toNat
    rw [before, Bool.toNat_false] at h
    rw [after, Bool.toNat_true, List.count_append, List.count_singleton_self]
    omega
  | @stop _ p cancelled stop =>
    obtain ⟨before, rfl⟩ := Poller.stop?_eq_some stop
    show s.queue.count .poll + s.looking = 0
    rw [h, before, Bool.toNat_false]
  | shutdown _ c | @join _ c =>
    have queue : (s.queue ++ [Demand.removal c]).count .poll = s.queue.count .poll := by simp
    show (s.queue ++ [Demand.removal c]).count .poll + s.looking = s.poller.isWorking.toNat
    rw [queue]
    exact h
  | shutdownFirst | revoked | drop => exact h

/-! ## Waiting for the poller to stop -/

/-- A poller that has stopped does not start again. -/
theorem Move.isStopped (step : m.before.step? m.now m.event = some (m.after, m.seen))
    (h : m.before.poller.IsStopped) : m.after.poller.IsStopped := by
  obtain ⟨now, e, s, s', seen⟩ := m
  dsimp only at step h ⊢
  cases step_of_step? step with
  | @acquire _ d rest free first =>
    cases look_serve (s := s.withQueue rest) free now d with
    | other _ poller | begins _ poller =>
      rw [poller]
      exact h
    | ends look poller =>
      rcases poller with resumes | ended
      · rw [resumes]
        exact h.resume
      · exact .inr ended
  | answered flight result =>
    obtain ⟨-, ⟨-, poller⟩ | ⟨-, poller⟩⟩ := land_looking flight result
    · rw [poller]
      exact h
    · rw [poller]
      exact h.resume
  | launch launch =>
    rw [h.launch?] at launch
    cases launch
  | tick tick =>
    rw [h.tick?] at tick
    cases tick
  | stop cancelled stop => exact .inr (Poller.stop?_eq_some stop).2
  | demand | shutdownFirst | shutdown | join | revoked | drop => exact h

/-- A shutdown waits for the poller to stop, or the poller has stopped. -/
def Winds (s : Session) : Prop := s.joining ≠ [] ∨ s.poller.IsStopped

theorem Move.winds (step : m.before.step? m.now m.event = some (m.after, m.seen))
    (h : m.before.Winds) : m.after.Winds := by
  rcases h with joining | stopped
  · obtain ⟨now, e, s, s', seen⟩ := m
    dsimp only at step joining ⊢
    cases step_of_step? step with
    | @acquire _ d rest =>
      refine .inl ?_
      rw [(serve_waiters (s.withQueue rest) now d).joining]
      exact joining
    | @answered _ f flight result =>
      refine .inl ?_
      rw [(land_waiters s f result).joining]
      exact joining
    | join waits ended => exact .inr (.inr ended)
    | shutdownFirst => exact .inl (List.cons_ne_nil _ _)
    | demand | launch | tick | stop | shutdown | revoked | drop => exact .inl joining
  · exact .inr (Move.isStopped step stopped)

theorem Move.joinable_or_winds (step : m.before.step? m.now m.event = some (m.after, m.seen))
    (h : m.before.joinable = true ∨ m.before.Winds) : m.after.joinable = true ∨ m.after.Winds := by
  rcases h with joinable | winds
  · obtain ⟨now, e, s, s', seen⟩ := m
    dsimp only at step joinable ⊢
    cases step_of_step? step with
    | @acquire _ d rest =>
      refine .inl ?_
      rw [(serve_waiters (s.withQueue rest) now d).joinable]
      exact joinable
    | @answered _ f flight result =>
      refine .inl ?_
      rw [(land_waiters s f result).joinable]
      exact joinable
    | shutdownFirst => exact .inr (.inl (List.cons_ne_nil _ _))
    | demand | launch | tick | stop | shutdown | join | revoked | drop => exact .inl joinable
  · exact .inr (Move.winds step winds)

theorem start_joinable_or_winds (o : RenewalOptions) :
    (start (.renewing o)).joinable = true ∨ (start (.renewing o)).Winds := by
  cases enabled : o.enabled with
  | true => exact .inl enabled
  | false =>
    refine .inr (.inr (.inl ?_))
    show Poller.start o = .off
    rw [Poller.start, enabled]
    rfl

theorem start_tended (o : RenewalOptions) : (start (.renewing o)).Tended := by
  show 0 = (Poller.start o).isWorking.toNat
  unfold Poller.start
  split <;> rfl

/-! ## Shutdowns that have not returned -/

def Demand.isRemoval : Demand → Bool
  | removal _ => true
  | _ => false

/-- How many shutdowns have begun and not returned. -/
def underway (s : Session) : Nat :=
  s.joining.length + s.queue.countP Demand.isRemoval + s.revoking.length

theorem serve_revoking (s : Session) (now : Instant) (d : Demand) :
    (s.serve now d).1.revoking.length ≤ s.revoking.length + d.isRemoval.toNat := by
  have check (c : Option Nat) : (s.serveCheck now c).1.revoking = s.revoking := by
    unfold serveCheck
    split <;> cases c <;> rfl
  cases d with
  | token c => simp only [serve, serveToken]; split <;> exact Nat.le_refl _
  | check c => exact Nat.le_of_eq (congrArg List.length (check (some c)))
  | poll => exact Nat.le_of_eq (congrArg List.length (check none))
  | status c => simp only [serve, serveStatus]; split <;> exact Nat.le_refl _
  | removal c =>
    simp only [serve, serveRemoval]
    split
    · exact Nat.le_refl _
    · exact Nat.le_succ _
  | invalidation c => exact Nat.le_refl _

theorem land_revoking (s : Session) (f : Flight) (result : Except Error Token) :
    (s.land f result).1.revoking = s.revoking := by
  cases f with
  | login c => cases result <;> rfl
  | renewal c old => cases c <;> cases result <;> rfl

/-- A shutdown goes from the poller to the queue, and from there to the revocation. -/
theorem Move.underway_le (step : m.before.step? m.now m.event = some (m.after, m.seen))
    (uses : m.Uses) :
    m.after.underway ≤ m.before.underway + 1 ∧
      ((∀ c, m.event ≠ .shutdown c) → m.after.underway ≤ m.before.underway) := by
  obtain ⟨now, e, s, s', seen⟩ := m
  dsimp only at step ⊢
  suffices h : s'.underway ≤ s.underway ∨ (∃ c, e = .shutdown c) ∧ s'.underway ≤ s.underway + 1 by
    rcases h with kept | ⟨⟨c, rfl⟩, grown⟩
    · exact ⟨by omega, fun _ => kept⟩
    · exact ⟨grown, fun none => absurd rfl (none c)⟩
  unfold underway
  cases step_of_step? step with
  | demand _ d =>
    have other : d.isRemoval = false := by
      cases d with
      | removal c => cases uses _ rfl
      | token | check | poll | status | invalidation => rfl
    refine .inl ?_
    simp [enqueue, other]
  | @acquire _ d rest free first =>
    have same := serve_waiters (s.withQueue rest) now d
    have queue : ((s.withQueue rest).serve now d).1.queue = rest := same.queue
    have joining : ((s.withQueue rest).serve now d).1.joining = s.joining := same.joining
    have revoking : ((s.withQueue rest).serve now d).1.revoking.length ≤
        s.revoking.length + d.isRemoval.toNat := serve_revoking (s.withQueue rest) now d
    refine .inl ?_
    rw [queue, joining, first, List.countP_cons]
    cases removal : d.isRemoval with
    | true =>
      rw [removal, Bool.toNat_true] at revoking
      simp only [if_true]
      omega
    | false =>
      rw [removal, Bool.toNat_false] at revoking
      simp only [Bool.false_eq_true, if_false]
      omega
  | @answered _ f flight result =>
    have same := land_waiters s f result
    rw [same.queue, same.joining, land_revoking]
    exact .inl (Nat.le_refl _)
  | launch | stop | drop => exact .inl (Nat.le_refl _)
  | tick =>
    refine .inl ?_
    simp [enqueue, Demand.isRemoval]
  | shutdownFirst joinable c =>
    refine .inr ⟨⟨c, rfl⟩, ?_⟩
    simp only [List.length_cons]
    omega
  | shutdown joined c =>
    refine .inr ⟨⟨c, rfl⟩, ?_⟩
    simp only [enqueue, List.countP_append, List.countP_singleton, Demand.isRemoval, if_true]
    omega
  | @join _ c waits ended =>
    refine .inl ?_
    have one := List.length_erase_of_mem waits
    have positive : 0 < s.joining.length := List.length_pos_of_mem waits
    simp only [enqueue, List.countP_append, List.countP_singleton, Demand.isRemoval, if_true]
    omega
  | @revoked _ c waits result =>
    refine .inl ?_
    have fewer : (s.revoking.erase c).length ≤ s.revoking.length := List.length_erase_le
    show s.joining.length + s.queue.countP Demand.isRemoval + (s.revoking.erase c).length ≤ _
    omega

theorem done_notMem_serve (s : Session) (now : Instant) {d : Demand} (stays : d.isRemoval = false)
    (valid : ∀ c, d ≠ .invalidation c) (c : Nat) : .replied c .done ∉ (s.serve now d).2 := by
  have check (c' : Option Nat) : .replied c .done ∉ (s.serveCheck now c').2 := by
    unfold serveCheck
    split <;> cases c' <;> simp [abandon, conclude]
  cases d with
  | token c' => simp only [serve, serveToken]; split <;> simp
  | check c' => exact check (some c')
  | poll => exact check none
  | status c' => simp only [serve, serveStatus]; split <;> simp
  | removal c' => cases stays
  | invalidation c' => exact absurd rfl (valid c')

/-- A shutdown returns from the queue or from the revocation. -/
theorem Move.returns (step : m.before.step? m.now m.event = some (m.after, m.seen))
    (valid : ∀ c, .invalidation c ∉ m.before.queue) {c : Nat} (returned : .replied c .done ∈ m.seen) :
    m.before.joining.length < m.before.underway := by
  obtain ⟨now, e, s, s', seen⟩ := m
  dsimp only at step valid returned ⊢
  unfold underway
  cases step_of_step? step with
  | @acquire _ d rest free first =>
    have removal : d.isRemoval = true := by
      by_contra stays
      refine done_notMem_serve _ now (Bool.eq_false_iff.2 stays) ?_ c returned
      rintro c' rfl
      exact valid c' (by rw [first]; exact List.mem_cons_self)
    rw [first, List.countP_cons, removal, if_pos rfl]
    omega
  | @answered _ f flight result =>
    exfalso
    cases f with
    | login c' => cases result <;> simp [land] at returned
    | renewal c' old => cases c' <;> cases result <;> simp [land, conclude] at returned
  | revoked waits result =>
    have positive := List.length_pos_of_mem waits
    omega
  | demand | launch | tick | stop | shutdownFirst | shutdown | join | drop => cases returned

/-! ## The poller is silent -/

/-- What can be seen of a poller that has stopped: no tick, no look, and no renewal for it. All renewals
are for callers that ask for a check. -/
structure Move.Silent (m : Move) : Prop where
  untimed : m.event ≠ .launch ∧ m.event ≠ .tick
  unserved : ¬ m.Serves .poll
  unasked : ∀ t, m.before.flight ≠ some (.renewal none t) ∧ m.after.flight ≠ some (.renewal none t)
  renewals : ∀ t, .called (.renew t) ∈ m.seen → ∃ c, m.Serves (.check c)

theorem Tended.unasked (h : s.Tended) (stopped : s.poller.IsStopped) :
    .poll ∉ s.queue ∧ ∀ t, s.flight ≠ some (.renewal none t) := by
  unfold Tended looks at h
  rw [stopped.isWorking, Bool.toNat_false] at h
  constructor
  · intro asked
    have positive := List.count_pos_iff.2 asked
    omega
  · intro t flight
    have one : s.looking = 1 := by
      rw [looking, flight]
      rfl
    omega

theorem Move.silent (step : m.before.step? m.now m.event = some (m.after, m.seen)) (uses : m.Uses)
    (tended : m.before.Tended) (stopped : m.before.poller.IsStopped) : m.Silent := by
  obtain ⟨unqueued, unflown⟩ := tended.unasked stopped
  have unserved : ¬ m.Serves .poll := by
    rintro ⟨-, -, rest, queue⟩
    rw [queue] at unqueued
    exact unqueued List.mem_cons_self
  have after := ((Move.tended step uses tended).unasked (Move.isStopped step stopped)).2
  refine ⟨⟨?_, ?_⟩, unserved, fun t => ⟨unflown t, after t⟩, ?_⟩
  · intro event
    rw [event, step?, stopped.launch?] at step
    cases step
  · intro event
    rw [event, step?, stopped.tick?] at step
    cases step
  · intro t called
    have effect : m.Effect := effect_step step
    obtain ⟨⟨_ | c, served⟩, -⟩ := effect.startsRenewal_of_mem called
    · exact absurd served unserved
    · exact ⟨c, served⟩

/-- A poller that has stopped is silent for good. -/
theorem History.silent (h : History s ms t) (uses : ∀ m ∈ ms, m.Uses) (tended : s.Tended)
    (stopped : s.poller.IsStopped) : ∀ m ∈ ms, m.Silent := by
  induction h with
  | nil s => simp
  | @cons now e s s' t seen ms step rest ih =>
    have use := uses _ List.mem_cons_self
    refine List.forall_mem_cons.2 ⟨Move.silent step use tended stopped, ?_⟩
    exact ih (fun m hm => uses m (List.mem_cons_of_mem _ hm))
      (Move.tended (m := ⟨now, e, s, s', seen⟩) step use tended)
      (Move.isStopped (m := ⟨now, e, s, s', seen⟩) step stopped)

theorem History.tended (h : History s ms t) (uses : ∀ m ∈ ms, m.Uses) (begun : s.Tended) : t.Tended := by
  induction h with
  | nil s => exact begun
  | @cons now e s s' t seen ms step rest ih =>
    refine ih (fun m hm => uses m (List.mem_cons_of_mem _ hm)) ?_
    exact Move.tended (m := ⟨now, e, s, s', seen⟩) step (uses _ List.mem_cons_self) begun

theorem History.joinable_or_winds (h : History s ms t) (begun : s.joinable = true ∨ s.Winds) :
    t.joinable = true ∨ t.Winds := by
  induction h with
  | nil s => exact begun
  | @cons now e s s' t seen ms step rest ih =>
    exact ih (Move.joinable_or_winds (m := ⟨now, e, s, s', seen⟩) step begun)

theorem History.winds (h : History s ms t) (begun : s.Winds) : t.Winds := by
  induction h with
  | nil s => exact begun
  | @cons now e s s' t seen ms step rest ih =>
    exact ih (Move.winds (m := ⟨now, e, s, s', seen⟩) step begun)

theorem History.underway_le (h : History s ms t) (uses : ∀ m ∈ ms, m.Uses)
    (only : ∀ m ∈ ms, ∀ c, m.event ≠ .shutdown c) : t.underway ≤ s.underway := by
  induction h with
  | nil s => exact Nat.le_refl _
  | @cons now e s s' t seen ms step rest ih =>
    have first := (Move.underway_le (m := ⟨now, e, s, s', seen⟩) step (uses _ List.mem_cons_self)).2
      (only _ List.mem_cons_self)
    have later := ih (fun m hm => uses m (List.mem_cons_of_mem _ hm))
      (fun m hm => only m (List.mem_cons_of_mem _ hm))
    exact Nat.le_trans later first

/-- A shutdown that overlaps no other one has the poller stopped when it returns. -/
theorem History.silent_of_shutdown {past mid later : List Move} {call ret : Move} {c : Nat}
    (h : History (start (.renewing o)) (past ++ call :: (mid ++ ret :: later)) s)
    (uses : ∀ m ∈ past ++ call :: (mid ++ ret :: later), m.Uses) (called : call.event = .shutdown c)
    (alone : call.before.underway = 0) (only : ∀ m ∈ mid, ∀ c', m.event ≠ .shutdown c')
    (returned : .replied c .done ∈ ret.seen) : ∀ m ∈ later, m.Silent := by
  obtain ⟨hpast, hcall, hrest⟩ := h.around
  obtain ⟨hmid, hret, hlater⟩ := hrest.around
  have usesPast : ∀ m ∈ past, m.Uses := fun m hm => uses m (by simp [hm])
  have usesMid : ∀ m ∈ mid, m.Uses := fun m hm => uses m (by simp [hm])
  have useCall : call.Uses := uses call (by simp)
  have useRet : ret.Uses := uses ret (by simp)
  -- From the call on, somebody waits for the poller until it has stopped.
  have winds : call.after.Winds := by
    rcases hpast.joinable_or_winds (start_joinable_or_winds o) with joinable | winds
    · obtain ⟨now, e, before, after, seen⟩ := call
      dsimp only at called hcall joinable ⊢
      subst called
      cases step_of_step? hcall with
      | shutdownFirst => exact .inl (List.cons_ne_nil _ _)
      | shutdown joined =>
        rw [joinable] at joined
        cases joined
    · exact Move.winds hcall winds
  -- Nobody else is under way, so whoever returns no longer waits for it.
  have single : ret.before.underway ≤ 1 := by
    have grown := (Move.underway_le hcall useCall).1
    have kept := hmid.underway_le usesMid only
    omega
  have valid : ∀ c', .invalidation c' ∉ ret.before.queue := by
    refine hmid.invalidation_notMem usesMid ?_
    have one : History (start (.renewing o)) (past ++ [call]) call.after := hpast.concat hcall
    refine one.invalidation_notMem (fun m hm => ?_) (by simp [start])
    rcases List.mem_append.1 hm with hm | hm
    · exact usesPast m hm
    · rw [List.mem_singleton.1 hm]
      exact useCall
  have stopped : ret.before.poller.IsStopped := by
    have fewer := Move.returns hret valid returned
    refine (hmid.winds winds).resolve_left fun joining => ?_
    have positive := List.length_pos_iff.2 joining
    omega
  have tended : ret.before.Tended :=
    hmid.tended usesMid (Move.tended hcall useCall (hpast.tended usesPast (start_tended o)))
  exact hlater.silent (fun m hm => uses m (by simp [hm])) (Move.tended hret useRet tended)
    (Move.isStopped hret stopped)

end

end Session
end SecretLayers
