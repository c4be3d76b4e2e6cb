import SecretLayers.Proofs.Session.History
import SecretLayers.Session.Timeline
/-!
Who waits for the slot. Demands are served one at a time in the order in which they come, and leave
the queue in no other way. A shutdown waits for the end of the poller and then in the queue: every
one of them waits or has been served, and while one waits there is something that can be done,
unless the store has yet to answer.
-/
namespace SecretLayers.Session
set_option autoImplicit false

/-! ## The queue -/

/-- What callers demand until they shut the session down. -/
def Demand.isUse : Demand → Bool
  | token _ | check _ | status _ => true
  | poll | removal _ | invalidation _ => false

/-- Callers demand nothing but uses: looks come of the poller, and removals of shutdowns. -/
def Move.Uses (m : Move) : Prop := ∀ d, m.event = .demand d → d.isUse = true

def Move.arrival? (m : Move) : Option Demand :=
  match m.event with
  | .demand d => some d
  | .tick => some .poll
  | .shutdown c => if m.before.joinable then none else some (.removal c)
  | .join c => some (.removal c)
  | _ => none

structure SameWaiters (s s' : Session) : Prop where
  queue : s'.queue = s.queue
  joining : s'.joining = s.joining
  joinable : s'.joinable = s.joinable
  cancelled : s'.cancelled = s.cancelled

theorem conclude_waiters (s : Session) (c : Option Nat) (o : Outcome) :
    SameWaiters s (s.conclude c o).1 := by
  cases c <;> exact ⟨rfl, rfl, rfl, rfl⟩

theorem abandon_waiters (s : Session) (c : Option Nat) : SameWaiters s (s.abandon c).1 := by
  cases c <;> exact ⟨rfl, rfl, rfl, rfl⟩

theorem serveCheck_waiters (s : Session) (now : Instant) (c : Option Nat) :
    SameWaiters s (s.serveCheck now c).1 := by
  unfold serveCheck
  split
  · exact abandon_waiters s c
  · exact conclude_waiters s c .idle
  · have h := conclude_waiters { s with held := none } c .dropped
    exact ⟨h.queue, h.joining, h.joinable, h.cancelled⟩
  · exact ⟨rfl, rfl, rfl, rfl⟩

theorem serve_waiters (s : Session) (now : Instant) (d : Demand) :
    SameWaiters s (s.serve now d).1 := by
  cases d with
  | token c => simp only [serve, serveToken]; split <;> exact ⟨rfl, rfl, rfl, rfl⟩
  | check c => exact serveCheck_waiters s now (some c)
  | poll => exact serveCheck_waiters s now none
  | status c => simp only [serve, serveStatus]; split <;> exact ⟨rfl, rfl, rfl, rfl⟩
  | removal c => simp only [serve, serveRemoval]; split <;> exact ⟨rfl, rfl, rfl, rfl⟩
  | invalidation c => exact ⟨rfl, rfl, rfl, rfl⟩

theorem land_waiters (s : Session) (f : Flight) (result : Except Error Token) :
    SameWaiters s (s.land f result).1 := by
  cases f with
  | login c => cases result <;> exact ⟨rfl, rfl, rfl, rfl⟩
  | renewal c old => cases c <;> cases result <;> exact ⟨rfl, rfl, rfl, rfl⟩

section
variable {m : Move} {s t : Session} {past ms : List Move} {c : Nat}

/-- With a move the first of the queue is served, or somebody comes to its end. -/
theorem Move.queue_eq (step : m.before.step? m.now m.event = some (m.after, m.seen)) :
    m.before.queue ++ m.arrival?.toList = m.served?.toList ++ m.after.queue := by
  obtain ⟨now, e, s, s', seen⟩ := m
  dsimp only at step ⊢
  cases step_of_step? step with
  | @acquire _ d rest free first =>
    have queue : ((s.withQueue rest).serve now d).1.queue = rest :=
      (serve_waiters (s.withQueue rest) now d).queue
    simp [arrival?, served?, free, first, queue]
  | @answered _ f flight result =>
    simp [arrival?, served?, (land_waiters s f result).queue]
  | demand | launch | tick | stop | join | revoked | drop => simp [arrival?, served?, enqueue]
  | shutdownFirst joinable => simp [arrival?, served?, joinable]
  | shutdown joined => simp [arrival?, served?, enqueue, joined]

theorem History.invalidation_notMem (h : History s ms t) (uses : ∀ m ∈ ms, m.Uses)
    (none : ∀ c, .invalidation c ∉ s.queue) : ∀ c, .invalidation c ∉ t.queue := by
  induction h with
  | nil s => exact none
  | @cons now e s s' t seen ms step rest ih =>
    refine ih (fun m hm => uses m (List.mem_cons_of_mem _ hm)) fun c hc => ?_
    have queue := Move.queue_eq (m := ⟨now, e, s, s', seen⟩) step
    have mem : .invalidation c ∈ s.queue ++ (Move.arrival? ⟨now, e, s, s', seen⟩).toList :=
      queue ▸ List.mem_append_right _ hc
    rcases List.mem_append.1 mem with waiting | arrives
    · exact none c waiting
    · have uses := uses _ List.mem_cons_self
      cases e with
      | demand d =>
        obtain rfl : d = .invalidation c := by simpa [Move.arrival?, eq_comm] using arrives
        have use := uses _ rfl
        cases use
      | shutdown c' => by_cases joinable : s.joinable <;> simp [Move.arrival?, joinable] at arrives
      | _ => simp [Move.arrival?] at arrives

/-! ## Shutdowns -/

def Event.isShutdown (c : Nat) : Event → Bool
  | .shutdown c' => c' = c
  | _ => false

/-- How many shutdowns of a caller wait, for the poller or for the slot. -/
def waiting (s : Session) (c : Nat) : Nat := s.joining.count c + s.queue.count (.removal c)

def shutdowns (c : Nat) (ms : List Move) : Nat := ms.countP fun m => m.event.isShutdown c

def removals (c : Nat) (ms : List Move) : Nat := ms.countP fun m => m.served? = some (.removal c)

theorem shutdowns_cons (c : Nat) (m : Move) (ms : List Move) :
    shutdowns c (m :: ms) = shutdowns c ms + if m.event.isShutdown c then 1 else 0 :=
  List.countP_cons

theorem removals_cons (c : Nat) (m : Move) (ms : List Move) :
    removals c (m :: ms) = removals c ms + if m.served? = some (.removal c) then 1 else 0 := by
  simp [removals, List.countP_cons]

theorem Move.waiting_balance (step : m.before.step? m.now m.event = some (m.after, m.seen))
    (uses : m.Uses) (c : Nat) :
    m.before.waiting c + (if m.event.isShutdown c then 1 else 0) =
      m.after.waiting c + if m.served? = some (.removal c) then 1 else 0 := by
  obtain ⟨now, e, s, s', seen⟩ := m
  dsimp only at step ⊢
  unfold waiting
  cases step_of_step? step with
  | demand _ d =>
    have other : d ≠ .removal c := by
      rintro rfl
      cases uses _ rfl
    simp [served?, Event.isShutdown, enqueue, other]
  | @acquire _ d rest free first =>
    have same := serve_waiters (s.withQueue rest) now d
    have queue : ((s.withQueue rest).serve now d).1.queue = rest := same.queue
    have joining : ((s.withQueue rest).serve now d).1.joining = s.joining := same.joining
    simp only [served?, Event.isShutdown, free, first, queue, joining, List.count_cons,
      Option.some.injEq, beq_iff_eq, Bool.false_eq_true, if_false]
    omega
  | @answered _ f flight result =>
    have same := land_waiters s f result
    simp [served?, Event.isShutdown, same.queue, same.joining]
  | launch | stop | revoked | drop => simp [served?, Event.isShutdown]
  | tick => simp [served?, Event.isShutdown, enqueue]
  | shutdownFirst joinable c' =>
    simp only [served?, Event.isShutdown, List.count_cons, beq_iff_eq, decide_eq_true_eq, reduceCtorEq, if_false]
    omega
  | shutdown joined c' =>
    simp only [served?, Event.isShutdown, enqueue, List.count_append, List.count_singleton, beq_iff_eq,
      decide_eq_true_eq, reduceCtorEq, if_false, Demand.removal.injEq]
    omega
  | @join _ c' waits ended =>
    simp only [served?, Event.isShutdown, enqueue, List.count_append, List.count_singleton, beq_iff_eq,
      reduceCtorEq, if_false, Demand.removal.injEq, Bool.false_eq_true, List.count_erase]
    have positive := List.count_pos_iff.2 waits
    by_cases same : c' = c
    · subst same
      simp only [if_true]
      omega
    · simp [same]

/-- Every shutdown waits or has been served. -/
theorem History.waiting_balance (h : History s ms t) (uses : ∀ m ∈ ms, m.Uses) (c : Nat) :
    s.waiting c + shutdowns c ms = t.waiting c + removals c ms := by
  induction h with
  | nil s => rfl
  | @cons now e s s' t seen ms step rest ih =>
    have first := Move.waiting_balance (m := ⟨now, e, s, s', seen⟩) step
      (uses _ List.mem_cons_self) c
    have later := ih fun m hm => uses m (List.mem_cons_of_mem _ hm)
    rw [shutdowns_cons, removals_cons]
    dsimp only at first ⊢
    omega

theorem start_waiting (d : Discipline) (c : Nat) : (start d).waiting c = 0 := by
  cases d <;> rfl

theorem History.shutdown_of_served {d : Discipline} (h : History (start d) past m.before)
    (uses : ∀ m ∈ past, m.Uses) (served : m.Serves (.removal c)) :
    ∃ l ∈ past, l.event = .shutdown c := by
  have balance := h.waiting_balance uses c
  obtain ⟨rest, queue⟩ := served.first
  have waits : 0 < m.before.waiting c := by
    rw [waiting, queue, List.count_cons_self]
    omega
  rw [start_waiting] at balance
  have positive : 0 < shutdowns c past := by omega
  obtain ⟨l, hl, isShutdown⟩ := List.countP_pos_iff.1 positive
  refine ⟨l, hl, ?_⟩
  cases event : l.event with
  | shutdown c' =>
    rw [event] at isShutdown
    rw [of_decide_eq_true isShutdown]
  | _ =>
    rw [event] at isShutdown
    cases isShutdown

/-! ## Nobody waits in vain -/

/-- Somebody is to look at the token for the poller, or is renewing it for the poller. -/
def HasLook (s : Session) : Prop := .poll ∈ s.queue ∨ ∃ t, s.flight = some (.renewal none t)

theorem HasLook.landed {f : Flight} (flight : s.flight = some f) (other : ∀ t, f ≠ .renewal none t)
    (h : s.HasLook) : .poll ∈ s.queue := by
  rcases h with asked | ⟨t, ht⟩
  · exact asked
  · exact absurd (Option.some.inj (flight.symm.trans ht)) (other t)

/-- Who waits for the poller has stopped it, and a poller at work has somebody to look. -/
structure Winding (s : Session) : Prop where
  stopped : s.joining ≠ [] → s.cancelled = true
  polled : s.joinable = true ∨ s.joining ≠ [] → s.poller ≠ .off
  looks : ∀ next, s.poller = .working next → s.HasLook

theorem start_winding (d : Discipline) : (start d).Winding := by
  cases d with
  | simple => exact ⟨by simp [start], by simp [start], by simp [start]⟩
  | renewing o =>
    refine ⟨by simp [start], ?_, ?_⟩
    · rintro (enabled | joining)
      · simp [start, Poller.start, show o.enabled = true from enabled]
      · exact absurd rfl joining
    · intro next working
      simp only [start, Poller.start] at working
      split at working <;> cases working

/-- The poller is not at work, and on if it was before. -/
def Idles (s s' : Session) : Prop :=
  (s.poller ≠ .off → s'.poller ≠ .off) ∧ ∀ next, s'.poller ≠ .working next

theorem idles_of_resume {s' : Session} (h : s'.poller = s.poller.resume) : Idles s s' := by
  unfold Idles
  rw [h]
  cases s.poller <;> simp [Poller.resume]

theorem idles_of_ended {s' : Session} (h : s'.poller = .ended) : Idles s s' := by
  unfold Idles
  rw [h]
  simp

theorem serve_poller (s : Session) (now : Instant) (d : Demand) :
    Idles s (s.serve now d).1 ∨ (s.serve now d).1.poller = s.poller ∧
      (d = .poll → ∃ t, (s.serve now d).1.flight = some (.renewal none t)) := by
  cases d with
  | token c => right; simp only [serve, serveToken]; split <;> simp
  | check c => right; simp only [serve, serveCheck]; split <;> simp [abandon, conclude]
  | poll =>
    simp only [serve, serveCheck]
    split
    · exact .inl (idles_of_ended rfl)
    · exact .inl (idles_of_resume rfl)
    · exact .inl (idles_of_resume rfl)
    · exact .inr ⟨rfl, fun _ => ⟨_, rfl⟩⟩
  | status c => right; simp only [serve, serveStatus]; split <;> simp
  | removal c => right; simp only [serve, serveRemoval]; split <;> simp
  | invalidation c => right; simp [serve]

theorem land_poller {f : Flight} (flight : s.flight = some f) (result : Except Error Token) :
    Idles s (s.land f result).1 ∨
      (s.land f result).1.poller = s.poller ∧ ∀ t, s.flight ≠ some (.renewal none t) := by
  cases f with
  | login c => right; cases result <;> simp [land, flight]
  | renewal c old =>
    cases c with
    | some c => right; cases result <;> simp [land, conclude, flight]
    | none => left; cases result <;> exact idles_of_resume rfl

theorem Winding.pass {s' : Session} (h : s.Winding) (joining : s'.joining = s.joining)
    (joinable : s'.joinable = s.joinable) (cancelled : s'.cancelled = s.cancelled)
    (poller : Idles s s' ∨ s'.poller = s.poller ∧ (s.HasLook → s'.HasLook)) : s'.Winding := by
  refine ⟨by rw [joining, cancelled]; exact h.stopped, fun waits => ?_, fun next working => ?_⟩
  · rw [joining, joinable] at waits
    rcases poller with ⟨running, -⟩ | ⟨same, -⟩
    · exact running (h.polled waits)
    · rw [same]
      exact h.polled waits
  · rcases poller with ⟨-, resting⟩ | ⟨same, looks⟩
    · exact absurd working (resting next)
    · exact looks (h.looks next (same ▸ working))

theorem Winding.serve {d : Demand} {rest : List Demand} {now : Instant} (h : s.Winding)
    (free : s.flight = none) (first : s.queue = d :: rest) :
    ((s.withQueue rest).serve now d).1.Winding := by
  have same := serve_waiters (s.withQueue rest) now d
  refine h.pass same.joining same.joinable same.cancelled ?_
  refine (serve_poller (s.withQueue rest) now d).imp_right fun ⟨poller, look⟩ => ⟨poller, ?_⟩
  rintro (asked | ⟨t, flight⟩)
  · rw [first] at asked
    rcases List.mem_cons.1 asked with rfl | asked
    · exact .inr (look rfl)
    · refine .inl ?_
      rw [show ((s.withQueue rest).serve now d).1.queue = rest from same.queue]
      exact asked
  · rw [free] at flight
    cases flight

theorem Winding.land {f : Flight} (h : s.Winding) (flight : s.flight = some f)
    (result : Except Error Token) : (s.land f result).1.Winding := by
  have same := land_waiters s f result
  refine h.pass same.joining same.joinable same.cancelled ?_
  refine (land_poller flight result).imp_right fun ⟨poller, other⟩ => ⟨poller, fun looks => .inl ?_⟩
  rw [same.queue]
  exact looks.resolve_right fun ⟨t, ht⟩ => other t ht

theorem Move.winding (step : m.before.step? m.now m.event = some (m.after, m.seen))
    (h : m.before.Winding) : m.after.Winding := by
  obtain ⟨now, e, s, s', seen⟩ := m
  dsimp only at step h ⊢
  have enqueued (d : Demand) (looks : s.HasLook) : (s.enqueue d).HasLook :=
    looks.imp_left (List.mem_append_left _)
  cases step_of_step? step with
  | demand _ d => exact h.pass rfl rfl rfl (.inr ⟨rfl, enqueued d⟩)
  | acquire free first => exact h.serve free first
  | answered flight result => exact h.land flight result
  | @launch _ p launch =>
    refine h.pass rfl rfl rfl (.inl ⟨fun _ => ?_, fun next => ?_⟩) <;>
    · cases hpoller : s.poller <;> simp [hpoller, Poller.launch?] at launch
      simp [← launch]
  | @tick _ p tick =>
    refine ⟨h.stopped, fun _ => ?_, fun next _ => .inl (List.mem_append_right _ (List.mem_singleton_self _))⟩
    cases hpoller : s.poller <;> simp [hpoller, Poller.tick?] at tick
    simp [enqueue, ← tick.2]
  | @stop _ p cancelled stop =>
    refine h.pass rfl rfl rfl (.inl (idles_of_ended ?_))
    cases hpoller : s.poller <;> simp [hpoller, Poller.stop?] at stop <;> simp [← stop]
  | shutdownFirst joinable c => exact ⟨fun _ => rfl, fun _ => h.polled (.inl joinable), h.looks⟩
  | shutdown joined c => exact ⟨fun _ => rfl, h.polled, fun next working => enqueued _ (h.looks next working)⟩
  | @join _ c waits ended =>
    have joining : s.joining ≠ [] := List.ne_nil_of_mem waits
    exact ⟨fun _ => h.stopped joining, fun _ => h.polled (.inr joining),
      fun next working => enqueued _ (h.looks next working)⟩
  | revoked => exact ⟨h.stopped, h.polled, h.looks⟩
  | drop => exact ⟨fun _ => rfl, h.polled, h.looks⟩

theorem History.winding (h : History s ms t) (begun : s.Winding) : t.Winding := by
  induction h with
  | nil s => exact begun
  | cons step rest ih => exact ih (Move.winding (m := ⟨_, _, _, _, _⟩) step begun)

/-- While a shutdown waits, the store has yet to answer a call that keeps the slot, or something can
happen at once: a demand is served, the poller stops, or the shutdown goes on. -/
theorem Winding.proceeds {c : Nat} (h : s.Winding) (waits : 0 < s.waiting c) (now : Instant) :
    s.flight.isSome ∨ ∃ e ∈ system.urgent s, (s.step? now e).isSome := by
  cases flight : s.flight with
  | some f => exact .inl rfl
  | none =>
    right
    cases queue : s.queue with
    | cons d rest =>
      refine ⟨.acquire, by simp [system], ?_⟩
      rw [step?_acquire flight queue]
      rfl
    | nil =>
      -- With nobody in the queue, the shutdown waits for the poller, which is told to stop.
      have joins : c ∈ s.joining := by
        rw [waiting, queue, List.count_nil, Nat.add_zero] at waits
        exact List.count_pos_iff.1 waits
      have joining : s.joining ≠ [] := List.ne_nil_of_mem joins
      have cancelled := h.stopped joining
      cases poller : s.poller with
      | off => exact absurd poller (h.polled (.inr joining))
      | fresh => exact ⟨.stop, by simp [system], by simp [step?, cancelled, poller, Poller.stop?]⟩
      | sleeping due => exact ⟨.stop, by simp [system], by simp [step?, cancelled, poller, Poller.stop?]⟩
      | working next =>
        rcases h.looks next poller with asked | ⟨t, ht⟩
        · rw [queue] at asked
          cases asked
        · rw [flight] at ht
          cases ht
      | ended =>
        refine ⟨.join c, by simp [system, joins], ?_⟩
        simp [step?, joins, poller]

end

end SecretLayers.Session
