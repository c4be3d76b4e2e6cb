import SecretLayers.Proofs.Loading.Alone
import SecretLayers.Proofs.Loading.Failures
import SecretLayers.Proofs.Loading.Shutdown
/-!
How often loads log in. Each of them asks the session for its token before it reads anything, and so
it is the only one of its callers that can find no token there: what a load reads with has been
found or brought by then. A login that fails is the end of its load, and one that succeeds leaves a
token that nobody takes away.
-/
namespace SecretLayers
set_option autoImplicit false

namespace Loads
open Session (Demand Flight)

/-! ## What is seen -/

def Action.isLogin (load : Nat) : Action → Bool
  | login i => i = load
  | _ => false

/-- How many logins are attempted for a load. -/
def attempts (load : Nat) (seen : List Action) : Nat := seen.countP (Action.isLogin load)

/-- The second of two actions is no login, if the first one is a login that succeeds. -/
def Settles (a b : Action) : Prop := ∀ i t, a = .loggedIn i (.ok t) → ∀ k, b ≠ .login k

theorem attempts_append (i : Nat) (seen more : List Action) :
    attempts i (seen ++ more) = attempts i seen + attempts i more := List.countP_append

theorem attempts_eq_zero {i : Nat} {seen : List Action} (h : ∀ k, .login k ∉ seen) :
    attempts i seen = 0 := by
  refine List.countP_eq_zero.2 fun a ha login => ?_
  cases a with
  | login k => exact h k ha
  | loggedIn | reading | returned => cases login

/-! ## What moves do -/

/-- How many logins a load can still attempt: one if it has not begun, and then one for each time that
it waits to be prepared. -/
def credit (s : Loads) (i : Nat) : Nat :=
  if i < s.loads.length then s.session.queue.count (.token (preparer i)) else 1

structure Effect (s s' : Loads) (seen : List Action) : Prop where
  config : s'.config = s.config
  held : s.session.held.isSome → s'.session.held.isSome ∧ ∀ i, .login i ∉ seen
  attempts : ∀ i, attempts i seen + s'.credit i ≤ s.credit i
  ended : ∀ (i : Nat) (load : Load), s.loads[i]? = some load → load.phase.isOver →
    s'.loads[i]? = some load
  begun : ∀ (i : Nat) (load : Load), s.loads[i]? = some load → load.phase ≠ .preparing →
    ∃ load' : Load, s'.loads[i]? = some load' ∧ load'.phase ≠ .preparing
  reads : ∀ i entry t, .reading i entry t ∈ seen →
    ∃ (load : Load) (begun : Instant) (reads : List Progress), s.loads[i]? = some load ∧
      load.phase = .reading begun reads
  refuses : ∀ i e, .loggedIn i (.error e) ∈ seen → ∃ (load : Load) (now : Instant),
    s.loads[i]? = some load ∧ load.phase = .preparing ∧ s'.loads[i]? = some { load with
      phase := .ended ⟨now, Compose.unread s.config.failFast e load.entries⟩ }
  grants : ∀ i t, .loggedIn i (.ok t) ∈ seen → s'.session.held.isSome ∧ ∀ k, .login k ∉ seen

section
variable {s u s' : Loads} {i : Nat} {load : Load} {seen : List Action}

theorem GoesOn.quiet (h : GoesOn u i s' seen) :
    (∀ k, .login k ∉ seen) ∧ ∀ k result, .loggedIn k result ∉ seen := by
  constructor
  · intro k hk
    cases h.seen _ hk
  · intro k result hk
    cases h.seen _ hk

theorem credit_le (loads : u.loads.length = s.loads.length)
    (count : u.session.queue.count (.token (preparer i)) ≤ s.session.queue.count (.token (preparer i))) :
    u.credit i ≤ s.credit i := by
  unfold credit
  rw [loads]
  split
  · exact count
  · exact Nat.le_refl 1

/-- What a load does that goes on once the session has served it. -/
theorem GoesOn.effect (h : GoesOn u i s' seen) (served : Served s u) (found : s.loads[i]? = some load)
    (live : load.phase.isOver = false) : Effect s s' seen := by
  obtain ⟨load', phase', loads'⟩ := h.loads
  rw [served.loads] at loads'
  have bound : i < s.loads.length := (List.getElem?_eq_some_iff.1 found).1
  have here : s'.loads[i]? = some load' := by rw [loads', List.getElem?_set_self bound]
  have other {k : Nat} (hk : k ≠ i) : s'.loads[k]? = s.loads[k]? := by
    rw [loads', List.getElem?_set_ne hk.symm]
  refine {
    config := h.config.trans served.config
    held := fun held => ⟨h.held ▸ served.held held, h.quiet.1⟩
    attempts := fun k => ?_
    ended := fun k x hk past => ?_
    begun := fun k x hk begun => ?_
    reads := fun k entry t hk => ?_
    refuses := fun k e hk => absurd hk (h.quiet.2 k _)
    grants := fun k t hk => absurd hk (h.quiet.2 k _) }
  · rw [attempts_eq_zero h.quiet.1, Nat.zero_add]
    have length : s'.loads.length = s.loads.length := by rw [loads', List.length_set]
    exact credit_le length (Nat.le_trans (h.count k) (served.count k))
  · by_cases same : k = i
    · subst same
      cases found.symm.trans hk
      rw [live] at past
      cases past
    · exact (other same).trans hk
  · by_cases same : k = i
    · subst same
      exact ⟨load', here, phase'⟩
    · exact ⟨x, (other same).trans hk, begun⟩
  · cases h.seen _ hk with
    | @reading x begun reads found phase =>
      rw [served.loads] at found
      exact ⟨x, begun, reads, found, phase⟩

/-- The loads stay as they are, and nothing is seen. -/
theorem Served.effect (h : Served s s') : Effect s s' [] := by
  refine {
    config := h.config
    held := fun held => ⟨h.held held, by simp⟩
    attempts := fun k => ?_
    ended := fun k x hk _ => h.loads ▸ hk
    begun := fun k x hk begun => ⟨x, h.loads ▸ hk, begun⟩
    reads := by simp
    refuses := by simp
    grants := by simp }
  rw [attempts_eq_zero (by simp), Nat.zero_add]
  exact credit_le (congrArg List.length h.loads) (h.count k)

/-- A step that nothing is seen of but the end of a login. -/
theorem Effect.loggedIn {result : Except Error Token} (h : Effect s s' seen)
    (quiet : ∀ k, .login k ∉ seen)
    (refuses : ∀ e, result = .error e → ∃ load now, s.loads[i]? = some load ∧
      load.phase = .preparing ∧ s'.loads[i]? = some { load with
        phase := .ended ⟨now, Compose.unread s.config.failFast e load.entries⟩ })
    (grants : ∀ t, result = .ok t → s'.session.held.isSome) :
    Effect s s' (.loggedIn i result :: seen) := by
  have silent (k : Nat) : .login k ∉ Action.loggedIn i result :: seen := by simp [quiet k]
  refine {
    config := h.config
    held := fun held => ⟨(h.held held).1, silent⟩
    attempts := fun k => ?_
    ended := h.ended
    begun := h.begun
    reads := fun k entry t hk => ?_
    refuses := fun k e hk => ?_
    grants := fun k t hk => ⟨?_, silent⟩ }
  · have zero := attempts_eq_zero (i := k) silent
    have credit := h.attempts k
    omega
  · rcases List.mem_cons.1 hk with same | later
    · cases same
    · exact h.reads k entry t later
  · rcases List.mem_cons.1 hk with same | later
    · cases same
      exact refuses e rfl
    · exact h.refuses k e later
  · rcases List.mem_cons.1 hk with same | later
    · cases same
      exact grants t rfl
    · exact (h.grants k t later).1

theorem Begins.effect (h : Begins s load s' seen) (hs : s.Standing) : Effect s s' seen := by
  have quiet (k : Nat) : .login k ∉ seen := by
    intro hk
    obtain ⟨_, same⟩ := h.seen _ hk
    cases same
  have unanswered (k : Nat) (result : Except Error Token) : .loggedIn k result ∉ seen := by
    intro hk
    obtain ⟨_, same⟩ := h.seen _ hk
    cases same
  refine {
    config := h.config
    held := fun held => ⟨h.held ▸ held, quiet⟩
    attempts := fun k => ?_
    ended := fun k x hk _ => h.old hk
    begun := fun k x hk begun => ⟨x, h.old hk, begun⟩
    reads := fun k entry t hk => ?_
    refuses := fun k e hk => absurd hk (unanswered k _)
    grants := fun k t hk => absurd hk (unanswered k _) }
  · have count := h.count k
    have length : s'.loads.length = s.loads.length + 1 := by rw [h.loads]; simp
    rw [attempts_eq_zero quiet, Nat.zero_add, credit, credit, length]
    by_cases same : k = s.loads.length
    · rw [same, hs.unborn, if_pos rfl] at count
      rw [same, if_pos (Nat.lt_succ_self _), if_neg (Nat.lt_irrefl _)]
      exact count
    · rw [if_neg same] at count
      by_cases old : k < s.loads.length
      · rw [if_pos old, if_pos (by omega)]
        exact count
      · rw [if_neg old, if_neg (by omega)]
  · obtain ⟨_, same⟩ := h.seen _ hk
    cases same

theorem effect_logsIn {rest : List Demand}
    (first : s.session.queue = .token (preparer i) :: rest) (empty : s.session.held = none)
    (found : s.loads[i]? = some load) (session : s'.session.queue = rest)
    (config : s'.config = s.config) (loads : s'.loads = s.loads) : Effect s s' [.login i] := by
  refine {
    config := config
    held := fun held => absurd held (by simp [empty])
    attempts := fun k => ?_
    ended := fun k x hk _ => loads ▸ hk
    begun := fun k x hk begun => ⟨x, loads ▸ hk, begun⟩
    reads := by simp
    refuses := by simp
    grants := by simp }
  have bound := (List.getElem?_eq_some_iff.1 found).1
  rw [credit, credit, loads, session, first, List.count_cons, attempts, List.countP_singleton]
  by_cases same : k = i
  · simp [same, Action.isLogin, bound, Nat.add_comm]
  · have other : preparer i ≠ preparer k := fun h => same (preparer_inj.1 h).symm
    simp [other, Action.isLogin, Ne.symm same]

/-- Every move has its effect. -/
theorem Move.effect (h : Move s s' seen) (hs : s.Standing) : Effect s s' seen := by
  cases h with
  | begins begins => exact begins.effect hs
  | @logsIn i load rest first empty found phase made =>
    subst made
    exact effect_logsIn first empty found rfl rfl rfl
  | @loggedIn u i load result seen served empty found phase goes grants refuses =>
    have effect := goes.effect served found (by rw [phase]; rfl)
    refine effect.loggedIn goes.quiet.1 (fun e he => ?_) grants
    obtain ⟨now, ended⟩ := refuses e he
    exact ⟨load, now, found, phase, ended⟩
  | goesOn served found live goes => exact goes.effect served found live
  | still served => exact served.effect

end

/-! ## Runs -/

section
variable {s s' : Loads} {seen : List Action}

/-- What is true of all that has been seen of loads. -/
structure Sound (s : Loads) (seen : List Action) : Prop where
  attempts : ∀ i, attempts i seen + s.credit i ≤ 1
  reads : ∀ i entry t, .reading i entry t ∈ seen →
    ∃ load : Load, s.loads[i]? = some load ∧ load.phase ≠ .preparing
  refused : ∀ i e, .loggedIn i (.error e) ∈ seen → (∀ entry t, .reading i entry t ∉ seen) ∧
    ∃ (load : Load) (now : Instant), s.loads[i]? = some load ∧
      load.phase = .ended ⟨now, Compose.unread s.config.failFast e load.entries⟩
  granted : ∀ i t, .loggedIn i (.ok t) ∈ seen → s.session.held.isSome
  settled : seen.Pairwise Settles

theorem Sound.step {more : List Action} (h : s.Sound seen) (effect : Effect s s' more) :
    s'.Sound (seen ++ more) := by
  refine {
    attempts := fun i => ?_
    reads := fun i entry t hi => ?_
    refused := fun i e hi => ?_
    granted := fun i t hi => ?_
    settled := List.pairwise_append.2 ⟨h.settled, ?_, ?_⟩ }
  · have before := h.attempts i
    have step := effect.attempts i
    rw [attempts_append]
    omega
  · rcases List.mem_append.1 hi with old | new
    · obtain ⟨load, found, phase⟩ := h.reads i entry t old
      exact effect.begun i load found phase
    · obtain ⟨load, begun, reads, found, phase⟩ := effect.reads i entry t new
      exact effect.begun i load found (by simp [phase])
  · rcases List.mem_append.1 hi with old | new
    · obtain ⟨unread, load, now, found, phase⟩ := h.refused i e old
      have stays := effect.ended i load found (by rw [phase]; rfl)
      -- It is over, so that nothing is read for it in the step either.
      refine ⟨fun entry t hr => ?_, load, now, stays, effect.config ▸ phase⟩
      rcases List.mem_append.1 hr with hr | hr
      · exact unread entry t hr
      · obtain ⟨load', begun, reads, found', phase'⟩ := effect.reads i entry t hr
        cases found.symm.trans found'
        cases phase.symm.trans phase'
    · obtain ⟨load, now, found, phase, ended⟩ := effect.refuses i e new
      refine ⟨fun entry t hr => ?_, _, now, ended, by rw [effect.config]⟩
      rcases List.mem_append.1 hr with hr | hr
      · obtain ⟨load', found', phase'⟩ := h.reads i entry t hr
        cases found.symm.trans found'
        exact phase' phase
      · obtain ⟨load', begun, reads, found', phase'⟩ := effect.reads i entry t hr
        cases found.symm.trans found'
        cases phase.symm.trans phase'
  · rcases List.mem_append.1 hi with old | new
    · exact (effect.held (h.granted i t old)).1
    · exact (effect.grants i t new).1
  · refine List.pairwise_of_forall_mem_list fun a ha b hb i t grant k => ?_
    rintro rfl
    exact (effect.grants i t (grant ▸ ha)).2 k hb
  · intro a ha b hb i t grant k
    rintro rfl
    exact (effect.held (h.granted i t (grant ▸ ha))).2 k hb

theorem Sound.run {more : List Action} (h : s.Sound seen) (hs : s.Standing)
    {es : List (Instant × Event)} (run : s.run? es = some (s', more)) :
    s'.Sound (seen ++ more) ∧ s'.config = s.config := by
  induction es generalizing s seen more with
  | nil =>
    cases run
    rw [List.append_nil]
    exact ⟨h, rfl⟩
  | cons e es ih =>
    obtain ⟨now, e⟩ := e
    simp only [run?, Option.bind_eq_bind, Option.bind_eq_some_iff, Option.some.injEq] at run
    obtain ⟨⟨u, first⟩, step, ⟨s'', rest⟩, run, same⟩ := run
    obtain ⟨rfl, rfl⟩ := Prod.mk.inj same
    have move := hs.move step
    have effect := move.effect hs
    obtain ⟨sound, config⟩ := ih (h.step effect) (move.standing hs) run
    rw [← List.append_assoc]
    exact ⟨sound, config.trans effect.config⟩

end

/-- Logins of loads that share a session: a load makes one at most, and reads nothing after one that
fails; after one that succeeds nobody logs in any more. -/
structure OneLogin (failFast : Bool) (s : Loads) (seen : List Action) : Prop where
  once : ∀ i, attempts i seen ≤ 1
  refused : ∀ i e, .loggedIn i (.error e) ∈ seen → (∀ entry t, .reading i entry t ∉ seen) ∧
    ∃ (load : Load) (now : Instant), s.loads[i]? = some load ∧
      load.phase = .ended ⟨now, Compose.unread failFast e load.entries⟩
  settled : ∀ before i t after, seen = before ++ .loggedIn i (.ok t) :: after → ∀ k, .login k ∉ after

section
variable {l : Loader}

theorem Sound.oneLogin {s : Loads} {seen : List Action} (h : s.Sound seen) :
    OneLogin s.config.failFast s seen where
  once i := Nat.le_trans (Nat.le_add_right _ _) (h.attempts i)
  refused := h.refused
  settled before i t after split k hk := by
    have settled := h.settled
    rw [split, List.pairwise_append, List.pairwise_cons] at settled
    exact settled.2.1.1 _ hk i t rfl k rfl

theorem Idle.standing {s : Loads} (h : s.Idle l) : s.Standing := by
  refine ⟨?_, ?_, ?_, ?_⟩ <;> rw [h.session]
  · simp
  · simp
  · simp

theorem oneLogin_of_run (simple : l.seat.discipline = .simple) {es : List (Instant × Event)} {s : Loads}
    {seen : List Action} (run : (ofLoader l).run? es = some (s, seen)) :
    OneLogin l.config.failFast s seen := by
  have begun : (ofLoader l).Sound [] := by
    refine ⟨fun i => ?_, by simp, by simp, by simp, .nil⟩
    have unborn : ¬ i < (ofLoader l).loads.length := Nat.not_lt_zero i
    rw [credit, if_neg unborn]
    exact Nat.le_refl 1
  obtain ⟨sound, config⟩ := begun.run (ofLoader_idle simple).standing run
  have one := sound.oneLogin
  rw [config] at one
  exact one

end

end Loads

/-! ## The whole -/

theorem Loader.withClient_simple {c : Config} {client : Store.Client} {factories : List Backend.Factory}
    {machine : Auth.Machine} {nonce : String} {tasksRun : Bool} {l : Loader}
    (disabled : c.lifecycle.enabled = false)
    (h : withClient c client factories machine nonce tasksRun = .ok l) :
    l.config = c ∧ l.seat.discipline = .simple := by
  obtain ⟨-, -, h⟩ := ok_of_bind h
  obtain ⟨strategy, -, h⟩ := ok_of_bind h
  obtain ⟨session, hsession, h⟩ := ok_of_bind h
  obtain rfl := Except.ok.inj h
  refine ⟨rfl, (startWhere_discipline hsession).trans ?_⟩
  rw [disciplineOf, disabled]
  rfl

/-- Without renewal, loads log in once at most, and nobody does any more when that has succeeded,
however the loads run together. By itself, a load is one login and its reads, or one without the
other, and it is one of these runs. -/
theorem one_login_per_load {c : Config} {client : Store.Client} {factories : List Backend.Factory}
    {machine : Auth.Machine} {nonce : String} {tasksRun : Bool} {l : Loader}
    (disabled : c.lifecycle.enabled = false)
    (h : Loader.withClient c client factories machine nonce tasksRun = .ok l) :
    (∀ es s seen, (Loads.ofLoader l).run? es = some (s, seen) → Loads.OneLogin c.failFast s seen) ∧
    (Loads.ofLoader l).Idle l ∧
    ∀ m : Loader, m.seat.discipline = l.seat.discipline →
      (∀ profiles plan now, m.plan profiles = .ok plan →
        (∀ t, m.seat.held = some t → m.load profiles now = m.readWith t plan.entries now) ∧
        (m.seat.held = none → m.load profiles now =
          ((m.seat.strategy.login m.seat.client m.seat.machine now).timed now).bind fun login =>
            let m' := m.withSeat (m.seat.after login.value)
            match login.value with
            | .error e => .done (⟨login.instant, Compose.unread m.config.failFast e plan.entries⟩, m')
            | .ok t => m'.readWith t plan.entries login.instant)) ∧
      ∀ s : Loads, s.Idle m →
        ∀ profiles now (σ : Type) (store : σ → Request → Arrival × σ) (begun : σ),
          let ended := ((m.load profiles now).run store begun).1
          s.Comes s.loads.length ended.1.value ended.2 := by
  obtain ⟨rfl, simple⟩ := Loader.withClient_simple disabled h
  refine ⟨fun es s seen run => Loads.oneLogin_of_run simple run, Loads.ofLoader_idle simple, ?_⟩
  intro m same
  have simple : m.seat.discipline = .simple := same.trans simple
  refine ⟨fun profiles plan now hplan => ⟨fun t held => ?_, fun empty => ?_⟩, ?_⟩
  · have usable : m.seat.discipline.usable? m.seat.held now = some t := by
      rw [Session.Discipline.usable?_simple simple, held]
    exact Loader.load_of_usable usable hplan
  · exact Loader.load_of_empty simple empty hplan now
  · intro s idle profiles now σ store begun
    exact Loads.comes_load simple idle profiles now store begun

/-- Two loads at once, and a third one later. The first one is turned away, so the second one logs in;
the third one finds the token of that. -/
def threeLoads : List (Instant × Loads.Event) :=
  [(0, .begin []), (0, .begin []), (0, .acquire), (1, .answered (.error (.authentication "denied"))),
    (1, .acquire), (2, .answered (.ok Session.lent)), (2, .begin []), (2, .acquire), (2, .acquire),
    (2, .acquire), (2, .acquire), (2, .acquire)]

/-- How many reads are sent for a load. -/
def Loads.reads (load : Nat) (seen : List Action) : Nat :=
  seen.countP fun
    | .reading i _ _ => i = load
    | _ => false

theorem one_login_of_three_loads :
    ∃ l s seen, certifiedOrders.lifecycle.enabled = false ∧
      Loader.withClient certifiedOrders Store.loopbackClient Backend.Factory.builtin bareMachine "" true =
        .ok l ∧
      (Loads.ofLoader l).run? threeLoads = some (s, seen) ∧
      (List.range 3).map (Loads.attempts · seen) = [1, 1, 0] ∧
      (List.range 3).map (Loads.reads · seen) = [0, 3, 1] ∧ Loads.OneLogin false s seen := by
  have run : (Loader.withClient certifiedOrders Store.loopbackClient Backend.Factory.builtin bareMachine ""
      true).toOption.any (fun l => ((Loads.ofLoader l).run? threeLoads).any fun r =>
        (List.range 3).map (Loads.attempts · r.2) = [1, 1, 0] &&
        (List.range 3).map (Loads.reads · r.2) = [0, 3, 1]) = true := by decide +kernel
  obtain ⟨l, hl, run⟩ := exists_ok run
  obtain ⟨⟨s, seen⟩, hrun, counts⟩ := (Option.any_eq_true _ _).1 run
  obtain ⟨logins, reads⟩ := Bool.and_eq_true_iff.1 counts
  obtain ⟨together, -⟩ := one_login_per_load rfl hl
  exact ⟨l, s, seen, rfl, hl, hrun, of_decide_eq_true logins, of_decide_eq_true reads,
    together threeLoads s seen hrun⟩

end SecretLayers
