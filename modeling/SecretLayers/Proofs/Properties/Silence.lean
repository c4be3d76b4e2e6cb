import SecretLayers.Proofs.Properties.Freshness
import SecretLayers.Proofs.Session.Silence
/-!
Background tasks after a shutdown. A pass of the poller is under way only while the poller is at work,
and a shutdown of a refresher returns when the poller has stopped. From then on nothing is read for
the poller, and only a pass that a caller has asked for can change the view. With sessions, whose
pollers renew the token, that is all that goes on in the background.
-/
namespace SecretLayers
set_option autoImplicit false

namespace Refresher

section
variable {r r' : Refresher} {now : Instant} {e : Event} {made : Refresher × List Action}
  {es : List (Instant × Event)} {seen : List Action}

/-- What every step keeps, a run keeps, and what every step shows, a run shows. -/
theorem run_keeps {P : Refresher → Prop} (shown : Action → Prop)
    (step : ∀ x, ∀ moment : { y : Instant × Event // y ∈ es }, ∀ made, P x →
      x.Steps moment.1.1 moment.1.2 made → P made.1 ∧ ∀ a ∈ made.2, shown a)
    (h : P r) (run : r.run? es = some (r', seen)) : P r' ∧ ∀ a ∈ seen, shown a := by
  induction es generalizing r seen with
  | nil =>
    obtain ⟨rfl, rfl⟩ := Prod.mk.inj (Option.some.inj run)
    exact ⟨h, nofun⟩
  | cons e es ih =>
    obtain ⟨now, e⟩ := e
    simp only [run?, Option.bind_eq_bind, Option.bind_eq_some_iff] at run
    obtain ⟨⟨r₁, first⟩, taken, ⟨r₂, more⟩, rest, made⟩ := run
    obtain ⟨rfl, rfl⟩ := Prod.mk.inj (Option.some.inj made)
    obtain ⟨here, firstShown⟩ := step r ⟨(now, e), List.mem_cons_self⟩ _ h (steps_of_step? taken)
    obtain ⟨last, moreShown⟩ := ih (fun x moment => step x ⟨moment.1, List.mem_cons_of_mem _ moment.2⟩)
      here rest
    refine ⟨last, fun a ha => ?_⟩
    rcases List.mem_append.1 ha with ha | ha
    · exact firstShown a ha
    · exact moreShown a ha

/-! ## Passes of the poller -/

/-- No pass of the poller is under way. -/
def Unmanned (r : Refresher) : Prop := ∀ p ∈ r.passes, p.caller ≠ none

/-- While a pass of the poller is under way, the poller is at work. -/
def Manned (r : Refresher) : Prop := r.poller.isWorking = true ∨ r.Unmanned

/-- What passes of callers do: they leave the poller and its passes alone. -/
structure Aside (r : Refresher) (made : Refresher × List Action) : Prop where
  poller : made.1.poller = r.poller
  passes : r.Unmanned → made.1.Unmanned
  seen : ∀ entry, .reading none entry ∉ made.2

theorem aside_proceed (r : Refresher) (c n : Nat) (entries : List Backend.Entry) :
    r.Aside (r.proceed (some c) n entries) := by
  cases entries with
  | nil => exact ⟨rfl, id, by simp [proceed, conclude]⟩
  | cons entry rest =>
    refine ⟨rfl, fun unmanned => ?_, by simp [proceed]⟩
    exact List.forall_mem_cons.2 ⟨Option.some_ne_none c, unmanned⟩

theorem begin_of_undefined {caller : Option Nat} (h : r.agenda? now = none) :
    r.begin now caller = r.abandon caller := by
  unfold begin
  rw [h]

theorem aside_begin (r : Refresher) (now : Instant) (c : Nat) : r.Aside (r.begin now (some c)) := by
  cases hagenda : r.agenda? now with
  | none =>
    rw [begin_of_undefined hagenda]
    exact ⟨rfl, id, by simp [abandon]⟩
  | some agenda =>
    rw [begin_of_agenda hagenda]
    exact aside_proceed r c 0 agenda

theorem manned_proceed (unmanned : r.Unmanned) (working : r.poller.isWorking = true) (n : Nat)
    (entries : List Backend.Entry) : (r.proceed none n entries).1.Manned := by
  cases entries with
  | nil => exact .inr unmanned
  | cons entry rest => exact .inl working

theorem manned_begin (unmanned : r.Unmanned) (working : r.poller.isWorking = true) (now : Instant) :
    (r.begin now none).1.Manned := by
  cases hagenda : r.agenda? now with
  | none =>
    rw [begin_of_undefined hagenda]
    exact .inr unmanned
  | some agenda =>
    rw [begin_of_agenda hagenda]
    exact manned_proceed unmanned working 0 agenda

theorem landed_poller (r : Refresher) (now : Instant) (p : Pass)
    (result : Except Error (Option Store.Reading)) : (r.landed now p result).poller = r.poller := by
  unfold landed
  cases r.replace? now p.entry result <;> rfl

theorem mem_landed_passes {p q : Pass} {result : Except Error (Option Store.Reading)}
    (h : q ∈ (r.landed now p result).passes) : q ∈ r.passes ∧ q.caller ≠ p.caller := by
  have mem : q ∈ r.passes.filter fun q => q.caller ≠ p.caller := by
    unfold landed at h
    cases hview : r.replace? now p.entry result <;> rw [hview] at h <;> exact h
  obtain ⟨before, other⟩ := List.mem_filter.1 mem
  exact ⟨before, of_decide_eq_true other⟩

theorem Manned.step (h : r.Manned) (steps : r.Steps now e made) : made.1.Manned := by
  have idle (notWorking : r.poller.isWorking = false) : r.Unmanned := by
    refine h.resolve_left fun working => ?_
    rw [notWorking] at working
    cases working
  cases steps with
  | refresh c =>
    have aside := aside_begin r now c
    exact h.imp (fun working => aside.poller.symm ▸ working) aside.passes
  | launch launches => exact .inr (idle (Poller.isWorking_launch? launches).1)
  | @tick p ticks =>
    obtain ⟨before, after⟩ := Poller.isWorking_tick? ticks
    exact manned_begin (r := { r with poller := p }) (idle before) after now
  | stop cancelled stops => exact .inr (idle (Poller.stop?_eq_some stops).1)
  | @answered caller p result under =>
    have hp := List.mem_of_find?_eq_some under
    obtain ⟨n, hland⟩ := r.exists_land_eq now p result
    rw [hland]
    cases hcaller : p.caller with
    | some c =>
      have aside := aside_proceed (r.landed now p result) c n p.rest
      refine h.imp (fun working => ?_) fun unmanned => ?_
      · rw [aside.poller, landed_poller]
        exact working
      · exact aside.passes fun q hq => unmanned q (mem_landed_passes hq).1
    | none =>
      have working : r.poller.isWorking = true := h.resolve_right fun unmanned => unmanned p hp hcaller
      have unmanned : (r.landed now p result).Unmanned := by
        intro q hq
        rw [← hcaller]
        exact (mem_landed_passes hq).2
      exact manned_proceed unmanned ((landed_poller r now p result).symm ▸ working) n p.rest
  | shutdown | join | drop => exact h

theorem Manned.run (h : r.Manned) (run : r.run? es = some (r', seen)) : r'.Manned :=
  (run_keeps (fun _ => True) (fun _ _ _ manned steps => ⟨manned.step steps, fun _ _ => trivial⟩) h run).1

/-! ## Pollers that have stopped -/

/-- The poller has stopped, and no pass of it is under way. -/
structure Still (r : Refresher) : Prop where
  stopped : r.poller.IsStopped
  unmanned : r.Unmanned

theorem Still.of_aside (h : r.Still) (aside : r.Aside made) : made.1.Still :=
  ⟨aside.poller.symm ▸ h.stopped, aside.passes h.unmanned⟩

/-- The poller goes on resting, nothing is read for it, and only what a caller's pass has read can
change the view. -/
theorem Still.step (h : r.Still) (steps : r.Steps now e made) :
    made.1.Still ∧ (∀ entry, .reading none entry ∉ made.2) ∧
      (made.1.view ≠ r.view → ∃ c result, e = .answered (some c) result) := by
  cases steps with
  | refresh c =>
    have aside := aside_begin r now c
    exact ⟨h.of_aside aside, aside.seen, fun changed => absurd (begin_view r now _) changed⟩
  | launch launches =>
    rw [h.stopped.launch?] at launches
    cases launches
  | tick ticks =>
    rw [h.stopped.tick?] at ticks
    cases ticks
  | stop cancelled stops =>
    exact ⟨⟨.inr (Poller.stop?_eq_some stops).2, h.unmanned⟩, by simp, fun changed => absurd rfl changed⟩
  | @answered caller p result under =>
    have hp := List.mem_of_find?_eq_some under
    have named : p.caller = caller := by simpa using List.find?_some under
    obtain ⟨c, hcaller⟩ := Option.ne_none_iff_exists'.1 (h.unmanned p hp)
    obtain ⟨n, hland⟩ := r.exists_land_eq now p result
    rw [hland, ← named, hcaller]
    have landed : (r.landed now p result).Still :=
      ⟨(landed_poller r now p result).symm ▸ h.stopped,
        fun q hq => h.unmanned q (mem_landed_passes hq).1⟩
    have aside := aside_proceed (r.landed now p result) c n p.rest
    exact ⟨landed.of_aside aside, aside.seen, fun _ => ⟨c, result, rfl⟩⟩
  | shutdown | drop => exact ⟨⟨h.stopped, h.unmanned⟩, by simp, fun changed => absurd rfl changed⟩
  | join => exact ⟨⟨h.stopped, h.unmanned⟩, by simp, fun changed => absurd rfl changed⟩

theorem Still.run (h : r.Still) (run : r.run? es = some (r', seen)) :
    r'.Still ∧ ∀ entry, .reading none entry ∉ seen := by
  have kept := run_keeps (fun a => ∀ entry, a ≠ .reading none entry) (fun x _ made still steps => ?_) h run
  · exact ⟨kept.1, fun entry mem => kept.2 _ mem entry rfl⟩
  · obtain ⟨later, unread, -⟩ := still.step steps
    refine ⟨later, ?_⟩
    rintro a ha entry rfl
    exact unread entry ha

/-- Without a pass under way, the view changes when a caller asks for one. -/
theorem Still.step_idle (h : r.Still) (idle : r.passes = []) (unasked : ∀ c, e ≠ .refresh c)
    (steps : r.Steps now e made) : made.1.passes = [] ∧ made.1.view = r.view := by
  cases steps with
  | refresh c => exact absurd rfl (unasked c)
  | launch launches =>
    rw [h.stopped.launch?] at launches
    cases launches
  | tick ticks =>
    rw [h.stopped.tick?] at ticks
    cases ticks
  | answered result under =>
    rw [underway, idle] at under
    cases under
  | stop | shutdown | join | drop => exact ⟨idle, rfl⟩

theorem Still.view_eq (h : r.Still) (idle : r.passes = []) (unasked : ∀ x ∈ es, ∀ c, x.2 ≠ .refresh c)
    (run : r.run? es = some (r', seen)) : r'.view = r.view := by
  have kept := run_keeps (P := fun x => x.Still ∧ x.passes = [] ∧ x.view = r.view) (fun _ => True)
    (fun x moment made begun steps => ?_) ⟨h, idle, rfl⟩ run
  · exact kept.1.2.2
  · obtain ⟨still, none, same⟩ := begun
    obtain ⟨later, view⟩ := still.step_idle none (unasked moment.1 moment.2) steps
    exact ⟨⟨(still.step steps).1, later, view.trans same⟩, fun _ _ => trivial⟩

/-! ## The end of a shutdown -/

theorem done_notMem_proceed (r : Refresher) (caller : Option Nat) (n c : Nat)
    (entries : List Backend.Entry) : .replied c .done ∉ (r.proceed caller n entries).2 := by
  cases entries with
  | nil => cases caller <;> simp [proceed, conclude]
  | cons entry rest => simp [proceed]

theorem done_notMem_begin (r : Refresher) (now : Instant) (caller : Option Nat) (c : Nat) :
    .replied c .done ∉ (r.begin now caller).2 := by
  cases hagenda : r.agenda? now with
  | none =>
    rw [begin_of_undefined hagenda]
    cases caller <;> simp [abandon]
  | some agenda =>
    rw [begin_of_agenda hagenda]
    exact done_notMem_proceed r caller 0 c agenda

/-- A shutdown returns when the poller has stopped. -/
theorem Steps.stopped {c : Nat} (steps : r.Steps now e made) (returned : .replied c .done ∈ made.2) :
    made.1.poller.IsStopped := by
  cases steps with
  | refresh => exact absurd returned (done_notMem_begin r now _ c)
  | @tick p => exact absurd returned (done_notMem_begin { r with poller := p } now none c)
  | @answered caller p result under =>
    obtain ⟨n, hland⟩ := r.exists_land_eq now p result
    rw [hland] at returned
    exact absurd returned (done_notMem_proceed _ p.caller n c p.rest)
  | launch | stop | shutdown | drop => cases returned
  | join waits ended =>
    show r.poller = .off ∨ r.poller = .ended
    unfold isRunning at ended
    cases hpoller : r.poller with
    | off => exact .inl rfl
    | ended => exact .inr rfl
    | fresh | sleeping | working =>
      rw [hpoller] at ended
      cases ended

/-- Whatever happens from then on, nothing is read for the poller, and the view changes with what a
caller's pass has read only: not at all, if no such pass is under way or asked for. -/
structure Silent (r : Refresher) : Prop where
  reads : ∀ es r' seen, r.run? es = some (r', seen) → ∀ entry, .reading none entry ∉ seen
  changes : ∀ es x seen, r.run? es = some (x, seen) → ∀ now e y more, x.step? now e = some (y, more) →
    y.view ≠ x.view → ∃ c result, e = .answered (some c) result
  stays : r.passes = [] → ∀ es r' seen, (∀ x ∈ es, ∀ c, x.2 ≠ .refresh c) →
    r.run? es = some (r', seen) → r'.view = r.view

theorem Still.silent (h : r.Still) : r.Silent where
  reads _ _ _ run := (h.run run).2
  changes _ _ _ run _ _ _ _ step changed := ((h.run run).1.step (steps_of_step? step)).2.2 changed
  stays idle _ _ _ unasked run := h.view_eq idle unasked run

theorem start_manned (view : View) (entries : List Backend.Entry) (o : RenewalOptions) :
    (start view entries o).Manned := .inr (by simp [Unmanned, start])

theorem silent_of_returned {view : View} {entries : List Backend.Entry} {o : RenewalOptions}
    (run : (start view entries o).run? es = some (r, seen)) {more : List Action} {c : Nat}
    (step : r.step? now e = some (r', more)) (returned : .replied c .done ∈ more) : r'.Silent := by
  have steps := steps_of_step? step
  have stopped : r'.poller.IsStopped := steps.stopped returned
  have manned : r'.Manned := ((start_manned view entries o).run run).step steps
  have unmanned : r'.Unmanned := by
    refine manned.resolve_left fun working => ?_
    rw [stopped.isWorking] at working
    cases working
  exact (Still.mk stopped unmanned).silent

end

end Refresher

/-! ## Both kinds of tasks -/

/-- Once a shutdown of a session has returned that overlaps no other one, its poller never ticks, looks
at the token or has it renewed again; once a shutdown of a refresher has returned, its poller reads
nothing again and changes nothing in the view. This holds in every run and whatever follows. -/
theorem silent_after_shutdown (o : RenewalOptions) :
    (∀ past call mid ret later s c,
      Session.History (.start (.renewing o)) (past ++ call :: (mid ++ ret :: later)) s →
      (∀ m ∈ past ++ call :: (mid ++ ret :: later), m.Uses) →
      call.event = .shutdown c → call.before.underway = 0 →
      (∀ m ∈ mid, ∀ c', m.event ≠ .shutdown c') → .replied c .done ∈ ret.seen →
        ∀ m ∈ later, m.Silent) ∧
    ∀ view entries es r seen now e r' more c,
      (Refresher.start view entries o).run? es = some (r, seen) →
      r.step? now e = some (r', more) → .replied c .done ∈ more → r'.Silent :=
  ⟨fun _ _ _ _ _ _ _ h uses called alone only returned =>
    h.silent_of_shutdown uses called alone only returned,
  fun _ _ _ _ _ _ _ _ _ _ run step returned => Refresher.silent_of_returned run step returned⟩

/-! ## Shutdowns in the middle of a renewal and of a pass -/

namespace Session

/-- A token that is granted for a minute. -/
def minutely (now : Instant) : Token := .granted "s.1" 60 true now

/-- A session that has been started with a poller. -/
def ticking (held : Option Token) (flight : Option Flight) (queue : List Demand) (poller : Poller) :
    Session :=
  { start (.renewing {}) with held, flight, queue, poller }

/-- The poller's renewal is under way. -/
def amidRenewal : Session :=
  ticking (some (minutely 0)) (some (.renewal none (minutely 0))) [] (.working (Span.ofSeconds 55))

theorem amidRenewal_history :
    ∃ past, (∀ m ∈ past, m.Uses) ∧ History (start (.renewing {})) past amidRenewal := by
  have expiring : (minutely 0).isExpiring? {} (Span.ofSeconds 50) = some true := by decide +kernel
  have renews := serveCheck_renews (o := {})
    (s := ticking (some (minutely 0)) none [] (.working (Span.ofSeconds 55))) rfl rfl expiring rfl none
  have h := @History.cons 0 (.demand (.token 1)) (start (.renewing {})) _ _ _ _ rfl <|
    @History.cons 0 .acquire _ _ _ _ _ rfl <|
    @History.cons 0 (.answered (.ok (minutely 0))) _ _ _ _ _ rfl <|
    @History.cons 0 .launch _ (ticking (some (minutely 0)) none [] (.sleeping (Span.ofSeconds 5))) _ _ _ rfl <|
    @History.cons (Span.ofSeconds 50) .tick _
      (ticking (some (minutely 0)) none [.poll] (.working (Span.ofSeconds 55))) _ _ _ rfl <|
    @History.cons (Span.ofSeconds 50) .acquire _ amidRenewal _ _ _ (congrArg some renews) (.nil _)
  exact ⟨_, by simp [Move.Uses, Demand.isUse], h⟩

end Session

namespace Refresher

def sharing : List Backend.Entry := [{ name := "secret/app" }, credentials "user"]

/-- The poller's pass is under way when a shutdown comes, and goes on to its end. -/
def amidPass : List (Instant × Event) := [
  (0, .launch), (Span.ofSeconds 5, .tick), (Span.ofSeconds 5, .shutdown 7),
  (Span.ofSeconds 5, .answered none (.error (.transport "timed out" []))),
  (Span.ofSeconds 5, .answered none (.ok (some brief))), (Span.ofSeconds 5, .stop)]

def shutDown : Refresher :=
  { start (beside (Span.ofSeconds 5)) sharing {} with poller := .ended, cancelled := true, joining := [7] }

theorem amidPass_run : (start (beside 0) sharing {}).run? amidPass =
    some (shutDown, [.reading none { name := "secret/app" }, .reading none (credentials "user")]) := by
  have launches : (start (beside 0) sharing {}).step? 0 .launch =
      some (neighbours 0 (.sleeping (Span.ofSeconds 5)) [], []) := rfl
  rw [amidPass, run?_cons launches, run?_cons neighbours_tick]
  rfl

end Refresher

open Session in
/-- A session is shut down while its poller has the token renewed, and somebody logs in again; a
refresher is shut down while its poller reads. -/
theorem silent_after_shutdown_midway :
    (∃ past call mid ret later s,
      History (.start (.renewing {})) (past ++ call :: (mid ++ ret :: later)) s ∧
      call.event = .shutdown 7 ∧ call.before.flight = some (.renewal none (minutely 0)) ∧
      (∃ m ∈ later, .called .login ∈ m.seen) ∧ ∀ m ∈ later, m.Silent) ∧
    ∃ r, Refresher.shutDown.step? (Span.ofSeconds 5) (.join 7) = some (r, [.replied 7 .done]) ∧
      r.Silent := by
  obtain ⟨past, uses, happened⟩ := amidRenewal_history
  have h := @History.cons (Span.ofSeconds 50) (.shutdown 7) amidRenewal _ _ _ _ rfl <|
    @History.cons (Span.ofSeconds 50) (.answered (.ok (minutely (Span.ofSeconds 50)))) _ _ _ _ _ rfl <|
    @History.cons (Span.ofSeconds 50) .stop _ _ _ _ _ rfl <|
    @History.cons (Span.ofSeconds 50) (.join 7) _ _ _ _ _ rfl <|
    @History.cons (Span.ofSeconds 50) .acquire _ _ _ _ _ rfl <|
    @History.cons (Span.ofSeconds 51) (.revoked 7 (.ok ())) _ _ _ _ _ rfl <|
    @History.cons (Span.ofSeconds 60) (.demand (.token 2)) _ _ _ _ _ rfl <|
    @History.cons (Span.ofSeconds 60) .acquire _ _ _ _ _ rfl (.nil _)
  have quiet := silent_after_shutdown {}
  refine ⟨⟨past, _, [_, _, _, _], _, [_, _], _, happened.append h, rfl, rfl, ?_, ?_⟩, _, rfl, ?_⟩
  · exact ⟨_, List.mem_cons_of_mem _ List.mem_cons_self, List.mem_singleton_self _⟩
  · refine quiet.1 past _ [_, _, _, _] _ [_, _] _ 7 (happened.append h) ?_ rfl rfl (by simp)
      (List.mem_singleton_self _)
    refine List.forall_mem_append.2 ⟨uses, ?_⟩
    simp only [List.cons_append, List.nil_append, List.forall_mem_cons]
    refine ⟨nofun, nofun, nofun, nofun, nofun, nofun, ?_, nofun, by simp⟩
    rintro d ⟨⟩
    rfl
  · exact quiet.2 _ _ _ _ _ (Span.ofSeconds 5) (.join 7) _ _ 7 Refresher.amidPass_run rfl
      (List.mem_singleton_self _)

end SecretLayers
