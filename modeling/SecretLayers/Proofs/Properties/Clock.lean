import SecretLayers.Proofs.Properties.Freshness
import SecretLayers.Proofs.Session.Clock
/-!
Refreshers on a clock. Where reads are answered at once, the answer to every pass is due as soon as the
pass is under way. A timeline lets time pass only when nothing is due any more, so no pass is under way
then, and the timeline is a life.
-/
namespace SecretLayers
set_option autoImplicit false

namespace Timeline
variable {σ ρ ε α : Type} {w : Surroundings ρ ε α}

theorem takeDue?_some {limit : Instant} {es others : List (Expected ε)} {e : Expected ε}
    (h : takeDue? limit es = some (e, others)) : ∀ x ∈ es, x = e ∨ x ∈ others := by
  induction es generalizing others with
  | nil => cases h
  | cons y es ih =>
    unfold takeDue? at h
    split at h
    · obtain ⟨rfl, rfl⟩ := Prod.mk.inj (Option.some.inj h)
      exact fun x hx => List.mem_cons.1 hx
    · obtain ⟨⟨found, rest⟩, hfound, made⟩ := Option.map_eq_some_iff.1 h
      obtain ⟨rfl, rfl⟩ := Prod.mk.inj made
      intro x hx
      rcases List.mem_cons.1 hx with rfl | hx
      · exact .inr List.mem_cons_self
      · exact (ih hfound x hx).imp_right (List.mem_cons_of_mem y)

/-- What is expected stays so while actions are noted. -/
theorem mem_expected_foldl_note (actions : List α) {t : Timeline σ ρ ε α} {x : Expected ε}
    (hx : x ∈ t.expected) : x ∈ (actions.foldl (note w) t).expected := by
  induction actions generalizing t with
  | nil => exact hx
  | cons a actions ih => exact ih (List.mem_append_left _ hx)

end Timeline

namespace Refresher
variable {ρ : Type}

/-! ## Answers that are there at once -/

/-- Every read is answered, and takes no time. -/
def IsPrompt (respond : ρ → Backend.Entry → ρ × Option (Span × Except Error (Option Store.Reading))) :
    Prop :=
  ∀ around entry, ∃ result, (respond around entry).2 = some (0, result)

/-- The answer to the pass of a caller is there. -/
structure IsAnswer (x : Expected Event) (now : Instant) (caller : Option Nat) : Prop where
  due : x.due ≤ now
  answers : ∃ result, ∀ u, x.event u = .answered caller result

variable {respond : ρ → Backend.Entry → ρ × Option (Span × Except Error (Option Store.Reading))}

theorem exists_answer_of_reading (prompt : IsPrompt respond) {actions : List Action}
    {t : Timeline Refresher ρ Event Action} {caller : Option Nat} {entry : Backend.Entry}
    (h : .reading caller entry ∈ actions) :
    ∃ x ∈ (actions.foldl (Timeline.note (surroundings respond)) t).expected, IsAnswer x t.now caller := by
  induction actions generalizing t with
  | nil => cases h
  | cons a actions ih =>
    rcases List.mem_cons.1 h with rfl | h
    · obtain ⟨result, hresult⟩ := prompt t.around entry
      refine ⟨⟨t.now, fun _ => .answered caller result⟩, ?_, Nat.le_refl _, result, fun _ => rfl⟩
      refine Timeline.mem_expected_foldl_note actions (List.mem_append_right _ ?_)
      simp [hresult]
    · exact ih h

/-! ## Passes under way -/

section
variable {r r' : Refresher} {now : Instant} {p : Pass}

theorem mem_passes_proceed {caller : Option Nat} {n : Nat} {es : List Backend.Entry}
    (hp : p ∈ (r.proceed caller n es).1.passes) :
    p ∈ r.passes ∨ .reading p.caller p.entry ∈ (r.proceed caller n es).2 := by
  cases es with
  | nil => cases caller <;> exact .inl hp
  | cons e es =>
    rcases List.mem_cons.1 hp with rfl | hp
    · exact .inr (List.mem_singleton_self _)
    · exact .inl hp

theorem mem_passes_begin {caller : Option Nat} (hp : p ∈ (r.begin now caller).1.passes) :
    p ∈ r.passes ∨ .reading p.caller p.entry ∈ (r.begin now caller).2 := by
  cases hagenda : r.agenda? now with
  | none =>
    have abandons : r.begin now caller = r.abandon caller := by
      unfold Refresher.begin
      rw [hagenda]
    rw [abandons] at hp ⊢
    cases caller <;> exact .inl hp
  | some agenda =>
    rw [begin_of_agenda hagenda] at hp ⊢
    exact mem_passes_proceed hp

/-- A pass that is under way after a step has been so before, and is not the one that was answered, or
the step begins to read its entry. -/
theorem mem_passes_step {e : Event} {made : Refresher × List Action} (steps : r.Steps now e made)
    (hp : p ∈ made.1.passes) :
    (p ∈ r.passes ∧ ∀ result, e ≠ .answered p.caller result) ∨ .reading p.caller p.entry ∈ made.2 := by
  cases steps with
  | refresh c => exact (mem_passes_begin hp).imp_left fun hp => ⟨hp, by simp⟩
  | tick ticks => exact (mem_passes_begin hp).imp_left fun hp => ⟨hp, by simp⟩
  | @answered caller q result under =>
    have named : q.caller = caller := by simpa using List.find?_some under
    obtain ⟨n, hland⟩ := r.exists_land_eq now q result
    rw [hland] at hp ⊢
    refine (mem_passes_proceed hp).imp_left fun hp => ?_
    obtain ⟨before, other⟩ := List.mem_filter.1 hp
    refine ⟨before, fun result' same => ?_⟩
    simp only [Event.answered.injEq] at same
    exact of_decide_eq_true other (same.1.symm.trans named.symm)
  | launch | stop | shutdown | join | drop => exact .inl ⟨hp, by simp⟩

theorem quiet_until {u : Instant}
    (quiet : ∀ e ∈ system.urgent r ++ [system.tick, system.launch], r.step? now e = none)
    (due : ∀ d, r.poller.due? = some d → u < d) :
    ∀ e ∈ system.urgent r ++ [system.tick, system.launch], r.step? u e = none := by
  intro e he
  have hnow := quiet e he
  simp only [system, List.mem_append, List.mem_cons, List.mem_map, List.not_mem_nil, or_false] at he
  rcases he with (rfl | ⟨c, -, rfl⟩) | rfl | rfl
  · exact hnow
  · exact hnow
  · exact Option.map_eq_none_iff.2 (Poller.tick?_none due)
  · exact Option.map_eq_none_iff.2 (Poller.launch?_none_later (Option.map_eq_none_iff.1 hnow))

end

/-! ## Refreshers on a clock -/

/-- A timeline that has come to its state by a life, and expects an answer to each pass. -/
structure Living (r : Refresher) (begun : Instant) (ms : List Move)
    (t : Timeline Refresher ρ Event Action) : Prop where
  lives : Lives r begun ms t.state t.now
  answered : ∀ p ∈ t.state.passes, ∃ x ∈ t.expected, IsAnswer x t.now p.caller

namespace Living
variable {r : Refresher} {begun : Instant} {ms : List Move} {t t' : Timeline Refresher ρ Event Action}

theorem start (t : Timeline Refresher ρ Event Action) (idle : t.state.passes = []) :
    Living t.state t.now [] t where
  lives := .start
  answered := by simp [idle]

/-- An event happens, and the answers to all other passes are expected. -/
theorem happens (h : Living r begun ms t) (prompt : IsPrompt respond) {expected : List (Expected Event)}
    {e : Event} (others : ∀ p ∈ t.state.passes, (∀ result, e ≠ .answered p.caller result) →
      ∃ x ∈ expected, IsAnswer x t.now p.caller)
    (happens : ({ t with expected } : Timeline Refresher ρ Event Action).happen? system
      (surroundings respond) e = some t') : ∃ ns, Living r begun (ms ++ ns) t' := by
  obtain ⟨⟨state, seen⟩, step, rfl⟩ := Option.map_eq_some_iff.1 happens
  obtain ⟨hstate, hnow⟩ := Timeline.foldl_note (w := surroundings respond) seen { t with expected, state }
  refine ⟨[⟨t.now, e, t.state, state⟩], ?_, ?_⟩
  · rw [hstate, hnow]
    exact .step h.lives step
  · rw [hstate, hnow]
    intro p hp
    rcases mem_passes_step (steps_of_step? step) hp with ⟨before, other⟩ | reads
    · obtain ⟨x, hx, answer⟩ := others p before other
      exact ⟨x, Timeline.mem_expected_foldl_note seen hx, answer⟩
    · exact exists_answer_of_reading prompt reads

theorem immediate (h : Living r begun ms t) (prompt : IsPrompt respond)
    (next : t.immediate? system (surroundings respond) = some t') : ∃ ns, Living r begun (ms ++ ns) t' := by
  have expected : ∀ p ∈ t.state.passes, ∃ x ∈ t.expected, IsAnswer x t.now p.caller := h.answered
  rcases Option.or_eq_some_iff.1 next with urgent | ⟨-, rest⟩
  · obtain ⟨e, -, happens⟩ := List.exists_of_findSome?_eq_some urgent
    exact h.happens prompt (fun p hp _ => expected p hp) happens
  · split at rest
    · rename_i x others taken
      obtain rfl := Option.some.inj rest
      have partition := Timeline.takeDue?_some taken
      unfold Timeline.happen
      cases happens : ({ t with expected := others } : Timeline Refresher ρ Event Action).happen? system
          (surroundings respond) (x.event t.now) with
      | some t' =>
        refine h.happens prompt (fun p hp other => ?_) happens
        obtain ⟨y, hy, answer⟩ := expected p hp
        rcases partition y hy with rfl | hy
        · obtain ⟨result, answers⟩ := answer.answers
          exact absurd (answers t.now) (other result)
        · exact ⟨y, hy, answer⟩
      | none =>
        refine ⟨[], by rw [List.append_nil]; exact h.lives, fun p hp => ?_⟩
        obtain ⟨y, hy, answer⟩ := expected p hp
        rcases partition y hy with rfl | hy
        · -- The answer to a pass that is under way always arrives.
          obtain ⟨result, answers⟩ := answer.answers
          have missed := Option.map_eq_none_iff.1 happens
          rw [answers] at missed
          have under := List.find?_eq_none.1 (Option.map_eq_none_iff.1 missed) p hp
          exact absurd (by simp) under
        · exact ⟨y, hy, answer⟩
    · rcases Option.or_eq_some_iff.1 rest with tick | ⟨-, launch⟩
      · exact h.happens prompt (fun p hp _ => expected p hp) tick
      · exact h.happens prompt (fun p hp _ => expected p hp) launch

/-- Time passes to the next thing that is due. -/
theorem pass (h : Living r begun ms t) {due : Instant}
    (idle : ∀ e ∈ system.urgent t.state ++ [system.tick, system.launch],
      t.state.step? t.now e = none)
    (later : ∀ e ∈ t.expected, t.now < e.due) (next : t.nextDue? system = some due) :
    Living r begun ms { t with now := due } := by
  have none_under : t.state.passes = [] := by
    refine List.eq_nil_iff_forall_not_mem.2 fun p hp => ?_
    obtain ⟨x, hx, answer⟩ := h.answered p hp
    exact Nat.not_lt.2 answer.due (later x hx)
  have tick : ∀ d, t.state.poller.due? = some d → t.now < d := fun d =>
    Poller.lt_due_of_tick?_none (Option.map_eq_none_iff.1 (idle .tick (by simp [system])))
  obtain ⟨ahead, sleeping⟩ := Timeline.nextDue?_bounds next later tick
  refine ⟨.wait h.lives (Nat.le_of_lt ahead) fun u _ soon => ⟨none_under, ?_⟩, by simp [none_under]⟩
  exact quiet_until idle fun d hd => Nat.lt_of_lt_of_le soon (sleeping d hd)

/-- What a timeline does while it advances goes on with its life, if reads are answered at once. -/
theorem advance (prompt : IsPrompt respond) (limit : Option Instant)
    (going : Timeline Refresher ρ Event Action → Bool) (n : Nat) (h : Living r begun ms t) :
    ∃ ns, Living r begun (ms ++ ns) (t.advance system (surroundings respond) limit going n) := by
  induction n generalizing ms t with
  | zero => exact ⟨[], by rw [List.append_nil]; exact h⟩
  | succ n ih =>
    have stays : ∃ ns, Living r begun (ms ++ ns) t := ⟨[], by rw [List.append_nil]; exact h⟩
    unfold SecretLayers.Timeline.advance
    split
    · exact stays
    · split
      · rename_i t' happens
        obtain ⟨now, more⟩ := h.immediate prompt happens
        obtain ⟨later, done⟩ := ih more
        exact ⟨now ++ later, by rw [← List.append_assoc]; exact done⟩
      · rename_i nothing
        obtain ⟨idle, answers⟩ := Timeline.immediate?_none nothing
        split
        · rename_i due next
          split
          · exact ih (h.pass idle answers next)
          · exact stays
        · exact stays

end Living
end Refresher
end SecretLayers
