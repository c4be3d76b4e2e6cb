import SecretLayers.Proofs.Session.Renewal
/-!
Histories on a clock. A timeline lets the time pass only when there is nothing left that its
system does of its own accord, and no further than to the next thing that is due. So what it
does is a history in which every move follows the one before.
-/
namespace SecretLayers
set_option autoImplicit false

/-! ## What a poller does of its own accord -/

namespace Poller
variable {p : Poller} {interval : Span} {now u d : Instant}

theorem lt_due_of_tick?_none (h : p.tick? interval now = none) (due : p.due? = some d) : now < d := by
  cases p with
  | sleeping d' =>
    obtain rfl := Option.some.inj due
    simpa [tick?] using h
  | _ => cases due

theorem tick?_none (h : ∀ d, p.due? = some d → u < d) : p.tick? interval u = none := by
  cases p with
  | sleeping d => exact if_neg (Nat.not_le.2 (h d rfl))
  | _ => rfl

theorem launch?_none_later (h : p.launch? interval now = none) : p.launch? interval u = none := by
  cases p with
  | fresh => cases h
  | _ => rfl

end Poller

namespace Timeline
variable {σ ρ ε α : Type} {s : System σ ε α} {w : Surroundings ρ ε α} {t t' : Timeline σ ρ ε α}

/-! ## One thing at a time -/

theorem foldl_note (actions : List α) (t : Timeline σ ρ ε α) :
    (actions.foldl (note w) t).state = t.state ∧ (actions.foldl (note w) t).now = t.now := by
  induction actions generalizing t with
  | nil => exact ⟨rfl, rfl⟩
  | cons a actions ih => exact ih (note w t a)

/-- At one instant a timeline takes a step of its system, or an answer comes too late. -/
def Proceeds (s : System σ ε α) (t t' : Timeline σ ρ ε α) : Prop :=
  t'.now = t.now ∧
    (t'.state = t.state ∨ ∃ e actions, s.step? t.state t.now e = some (t'.state, actions))

theorem happen?_proceeds {e : ε} (h : t.happen? s w e = some t') : Proceeds s t t' := by
  obtain ⟨⟨state, actions⟩, step, rfl⟩ := Option.map_eq_some_iff.1 h
  obtain ⟨hstate, hnow⟩ := foldl_note (w := w) actions { t with state }
  exact ⟨hnow, .inr ⟨e, actions, by rw [hstate]; exact step⟩⟩

theorem happen_proceeds (e : ε) : Proceeds s t (t.happen s w e) := by
  unfold happen
  cases h : t.happen? s w e with
  | none => exact ⟨rfl, .inl rfl⟩
  | some t' => exact happen?_proceeds h

theorem immediate?_proceeds (h : t.immediate? s w = some t') : Proceeds s t t' := by
  rcases Option.or_eq_some_iff.1 h with urgent | ⟨-, rest⟩
  · obtain ⟨e, -, happens⟩ := List.exists_of_findSome?_eq_some urgent
    exact happen?_proceeds happens
  · split at rest
    · obtain rfl := Option.some.inj rest
      exact happen_proceeds (t := { t with expected := _ }) _
    · rcases Option.or_eq_some_iff.1 rest with tick | ⟨-, launch⟩
      · exact happen?_proceeds tick
      · exact happen?_proceeds launch

theorem takeDue?_none {limit : Instant} {es : List (Expected ε)} (h : takeDue? limit es = none) :
    ∀ e ∈ es, limit < e.due := by
  induction es with
  | nil => simp
  | cons e es ih =>
    unfold takeDue? at h
    split at h
    · cases h
    · rename_i later
      exact List.forall_mem_cons.2 ⟨Nat.not_le.1 later, ih (Option.map_eq_none_iff.1 h)⟩

theorem immediate?_none (h : t.immediate? s w = none) :
    (∀ e ∈ s.urgent t.state ++ [s.tick, s.launch], s.step? t.state t.now e = none) ∧
      ∀ e ∈ t.expected, t.now < e.due := by
  obtain ⟨urgent, rest⟩ := Option.or_eq_none_iff.1 h
  split at rest
  · cases rest
  · rename_i later
    obtain ⟨tick, launch⟩ := Option.or_eq_none_iff.1 rest
    refine ⟨fun e he => ?_, takeDue?_none later⟩
    simp only [List.mem_append, List.mem_cons, List.not_mem_nil, or_false] at he
    rcases he with he | rfl | rfl
    · exact Option.map_eq_none_iff.1 (List.findSome?_eq_none_iff.1 urgent e he)
    · exact Option.map_eq_none_iff.1 tick
    · exact Option.map_eq_none_iff.1 launch

/-- The next thing that is due is no later than the next tick, and lies ahead if all that is to come
does. -/
theorem nextDue?_bounds {due : Instant} (next : t.nextDue? s = some due)
    (later : ∀ e ∈ t.expected, t.now < e.due) (tick : ∀ d, s.tickDue? t.state = some d → t.now < d) :
    t.now < due ∧ ∀ d, s.tickDue? t.state = some d → due ≤ d := by
  obtain ⟨mem, least⟩ := List.min?_eq_some_iff.1 next
  refine ⟨?_, fun d hd => least d (List.mem_append_right _ (by rw [hd]; exact List.mem_singleton_self d))⟩
  rcases List.mem_append.1 mem with answer | due
  · obtain ⟨e, he, rfl⟩ := List.mem_map.1 answer
    exact later e he
  · exact tick _ (Option.mem_toList.1 due)

end Timeline

namespace Session

/-! ## Sessions on a clock -/

/-- What is impossible by itself stays so until the next tick. -/
theorem quiet_until {s : Session} {now u : Instant}
    (quiet : ∀ e ∈ system.urgent s ++ [system.tick, system.launch], s.step? now e = none)
    (due : ∀ d, s.poller.due? = some d → u < d) :
    ∀ e ∈ system.urgent s ++ [system.tick, system.launch], s.step? u e = none := by
  intro e he
  have hnow := quiet e he
  simp only [system, List.mem_append, List.mem_cons, List.mem_map, List.not_mem_nil,
    or_false] at he
  rcases he with (rfl | rfl | ⟨c, -, rfl⟩) | rfl | rfl
  · simp only [step?] at hnow ⊢
    split at hnow
    · cases hnow
    · rfl
  · exact hnow
  · exact hnow
  · exact Option.map_eq_none_iff.2 (Poller.tick?_none due)
  · exact Option.map_eq_none_iff.2 (Poller.launch?_none_later (Option.map_eq_none_iff.1 hnow))

theorem History.after_last {s t : Session} {ms : List Move} (h : History s ms t) :
    ∀ m ∈ ms.getLast?, m.after = t := by
  induction h with
  | nil s => simp
  | @cons now e s s' t seen ms _ rest ih =>
    intro m hm
    cases ms with
    | nil =>
      cases rest
      obtain rfl := Option.some.inj hm
      rfl
    | cons n ms => exact ih m (by simpa using hm)

/-- A timeline that has come to its state by moves that follow one another, and has left
nothing undone since the last. -/
structure Recorded (d : Discipline) (ms : List Move) (t : Timeline) : Prop where
  history : History (start d) ms t.state
  follows : ms.IsChain Move.Follows
  le : ∀ m ∈ ms.getLast?, m.now ≤ t.now
  quiet : ∀ m ∈ ms.getLast?, ∀ u, m.now ≤ u → u < t.now →
    ∀ e ∈ system.urgent t.state ++ [system.tick, system.launch], t.state.step? u e = none

namespace Recorded
variable {d : Discipline} {ms : List Move} {t t' : Timeline}

theorem start (t : Timeline) (h : t.state = Session.start d) : Recorded d [] t where
  history := h ▸ .nil _
  follows := .nil
  le := by simp
  quiet := by simp

theorem proceeds (h : Recorded d ms t) (next : Timeline.Proceeds system t t') :
    ∃ ns, Recorded d (ms ++ ns) t' := by
  obtain ⟨now, same | ⟨e, seen, step⟩⟩ := next
  · refine ⟨[], ?_⟩
    rw [List.append_nil]
    exact ⟨same ▸ h.history, h.follows, now ▸ h.le, by rw [same, now]; exact h.quiet⟩
  · refine ⟨[⟨t.now, e, t.state, t'.state, seen⟩], h.history.concat step, ?_, ?_, ?_⟩
    · refine List.isChain_append.2 ⟨h.follows, .singleton _, fun m hm n hn => ?_⟩
      obtain rfl := Option.some.inj hn
      refine ⟨h.le m hm, ?_⟩
      rw [h.history.after_last m hm]
      exact h.quiet m hm
    · rintro m hm
      obtain rfl : _ = m := by simpa using hm
      exact Nat.le_of_eq now.symm
    · rintro m hm u le lt
      obtain rfl : _ = m := by simpa using hm
      exact absurd (now ▸ lt) (Nat.not_lt.2 le)

/-- Time passes to the next thing that is due. -/
theorem pass (h : Recorded d ms t) {due : Instant}
    (idle : ∀ e ∈ system.urgent t.state ++ [system.tick, system.launch],
      t.state.step? t.now e = none)
    (later : ∀ e ∈ t.expected, t.now < e.due) (next : t.nextDue? system = some due) :
    Recorded d ms { t with now := due } := by
  have tick : ∀ d, t.state.poller.due? = some d → t.now < d := fun d =>
    Poller.lt_due_of_tick?_none (Option.map_eq_none_iff.1 (idle .tick (by simp [system])))
  obtain ⟨ahead, sleeping⟩ := Timeline.nextDue?_bounds next later tick
  refine ⟨h.history, h.follows, fun m hm => Nat.le_trans (h.le m hm) (Nat.le_of_lt ahead),
    fun m hm u since lt => ?_⟩
  by_cases earlier : u < t.now
  · exact h.quiet m hm u since earlier
  · exact quiet_until idle fun d hd => Nat.lt_of_lt_of_le lt (sleeping d hd)

/-- What a timeline does while it advances follows what it has done. -/
theorem advance (w : Surroundings Tally Event Action) (limit : Option Instant)
    (going : Timeline → Bool) (n : Nat) (h : Recorded d ms t) :
    ∃ ns, Recorded d (ms ++ ns) (t.advance system w limit going n) := by
  induction n generalizing ms t with
  | zero => exact ⟨[], by rw [List.append_nil]; exact h⟩
  | succ n ih =>
    have stays : ∃ ns, Recorded d (ms ++ ns) t := ⟨[], by simpa using h⟩
    unfold SecretLayers.Timeline.advance
    split
    · exact stays
    · split
      · rename_i t' happens
        obtain ⟨now, more⟩ := h.proceeds (Timeline.immediate?_proceeds happens)
        obtain ⟨later, done⟩ := ih more
        exact ⟨now ++ later, by rw [← List.append_assoc]; exact done⟩
      · rename_i nothing
        obtain ⟨idle, answers⟩ := Timeline.immediate?_none nothing
        split
        · rename_i due next
          split
          · exact ih (h.pass idle answers next)
          · exact stays
        · exact stays

end Recorded

end Session
end SecretLayers
