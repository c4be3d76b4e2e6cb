import SecretLayers.Proofs.Properties.Promptness
/-!
Joins while their results arrive. If results arrive in the order of their instants, and those of one
instant in the order in which they stand, then whatever a join comes to before all of them are there,
it comes to in the end.
-/
namespace SecretLayers.Compose
set_option autoImplicit false

/-! ## The earliest failure -/

section
variable {α : Type}

theorem earliest_of_earliestError {results : List (Eventually α)} {first : Timed Error}
    (h : earliestError results = some first) : Earliest results first := by
  rcases earliestError_spec results with ⟨f, found, least⟩ | ⟨none, -⟩
  · cases h.symm.trans found
    exact least
  · rw [none] at h
    cases h

theorem failed_notMem {results : List (Eventually α)} (h : earliestError results = none) :
    ∀ f, failed f ∉ results := by
  rcases earliestError_spec results with ⟨f, found, -⟩ | ⟨-, absent⟩
  · cases h.symm.trans found
  · exact absent

theorem earliestError_of_later {results : List (Eventually α)} {f : Timed Error}
    (later : ∀ g, earliestError results = some g → f.instant ≤ g.instant) :
    earliestError (failed f :: results) = some f := by
  cases found : earliestError results with
  | none => simp [earliestError, failed, found]
  | some g =>
    have bound : ¬ g.instant < f.instant := Nat.not_lt.2 (later g found)
    simp [earliestError, failed, found, bound]

theorem earliestError_of_earlier {results : List (Eventually α)} {f g : Timed Error}
    (found : earliestError results = some g) (earlier : g.instant < f.instant) :
    earliestError (failed f :: results) = some g := by
  simp [earliestError, failed, found, earlier]

end

/-! ## Results that arrive -/

/-- A result that comes in the end, and whether it is there. -/
structure Coming (α : Type) where
  result : Timed (Except Error α)
  there : Bool

namespace Coming
variable {α : Type}

def soFar (r : Coming α) : Eventually α := if r.there then some r.result else none

/-- Of two results in their places, one that is there does not come after one that is not. -/
structure InTime (a b : Coming α) : Prop where
  later : a.there = false → b.there = true → b.result.instant < a.result.instant
  sooner : a.there = true → b.there = false → a.result.instant ≤ b.result.instant

theorem soFar_eq_some {r : Coming α} {x : Timed (Except Error α)} (h : r.soFar = some x) :
    r.there = true ∧ r.result = x := by
  unfold soFar at h
  split at h
  · rename_i there
    exact ⟨there, Option.some.inj h⟩
  · cases h

end Coming

section
variable {α : Type} {rs : List (Coming α)}

theorem earliestError_soFar (inTime : rs.Pairwise Coming.InTime) {first : Timed Error}
    (h : earliestError (rs.map Coming.soFar) = some first) :
    earliestError (rs.map fun r => some r.result) = some first := by
  induction inTime generalizing first with
  | nil => cases h
  | @cons r rs hr _ ih =>
    obtain ⟨⟨t, value⟩, there⟩ := r
    rw [List.map_cons] at h ⊢
    cases there with
    | false =>
      cases value with
      | ok a => exact ih h
      | error e =>
        have found : earliestError (rs.map Coming.soFar) = some first := h
        refine earliestError_of_earlier (f := ⟨t, e⟩) (ih found) ?_
        obtain ⟨x, hx, found⟩ := List.mem_map.1 (earliest_of_earliestError found).mem
        obtain ⟨there, same⟩ := Coming.soFar_eq_some found
        have later := (hr x hx).later rfl there
        rw [same] at later
        exact later
    | true =>
      cases value with
      | ok a => exact ih h
      | error e =>
        have h : earliestError (failed ⟨t, e⟩ :: rs.map Coming.soFar) = some first := h
        show earliestError (failed ⟨t, e⟩ :: _) = _
        cases found : earliestError (rs.map Coming.soFar) with
        | some g =>
          by_cases earlier : g.instant < t
          · rw [earliestError_of_earlier found earlier] at h
            rw [earliestError_of_earlier (ih found) earlier, h]
          · rw [earliestError_of_later fun x hx => ?_] at h
            · rw [earliestError_of_later fun x hx => ?_, h]
              cases (ih found).symm.trans hx
              exact Nat.not_lt.1 earlier
            · cases found.symm.trans hx
              exact Nat.not_lt.1 earlier
        | none =>
          rw [earliestError_of_later (by simp [found])] at h
          rw [earliestError_of_later ?_, h]
          intro g hg
          obtain ⟨x, hx, same⟩ := List.mem_map.1 (earliest_of_earliestError hg).mem
          have same := Option.some.inj same
          -- A failure that is there would have been found.
          have absent : x.there = false := by
            refine Bool.eq_false_iff.2 fun there => failed_notMem found g (List.mem_map.2 ⟨x, hx, ?_⟩)
            rw [Coming.soFar, if_pos there, same]
            rfl
          have sooner := (hr x hx).sooner rfl absent
          rw [same] at sooner
          exact sooner

theorem inOrder_soFar {start : Instant} {r : Timed (Except Error (List α))}
    (h : inOrder start (rs.map Coming.soFar) = some r) :
    inOrder start (rs.map fun r => some r.result) = some r := by
  induction rs generalizing start r with
  | nil => exact h
  | cons x rs ih =>
    obtain ⟨⟨t, value⟩, there⟩ := x
    rw [List.map_cons] at h ⊢
    cases there with
    | false => cases h
    | true =>
      cases value with
      | error e => exact h
      | ok a =>
        simp only [Coming.soFar, if_true, inOrder] at h ⊢
        split at h
        · cases h
        · rename_i found
          rw [ih found]
          exact h
        · rename_i found
          rw [ih found]
          exact h

/-- Without failures a join in order waits for all results. -/
theorem there_of_inOrder {start : Instant} {r : Timed (Except Error (List α))}
    (h : inOrder start (rs.map Coming.soFar) = some r)
    (values : ∀ f, failed f ∉ rs.map Coming.soFar) :
    rs.map Coming.soFar = rs.map fun r => some r.result := by
  induction rs generalizing start r with
  | nil => rfl
  | cons x rs ih =>
    obtain ⟨⟨t, value⟩, there⟩ := x
    rw [List.map_cons] at h values ⊢
    cases there with
    | false => cases h
    | true =>
      cases value with
      | error e => exact absurd List.mem_cons_self (values ⟨t, e⟩)
      | ok a =>
        have rest : ∀ f, failed f ∉ rs.map Coming.soFar := fun f hf => values f (List.mem_cons_of_mem _ hf)
        simp only [Coming.soFar, if_true, inOrder] at h
        rw [List.map_cons]
        refine congrArg (_ :: ·) ?_
        split at h
        · cases h
        · rename_i found
          exact ih found rest
        · rename_i found
          exact ih found rest

/-- What a join comes to before all of its results are there, it comes to in the end. -/
theorem join_soFar (inTime : rs.Pairwise Coming.InTime) {start : Instant}
    {r : Timed (Except Error (List α))} (h : join start (rs.map Coming.soFar) = some r) :
    join start (rs.map fun r => some r.result) = some r := by
  unfold join at h ⊢
  rw [List.length_map] at h ⊢
  by_cases few : rs.length ≤ watchLimit
  · rw [if_pos few] at h ⊢
    unfold together at h ⊢
    cases found : earliestError (rs.map Coming.soFar) with
    | some first =>
      rw [found] at h
      rw [earliestError_soFar inTime found]
      exact h
    | none =>
      rw [found] at h
      rw [← there_of_inOrder h (failed_notMem found), found]
      exact h
  · rw [if_neg few] at h ⊢
    exact inOrder_soFar h

end

/-- What a composition comes to before all of its reads are there, it comes to in the end. -/
theorem reads_soFar {failFast : Bool} {start : Instant}
    {entries : List (Backend.Entry × Coming (Option Store.Reading))}
    (inTime : (entries.map (·.2)).Pairwise Coming.InTime) {r : Timed (Except Error View)}
    (h : reads failFast start (entries.map fun x => (x.1, x.2.soFar)) = some r) :
    r = readsDone failFast start (entries.map fun x => (x.1, x.2.result)) := by
  let sources : List (Coming Source) := entries.map fun x =>
    ⟨⟨x.2.result.instant, loadSource failFast x.1 x.2.result⟩, x.2.there⟩
  have inTime : sources.Pairwise Coming.InTime := by
    rw [List.pairwise_map] at inTime ⊢
    exact inTime.imp fun h => ⟨h.later, h.sooner⟩
  have soFar : reads failFast start (entries.map fun x => (x.1, x.2.soFar)) =
      (join start (sources.map Coming.soFar)).map fun r => ⟨r.instant, r.value.map View.mk⟩ := by
    unfold reads
    rw [List.map_map, List.map_map]
    refine congrArg (fun results => (join start results).map _) (List.map_congr_left fun x _ => ?_)
    obtain ⟨entry, result, there⟩ := x
    cases there <;> rfl
  obtain ⟨joined, found, rfl⟩ := Option.map_eq_some_iff.1 (soFar.symm.trans h)
  have done : reads failFast start ((entries.map fun x => (x.1, x.2.result)).map fun e => (e.1, some e.2)) =
      some ⟨joined.instant, joined.value.map View.mk⟩ := by
    unfold reads
    rw [List.map_map, List.map_map]
    have whole := join_soFar inTime found
    rw [List.map_map] at whole
    exact congrArg (Option.map _) whole
  unfold readsDone
  simp only [done, Option.get_some]

end SecretLayers.Compose
