import SecretLayers.Properties.Compose
/-!
Results that are joined. Where all of them come to an end, the join is either all of their
values in the order of the results, or the error of one of them, whatever the order in
which they arrive and however many are watched together.
-/
namespace SecretLayers.Compose
set_option autoImplicit false

section
variable {α : Type}

/-- What a join of results may be, by the results alone. -/
inductive Joined (rs : List (Timed (Except Error α))) : Except Error (List α) → Prop
  | all {as : List α} (values : rs.map (·.value) = as.map .ok) : Joined rs (.ok as)
  | failed {r : Timed (Except Error α)} {e : Error} (mem : r ∈ rs) (value : r.value = .error e) :
      Joined rs (.error e)

namespace Joined

theorem cons_ok {rs : List (Timed (Except Error α))} {as : List α} (h : Joined rs (.ok as))
    (t : Instant) (a : α) : Joined (⟨t, .ok a⟩ :: rs) (.ok (a :: as)) := by
  cases h with
  | all values => exact .all (by simp [values])

theorem cons_error {rs : List (Timed (Except Error α))} {e : Error} (h : Joined rs (.error e))
    (r : Timed (Except Error α)) : Joined (r :: rs) (.error e) := by
  cases h with
  | failed mem value => exact .failed (List.mem_cons_of_mem r mem) value

end Joined

/-! ## Joining in order -/

theorem inOrder_joined (start : Instant) (rs : List (Timed (Except Error α))) :
    ∃ t result, inOrder start (rs.map some) = some ⟨t, result⟩ ∧ Joined rs result := by
  induction rs generalizing start with
  | nil => exact ⟨start, .ok [], rfl, .all rfl⟩
  | cons r rs ih =>
    obtain ⟨t, value⟩ := r
    cases value with
    | error e => exact ⟨max start t, .error e, rfl, .failed List.mem_cons_self rfl⟩
    | ok a =>
      obtain ⟨u, result, hrest, joined⟩ := ih (max start t)
      cases result with
      | error e => exact ⟨u, .error e, by simp [inOrder, hrest], joined.cons_error _⟩
      | ok as => exact ⟨u, .ok (a :: as), by simp [inOrder, hrest], joined.cons_ok t a⟩

/-! ## Joining what is watched together -/

theorem earliestError_mem {rs : List (Timed (Except Error α))} {t : Instant} {e : Error}
    (h : earliestError (rs.map some) = some ⟨t, e⟩) : ∃ r ∈ rs, r.value = .error e := by
  induction rs generalizing t e with
  | nil => simp [earliestError] at h
  | cons r rs ih =>
    have behind {u : Instant} {e' : Error} (hrest : earliestError (rs.map some) = some ⟨u, e'⟩) :
        ∃ x ∈ r :: rs, x.value = .error e' := by
      obtain ⟨x, hx, hvalue⟩ := ih hrest
      exact ⟨x, List.mem_cons_of_mem r hx, hvalue⟩
    obtain ⟨u, value⟩ := r
    simp only [List.map_cons, earliestError] at h
    cases value with
    | ok a => exact behind h
    | error e' =>
      cases hrest : earliestError (rs.map some) with
      | none =>
        simp only [hrest, Option.some.injEq, Timed.mk.injEq] at h
        exact ⟨⟨u, .error e'⟩, List.mem_cons_self, congrArg Except.error h.2⟩
      | some first =>
        simp only [hrest] at h
        by_cases earlier : first.instant < u
        · rw [if_pos earlier] at h
          exact behind (hrest.trans h)
        · rw [if_neg earlier, Option.some.injEq, Timed.mk.injEq] at h
          exact ⟨⟨u, .error e'⟩, List.mem_cons_self, congrArg Except.error h.2⟩

/-- A join of results that all come to an end. -/
theorem join_joined (start : Instant) (rs : List (Timed (Except Error α))) :
    ∃ t result, join start (rs.map some) = some ⟨t, result⟩ ∧ Joined rs result := by
  unfold join together
  by_cases few : (rs.map some).length ≤ watchLimit
  · rw [if_pos few]
    cases hfirst : earliestError (rs.map some) with
    | none => exact inOrder_joined start rs
    | some first =>
      obtain ⟨t, e⟩ := first
      obtain ⟨r, hr, hvalue⟩ := earliestError_mem hfirst
      exact ⟨t, .error e, rfl, .failed hr hvalue⟩
  · rw [if_neg few]
    exact inOrder_joined start rs

end

/-! ## Reads under the policy -/

/-- Reads that came to an end, with their entries. -/
abbrev Ended := List (Backend.Entry × Timed (Except Error (Option Store.Reading)))

/-- The source that an entry is to have: what is read under its new keys, with a lease if
one with an id and a term was granted, and nothing where nothing was read. -/
def expected (entry : Backend.Entry) (read : Timed (Except Error (Option Store.Reading))) : Source :=
  match read.value with
  | .ok (some r) =>
    { name := entry.name
      properties := entry.transform.apply (Properties.flatten r.data)
      lease :=
        if r.leaseId.getD "" ≠ "" ∧ 0 < r.leaseSeconds then
          some { id := r.leaseId.getD "", lease := ⟨r.leaseSeconds, read.instant⟩, renewable := r.renewable }
        else none }
  | .ok none | .error _ => .empty entry.name

theorem expected_name (entry : Backend.Entry)
    (read : Timed (Except Error (Option Store.Reading))) : (expected entry read).name = entry.name := by
  unfold expected
  split <;> rfl

theorem leaseOf_eq (r : Store.Reading) (now : Instant) :
    leaseOf r now =
      if r.leaseId.getD "" ≠ "" ∧ 0 < r.leaseSeconds then
        some { id := r.leaseId.getD "", lease := ⟨r.leaseSeconds, now⟩, renewable := r.renewable }
      else none := by
  unfold leaseOf
  cases r.leaseId with
  | none => simp
  | some id => rfl

theorem loadSource_eq (failFast : Bool) (entry : Backend.Entry)
    (read : Timed (Except Error (Option Store.Reading))) :
    loadSource failFast entry read = .ok (expected entry read) ∨
      ∃ e, read.value = .error e ∧ aborts failFast e = true ∧
        loadSource failFast entry read = .error e := by
  obtain ⟨t, value⟩ := read
  rcases value with e | _ | r
  · by_cases h : aborts failFast e = true
    · exact .inr ⟨e, rfl, h, by simp [loadSource, h]⟩
    · exact .inl (by simp [loadSource, h, expected])
  · exact .inl rfl
  · exact .inl (by simp only [loadSource, sourceOf, leaseOf_eq, expected, Store.Reading.properties])

/-- What a composition may come to, by the outcomes of its reads alone. -/
structure Meets (failFast : Bool) (reads : Ended) (result : Except Error View) : Prop where
  ok_iff : (∃ view, result = .ok view) ↔
    ∀ read ∈ reads, ∀ e, read.2.value = .error e → aborts failFast e = false
  error_mem : ∀ e, result = .error e →
    aborts failFast e = true ∧ ∃ read ∈ reads, read.2.value = .error e
  sources : ∀ view, result = .ok view →
    view.sources = reads.map fun read => expected read.1 read.2

/-- The sources have the names of their entries. -/
theorem Meets.names {failFast : Bool} {reads : Ended} {view : View}
    (h : Meets failFast reads (.ok view)) :
    view.sources.map (·.name) = (reads.map (·.1)).map (·.name) := by
  rw [h.sources view rfl, List.map_map, List.map_map]
  exact List.map_congr_left fun read _ => expected_name read.1 read.2

/-- The results of reads under the policy. -/
def loaded (failFast : Bool) (reads : Ended) : List (Timed (Except Error Source)) :=
  reads.map fun read => ⟨read.2.instant, loadSource failFast read.1 read.2⟩

section
variable {failFast : Bool} {rs : Ended}

theorem loaded_values {sources : List Source}
    (h : (loaded failFast rs).map (·.value) = sources.map .ok) :
    sources = rs.map fun read => expected read.1 read.2 := by
  induction rs generalizing sources with
  | nil => simpa [loaded, eq_comm] using h
  | cons read rs ih =>
    cases sources with
    | nil => simp [loaded] at h
    | cons source sources =>
      simp only [loaded, List.map_cons, List.cons.injEq] at h
      obtain ⟨hsource, hrest⟩ := h
      have hrest := ih hrest
      rcases loadSource_eq failFast read.1 read.2 with heq | ⟨e, -, -, heq⟩
      · rw [heq, Except.ok.injEq] at hsource
        rw [List.map_cons, ← hrest, hsource]
      · rw [heq] at hsource
        cases hsource

theorem loaded_error {r : Timed (Except Error Source)} {e : Error} (mem : r ∈ loaded failFast rs)
    (value : r.value = .error e) :
    aborts failFast e = true ∧ ∃ read ∈ rs, read.2.value = .error e := by
  obtain ⟨read, hread, rfl⟩ := List.mem_map.1 mem
  rcases loadSource_eq failFast read.1 read.2 with heq | ⟨e', hvalue, habort, heq⟩
  · rw [heq] at value
    cases value
  · rw [heq, Except.error.injEq] at value
    subst value
    exact ⟨habort, read, hread, hvalue⟩

/-- An error of a read that ends the composition is among the results. -/
theorem loaded_of_abort
    {read : Backend.Entry × Timed (Except Error (Option Store.Reading))} {e : Error}
    (mem : read ∈ rs) (value : read.2.value = .error e) (abort : aborts failFast e = true) :
    Except.error e ∈ (loaded failFast rs).map (·.value) := by
  refine List.mem_map.2 ⟨_, List.mem_map_of_mem mem, ?_⟩
  simp only [loadSource, value, abort, if_true]

theorem meets_of_joined {result : Except Error (List Source)} (h : Joined (loaded failFast rs) result) :
    Meets failFast rs (result.map View.mk) := by
  cases h with
  | @all sources values =>
    refine ⟨⟨?_, ?_⟩, ?_, ?_⟩
    · intro _ read hread e hvalue
      cases habort : aborts failFast e with
      | false => rfl
      | true =>
        have hmem := loaded_of_abort hread hvalue habort
        rw [values] at hmem
        simp at hmem
    · intro _
      exact ⟨⟨sources⟩, rfl⟩
    · intro e he
      cases he
    · intro view hview
      obtain rfl := Except.ok.inj hview
      exact loaded_values values
  | @failed r e mem value =>
    obtain ⟨habort, read, hread, hvalue⟩ := loaded_error mem value
    refine ⟨⟨?_, ?_⟩, ?_, ?_⟩
    · intro ⟨view, hview⟩
      cases hview
    · intro tolerated
      rw [tolerated read hread e hvalue] at habort
      cases habort
    · intro e' he
      obtain rfl := Except.error.inj he
      exact ⟨habort, read, hread, hvalue⟩
    · intro view hview
      cases hview

end

/-- Reads that all come to an end make a view, or end in the error of one of them. -/
theorem reads_meets (failFast : Bool) (start : Instant) (rs : Ended) :
    ∃ t result, reads failFast start (rs.map fun read => (read.1, some read.2)) = some ⟨t, result⟩ ∧
      Meets failFast rs result := by
  obtain ⟨t, result, hjoin, joined⟩ := join_joined start (loaded failFast rs)
  refine ⟨t, result.map View.mk, ?_, meets_of_joined joined⟩
  have hloaded : (rs.map fun read => (read.1, some read.2)).map (fun (entry, read) =>
      read.map fun r => (⟨r.instant, loadSource failFast entry r⟩ : Timed (Except Error Source))) =
      (loaded failFast rs).map some := by
    simp [loaded]
  simp only [reads, hloaded, hjoin, Option.map_some]

theorem readsDone_meets (failFast : Bool) (start : Instant) (rs : Ended) :
    Meets failFast rs (readsDone failFast start rs).value := by
  obtain ⟨t, result, hreads, meets⟩ := reads_meets failFast start rs
  have hdone : readsDone failFast start rs = ⟨t, result⟩ := by
    simp only [readsDone, hreads, Option.get_some]
  rw [hdone]
  exact meets

end SecretLayers.Compose
