import SecretLayers.Proofs.Properties.Composition
/-!
How soon a composition fails. Where every error ends it, reads that are watched together
fail it at the instant of the first failure to arrive. Results that are taken in their order
hide a failure behind every earlier read that is still under way, and the failure of a later
read behind that of an earlier one.
-/
namespace SecretLayers
set_option autoImplicit false

namespace Compose

section
variable {α β : Type}

/-- A result that has failed. -/
def failed (failure : Timed Error) : Eventually α := some ⟨failure.instant, .error failure.value⟩

/-- A result that is a value. -/
def arrived (value : Timed α) : Eventually α := some ⟨value.instant, .ok value.value⟩

theorem failed_inj {a b : Timed Error} (h : (failed a : Eventually α) = failed b) : a = b := by
  cases a
  cases b
  simpa [failed] using h

theorem failed_ne_arrived (a : Timed Error) (b : Timed α) : failed a ≠ arrived b := by
  simp [failed, arrived]

theorem result_cases (r : Eventually α) : r = none ∨ (∃ f, r = failed f) ∨ ∃ a, r = arrived a := by
  rcases r with _ | ⟨t, e | a⟩
  · exact .inl rfl
  · exact .inr (.inl ⟨⟨t, e⟩, rfl⟩)
  · exact .inr (.inr ⟨⟨t, a⟩, rfl⟩)

/-- A failure of results that no other precedes. -/
structure Earliest (results : List (Eventually α)) (first : Timed Error) : Prop where
  mem : failed first ∈ results
  le : ∀ other, failed other ∈ results → first.instant ≤ other.instant

/-- The first failure in order is not kept waiting: the results before it are values that are
there by its instant, and no failure behind it comes earlier. -/
inductive Unhindered (results : List (Eventually α)) : Prop
  | intro (before : List (Eventually α)) (first : Timed Error) (after : List (Eventually α))
      (split : results = before ++ failed first :: after)
      (there : ∀ r ∈ before, ∃ a, r = arrived a ∧ a.instant ≤ first.instant)
      (le : ∀ other, failed other ∈ after → first.instant ≤ other.instant) : Unhindered results

/-! ## Results that are watched together -/

theorem Earliest.cons {results : List (Eventually α)} {first : Timed Error}
    (h : Earliest results first) (r : Eventually α)
    (le : ∀ other, r = failed other → first.instant ≤ other.instant) :
    Earliest (r :: results) first where
  mem := List.mem_cons_of_mem r h.mem
  le other hother := by
    rcases List.mem_cons.1 hother with heq | hmem
    · exact le other heq.symm
    · exact h.le other hmem

theorem Earliest.here {results : List (Eventually α)} {first : Timed Error}
    (le : ∀ other, failed other ∈ results → first.instant ≤ other.instant) :
    Earliest (failed first :: results) first where
  mem := List.mem_cons_self
  le other hother := by
    rcases List.mem_cons.1 hother with heq | hmem
    · exact Nat.le_of_eq (congrArg Timed.instant (failed_inj heq).symm)
    · exact le other hmem

/-- The search finds an earliest failure, or there is none at all. -/
theorem earliestError_spec (results : List (Eventually α)) :
    (∃ first, earliestError results = some first ∧ Earliest results first) ∨
      earliestError results = none ∧ ∀ f, failed f ∉ results := by
  induction results with
  | nil => exact .inr ⟨rfl, fun f => List.not_mem_nil⟩
  | cons r rest ih =>
    rcases result_cases r with rfl | ⟨f, rfl⟩ | ⟨a, rfl⟩
    · rcases ih with ⟨first, hfirst, least⟩ | ⟨hnone, absent⟩
      · exact .inl ⟨first, hfirst, least.cons _ (by simp [failed])⟩
      · exact .inr ⟨hnone, by simpa [failed] using absent⟩
    · rcases ih with ⟨first, hfirst, least⟩ | ⟨hnone, absent⟩
      · by_cases earlier : first.instant < f.instant
        · refine .inl ⟨first, by simp [earliestError, failed, hfirst, earlier], least.cons _ ?_⟩
          intro other heq
          rw [← failed_inj heq]
          exact Nat.le_of_lt earlier
        · refine .inl ⟨f, by simp [earliestError, failed, hfirst, earlier], .here ?_⟩
          intro other hother
          exact Nat.le_trans (Nat.not_lt.1 earlier) (least.le other hother)
      · exact .inl ⟨f, by simp [earliestError, failed, hnone],
          .here fun other hother => absurd hother (absent other)⟩
    · rcases ih with ⟨first, hfirst, least⟩ | ⟨hnone, absent⟩
      · exact .inl ⟨first, hfirst, least.cons _ fun other heq =>
          absurd heq.symm (failed_ne_arrived other a)⟩
      · refine .inr ⟨hnone, fun f hf => ?_⟩
        rcases List.mem_cons.1 hf with heq | hmem
        · exact failed_ne_arrived f a heq
        · exact absent f hmem

theorem together_earliest (start : Instant) {results : List (Eventually α)}
    (fails : ∃ f, failed f ∈ results) :
    ∃ first, together start results = failed first ∧ Earliest results first := by
  rcases earliestError_spec results with ⟨first, hfirst, least⟩ | ⟨-, absent⟩
  · exact ⟨first, by simp only [together, hfirst]; rfl, least⟩
  · obtain ⟨f, hf⟩ := fails
    exact absurd hf (absent f)

/-! ## Results that are taken in their order -/

theorem inOrder_stalled {before : List (Eventually α)} (after : List (Eventually α))
    (there : ∀ r ∈ before, ∃ a, r = arrived a) (start : Instant) :
    inOrder start (before ++ none :: after) = none := by
  induction before generalizing start with
  | nil => rfl
  | cons r before ih =>
    obtain ⟨a, rfl⟩ := there r List.mem_cons_self
    have hrest := ih (fun r hr => there r (List.mem_cons_of_mem _ hr)) (max start a.instant)
    simp only [arrived, List.cons_append, inOrder, hrest]

/-- The first failure in order shows as soon as it and everything before it are there. -/
theorem inOrder_failed {before : List (Eventually α)} (first : Timed Error)
    (after : List (Eventually α)) (there : ∀ r ∈ before, ∃ a, r = arrived a) (start : Instant) :
    ∃ t, inOrder start (before ++ failed first :: after) = failed ⟨t, first.value⟩ ∧
      ∀ u, t ≤ u ↔ start ≤ u ∧ first.instant ≤ u ∧ ∀ a, arrived a ∈ before → a.instant ≤ u := by
  induction before generalizing start with
  | nil =>
    refine ⟨max start first.instant, rfl, fun u => ?_⟩
    rw [Nat.max_le]
    simp
  | cons r before ih =>
    obtain ⟨a, rfl⟩ := there r List.mem_cons_self
    obtain ⟨t, hrest, hle⟩ :=
      ih (fun r hr => there r (List.mem_cons_of_mem _ hr)) (max start a.instant)
    refine ⟨t, by simp only [arrived, List.cons_append, inOrder, hrest]; rfl, fun u => ?_⟩
    rw [hle u, Nat.max_le]
    constructor
    · rintro ⟨⟨hstart, ha⟩, hfirst, hbefore⟩
      refine ⟨hstart, hfirst, fun b hb => ?_⟩
      rcases List.mem_cons.1 hb with heq | hmem
      · have same : b.instant = a.instant := by
          simp only [arrived, Option.some.injEq, Timed.mk.injEq] at heq
          exact heq.1
        rw [same]
        exact ha
      · exact hbefore b hmem
    · rintro ⟨hstart, hfirst, hbefore⟩
      exact ⟨⟨hstart, hbefore a List.mem_cons_self⟩, hfirst,
        fun b hb => hbefore b (List.mem_cons_of_mem _ hb)⟩

/-- Up to the first result that is no value, all are values. -/
theorem split_of_failed {results : List (Eventually α)} {f : Timed Error}
    (h : failed f ∈ results) :
    ∃ before r after, results = before ++ r :: after ∧ (∀ x ∈ before, ∃ a, x = arrived a) ∧
      (r = none ∨ ∃ first, r = failed first) := by
  induction results with
  | nil => cases h
  | cons r rest ih =>
    rcases result_cases r with rfl | ⟨first, rfl⟩ | ⟨a, rfl⟩
    · exact ⟨[], none, rest, rfl, by simp, .inl rfl⟩
    · exact ⟨[], failed first, rest, rfl, by simp, .inr ⟨first, rfl⟩⟩
    · have hrest : failed f ∈ rest := by
        rcases List.mem_cons.1 h with heq | hmem
        · exact absurd heq (failed_ne_arrived f a)
        · exact hmem
      obtain ⟨before, r, after, rfl, there, hr⟩ := ih hrest
      refine ⟨arrived a :: before, r, after, rfl, fun x hx => ?_, hr⟩
      rcases List.mem_cons.1 hx with rfl | hmem
      · exact ⟨a, rfl⟩
      · exact there x hmem

/-- Taken in order, results fail with the earliest failure just when nothing before the
first failure in order hinders it, and none behind it is earlier. -/
theorem inOrder_earliest_iff {start : Instant} {results : List (Eventually α)}
    (begun : ∀ r, some r ∈ results → start ≤ r.instant) (fails : ∃ f, failed f ∈ results) :
    (∃ first, inOrder start results = failed first ∧ Earliest results first) ↔
      Unhindered results := by
  constructor
  · rintro ⟨first, hfirst, least⟩
    obtain ⟨before, r, after, rfl, there, rfl | ⟨f, rfl⟩⟩ := split_of_failed least.mem
    · rw [inOrder_stalled after there start] at hfirst
      cases hfirst
    · obtain ⟨t, ht, hle⟩ := inOrder_failed f after there start
      obtain rfl := failed_inj (ht.symm.trans hfirst)
      -- The failure shows at `t`, so that `t` is both after everything before it and no later
      -- than the failure itself.
      have hbound : t ≤ f.instant := least.le f (by simp)
      obtain ⟨-, hf, hbefore⟩ := (hle t).1 (Nat.le_refl t)
      refine ⟨before, f, after, rfl, fun r hr => ?_, fun other hother => ?_⟩
      · obtain ⟨a, rfl⟩ := there r hr
        exact ⟨a, rfl, Nat.le_trans (hbefore a hr) hbound⟩
      · exact Nat.le_trans hf (least.le other (by simp [hother]))
  · rintro ⟨before, first, after, rfl, there, hafter⟩
    have hstart : start ≤ first.instant :=
      begun ⟨first.instant, .error first.value⟩ (List.mem_append_right _ List.mem_cons_self)
    obtain ⟨t, ht, hle⟩ := inOrder_failed first after
      (fun r hr => (there r hr).imp fun _ h => h.1) start
    have same : t = first.instant := by
      refine Nat.le_antisymm ((hle _).2 ⟨hstart, Nat.le_refl _, fun a ha => ?_⟩)
        ((hle t).1 (Nat.le_refl t)).2.1
      obtain ⟨b, heq, hb⟩ := there _ ha
      simp only [arrived, Option.some.injEq, Timed.mk.injEq] at heq
      rw [heq.1]
      exact hb
    refine ⟨first, by rw [ht, same], List.mem_append_right _ List.mem_cons_self, ?_⟩
    intro other hother
    rcases List.mem_append.1 hother with hmem | hmem
    · obtain ⟨a, heq, -⟩ := there _ hmem
      exact absurd heq (failed_ne_arrived other a)
    · exact (Earliest.here hafter).le other hmem

/-- A join fails with the earliest failure of its results just when they are few enough to be
watched together, or nothing hinders the first failure in order. -/
theorem join_earliest_iff {start : Instant} {results : List (Eventually α)}
    (begun : ∀ r, some r ∈ results → start ≤ r.instant) (fails : ∃ f, failed f ∈ results) :
    (∃ first, join start results = failed first ∧ Earliest results first) ↔
      results.length ≤ watchLimit ∨ Unhindered results := by
  unfold join
  by_cases few : results.length ≤ watchLimit
  · rw [if_pos few]
    exact iff_of_true (together_earliest start fails) (.inl few)
  · rw [if_neg few, inOrder_earliest_iff begun fails]
    simp only [few, false_or]

/-! ## Results without their values -/

/-- When a result comes, and its error if it is one. -/
def bare (r : Eventually α) : Eventually Unit := r.map fun r => ⟨r.instant, r.value.map fun _ => ()⟩

theorem bare_eq_failed {r : Eventually α} {f : Timed Error} : bare r = failed f ↔ r = failed f := by
  rcases r with _ | ⟨t, e | a⟩ <;> simp [bare, failed, Except.map]

theorem bare_eq_arrived {r : Eventually α} {t : Instant} :
    bare r = arrived ⟨t, ()⟩ ↔ ∃ a, r = arrived a ∧ a.instant = t := by
  constructor
  · intro h
    rcases r with _ | ⟨u, e | a⟩
    · cases h
    · cases h
    · refine ⟨⟨u, a⟩, rfl, ?_⟩
      simp only [bare, arrived, Option.map_some, Option.some.injEq, Timed.mk.injEq] at h
      exact h.1
  · rintro ⟨a, rfl, rfl⟩
    rfl

theorem failed_mem_bare {results : List (Eventually α)} {f : Timed Error} :
    failed f ∈ results.map bare ↔ failed f ∈ results := by
  simp [List.mem_map, bare_eq_failed]

theorem earliest_bare {results : List (Eventually α)} {first : Timed Error} :
    Earliest (results.map bare) first ↔ Earliest results first :=
  ⟨fun h => ⟨failed_mem_bare.1 h.mem, fun f hf => h.le f (failed_mem_bare.2 hf)⟩,
    fun h => ⟨failed_mem_bare.2 h.mem, fun f hf => h.le f (failed_mem_bare.1 hf)⟩⟩

theorem unhindered_bare {results : List (Eventually α)} :
    Unhindered (results.map bare) ↔ Unhindered results := by
  constructor
  · rintro ⟨_, first, _, split, there, le⟩
    obtain ⟨before, rest, rfl, rfl, hrest⟩ := List.map_eq_append_iff.1 split
    obtain ⟨r, after, rfl, hr, rfl⟩ := List.map_eq_cons_iff.1 hrest
    obtain rfl := bare_eq_failed.1 hr
    refine ⟨before, first, after, rfl, fun r hr => ?_, fun f hf => le f (failed_mem_bare.2 hf)⟩
    obtain ⟨a, ha, hle⟩ := there _ (List.mem_map_of_mem hr)
    obtain ⟨b, hb, hinstant⟩ := bare_eq_arrived.1 ha
    exact ⟨b, hb, hinstant ▸ hle⟩
  · rintro ⟨before, first, after, rfl, there, le⟩
    refine ⟨before.map bare, first, after.map bare, by simp [bare_eq_failed.2 rfl], ?_,
      fun f hf => le f (failed_mem_bare.1 hf)⟩
    intro r hr
    obtain ⟨x, hx, rfl⟩ := List.mem_map.1 hr
    obtain ⟨a, rfl, hle⟩ := there x hx
    exact ⟨⟨a.instant, ()⟩, rfl, hle⟩

theorem bare_loadSource (entry : Backend.Entry) (read : Read) :
    bare (read.map fun r => (⟨r.instant, loadSource true entry r⟩ : Timed (Except Error Source))) =
      bare read := by
  rcases read with _ | ⟨t, e | reading⟩ <;> rfl

theorem map_eq_failed {f : α → β} {r : Eventually α} {first : Timed Error} :
    (r.map fun (x : Timed (Except Error α)) =>
        (⟨x.instant, x.value.map f⟩ : Timed (Except Error β))) = failed first ↔
      r = failed first := by
  rcases r with _ | ⟨t, e | a⟩ <;> simp [failed, Except.map]

theorem reads_earliest_iff {start : Instant} {entries : List (Backend.Entry × Read)}
    (begun : ∀ read ∈ entries, ∀ r : Timed _, read.2 = some r → start ≤ r.instant)
    (fails : ∃ f, failed f ∈ entries.map (·.2)) :
    (∃ first, reads true start entries = failed first ∧ Earliest (entries.map (·.2)) first) ↔
      entries.length ≤ watchLimit ∨ Unhindered (entries.map (·.2)) := by
  let results : List (Eventually Source) := entries.map fun entry =>
    entry.2.map fun r => ⟨r.instant, loadSource true entry.1 r⟩
  have same : results.map bare = (entries.map (·.2)).map bare := by
    simp only [results, List.map_map]
    exact List.map_congr_left fun read _ => bare_loadSource read.1 read.2
  have hjoin : (∃ first, join start results = failed first ∧ Earliest results first) ↔
      results.length ≤ watchLimit ∨ Unhindered results := join_earliest_iff ?_ ?_
  · rw [← unhindered_bare, same, unhindered_bare] at hjoin
    have hsame (first : Timed Error) :
        Earliest results first ↔ Earliest (entries.map (·.2)) first := by
      rw [← earliest_bare, same, earliest_bare]
    simp only [hsame] at hjoin
    rw [show results.length = entries.length from List.length_map _] at hjoin
    rw [← hjoin]
    simp only [reads, map_eq_failed, results]
  · intro r hr
    obtain ⟨read, hread, heq⟩ := List.mem_map.1 hr
    obtain ⟨x, hx, rfl⟩ := Option.map_eq_some_iff.1 heq
    exact begun read hread x hx
  · obtain ⟨f, hf⟩ := fails
    rw [← failed_mem_bare, ← same, failed_mem_bare] at hf
    exact ⟨f, hf⟩

end
end Compose

namespace Fetcher
open Compose

section
variable {φ : Type} (f : Fetcher φ)

theorem length_readAll (now : Instant) (s : φ) (entries : List Backend.Entry) :
    (f.readAll now s entries).2.length = entries.length := by
  induction entries generalizing s with
  | nil => rfl
  | cons entry rest ih => simp only [readAll, List.length_cons, ih]

theorem readAll_begun (now : Instant) (s : φ) (entries : List Backend.Entry) :
    ∀ read ∈ (f.readAll now s entries).2, ∀ r : Timed _, read.2 = some r → now ≤ r.instant := by
  induction entries generalizing s with
  | nil => simp [readAll]
  | cons entry rest ih =>
    intro read hread r hr
    simp only [readAll, List.mem_cons] at hread
    rcases hread with rfl | hrest
    · obtain ⟨answer, -, rfl⟩ := Option.map_eq_some_iff.1 hr
      exact Nat.le_add_right _ _
    · exact ih (f.fetch s entry.name).1 read hrest r hr

/-- The reads that a composition makes once it is prepared. -/
def readsOf (generic backends : List Backend.Entry) (start : Instant) (s : φ) : List Read :=
  (f.readAll (start + (f.prepare s).2.1) (f.prepare s).1
    (Backend.Entry.inOrder generic backends)).2.map (·.2)

end

/-- A composition in which every error counts and a read fails, fails at the instant of the
earliest failure and with it, just when its entries are few enough to be watched together
or the first failure in their order is not kept waiting. -/
theorem compose_prompt_iff {φ : Type} (f : Fetcher φ) (generic backends : List Backend.Entry)
    (start : Instant) (s : φ) (prepared : (f.prepare s).2.2 = .ok ())
    (fails : ∃ e, failed e ∈ f.readsOf generic backends start s) :
    (∃ first, (f.compose true generic backends start s).2 = failed first ∧
      Earliest (f.readsOf generic backends start s) first) ↔
    generic.length + backends.length ≤ watchLimit ∨
      Unhindered (f.readsOf generic backends start s) := by
  have hiff := reads_earliest_iff (f.readAll_begun _ _ _) fails
  rw [length_readAll] at hiff
  have hlength : (Backend.Entry.inOrder generic backends).length =
      generic.length + backends.length := by
    simp [Backend.Entry.inOrder]
  rw [hlength] at hiff
  rw [compose_of_ok prepared]
  exact hiff

/-- Somebody who turns one path away at once, takes a minute to fail at another, never ends
with a third, and finds nothing elsewhere. -/
def uneven : Fetcher Unit where
  prepare s := (s, 0, .ok ())
  fetch s path := (s,
    if path = "secret/early" then some (Span.ofSeconds 1, .error (.authentication "early"))
    else if path = "secret/late" then some (Span.ofSeconds 60, .error (.transport "late" []))
    else if path = "secret/stalled" then none
    else some (Span.ofSeconds 1, .ok none))

/-- A read that never ends does not keep a few from failing. -/
theorem compose_prompt_past_stalled :
    (∃ e, failed e ∈ uneven.readsOf [{ name := "secret/stalled" }] [{ name := "secret/early" }] 0 ()) ∧
    ∃ first, (uneven.compose true [{ name := "secret/stalled" }] [{ name := "secret/early" }] 0 ()).2 =
        failed first ∧
      Earliest (uneven.readsOf [{ name := "secret/stalled" }] [{ name := "secret/early" }] 0 ()) first := by
  have fails : ∃ e, failed e ∈
      uneven.readsOf [{ name := "secret/stalled" }] [{ name := "secret/early" }] 0 () := by
    refine ⟨⟨Span.ofSeconds 1, .authentication "early"⟩, ?_⟩
    simp [readsOf, readAll, uneven, Backend.Entry.inOrder, failed]
  exact ⟨fails, (compose_prompt_iff uneven _ _ 0 () rfl fails).2 (.inl (by decide))⟩

/-- As many entries as are not watched together: a slow one, one that is turned away at once,
and others. -/
def crowd : List Backend.Entry :=
  { name := "secret/late" } :: { name := "secret/early" } ::
    List.replicate 29 { name := "secret/app" }

/-- The failure that comes a minute later hides the one that comes first. -/
theorem crowd_hides_early_failure :
    (uneven.prepare ()).2.2 = .ok () ∧ (∃ e, failed e ∈ uneven.readsOf crowd [] 0 ()) ∧
    ¬ ∃ first, (uneven.compose true crowd [] 0 ()).2 = failed first ∧
      Earliest (uneven.readsOf crowd [] 0 ()) first := by
  have early : failed ⟨Span.ofSeconds 1, .authentication "early"⟩ ∈ uneven.readsOf crowd [] 0 () := by
    simp [readsOf, readAll, uneven, crowd, Backend.Entry.inOrder, failed]
  have late : (uneven.compose true crowd [] 0 ()).2 =
      failed ⟨Span.ofSeconds 60, .transport "late" []⟩ := by
    rfl
  refine ⟨rfl, ⟨_, early⟩, ?_⟩
  rintro ⟨first, hfirst, least⟩
  obtain rfl := failed_inj (late.symm.trans hfirst)
  exact absurd (least.le _ early) (by decide)

end Fetcher
end SecretLayers
