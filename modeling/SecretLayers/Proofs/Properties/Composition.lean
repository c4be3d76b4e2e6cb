import SecretLayers.Properties.Fetcher
import SecretLayers.Proofs.Properties.Joining
/-!
Compositions are all or nothing, and do not depend on the order in which reads end. What a
composition comes to is told by the outcomes of the preparation and of the reads alone; how
long they take only shows in the instants at which leases begin.
-/
namespace SecretLayers
set_option autoImplicit false

/-! ## Results without their times -/

/-- A source without the instant at which its lease began. -/
def Source.undated (s : Source) : Source :=
  { s with lease := s.lease.map fun l => { l with lease := { l.lease with start := 0 } } }

namespace Compose

/-- Two errors, or two views of the same sources, whenever their leases began. -/
inductive Alike : Except Error View → Except Error View → Prop
  | views {v w : View} (sources : v.sources.map Source.undated = w.sources.map Source.undated) :
      Alike (.ok v) (.ok w)
  | errors {e e' : Error} : Alike (.error e) (.error e')

theorem Alike.refl (result : Except Error View) : Alike result result := by
  cases result with
  | error e => exact .errors
  | ok view => exact .views rfl

/-- What reads come to, without the instants. -/
def outcomes (reads : Ended) : List (Backend.Entry × Except Error (Option Store.Reading)) :=
  reads.map fun read => (read.1, read.2.value)

theorem undated_expected (entry : Backend.Entry)
    (read : Timed (Except Error (Option Store.Reading))) :
    (expected entry read).undated = (expected entry ⟨0, read.value⟩).undated := by
  obtain ⟨t, value⟩ := read
  rcases value with e | _ | r
  · rfl
  · rfl
  · by_cases granted : r.leaseId.getD "" ≠ "" ∧ 0 < r.leaseSeconds
    · simp only [expected, Source.undated, if_pos granted, Option.map_some]
    · simp only [expected, Source.undated, if_neg granted, Option.map_none]

section
variable {failFast : Bool} {rs rs' : Ended} {result result' : Except Error View}

theorem undated_sources {v : View} (h : Meets failFast rs (.ok v)) :
    v.sources.map Source.undated =
      (outcomes rs).map fun o => (expected o.1 ⟨0, o.2⟩).undated := by
  rw [h.sources v rfl, outcomes, List.map_map, List.map_map]
  exact List.map_congr_left fun read _ => undated_expected read.1 read.2

/-- An error that ends one composition is met by every other of the same outcomes. -/
theorem not_ok_of_error {e : Error} {v : View} (same : outcomes rs = outcomes rs')
    (h : Meets failFast rs (.error e)) : ¬ Meets failFast rs' (.ok v) := by
  intro h'
  obtain ⟨habort, read, hread, hvalue⟩ := h.error_mem e rfl
  have hmem : (read.1, Except.error e) ∈ outcomes rs' := by
    rw [← same, ← hvalue]
    exact List.mem_map_of_mem hread
  obtain ⟨read', hread', heq⟩ := List.mem_map.1 hmem
  have tolerated := h'.ok_iff.1 ⟨v, rfl⟩ read' hread' e (congrArg Prod.snd heq)
  rw [habort] at tolerated
  cases tolerated

theorem alike_of_meets (same : outcomes rs = outcomes rs') (h : Meets failFast rs result)
    (h' : Meets failFast rs' result') : Alike result result' := by
  cases result with
  | error e =>
    cases result' with
    | error e' => exact .errors
    | ok w => exact absurd h' (not_ok_of_error same h)
  | ok v =>
    cases result' with
    | error e' => exact absurd h (not_ok_of_error same.symm h')
    | ok w => exact .views (by rw [undated_sources h, undated_sources h', same])

end

end Compose

namespace Fetcher
open Compose

/-! ## Reads of a fetcher -/

section
variable {φ : Type} {f g : Fetcher φ}

/-- Every read comes to an end. -/
def Ends (f : Fetcher φ) : Prop := ∀ s path, (f.fetch s path).2.isSome

/-- Fetchers that only differ in how long their preparation and their reads take. -/
structure Agrees (f g : Fetcher φ) : Prop where
  prepare : ∀ s, (f.prepare s).1 = (g.prepare s).1 ∧ (f.prepare s).2.2 = (g.prepare s).2.2
  fetch : ∀ s path, (f.fetch s path).1 = (g.fetch s path).1 ∧
    (f.fetch s path).2.map (·.2) = (g.fetch s path).2.map (·.2)

theorem Agrees.ends (h : f.Agrees g) (ends : f.Ends) : g.Ends := by
  intro s path
  have hmap := congrArg Option.isSome (h.fetch s path).2
  rw [Option.isSome_map, Option.isSome_map] at hmap
  rw [← hmap]
  exact ends s path

/-- Reads that all come to an end, one for each entry and in their order. -/
theorem readAll_ends (ends : f.Ends) (now : Instant) (s : φ) (entries : List Backend.Entry) :
    ∃ reads : Ended, (f.readAll now s entries).2 = (reads.map fun read => (read.1, some read.2)) ∧
      reads.map (·.1) = entries := by
  induction entries generalizing s with
  | nil => exact ⟨[], rfl, rfl⟩
  | cons entry rest ih =>
    obtain ⟨reads, hreads, hentries⟩ := ih (f.fetch s entry.name).1
    obtain ⟨⟨delay, outcome⟩, hfetch⟩ := Option.isSome_iff_exists.1 (ends s entry.name)
    refine ⟨(entry, ⟨now + delay, outcome⟩) :: reads, ?_, ?_⟩
    · simp only [readAll, hfetch, Option.map_some, hreads, List.map_cons]
    · simp only [List.map_cons, hentries]

/-- Fetchers that agree are in the same state after their reads, which come to the same. -/
theorem readAll_agrees (h : f.Agrees g) (now now' : Instant) (s : φ)
    (entries : List Backend.Entry) :
    (f.readAll now s entries).1 = (g.readAll now' s entries).1 ∧
      (f.readAll now s entries).2.map (fun read => (read.1, read.2.map (·.value))) =
        (g.readAll now' s entries).2.map (fun read => (read.1, read.2.map (·.value))) := by
  induction entries generalizing s with
  | nil => exact ⟨rfl, rfl⟩
  | cons entry rest ih =>
    obtain ⟨hstate, houtcome⟩ := h.fetch s entry.name
    obtain ⟨hrest, hreads⟩ := ih (f.fetch s entry.name).1
    simp only [readAll, List.map_cons, Option.map_map, Function.comp_def]
    rw [houtcome, hrest, hreads, hstate]
    exact ⟨rfl, rfl⟩

theorem some_outcomes (reads : Ended) :
    (reads.map fun read => (read.1, some read.2)).map
        (fun read : Backend.Entry × Read => (read.1, read.2.map (·.value))) =
      (outcomes reads).map fun o => (o.1, some o.2) := by
  simp only [outcomes, List.map_map, Function.comp_def, Option.map_some]

theorem outcomes_agree {reads reads' : Ended} (h : f.Agrees g) {now now' : Instant} {s : φ}
    {entries : List Backend.Entry}
    (hreads : (f.readAll now s entries).2 = reads.map fun read => (read.1, some read.2))
    (hreads' : (g.readAll now' s entries).2 = reads'.map fun read => (read.1, some read.2)) :
    outcomes reads = outcomes reads' := by
  have same := (readAll_agrees h now now' s entries).2
  rw [hreads, hreads', some_outcomes, some_outcomes] at same
  -- All of them came to an end, so that telling this apart loses nothing.
  refine (List.map_inj_right ?_).1 same
  intro a b hab
  simp only [Prod.mk.injEq, Option.some.injEq] at hab
  exact Prod.ext hab.1 hab.2

/-! ## Compositions of a fetcher -/

variable {failFast : Bool} {generic backends : List Backend.Entry} {start : Instant} {s : φ}

/-- Where the preparation fails, the fetcher is not asked for anything. -/
theorem compose_of_error {e : Error} (h : (f.prepare s).2.2 = .error e) :
    f.compose failFast generic backends start s =
      ((f.prepare s).1, some ⟨start + (f.prepare s).2.1,
        unread failFast e (Backend.Entry.inOrder generic backends)⟩) := by
  unfold Fetcher.compose
  simp only [h, Compose.compose, List.map_map, Function.comp_def, List.map_id']

theorem compose_of_ok (h : (f.prepare s).2.2 = .ok ()) :
    f.compose failFast generic backends start s =
      let made := f.readAll (start + (f.prepare s).2.1) (f.prepare s).1
        (Backend.Entry.inOrder generic backends)
      (made.1, reads failFast (start + (f.prepare s).2.1) made.2) := by
  unfold Fetcher.compose
  simp only [h, Compose.compose]

/-- The reads of a composition, and what it comes to by them. -/
theorem compose_meets (ends : f.Ends) (h : (f.prepare s).2.2 = .ok ()) :
    ∃ reads : Ended,
      (f.readAll (start + (f.prepare s).2.1) (f.prepare s).1
        (Backend.Entry.inOrder generic backends)).2 = (reads.map fun read => (read.1, some read.2)) ∧
      reads.map (·.1) = Backend.Entry.inOrder generic backends ∧
      ∃ t result, (f.compose failFast generic backends start s).2 = some ⟨t, result⟩ ∧
        Meets failFast reads result := by
  obtain ⟨rs, hreads, hentries⟩ := readAll_ends ends (start + (f.prepare s).2.1) (f.prepare s).1
    (Backend.Entry.inOrder generic backends)
  obtain ⟨t, result, hresult, meets⟩ := reads_meets failFast (start + (f.prepare s).2.1) rs
  refine ⟨rs, hreads, hentries, t, result, ?_, meets⟩
  rw [compose_of_ok h]
  simp only [hreads]
  exact hresult

/-- Compositions of fetchers that agree leave them in the same state and come to the same. -/
theorem compose_agrees (ends : f.Ends) (h : f.Agrees g) (start' : Instant) :
    (f.compose failFast generic backends start s).1 =
        (g.compose failFast generic backends start' s).1 ∧
      ∃ t result t' result', (f.compose failFast generic backends start s).2 = some ⟨t, result⟩ ∧
        (g.compose failFast generic backends start' s).2 = some ⟨t', result'⟩ ∧
        Alike result result' := by
  obtain ⟨hstate, houtcome⟩ := h.prepare s
  cases hprepare : (f.prepare s).2.2 with
  | error e =>
    rw [compose_of_error hprepare, compose_of_error (houtcome ▸ hprepare), hstate]
    exact ⟨rfl, _, _, _, _, rfl, rfl, .refl _⟩
  | ok _ =>
    have hprepare' : (g.prepare s).2.2 = .ok () := houtcome ▸ hprepare
    obtain ⟨rs, hreads, -, t, result, hresult, meets⟩ := compose_meets ends hprepare
    obtain ⟨rs', hreads', -, t', result', hresult', meets'⟩ :=
      compose_meets (h.ends ends) hprepare'
    constructor
    · rw [compose_of_ok hprepare, compose_of_ok hprepare', hstate]
      exact (readAll_agrees h _ _ _ _).1
    · rw [← hstate] at hreads'
      exact ⟨t, result, t', result', hresult, hresult',
        alike_of_meets (outcomes_agree h hreads hreads') meets meets'⟩

end

/-- A composition is all or nothing: the error of the preparation or of a read that ends
it, or one source for each entry, in the order of the entries. Where the preparation fails
the fetcher stays as the preparation left it, so nothing is read. Delays change nothing but
the instants at which leases begin. -/
theorem compose_all_or_nothing {φ : Type} (f : Fetcher φ) (ends : f.Ends) (failFast : Bool)
    (generic backends : List Backend.Entry) (start : Instant) (s : φ) :
    let entries := Backend.Entry.inOrder generic backends
    let prepared := f.prepare s
    let begun := start + prepared.2.1
    let made := f.readAll begun prepared.1 entries
    let composed := f.compose failFast generic backends start s
    (∀ e, prepared.2.2 = .error e → aborts failFast e = true →
      composed = (prepared.1, some ⟨begun, .error e⟩)) ∧
    (∀ e, prepared.2.2 = .error e → aborts failFast e = false →
      composed = (prepared.1, some ⟨begun, .ok ⟨entries.map fun entry => .empty entry.name⟩⟩)) ∧
    (prepared.2.2 = .ok () → composed.1 = made.1 ∧
      ∃ reads : Ended, made.2 = (reads.map fun read => (read.1, some read.2)) ∧ reads.map (·.1) = entries ∧
        ∃ t result, composed.2 = some ⟨t, result⟩ ∧ Meets failFast reads result) ∧
    (∀ (g : Fetcher φ) (start' : Instant), f.Agrees g →
      composed.1 = (g.compose failFast generic backends start' s).1 ∧
      ∃ t result t' result', composed.2 = some ⟨t, result⟩ ∧
        (g.compose failFast generic backends start' s).2 = some ⟨t', result'⟩ ∧
        Alike result result') := by
  intro entries prepared begun made composed
  refine ⟨?_, ?_, ?_, ?_⟩
  · intro e he habort
    simp only [composed, compose_of_error he, unread, habort, if_true, prepared, begun]
  · intro e he htolerated
    simp only [composed, compose_of_error he, unread, htolerated, Bool.false_eq_true, if_false,
      emptyView, prepared, begun, entries]
  · intro hok
    obtain ⟨reads, hreads, hentries, t, result, hresult, meets⟩ := compose_meets ends hok
    refine ⟨?_, reads, hreads, hentries, t, result, hresult, meets⟩
    simp only [composed, compose_of_ok hok, made, prepared, begun, entries]
  · intro g start' h
    exact compose_agrees ends h start'

/-- Remembers what it reads. It finds credentials at one path; two others fail, one of them for want of a
setting. -/
def recorder : Fetcher (List String) where
  prepare log := (log, 2, .ok ())
  fetch log path := (log ++ [path], some <|
    if path = "mysql/creds/app" then
      (5, .ok (some { data := [("username", .string "v-1")], leaseId := some "lease", leaseSeconds := 300 }))
    else if path = "secret/slow" then (3, .error (.transport "timed out" []))
    else if path = "secret/unset" then (4, .error (.configuration "no role"))
    else (1, .ok none))

theorem recorder_ends : recorder.Ends := fun _ _ => rfl

theorem ended_of_some (reads : Ended) :
    (reads.map fun read => (read.1, some read.2)).filterMap
      (fun read : Backend.Entry × Read => read.2.map (read.1, ·)) = reads := by
  rw [List.filterMap_map]
  exact List.filterMap_some

/-- Of the runs one finds data and nothing, one goes on after an error, and one is ended by another. -/
theorem recorder_composes :
    recorder.Ends ∧
    (∃ t view,
      recorder.compose true [{ name := "secret/app" }] [{ name := "mysql/creds/app" }] 0 [] =
        (["secret/app", "mysql/creds/app"], some ⟨t, .ok view⟩) ∧
      view.sources.map (·.name) = ["secret/app", "mysql/creds/app"]) ∧
    (∃ t view,
      recorder.compose false [{ name := "secret/slow" }] [{ name := "mysql/creds/app" }] 0 [] =
        (["secret/slow", "mysql/creds/app"], some ⟨t, .ok view⟩) ∧
      view.sources = [.empty "secret/slow",
        { name := "mysql/creds/app", properties := Properties.flatten [("username", .string "v-1")],
          lease := some { id := "lease", lease := ⟨300, 7⟩, renewable := false } }]) ∧
    ∃ t, recorder.compose false [{ name := "secret/slow" }, { name := "secret/unset" }] [] 0 [] =
      (["secret/slow", "secret/unset"], some ⟨t, .error (.configuration "no role")⟩) := by
  refine ⟨recorder_ends, ?_, ?_, ?_⟩
  · obtain ⟨hstate, reads, hreads, hentries, t, result, hresult, meets⟩ := (compose_all_or_nothing recorder
      recorder_ends true [{ name := "secret/app" }] [{ name := "mysql/creds/app" }] 0 []).2.2.1 rfl
    rw [Backend.Entry.inOrder, List.mergeSort_singleton] at hstate hreads hentries
    obtain rfl : reads = [_, _] := (ended_of_some reads).symm.trans (by rw [← hreads]; rfl)
    obtain ⟨view, rfl⟩ := meets.ok_iff.2 (by simp)
    exact ⟨t, view, Prod.ext hstate hresult, meets.names⟩
  · obtain ⟨hstate, reads, hreads, -, t, result, hresult, meets⟩ := (compose_all_or_nothing recorder
      recorder_ends false [{ name := "secret/slow" }] [{ name := "mysql/creds/app" }] 0 []).2.2.1 rfl
    rw [Backend.Entry.inOrder, List.mergeSort_singleton] at hstate hreads
    obtain rfl : reads = [_, _] := (ended_of_some reads).symm.trans (by rw [← hreads]; rfl)
    obtain ⟨view, rfl⟩ := meets.ok_iff.2 (by simp [aborts, Error.isFatal])
    exact ⟨t, view, Prod.ext hstate hresult, meets.sources view rfl⟩
  · obtain ⟨hstate, reads, hreads, -, t, result, hresult, meets⟩ := (compose_all_or_nothing recorder
      recorder_ends false [{ name := "secret/slow" }, { name := "secret/unset" }] [] 0 []).2.2.1 rfl
    rw [Backend.Entry.inOrder, List.mergeSort_nil] at hstate hreads
    obtain rfl : reads = [_, _] := (ended_of_some reads).symm.trans (by rw [← hreads]; rfl)
    cases result with
    | ok view =>
      have tolerated := meets.ok_iff.1 ⟨view, rfl⟩ _ (List.mem_cons_of_mem _ List.mem_cons_self) _ rfl
      cases tolerated
    | error e =>
      obtain ⟨aborted, read, hread, value⟩ := meets.error_mem e rfl
      simp only [List.mem_cons, List.not_mem_nil, or_false] at hread
      refine ⟨t, Prod.ext hstate (hresult.trans ?_)⟩
      rcases hread with rfl | rfl
      · obtain rfl := Except.error.inj value
        cases aborted
      · obtain rfl := Except.error.inj value
        rfl

end Fetcher
end SecretLayers
