import Mathlib.Data.List.Basic
import SecretLayers.Proofs.Lease.Expiry
/-!
What a pass over the expiring leases does to a view. Entries and sources are looked up by
name, so a pass finds the first of each name only: it does what it should for every source
just when none of the expiring ones stands behind another of its name.
-/
namespace SecretLayers
set_option autoImplicit false

/-! ## Sources in their places -/

namespace View

/-- A source takes the place of the first of its name. -/
theorem replaceIn?_eq_some_iff {source : Source} {sources replaced : List Source} :
    replaceIn? source sources = some replaced ↔
      ∃ front s back, sources = front ++ s :: back ∧ replaced = front ++ source :: back ∧
        s.name = source.name ∧ ∀ x ∈ front, x.name ≠ source.name := by
  induction sources generalizing replaced with
  | nil => simp [replaceIn?]
  | cons x rest ih =>
    by_cases here : x.name = source.name
    · simp only [replaceIn?, if_pos here, Option.some.injEq]
      constructor
      · rintro rfl
        exact ⟨[], x, rest, rfl, rfl, here, by simp⟩
      · rintro ⟨_ | ⟨y, front⟩, s, back, hsources, rfl, -, others⟩
        · obtain ⟨rfl, rfl⟩ := List.cons.inj hsources
          rfl
        · obtain ⟨rfl, -⟩ := List.cons.inj hsources
          exact absurd here (others x List.mem_cons_self)
    · simp only [replaceIn?, if_neg here, Option.map_eq_some_iff]
      constructor
      · rintro ⟨rest', hrest, rfl⟩
        obtain ⟨front, s, back, rfl, rfl, same, others⟩ := ih.1 hrest
        exact ⟨x :: front, s, back, rfl, rfl, same, List.forall_mem_cons.2 ⟨here, others⟩⟩
      · rintro ⟨_ | ⟨y, front⟩, s, back, hsources, rfl, same, others⟩
        · obtain ⟨rfl, rfl⟩ := List.cons.inj hsources
          exact absurd same here
        · obtain ⟨rfl, rfl⟩ := List.cons.inj hsources
          exact ⟨front ++ source :: back,
            ih.2 ⟨front, s, back, rfl, rfl, same, (List.forall_mem_cons.1 others).2⟩, rfl⟩

/-- No name differs, and only sources that are the first of their name may. -/
structure Kept (v w : View) : Prop where
  names : w.sources.map (·.name) = v.sources.map (·.name)
  shadowed : ∀ (i j : Nat) (s t : Source), i < j → v.sources[i]? = some s →
    v.sources[j]? = some t → s.name = t.name → w.sources[j]? = some t

namespace Kept

theorem refl (v : View) : v.Kept v := ⟨rfl, fun _ _ _ _ _ _ hj _ => hj⟩

theorem trans {u v w : View} (h : u.Kept v) (h' : v.Kept w) : u.Kept w where
  names := h'.names.trans h.names
  shadowed i j s t before hi hj same := by
    have hname : (v.sources.map (·.name))[i]? = some s.name := by
      rw [h.names, List.getElem?_map, hi]
      rfl
    rw [List.getElem?_map, Option.map_eq_some_iff] at hname
    obtain ⟨s', hi', hs'⟩ := hname
    exact h'.shadowed i j s' t before hi' (h.shadowed i j s t before hi hj same) (hs'.trans same)

end Kept

theorem replace?_kept {v w : View} {source : Source} (h : v.replace? source = some w) :
    v.Kept w := by
  obtain ⟨replaced, hreplaced, rfl⟩ := Option.map_eq_some_iff.1 h
  obtain ⟨front, s, back, hsources, rfl, hname, others⟩ := replaceIn?_eq_some_iff.1 hreplaced
  constructor
  · simp [hsources, hname]
  · intro i j a b before hi hj same
    rw [hsources] at hi hj
    rcases Nat.lt_trichotomy j front.length with inFront | there | behind
    · rw [List.getElem?_append_left inFront] at hj ⊢
      exact hj
    · -- The place that is taken is that of the first source of the name.
      rw [there, List.getElem?_append_right (Nat.le_refl _), Nat.sub_self,
        List.getElem?_cons_zero, Option.some.injEq] at hj
      rw [List.getElem?_append_left (there ▸ before)] at hi
      exact absurd (same.trans (hj ▸ hname)) (others a (List.mem_of_getElem? hi))
    · obtain ⟨k, hk⟩ : ∃ k, j - front.length = k + 1 := ⟨j - front.length - 1, by omega⟩
      rw [List.getElem?_append_right (by omega), hk, List.getElem?_cons_succ] at hj ⊢
      exact hj

end View

/-! ## Leases that go on expiring -/

theorem Source.isExpiring?_later {o : RenewalOptions} {s : Source} {now later : Instant}
    (h : s.isExpiring? o now = some true) (le : now ≤ later) : s.isExpiring? o later = some true := by
  unfold Source.isExpiring? at h ⊢
  split
  · rename_i hnone
    rw [hnone] at h
    cases h
  · rename_i l hsome
    rw [hsome] at h
    exact RenewalOptions.isExpiring?_later h le

namespace Refresher

/-! ## Runs -/

/-- Takes events in their order, each at its instant, if all of them are possible. -/
def run? (r : Refresher) : List (Instant × Event) → Option (Refresher × List Action)
  | [] => some (r, [])
  | (now, e) :: rest => do
    let (r, seen) ← r.step? now e
    let (r, more) ← r.run? rest
    some (r, seen ++ more)

theorem run?_cons {r : Refresher} {now : Instant} {e : Event} {made : Refresher × List Action}
    (step : r.step? now e = some made) (rest : List (Instant × Event)) :
    r.run? ((now, e) :: rest) =
      (made.1.run? rest).map fun last => (last.1, made.2 ++ last.2) := by
  simp only [run?, step, Option.bind_eq_bind, Option.bind_some]
  cases made.1.run? rest <;> rfl

@[simp] theorem conclude_view (r : Refresher) (c : Option Nat) (n : Nat) :
    (r.conclude c n).1.view = r.view := by cases c <;> rfl

@[simp] theorem proceed_view (r : Refresher) (c : Option Nat) (n : Nat) (es : List Backend.Entry) :
    (r.proceed c n es).1.view = r.view := by
  cases es with
  | nil => exact conclude_view r c n
  | cons e es => rfl

@[simp] theorem abandon_view (r : Refresher) (c : Option Nat) : (r.abandon c).1.view = r.view := by
  cases c <;> rfl

@[simp] theorem begin_view (r : Refresher) (now : Instant) (c : Option Nat) :
    (r.begin now c).1.view = r.view := by
  unfold begin
  split
  · exact abandon_view r c
  · exact proceed_view r c 0 _

theorem land_kept (r : Refresher) (now : Instant) (p : Pass)
    (result : Except Error (Option Store.Reading)) : r.view.Kept (r.land now p result).1.view := by
  unfold land
  simp only
  split
  · rename_i view hview
    rw [proceed_view]
    cases result with
    | error e => cases hview
    | ok reading => exact View.replace?_kept hview
  · rw [proceed_view]
    exact .refl _

theorem step?_kept {r r' : Refresher} {now : Instant} {e : Event} {seen : List Action}
    (h : r.step? now e = some (r', seen)) : r.view.Kept r'.view := by
  have same {made : Refresher × List Action} (hmade : some made = some (r', seen))
      (hview : made.1.view = r.view) : r.view.Kept r'.view := by
    obtain rfl := Option.some.inj hmade
    exact hview ▸ .refl _
  cases e with
  | refresh c => exact same h (begin_view r now _)
  | launch =>
    obtain ⟨poller, -, hmade⟩ := Option.map_eq_some_iff.1 h
    exact same (congrArg some hmade) rfl
  | tick =>
    obtain ⟨poller, -, hmade⟩ := Option.map_eq_some_iff.1 h
    exact same (congrArg some hmade) (begin_view _ now none)
  | stop =>
    simp only [step?] at h
    split at h
    · obtain ⟨poller, -, hmade⟩ := Option.map_eq_some_iff.1 h
      exact same (congrArg some hmade) rfl
    · cases h
  | answered c result =>
    obtain ⟨p, -, hland⟩ := Option.map_eq_some_iff.1 h
    have kept := land_kept r now p result
    rw [hland] at kept
    exact kept
  | shutdown c => exact same h rfl
  | join c =>
    simp only [step?] at h
    split at h
    · exact same h rfl
    · cases h
  | drop => exact same h rfl

/-- Whatever happens, the sources keep their names, and those behind another of their name
stay as they are. -/
theorem run?_kept {r r' : Refresher} {es : List (Instant × Event)} {seen : List Action}
    (h : r.run? es = some (r', seen)) : r.view.Kept r'.view := by
  induction es generalizing r seen with
  | nil =>
    obtain ⟨rfl, -⟩ := Prod.mk.inj (Option.some.inj h)
    exact .refl _
  | cons e es ih =>
    obtain ⟨now, e⟩ := e
    simp only [run?, Option.bind_eq_bind, Option.bind_eq_some_iff] at h
    obtain ⟨⟨s, first⟩, step, ⟨t, more⟩, rest, heq⟩ := h
    obtain ⟨rfl, -⟩ := Prod.mk.inj (Option.some.inj heq)
    exact (step?_kept step).trans (ih rest)

/-! ## Passes -/

/-- A place of a view: its entry, its source, and what a read of the entry would come to. -/
structure Row where
  entry : Backend.Entry
  source : Source
  answer : Timed (Except Error (Option Store.Reading))

namespace Row

def isDue (o : RenewalOptions) (now : Instant) (row : Row) : Bool :=
  row.source.isExpiring? o now = some true

/-- The source that a pass is to leave: what was read for an expiring one, if it was. -/
def after (o : RenewalOptions) (now : Instant) (row : Row) : Source :=
  if row.isDue o now then
    match row.answer.value with
    | .ok reading => Compose.sourceOf row.entry row.answer.instant reading
    | .error _ => row.source
  else row.source

def isReplaced (o : RenewalOptions) (now : Instant) (row : Row) : Bool :=
  row.isDue o now && row.answer.value.isOk

theorem sourceOf_name (entry : Backend.Entry) (now : Instant) (reading : Option Store.Reading) :
    (Compose.sourceOf entry now reading).name = entry.name := by
  cases reading <;> rfl

theorem after_name {row : Row} (h : row.source.name = row.entry.name) (o : RenewalOptions)
    (now : Instant) : (row.after o now).name = row.source.name := by
  unfold after
  split
  · split
    · rw [sourceOf_name, h]
    · rfl
  · rfl

end Row

def readings (seen : List Action) : List Backend.Entry :=
  seen.filterMap fun
    | .reading _ entry => some entry
    | .replied .. => none

/-- A pass begins when it is asked for, or when it is time for the poller's. -/
def opening : Option Nat → Event
  | some c => .refresh c
  | none => .tick

section
variable (o : RenewalOptions) (now : Instant) (caller : Option Nat)

def dueEntries (rows : List Row) : List Backend.Entry := (rows.filter (Row.isDue o now)).map (·.entry)

/-- Their reads come to an end, one after the other. -/
def answers (rows : List Row) : List (Instant × Event) :=
  (rows.filter (Row.isDue o now)).map fun row =>
    (row.answer.instant, .answered caller row.answer.value)

/-- A pass that nothing interrupts: once it has begun, its reads are answered. -/
def passEvents (rows : List Row) : List (Instant × Event) :=
  (now, opening caller) :: answers o now caller rows

/-- The end of a pass that has replaced so many sources. -/
def Concluded (replaced : Nat) (r : Refresher) (seen : List Action) : Prop :=
  match caller with
  | some c => .replied c (.refreshed replaced) ∈ seen
  | none => ∃ next, r.poller = .sleeping next

/-- A pass has read the entries of the expiring sources, each once, and only those have
given way to what was read. -/
structure Refreshed (rows : List Row) (r : Refresher) (seen : List Action) : Prop where
  reads : readings seen = dueEntries o now rows
  sources : r.view.sources = rows.map (Row.after o now)
  idle : r.passes = []
  concluded : Concluded caller (rows.countP (Row.isReplaced o now)) r seen

/-- No expiring source stands behind another of its name. -/
def Foremost (sources : List Source) : Prop :=
  sources.Pairwise fun earlier s => s.isExpiring? o now = some true → earlier.name ≠ s.name

end

/-! ## One read of a pass -/

/-- The answer to the only read that is under way leads on to the next one, with what was
read in its place if the view has a place for it. -/
theorem step?_answered {r : Refresher} (idle : r.passes = []) (p : Pass) (now : Instant)
    (result : Except Error (Option Store.Reading)) :
    ({ r with passes := p :: r.passes } : Refresher).step? now (.answered p.caller result) =
      some (match r.replace? now p.entry result with
        | some view => { r with view }.proceed p.caller (p.replaced + 1) p.rest
        | none => r.proceed p.caller p.replaced p.rest) := by
  have same : ({ r with passes := [] } : Refresher) = r := by rw [← idle]
  have first : [p].find? (fun q => q.caller = p.caller) = some p := by simp
  have others : [p].filter (fun q => q.caller ≠ p.caller) = [] := by simp
  cases hview : r.replace? now p.entry result with
  | none => simp only [step?, idle, first, Option.map_some, land, others, same, hview]
  | some view => simp only [step?, idle, first, Option.map_some, land, others, same, hview]

theorem replace?_after {o : RenewalOptions} {now : Instant} {front back : List Row} {row : Row}
    {r : Refresher} (view : r.view.sources = front.map (Row.after o now) ++ row.source :: back.map (·.source))
    (named : ∀ x ∈ row :: front, x.source.name = x.entry.name)
    (others : ∀ x ∈ front, x.source.name ≠ row.source.name) (reading : Option Store.Reading) :
    ∃ v, r.replace? row.answer.instant row.entry (.ok reading) = some v ∧
      v.sources = front.map (Row.after o now) ++
        Compose.sourceOf row.entry row.answer.instant reading :: back.map (·.source) := by
  have hname := named row List.mem_cons_self
  have hreplace : View.replaceIn? (Compose.sourceOf row.entry row.answer.instant reading)
      r.view.sources = some (front.map (Row.after o now) ++
        Compose.sourceOf row.entry row.answer.instant reading :: back.map (·.source)) := by
    rw [view, View.replaceIn?_eq_some_iff]
    refine ⟨_, row.source, _, rfl, rfl, by rw [Row.sourceOf_name, hname], fun x hx => ?_⟩
    obtain ⟨y, hy, rfl⟩ := List.mem_map.1 hx
    rw [Row.after_name (named y (List.mem_cons_of_mem _ hy)), Row.sourceOf_name, ← hname]
    exact others y hy
  exact ⟨⟨_⟩, congrArg (Option.map View.mk) hreplace, rfl⟩

theorem others_of_foremost {o : RenewalOptions} {now : Instant} {front back : List Row} {row : Row}
    (foremost : Foremost o now ((front ++ row :: back).map (·.source)))
    (due : row.isDue o now = true) : ∀ x ∈ front, x.source.name ≠ row.source.name := by
  rw [List.map_append, List.map_cons] at foremost
  intro x hx
  exact (List.pairwise_append.1 foremost).2.2 x.source (List.mem_map_of_mem hx) row.source
    List.mem_cons_self (of_decide_eq_true due)

/-! ## All reads of a pass -/

theorem Concluded.behind {caller : Option Nat} {n : Nat} {r : Refresher} {seen : List Action}
    (h : Concluded caller n r seen) (first : List Action) : Concluded caller n r (first ++ seen) := by
  cases caller with
  | some c => exact List.mem_append_right first h
  | none => exact h

section
variable {o : RenewalOptions} {now : Instant} {caller : Option Nat}

/-- Answered for the places that are left, a pass that stands here ends with every place
of the view as it is to be, and has replaced so many. -/
def Completes (o : RenewalOptions) (now : Instant) (caller : Option Nat) (all left : List Row)
    (replaced : Nat) (here : Refresher × List Action) : Prop :=
  ∃ r seen, here.1.run? (answers o now caller left) = some (r, seen) ∧
    r.view.sources = all.map (Row.after o now) ∧ r.passes = [] ∧
    readings (here.2 ++ seen) = dueEntries o now left ∧
    Concluded caller replaced r (here.2 ++ seen)

theorem Completes.conclude {all : List Row} {r : Refresher} {n : Nat} (idle : r.passes = [])
    (view : r.view.sources = all.map (Row.after o now))
    (working : caller = none → ∃ next, r.poller = .working next) :
    Completes o now caller all [] n (r.conclude caller n) := by
  refine ⟨_, [], rfl, by rw [conclude_view, view], ?_, ?_, ?_⟩
  · cases caller <;> exact idle
  · cases caller <;> rfl
  · cases caller with
    | some c => exact List.mem_cons_self
    | none =>
      obtain ⟨next, hnext⟩ := working rfl
      exact ⟨next, by simp [Refresher.conclude, hnext, Poller.resume]⟩

/-- The answer for the next expiring place. -/
theorem Completes.read {all back : List Row} {row : Row} {r : Refresher} {n m : Nat}
    {next : Refresher × List Action} (idle : r.passes = []) (due : row.isDue o now = true)
    (step : (match r.replace? row.answer.instant row.entry row.answer.value with
      | some view => { r with view }.proceed caller (n + 1) (dueEntries o now back)
      | none => r.proceed caller n (dueEntries o now back)) = next)
    (h : Completes o now caller all back m next) :
    Completes o now caller all (row :: back) m
      (r.proceed caller n (dueEntries o now (row :: back))) := by
  obtain ⟨r', seen, hrun, hsources, hpasses, hreads, hend⟩ := h
  have hanswered := step?_answered idle ⟨caller, row.entry, dueEntries o now back, n⟩
    row.answer.instant row.answer.value
  rw [step] at hanswered
  have hentries : dueEntries o now (row :: back) = row.entry :: dueEntries o now back := by
    rw [dueEntries, List.filter_cons_of_pos due, List.map_cons, ← dueEntries]
  have hanswers : answers o now caller (row :: back) =
      (row.answer.instant, .answered caller row.answer.value) :: answers o now caller back := by
    rw [answers, List.filter_cons_of_pos due, List.map_cons, ← answers]
  rw [hentries]
  refine ⟨r', next.2 ++ seen, ?_, hsources, hpasses, ?_, hend.behind _⟩
  · rw [hanswers, proceed, run?_cons hanswered, hrun, Option.map_some]
  · rw [hentries, ← hreads]
    rfl

/-- The reads of a pass that has come past the places in front. -/
theorem proceed_completes (front back : List Row) {r : Refresher} (n : Nat) (idle : r.passes = [])
    (view : r.view.sources = front.map (Row.after o now) ++ back.map (·.source))
    (named : ∀ x ∈ front ++ back, x.source.name = x.entry.name)
    (foremost : Foremost o now ((front ++ back).map (·.source)))
    (working : caller = none → ∃ next, r.poller = .working next) :
    Completes o now caller (front ++ back) back (n + back.countP (Row.isReplaced o now))
      (r.proceed caller n (dueEntries o now back)) := by
  -- The places in front are as they are to be; the next one joins them, read or not.
  induction back generalizing front r n with
  | nil => exact .conclude idle (by simpa using view) working
  | cons row back ih =>
    have split : front ++ row :: back = (front ++ [row]) ++ back := by simp
    rw [split] at named foremost
    have past {s : Refresher} (m : Nat) (hidle : s.passes = []) (hpoller : s.poller = r.poller)
        (hview : s.view.sources = front.map (Row.after o now) ++ row.after o now :: back.map (·.source)) :
        Completes o now caller (front ++ row :: back) back
          (m + back.countP (Row.isReplaced o now)) (s.proceed caller m (dueEntries o now back)) := by
      rw [split]
      exact ih (front ++ [row]) m hidle (by simpa using hview) named foremost (hpoller ▸ working)
    by_cases due : row.isDue o now = true
    · cases hvalue : row.answer.value with
      | error e =>
        have hafter : row.after o now = row.source := by simp [Row.after, due, hvalue]
        have hcount : (row :: back).countP (Row.isReplaced o now) =
            back.countP (Row.isReplaced o now) :=
          List.countP_cons_of_neg (by simp [Row.isReplaced, hvalue, Except.isOk, Except.toBool])
        rw [hcount]
        exact .read idle due (by rw [hvalue]; rfl) (past n idle rfl (hafter ▸ view))
      | ok reading =>
        have hafter : row.after o now =
            Compose.sourceOf row.entry row.answer.instant reading := by
          simp [Row.after, due, hvalue]
        have hcount : n + (row :: back).countP (Row.isReplaced o now) =
            n + 1 + back.countP (Row.isReplaced o now) := by
          rw [List.countP_cons_of_pos (by simp [Row.isReplaced, due, hvalue, Except.isOk, Except.toBool])]
          omega
        obtain ⟨v, hreplace, hsources⟩ := replace?_after view (fun x hx => named x (by simp at hx ⊢; tauto))
          (others_of_foremost (split ▸ foremost) due) reading
        rw [hcount]
        exact .read idle due (by rw [hvalue, hreplace])
          (past (s := { r with view := v }) (n + 1) idle rfl (hafter ▸ hsources))
    · have hafter : row.after o now = row.source := by simp [Row.after, due]
      have hcount : (row :: back).countP (Row.isReplaced o now) =
          back.countP (Row.isReplaced o now) :=
        List.countP_cons_of_neg (by simp [Row.isReplaced, due])
      have hrest := past n idle rfl (hafter ▸ view)
      unfold Completes dueEntries answers at hrest ⊢
      rw [hcount, List.filter_cons_of_neg due]
      exact hrest

/-! ## The beginning of a pass -/

theorem expiring?_eq {sources : List Source}
    (defined : ∀ s ∈ sources, (s.isExpiring? o now).isSome) :
    expiring? o now sources =
      some ((sources.filter fun s => s.isExpiring? o now = some true).map (·.name)) := by
  induction sources with
  | nil => rfl
  | cons s rest ih =>
    obtain ⟨hs, hrest⟩ := List.forall_mem_cons.1 defined
    obtain ⟨isExpiring, hs⟩ := Option.isSome_iff_exists.1 hs
    rw [expiring?, hs, ih hrest]
    cases isExpiring <;> simp [hs]

/-- An expiring source that is the first of its name is read by its own entry. -/
theorem entryNamed?_of_foremost {rows : List Row} {row : Row} (mem : row ∈ rows)
    (named : ∀ x ∈ rows, x.source.name = x.entry.name)
    (foremost : Foremost o now (rows.map (·.source))) (due : row.isDue o now = true) :
    entryNamed? (rows.map (·.entry)) row.source.name = some row.entry := by
  obtain ⟨front, back, rfl⟩ := List.append_of_mem mem
  rw [entryNamed?, List.find?_eq_some_iff_append]
  refine ⟨by simp [named row mem], front.map (·.entry), back.map (·.entry), by simp, ?_⟩
  intro e he
  obtain ⟨x, hx, rfl⟩ := List.mem_map.1 he
  have hother := others_of_foremost foremost due x hx
  rw [named x (List.mem_append_left _ hx)] at hother
  simpa using hother

theorem agenda?_eq {rows : List Row} {r : Refresher} (options : r.options = o)
    (entries : rows.map (·.entry) = r.entries) (sources : rows.map (·.source) = r.view.sources)
    (named : ∀ x ∈ rows, x.source.name = x.entry.name)
    (defined : ∀ s ∈ r.view.sources, (s.isExpiring? o now).isSome)
    (foremost : Foremost o now r.view.sources) :
    r.agenda? now = some (dueEntries o now rows) := by
  rw [agenda?, options, expiring?_eq defined, ← sources, ← entries, Option.map_some,
    List.filter_map, List.map_map, List.filterMap_map, Option.some.injEq]
  have hdue : (rows.filter (Row.isDue o now)).filterMap
      (fun row => entryNamed? (rows.map (·.entry)) row.source.name) =
      (rows.filter (Row.isDue o now)).filterMap fun row => some row.entry := by
    refine List.filterMap_congr fun row hrow => ?_
    obtain ⟨mem, due⟩ := List.mem_filter.1 hrow
    exact entryNamed?_of_foremost mem named (sources ▸ foremost) due
  exact hdue.trans (congrFun List.filterMap_eq_map _)

theorem step?_opening {r : Refresher} (opens : (r.step? now (opening caller)).isSome) :
    ∃ s : Refresher, s = { r with poller := s.poller } ∧
      r.step? now (opening caller) = some (s.begin now caller) ∧
      (caller = none → ∃ next, s.poller = .working next) := by
  cases caller with
  | some c => exact ⟨r, rfl, rfl, by simp⟩
  | none =>
    obtain ⟨made, hmade⟩ := Option.isSome_iff_exists.1 opens
    obtain ⟨poller, htick, -⟩ := Option.map_eq_some_iff.1 hmade
    refine ⟨{ r with poller }, rfl, by simp only [opening, step?, htick, Option.map_some], fun _ => ?_⟩
    unfold Poller.tick? at htick
    split at htick
    · split at htick
      · exact ⟨_, (Option.some.inj htick).symm⟩
      · cases htick
    · cases htick

/-! ## Passes that go wrong -/

/-- A pass that cannot tell what is expiring does not come to the end of a pass. -/
theorem abandon_not_concluded {r : Refresher} (idle : r.passes = []) (rows : List Row) (n : Nat) :
    ¬ ∃ r' seen, (r.abandon caller).1.run? (answers o now caller rows) = some (r', seen) ∧
      Concluded caller n r' ((r.abandon caller).2 ++ seen) := by
  rintro ⟨r', seen, hrun, hend⟩
  cases hanswers : answers o now caller rows with
  | nil =>
    rw [hanswers] at hrun
    obtain ⟨rfl, rfl⟩ := Prod.mk.inj (Option.some.inj hrun)
    cases caller <;> simp [Concluded, abandon] at hend
  | cons event rest =>
    -- Nothing is being read, so that no answer is possible.
    obtain ⟨row, -, rfl⟩ : ∃ row ∈ rows.filter (Row.isDue o now),
        (row.answer.instant, Event.answered caller row.answer.value) = event :=
      List.mem_map.1 (show event ∈ answers o now caller rows by simp [hanswers])
    have hpasses : (r.abandon caller).1.passes = [] := by cases caller <;> exact idle
    rw [hanswers, run?, step?, hpasses] at hrun
    cases hrun

/-- Places at which every read finds nothing. -/
def vacant (now : Instant) (r : Refresher) : List Row :=
  (r.entries.zip r.view.sources).map fun place => ⟨place.1, place.2, ⟨now, .ok none⟩⟩

theorem vacant_entries (now : Instant) {r : Refresher} (h : r.entries.length = r.view.sources.length) :
    (vacant now r).map (·.entry) = r.entries := by
  simp only [vacant, List.map_map]
  exact List.map_fst_zip (Nat.le_of_eq h)

theorem vacant_sources (now : Instant) {r : Refresher} (h : r.entries.length = r.view.sources.length) :
    (vacant now r).map (·.source) = r.view.sources := by
  simp only [vacant, List.map_map]
  exact List.map_snd_zip (Nat.le_of_eq h.symm)

theorem lease_after_vacant {r : Refresher} {row : Row} (mem : row ∈ vacant now r)
    (due : row.isDue o now = true) : (row.after o now).lease = none := by
  obtain ⟨place, -, rfl⟩ := List.mem_map.1 mem
  simp only [Row.after, due, if_true, Compose.sourceOf]
  rfl

end

/-- A pass that nothing interrupts does what it should whatever the answers to its reads, just
when it is told for every source whether it is expiring, and no expiring one stands behind
another of its name. In any run the sources keep their names and places, and what is expiring
goes on expiring until it is replaced. -/
theorem refresh_exact_iff (r : Refresher) (now : Instant) (caller : Option Nat)
    (idle : r.passes = []) (composed : r.view.sources.map (·.name) = r.entries.map (·.name))
    (opens : (r.step? now (opening caller)).isSome) :
    ((∀ rows : List Row, rows.map (·.entry) = r.entries → rows.map (·.source) = r.view.sources →
        ∃ r' seen, r.run? (passEvents r.options now caller rows) = some (r', seen) ∧
          Refreshed r.options now caller rows r' seen) ↔
      (∀ s ∈ r.view.sources, (s.isExpiring? r.options now).isSome) ∧
        Foremost r.options now r.view.sources) ∧
    (∀ es r' seen, r.run? es = some (r', seen) →
      r'.view.sources.map (·.name) = r.view.sources.map (·.name)) ∧
    ∀ s ∈ r.view.sources, s.isExpiring? r.options now = some true →
      ∀ later, now ≤ later → s.isExpiring? r.options later = some true := by
  obtain ⟨s, hs, hopens, working⟩ := step?_opening opens
  have hview : s.view = r.view := by rw [hs]
  have hoptions : s.options = r.options := by rw [hs]
  have hidle : s.passes = [] := by rw [hs]; exact idle
  have hlength : r.entries.length = r.view.sources.length := by
    simpa using (congrArg List.length composed).symm
  have hentries := vacant_entries now hlength
  have hsources := vacant_sources now hlength
  refine ⟨⟨fun h => ⟨?_, ?_⟩, ?_⟩, fun es r' seen hrun => (run?_kept hrun).names,
    fun s _ hs later le => Source.isExpiring?_later hs le⟩
  · obtain ⟨r', seen, hrun, refreshed⟩ := h _ hentries hsources
    rw [← hview, ← hoptions, ← isSome_agenda?_iff]
    by_contra undefined
    rw [Bool.not_eq_true, Option.isSome_eq_false_iff, Option.isNone_iff_eq_none] at undefined
    have hbegin : s.begin now caller = s.abandon caller := by
      unfold begin
      rw [undefined]
    rw [passEvents, run?_cons (hopens.trans (congrArg some hbegin))] at hrun
    obtain ⟨last, hlast, heq⟩ := Option.map_eq_some_iff.1 hrun
    obtain ⟨rfl, rfl⟩ := Prod.mk.inj heq
    exact abandon_not_concluded hidle _ _ ⟨last.1, last.2, hlast, refreshed.concluded⟩
  · obtain ⟨r', seen, hrun, refreshed⟩ := h _ hentries hsources
    rw [Foremost, List.pairwise_iff_getElem]
    intro i j hi hj before due same
    -- Nothing reaches the later place, where the pass should have left no lease.
    have kept := (run?_kept hrun).shadowed i j _ _ before (List.getElem?_eq_getElem hi)
      (List.getElem?_eq_getElem hj) same
    have hat : ((vacant now r).map (·.source))[j]? = some r.view.sources[j] := by
      rw [hsources, List.getElem?_eq_getElem hj]
    rw [List.getElem?_map, Option.map_eq_some_iff] at hat
    obtain ⟨row, hrow, hsource⟩ := hat
    rw [refreshed.sources, List.getElem?_map, hrow, Option.map_some, Option.some.injEq] at kept
    have hnone := lease_after_vacant (List.mem_of_getElem? hrow)
      (show row.isDue r.options now = true by simpa [Row.isDue, hsource] using due)
    rw [kept] at hnone
    rw [Source.isExpiring?, hnone] at due
    cases due
  · rintro ⟨defined, foremost⟩ rows hentries hsources
    have named : ∀ x ∈ rows, x.source.name = x.entry.name := by
      rw [← hentries, ← hsources, List.map_map, List.map_map] at composed
      exact List.map_inj_left.1 composed
    have hagenda : s.agenda? now = some (dueEntries r.options now rows) :=
      agenda?_eq hoptions (hentries.trans (by rw [hs]))
        (hsources.trans (congrArg View.sources hview).symm) named (hview ▸ defined)
        (hview ▸ foremost)
    have hbegin : s.begin now caller = s.proceed caller 0 (dueEntries r.options now rows) := by
      unfold begin
      rw [hagenda]
    obtain ⟨r', seen, hrun, hafter, hpasses, hreads, hend⟩ :=
      proceed_completes [] rows 0 hidle (by rw [hview]; exact hsources.symm) named (hsources ▸ foremost) working
    refine ⟨r', _, ?_, hreads, hafter, hpasses, by simpa using hend⟩
    rw [passEvents, run?_cons (hopens.trans (congrArg some hbegin)), hrun]
    rfl

/-- Credentials that are granted for a minute. -/
def minute (id : String) : Option Store.Reading :=
  some { data := [("username", .string id)], leaseId := some id, leaseSeconds := 60 }

def credentials (key : String) : Backend.Entry :=
  { name := "mysql/creds/app", transform := .rename (.ofPairs [("username", key)]) }

/-- Credentials below an application's own properties. -/
def lone : Refresher where
  view := ⟨[.empty "secret/app", Compose.sourceOf (credentials "user") 0 (minute "v-0")]⟩
  entries := [{ name := "secret/app" }, credentials "user"]
  options := { enabled := false }

theorem isExpiring?_minute {s : Source} {id : String} (h : s.lease = some ⟨id, ⟨60, 0⟩, false⟩) :
    s.isExpiring? { enabled := false } (Span.ofSeconds 50) = some true := by
  have hlease : RenewalOptions.isExpiring? { enabled := false } ⟨60, 0⟩ (Span.ofSeconds 50) =
      some true := by decide +kernel
  rw [Source.isExpiring?, h]
  exact hlease

/-- After fifty seconds the credentials are read anew. -/
theorem lone_refreshed :
    lone.passes = [] ∧ lone.view.sources.map (·.name) = lone.entries.map (·.name) ∧
    ∃ r seen, lone.run? (passEvents lone.options (Span.ofSeconds 50) (some 0)
        [⟨{ name := "secret/app" }, .empty "secret/app", ⟨0, .ok none⟩⟩,
          ⟨credentials "user", Compose.sourceOf (credentials "user") 0 (minute "v-0"),
            ⟨Span.ofSeconds 51, .ok (minute "v-1")⟩⟩]) = some (r, seen) ∧
      r.view.sources =
        [.empty "secret/app", Compose.sourceOf (credentials "user") (Span.ofSeconds 51) (minute "v-1")] := by
  obtain ⟨exact_iff, -⟩ := refresh_exact_iff lone (Span.ofSeconds 50) (some 0) rfl rfl rfl
  have due := isExpiring?_minute (s := Compose.sourceOf (credentials "user") 0 (minute "v-0")) rfl
  have idle : (Source.empty "secret/app").isExpiring? { enabled := false } (Span.ofSeconds 50) =
      some false := rfl
  obtain ⟨r, seen, hrun, refreshed⟩ := exact_iff.2
    ⟨by simp [lone, due, idle], by simp [Foremost, lone, credentials, minute, Compose.sourceOf, Source.empty]⟩
    [⟨{ name := "secret/app" }, .empty "secret/app", ⟨0, .ok none⟩⟩,
      ⟨credentials "user", Compose.sourceOf (credentials "user") 0 (minute "v-0"),
        ⟨Span.ofSeconds 51, .ok (minute "v-1")⟩⟩] rfl rfl
  refine ⟨rfl, rfl, r, seen, hrun, ?_⟩
  rw [refreshed.sources]
  simp [Row.after, Row.isDue, lone, due, idle]

/-- Two entries for one name, each with its own key. -/
def twins : Refresher where
  view := ⟨[Compose.sourceOf (credentials "first.user") 0 (minute "v-0"),
    Compose.sourceOf (credentials "second.user") 0 (minute "v-1")]⟩
  entries := [credentials "first.user", credentials "second.user"]
  options := { enabled := false }

def twinRows : List Row := [
  ⟨credentials "first.user", Compose.sourceOf (credentials "first.user") 0 (minute "v-0"),
    ⟨Span.ofSeconds 50, .ok (minute "v-2")⟩⟩,
  ⟨credentials "second.user", Compose.sourceOf (credentials "second.user") 0 (minute "v-1"),
    ⟨Span.ofSeconds 50, .ok (minute "v-3")⟩⟩]

/-- Both of them are expiring, and the second keeps what it has. -/
theorem twins_not_refreshed :
    twins.passes = [] ∧ twins.view.sources.map (·.name) = twins.entries.map (·.name) ∧
    (∀ s ∈ twins.view.sources, s.isExpiring? twins.options (Span.ofSeconds 50) = some true) ∧
    twinRows.map (·.entry) = twins.entries ∧ twinRows.map (·.source) = twins.view.sources ∧
    ¬ ∃ r seen,
      twins.run? (passEvents twins.options (Span.ofSeconds 50) (some 0) twinRows) = some (r, seen) ∧
        Refreshed twins.options (Span.ofSeconds 50) (some 0) twinRows r seen := by
  have first := isExpiring?_minute
    (s := Compose.sourceOf (credentials "first.user") 0 (minute "v-0")) rfl
  have second := isExpiring?_minute
    (s := Compose.sourceOf (credentials "second.user") 0 (minute "v-1")) rfl
  refine ⟨rfl, rfl, by simp [twins, first, second], rfl, rfl, ?_⟩
  rintro ⟨r, seen, hrun, refreshed⟩
  have kept := (run?_kept hrun).shadowed 0 1 _ _ Nat.one_pos rfl rfl rfl
  have hafter : (twinRows.map (Row.after twins.options (Span.ofSeconds 50)))[1]? =
      some (Compose.sourceOf (credentials "second.user") (Span.ofSeconds 50) (minute "v-3")) := by
    simp [twinRows, Row.after, Row.isDue, twins, second]
  rw [refreshed.sources, hafter] at kept
  have hid := congrArg (fun s => s.bind fun s => s.lease.map (·.id)) kept
  exact absurd hid (by decide)

end Refresher
end SecretLayers
