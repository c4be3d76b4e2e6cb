import SecretLayers.Proofs.Properties.Refreshing
import SecretLayers.Proofs.Session.Renewal
/-!
Leased sources stay fresh. A poller looks at the leases at least once in every interval. A lease that
a pass leaves alone has more than an interval left, and one that is granted anew is longer than that,
so the next look is taken before it is over. What has no lease is never read again.
-/
namespace SecretLayers
set_option autoImplicit false

/-! ## What remains of leases -/

/-- In a span no more than the span is lost. -/
theorem Lease.remaining_le_add (l : Lease) (now : Instant) (span : Span) :
    l.remaining now ≤ l.remaining (now + span) + span := by
  have lost (term start now span : Nat) : term - (now - start) ≤ term - (now + span - start) + span := by
    omega
  exact lost _ _ _ _

theorem Lease.lasts_of_longer {l : Lease} {now later : Instant} {span : Span}
    (longer : span < l.remaining now) (soon : later ≤ now + span) : 0 < l.remaining later := by
  have left : 0 + span < l.remaining (now + span) + span :=
    Nat.lt_of_lt_of_le ((Nat.zero_add span).symm ▸ longer) (l.remaining_le_add now span)
  exact Nat.lt_of_lt_of_le (Nat.lt_of_add_lt_add_right left) (l.remaining_antitone soon)

/-! ## Sources by name -/

namespace View
variable {v w : View} {source : Source} {name : String}

theorem source?_replace? (h : v.replace? source = some w) (name : String) :
    w.source? name = if source.name = name then some source else v.source? name := by
  obtain ⟨replaced, hreplaced, rfl⟩ := Option.map_eq_some_iff.1 h
  obtain ⟨front, s, back, hsources, rfl, same, others⟩ := replaceIn?_eq_some_iff.1 hreplaced
  unfold source?
  rw [hsources, List.find?_append, List.find?_append]
  by_cases hname : source.name = name
  · have none : front.find? (fun s => s.name == name) = none := by
      rw [List.find?_eq_none]
      intro x hx
      simpa [← hname] using others x hx
    rw [none, List.find?_cons_of_pos (by simpa using hname), if_pos hname, Option.none_or]
  · rw [List.find?_cons_of_neg (by simpa using hname), List.find?_cons_of_neg (by simpa [same] using hname),
      if_neg hname]

theorem exists_replace? (h : (v.source? source.name).isSome) : ∃ w, v.replace? source = some w := by
  obtain ⟨s, hs⟩ := Option.isSome_iff_exists.1 h
  obtain ⟨named, front, back, hsources, others⟩ := List.find?_eq_some_iff_append.1 hs
  have replaced : replaceIn? source v.sources = some (front ++ source :: back) := by
    rw [replaceIn?_eq_some_iff]
    refine ⟨front, s, back, hsources, rfl, by simpa using named, fun x hx => ?_⟩
    simpa using others x hx
  exact ⟨_, congrArg (Option.map View.mk) replaced⟩

theorem mem_of_replace? (h : v.replace? source = some w) {t : Source} (ht : t ∈ w.sources) :
    t = source ∨ t ∈ v.sources := by
  obtain ⟨replaced, hreplaced, rfl⟩ := Option.map_eq_some_iff.1 h
  obtain ⟨front, s, back, hsources, rfl, -, -⟩ := replaceIn?_eq_some_iff.1 hreplaced
  rw [hsources]
  simp only [List.mem_append, List.mem_cons] at ht ⊢
  tauto

end View

namespace Refresher

/-! ## What a pass is to read -/

/-- A pass that begins reads an entry of a name just where a source of it is expiring and there is an
entry for it. -/
theorem exists_mem_agenda_iff {r : Refresher} {now : Instant} {agenda : List Backend.Entry}
    (h : r.agenda? now = some agenda) (name : String) :
    (∃ e ∈ agenda, e.name = name) ↔
      (∃ s ∈ r.view.sources, s.isExpiring? r.options now = some true ∧ s.name = name) ∧
        ∃ e ∈ r.entries, e.name = name := by
  have defined := (isSome_agenda?_iff r now).1 (by rw [h]; rfl)
  rw [agenda?, expiring?_eq defined, Option.map_some, Option.some.injEq] at h
  subst h
  simp only [List.mem_filterMap, List.mem_map, List.mem_filter, decide_eq_true_eq]
  constructor
  · rintro ⟨e, ⟨_, ⟨s, ⟨hs, due⟩, rfl⟩, found⟩, rfl⟩
    have named : e.name = s.name := by simpa using List.find?_some found
    exact ⟨⟨s, hs, due, named.symm⟩, e, List.mem_of_find?_eq_some found, rfl⟩
  · rintro ⟨⟨s, hs, due, rfl⟩, e, he, same⟩
    obtain ⟨e', found⟩ := Option.isSome_iff_exists.1
      (List.find?_isSome.2 ⟨e, he, by simpa using same⟩ :
        (entryNamed? r.entries s.name).isSome)
    have named : e'.name = s.name := by simpa using List.find?_some found
    exact ⟨e', ⟨s.name, ⟨s, ⟨hs, due⟩, rfl⟩, found⟩, named⟩

/-! ## Steps -/

def underway (r : Refresher) (caller : Option Nat) : Option Pass :=
  r.passes.find? fun p => p.caller = caller

/-- What a refresher makes of an event that it takes. -/
inductive Steps (r : Refresher) (now : Instant) : Event → Refresher × List Action → Prop
  | refresh (c : Nat) : Steps r now (.refresh c) (r.begin now (some c))
  | launch {p : Poller} (launches : r.poller.launch? r.options.pollSpan now = some p) :
      Steps r now .launch ({ r with poller := p }, [])
  | tick {p : Poller} (ticks : r.poller.tick? r.options.pollSpan now = some p) :
      Steps r now .tick (({ r with poller := p } : Refresher).begin now none)
  | stop {p : Poller} (cancelled : r.cancelled = true) (stops : r.poller.stop? = some p) :
      Steps r now .stop ({ r with poller := p }, [])
  | answered {caller : Option Nat} {p : Pass} (result : Except Error (Option Store.Reading))
      (under : r.underway caller = some p) :
      Steps r now (.answered caller result) (r.land now p result)
  | shutdown (c : Nat) :
      Steps r now (.shutdown c) ({ r with cancelled := true, joining := c :: r.joining }, [])
  | join {c : Nat} (asked : c ∈ r.joining) (ended : r.isRunning = false) :
      Steps r now (.join c) ({ r with joining := r.joining.erase c }, [.replied c .done])
  | drop : Steps r now .drop ({ r with cancelled := true }, [])

theorem steps_of_step? {r : Refresher} {now : Instant} {e : Event} {made : Refresher × List Action}
    (h : r.step? now e = some made) : r.Steps now e made := by
  cases e with
  | refresh c =>
    obtain rfl := Option.some.inj h
    exact .refresh c
  | launch =>
    obtain ⟨p, launches, rfl⟩ := Option.map_eq_some_iff.1 h
    exact .launch launches
  | tick =>
    obtain ⟨p, ticks, rfl⟩ := Option.map_eq_some_iff.1 h
    exact .tick ticks
  | stop =>
    simp only [step?] at h
    split at h
    · rename_i cancelled
      obtain ⟨p, stops, rfl⟩ := Option.map_eq_some_iff.1 h
      exact .stop cancelled stops
    · cases h
  | answered caller result =>
    obtain ⟨p, under, rfl⟩ := Option.map_eq_some_iff.1 h
    exact .answered result under
  | shutdown c =>
    obtain rfl := Option.some.inj h
    exact .shutdown c
  | join c =>
    simp only [step?] at h
    split at h
    · rename_i guards
      simp only [Bool.and_eq_true, List.contains_iff_mem, Bool.not_eq_true'] at guards
      obtain rfl := Option.some.inj h
      exact .join guards.1 guards.2
    · cases h
  | drop =>
    obtain rfl := Option.some.inj h
    exact .drop

/-! ## Lives of a refresher -/

structure Move where
  now : Instant
  event : Event
  before : Refresher
  after : Refresher

/-- Between two instants nothing is being read, and nothing is left undone that the refresher does of
its own accord. -/
def Rests (r : Refresher) (now later : Instant) : Prop :=
  ∀ u, now ≤ u → u < later → r.passes = [] ∧
    ∀ e ∈ system.urgent r ++ [system.tick, system.launch], r.step? u e = none

/-- What may become of a refresher: it takes events, and rests in between. -/
inductive Lives (r : Refresher) (begun : Instant) : List Move → Refresher → Instant → Prop
  | start : Lives r begun [] r begun
  | step {ms : List Move} {s s' : Refresher} {now : Instant} {e : Event} {seen : List Action}
      (lives : Lives r begun ms s now) (step : s.step? now e = some (s', seen)) :
      Lives r begun (ms ++ [⟨now, e, s, s'⟩]) s' now
  | wait {ms : List Move} {s : Refresher} {now later : Instant} (lives : Lives r begun ms s now)
      (le : now ≤ later) (rests : s.Rests now later) : Lives r begun ms s later

/-- A reading is granted for longer than an interval. -/
structure Lasting (o : RenewalOptions) (reading : Store.Reading) : Prop where
  identified : ∃ id, reading.leaseId = some id ∧ id ≠ ""
  longer : o.pollInterval < reading.leaseSeconds

/-- A move before a shutdown. All readings are granted for fewer than 63 bits of seconds, and a read
of an entry of a name brings one that is granted for longer than an interval. -/
structure Move.Supplied (o : RenewalOptions) (name : String) (m : Move) : Prop where
  running : m.after.cancelled = false
  fits : ∀ caller reading, m.event = .answered caller (.ok (some reading)) →
    reading.leaseSeconds < 2 ^ 63
  renews : ∀ caller result p, m.event = .answered caller result →
    m.before.underway caller = some p → p.entry.name = name →
      ∃ reading, result = .ok (some reading) ∧ Lasting o reading

/-! ## Looks ahead of the end of a lease -/

/-- Before a lease is over there is another look at it, or the pass that the poller makes is to read
it anew. -/
inductive Guarded (interval : Span) (now : Instant) (l : Lease) (name : String) (pass : Option Pass) :
    Poller → Prop
  | fresh (longer : interval < l.remaining now) : Guarded interval now l name pass .fresh
  | sleeping {due : Instant} (soon : due ≤ now + interval) (lasts : 0 < l.remaining due) :
      Guarded interval now l name pass (.sleeping due)
  | working {next : Instant} {p : Pass} (under : pass = some p) (soon : next ≤ now + interval)
      (reads : 0 < l.remaining next ∨ ∃ e ∈ p.entry :: p.rest, e.name = name) :
      Guarded interval now l name pass (.working next)

section
variable {interval : Span} {now : Instant} {l : Lease} {name : String} {pass : Option Pass}

theorem Guarded.renew {l' : Lease} {p : Poller} (h : Guarded interval now l name pass p)
    (longer : interval < l'.remaining now) : Guarded interval now l' name pass p := by
  cases h with
  | fresh _ => exact .fresh longer
  | sleeping soon _ => exact .sleeping soon (Lease.lasts_of_longer longer soon)
  | working under soon _ => exact .working under soon (.inl (Lease.lasts_of_longer longer soon))

/-- The poller goes on with its pass, or back to sleep. -/
theorem guarded_proceed_working {r : Refresher} {next : Instant} {es : List Backend.Entry} (n : Nat)
    (working : r.poller = .working next) (soon : next ≤ now + interval)
    (reads : 0 < l.remaining next ∨ ∃ e ∈ es, e.name = name) :
    Guarded interval now l name ((r.proceed none n es).1.underway none)
      (r.proceed none n es).1.poller := by
  cases es with
  | nil =>
    have asleep : (r.proceed none n []).1.poller = .sleeping next := by
      simp only [proceed, conclude, working, Poller.resume]
    rw [asleep]
    exact .sleeping soon (reads.resolve_right (by simp))
  | cons e es =>
    have still : (r.proceed none n (e :: es)).1.poller = .working next := working
    rw [still]
    exact .working (List.find?_cons_of_pos (by simp)) soon reads

theorem Guarded.proceed {r : Refresher} {es : List Backend.Entry} (n : Nat)
    (h : Guarded interval now l name pass r.poller)
    (reads : ∀ next, r.poller = .working next → next ≤ now + interval →
      0 < l.remaining next ∨ ∃ e ∈ es, e.name = name) :
    Guarded interval now l name ((r.proceed none n es).1.underway none)
      (r.proceed none n es).1.poller := by
  have resumed : (r.proceed none n es).1.poller = r.poller.resume ∨
      (r.proceed none n es).1.poller = r.poller := by
    cases es with
    | nil => exact .inl rfl
    | cons e es => exact .inr rfl
  generalize hp : r.poller = p at h resumed reads
  cases h with
  | fresh longer =>
    rw [resumed.elim id id]
    exact .fresh longer
  | sleeping soon lasts =>
    rw [resumed.elim id id]
    exact .sleeping soon lasts
  | working under soon _ => exact guarded_proceed_working n hp soon (reads _ rfl soon)

theorem proceed_some (r : Refresher) (c n : Nat) (es : List Backend.Entry) :
    (r.proceed (some c) n es).1.poller = r.poller ∧
      (r.proceed (some c) n es).1.underway none = r.underway none := by
  cases es with
  | nil => exact ⟨rfl, rfl⟩
  | cons e es => exact ⟨rfl, List.find?_cons_of_neg (by simp)⟩

end

theorem begin_of_agenda {r : Refresher} {now : Instant} {caller : Option Nat}
    {agenda : List Backend.Entry} (h : r.agenda? now = some agenda) :
    r.begin now caller = r.proceed caller 0 agenda := by
  unfold begin
  rw [h]

/-- The refresher when a read of a pass has been answered, before the pass goes on. -/
def landed (r : Refresher) (now : Instant) (p : Pass)
    (result : Except Error (Option Store.Reading)) : Refresher :=
  { r with
    passes := r.passes.filter fun q => q.caller ≠ p.caller
    view := (r.replace? now p.entry result).getD r.view }

theorem exists_land_eq (r : Refresher) (now : Instant) (p : Pass)
    (result : Except Error (Option Store.Reading)) :
    ∃ n, r.land now p result = (r.landed now p result).proceed p.caller n p.rest := by
  have same : ({ r with passes := r.passes.filter fun q => q.caller ≠ p.caller } : Refresher).replace? now
      p.entry result = r.replace? now p.entry result := by
    cases result <;> rfl
  unfold land landed
  simp only [same]
  cases r.replace? now p.entry result with
  | none => exact ⟨p.replaced, rfl⟩
  | some view => exact ⟨p.replaced + 1, rfl⟩

theorem underway_landed {r : Refresher} {now : Instant} {p : Pass}
    {result : Except Error (Option Store.Reading)} {caller : Option Nat} (other : caller ≠ p.caller) :
    (r.landed now p result).underway caller = r.underway caller := by
  unfold underway landed
  rw [List.find?_filter]
  congr 1
  funext q
  by_cases h : q.caller = caller
  · simp [h, other]
  · simp [h]

/-! ## Fresh sources -/

/-- The leases of some sources are granted for fewer than 63 bits of seconds. -/
def Fits (sources : List Source) : Prop :=
  ∀ s ∈ sources, ∀ l, s.lease = some l → l.lease.seconds < 2 ^ 63

/-- The first source of a name has a lease that is not over, and will be looked at before it is. -/
structure Fresh (o : RenewalOptions) (name : String) (now : Instant) (r : Refresher) : Prop where
  options : r.options = o
  entry : ∃ e ∈ r.entries, e.name = name
  fits : Fits r.view.sources
  leased : ∃ s l, r.view.source? name = some s ∧ s.lease = some l ∧ 0 < l.lease.remaining now ∧
    Guarded o.pollSpan now l.lease name (r.underway none) r.poller

section
variable {o : RenewalOptions} {name : String} {now later : Instant} {r r' : Refresher}

/-- Whether a pass goes on or ends, only the poller and the passes change. -/
theorem fresh_of_proceed {caller : Option Nat} {n : Nat} {es : List Backend.Entry} {s : Source}
    {l : SecretLease} (options : r.options = o) (entry : ∃ e ∈ r.entries, e.name = name)
    (fits : Fits r.view.sources) (hs : r.view.source? name = some s) (hl : s.lease = some l)
    (lasts : 0 < l.lease.remaining now)
    (guarded : Guarded o.pollSpan now l.lease name ((r.proceed caller n es).1.underway none)
      (r.proceed caller n es).1.poller) : Fresh o name now (r.proceed caller n es).1 := by
  have same : (r.proceed caller n es).1.options = r.options ∧
      (r.proceed caller n es).1.entries = r.entries := by
    cases es with
    | nil => cases caller <;> exact ⟨rfl, rfl⟩
    | cons e es => exact ⟨rfl, rfl⟩
  refine ⟨same.1.trans options, same.2.symm ▸ entry, ?_, s, l, ?_, hl, lasts, guarded⟩
  · rw [proceed_view]
    exact fits
  · rw [proceed_view]
    exact hs

theorem isSome_isExpiring?_of_fits {s : Source} (fraction : o.threshold.IsFraction)
    (fits : ∀ l, s.lease = some l → l.lease.seconds < 2 ^ 63) (now : Instant) :
    (s.isExpiring? o now).isSome := by
  unfold Source.isExpiring?
  split
  · rfl
  · rename_i l hl
    rcases RenewalOptions.isExpiring?_cases fraction (fits l hl) now with due | ⟨calm, -⟩
    · rw [due]
      rfl
    · rw [calm]
      rfl

theorem isSome_agenda?_of_fits (fraction : r.options.threshold.IsFraction)
    (fits : Fits r.view.sources) (now : Instant) : (r.agenda? now).isSome :=
  (isSome_agenda?_iff r now).2 fun s hs => isSome_isExpiring?_of_fits fraction (fits s hs) now

/-- While the refresher rests the lease is not over before the poller looks again. -/
theorem Fresh.wait (h : Fresh o name now r) (le : now ≤ later) (rests : r.Rests now later) :
    Fresh o name later r := by
  rcases Nat.eq_or_lt_of_le le with rfl | lt
  · exact h
  obtain ⟨s, l, hs, hl, -, guarded⟩ := h.leased
  obtain ⟨idle, settled⟩ := rests now (Nat.le_refl now) lt
  generalize hp : r.poller = p at guarded
  cases guarded with
  | fresh longer =>
    have unlaunched := settled .launch (by simp [system])
    simp [step?, hp, Poller.launch?] at unlaunched
  | @sleeping due soon lasts =>
    have asleep : later ≤ due := by
      by_contra late
      have early : max now due < later := Nat.max_lt.2 ⟨lt, Nat.not_le.1 late⟩
      have unticked := (rests (max now due) (Nat.le_max_left now due) early).2 .tick (by simp [system])
      simp [step?, hp, Poller.tick?] at unticked
    refine ⟨h.options, h.entry, h.fits, s, l, hs, hl, ?_, ?_⟩
    · exact Nat.lt_of_lt_of_le lasts (l.lease.remaining_antitone asleep)
    · rw [hp]
      exact .sleeping (Nat.le_trans soon (Nat.add_le_add_right le _)) lasts
  | working under soon reads =>
    rw [underway, idle] at under
    cases under

/-- A pass of the poller that begins is to read the source anew, unless its lease has more than an
interval left. -/
theorem Fresh.agenda (h : Fresh o name now r) (fraction : o.threshold.IsFraction)
    {agenda : List Backend.Entry} (hagenda : r.agenda? now = some agenda) {s : Source} {l : SecretLease}
    (hs : r.view.source? name = some s) (hl : s.lease = some l) :
    o.pollSpan < l.lease.remaining now ∨ ∃ e ∈ agenda, e.name = name := by
  have mem := List.mem_of_find?_eq_some hs
  have named : s.name = name := by simpa using List.find?_some hs
  rcases RenewalOptions.isExpiring?_cases fraction (h.fits s mem l hl) now with due | ⟨-, longer⟩
  · refine .inr ((exists_mem_agenda_iff hagenda name).2 ⟨⟨s, mem, ?_, named⟩, h.entry⟩)
    rw [Source.isExpiring?, hl, h.options]
    exact due
  · exact .inl longer

theorem Fresh.tick (h : Fresh o name now r) (fraction : o.threshold.IsFraction) {p : Poller}
    (tick : r.poller.tick? o.pollSpan now = some p) :
    Fresh o name now ({ r with poller := p }.begin now none).1 := by
  obtain ⟨s, l, hs, hl, lasts, -⟩ := h.leased
  obtain ⟨next, rfl, soon⟩ : ∃ next, p = .working next ∧ next ≤ now + o.pollSpan := by
    unfold Poller.tick? at tick
    split at tick
    · split at tick
      · rename_i due
        exact ⟨_, (Option.some.inj tick).symm, Poller.nextDue_le due⟩
      · cases tick
    · cases tick
  have defined : (r.agenda? now).isSome := isSome_agenda?_of_fits (h.options ▸ fraction) h.fits now
  obtain ⟨agenda, hagenda⟩ := Option.isSome_iff_exists.1 defined
  have begins : ({ r with poller := .working next } : Refresher).begin now none =
      ({ r with poller := .working next } : Refresher).proceed none 0 agenda := begin_of_agenda hagenda
  have reads := (h.agenda fraction hagenda hs hl).imp_left fun longer =>
    Lease.lasts_of_longer longer soon
  rw [begins]
  exact fresh_of_proceed h.options h.entry h.fits hs hl lasts (guarded_proceed_working 0 rfl soon reads)

theorem Fresh.refresh (h : Fresh o name now r) (c : Nat) : Fresh o name now (r.begin now (some c)).1 := by
  obtain ⟨s, l, hs, hl, lasts, guarded⟩ := h.leased
  cases hagenda : r.agenda? now with
  | none =>
    have abandons : r.begin now (some c) = (r, [.replied c .undefined]) := by
      unfold begin
      rw [hagenda]
      rfl
    rw [abandons]
    exact h
  | some agenda =>
    obtain ⟨poller, pass⟩ := r.proceed_some c 0 agenda
    rw [begin_of_agenda hagenda]
    exact fresh_of_proceed h.options h.entry h.fits hs hl lasts (by rw [poller, pass]; exact guarded)

/-! ## Answers to reads -/

theorem Lasting.leaseOf {reading : Store.Reading} (h : Lasting o reading) (now : Instant) :
    ∃ l, Compose.leaseOf reading now = some l ∧ l.lease = ⟨reading.leaseSeconds, now⟩ := by
  obtain ⟨⟨id, hid, given⟩, longer⟩ := h
  have granted : 0 < reading.leaseSeconds := Nat.zero_lt_of_lt longer
  exact ⟨_, by rw [Compose.leaseOf, hid]; exact if_pos ⟨given, granted⟩, rfl⟩

theorem Lasting.pollSpan_lt {reading : Store.Reading} (h : Lasting o reading) (now : Instant) :
    o.pollSpan < (⟨reading.leaseSeconds, now⟩ : Lease).remaining now := by
  rw [Lease.remaining, Nat.sub_self, Nat.sub_zero]
  exact Span.ofSeconds_lt h.longer

theorem seconds_of_sourceOf {entry : Backend.Entry} {reading : Option Store.Reading} {l : SecretLease}
    (h : (Compose.sourceOf entry now reading).lease = some l) :
    ∃ granted, reading = some granted ∧ l.lease.seconds = granted.leaseSeconds := by
  cases reading with
  | none => cases h
  | some granted =>
    refine ⟨granted, rfl, ?_⟩
    simp only [Compose.sourceOf, Compose.leaseOf] at h
    split at h
    · split at h
      · rw [← Option.some.inj h]
      · cases h
    · cases h

/-- A view after a read of an entry: the lease of the source is longer than an interval, or it is the
one that it was and something else has been read. -/
structure Renewed (o : RenewalOptions) (name : String) (now : Instant) (entry : Backend.Entry)
    (l : SecretLease) (v : View) : Prop where
  fits : Fits v.sources
  leased : ∃ s l', v.source? name = some s ∧ s.lease = some l' ∧ 0 < l'.lease.remaining now ∧
    (o.pollSpan < l'.lease.remaining now ∨ l' = l ∧ entry.name ≠ name)

/-- What is read takes its place in the view. A source of another name stays, and one of this name has
a lease that is longer than an interval. -/
theorem Fresh.replace (h : Fresh o name now r) {s : Source} {l : SecretLease}
    (hs : r.view.source? name = some s) (hl : s.lease = some l) (lasts : 0 < l.lease.remaining now)
    {entry : Backend.Entry} {result : Except Error (Option Store.Reading)}
    (fits : ∀ reading, result = .ok (some reading) → reading.leaseSeconds < 2 ^ 63)
    (renews : entry.name = name → ∃ reading, result = .ok (some reading) ∧ Lasting o reading) :
    Renewed o name now entry l ((r.replace? now entry result).getD r.view) := by
  have present : (r.view.source? name).isSome := by rw [hs]; rfl
  cases hw : r.replace? now entry result with
  | none =>
    refine ⟨h.fits, s, l, hs, hl, lasts, .inr ⟨rfl, fun same => ?_⟩⟩
    -- A source of this name would have taken its place.
    obtain ⟨reading, rfl, -⟩ := renews same
    have named : (Compose.sourceOf entry now (some reading)).name = name :=
      (Row.sourceOf_name entry now (some reading)).trans same
    obtain ⟨w, replaced⟩ := View.exists_replace? (named ▸ present)
    cases replaced.symm.trans hw
  | some w =>
    cases result with
    | error e => cases hw
    | ok reading =>
      have replaced : r.view.replace? (Compose.sourceOf entry now reading) = some w := hw
      have found := View.source?_replace? replaced name
      rw [Row.sourceOf_name] at found
      refine ⟨fun t ht l' hl' => ?_, ?_⟩
      · rcases View.mem_of_replace? replaced ht with rfl | ht
        · obtain ⟨granted, rfl, seconds⟩ := seconds_of_sourceOf hl'
          exact seconds ▸ fits granted rfl
        · exact h.fits t ht l' hl'
      · by_cases same : entry.name = name
        · obtain ⟨granted, hgranted, lasting⟩ := renews same
          obtain rfl := Except.ok.inj hgranted
          obtain ⟨l', hl', hlease⟩ := lasting.leaseOf now
          have longer : o.pollSpan < l'.lease.remaining now := hlease ▸ lasting.pollSpan_lt now
          rw [if_pos same] at found
          exact ⟨_, l', found, hl', Nat.zero_lt_of_lt longer, .inl longer⟩
        · rw [if_neg same] at found
          exact ⟨s, l, found.trans hs, hl, lasts, .inr ⟨rfl, same⟩⟩

/-- The answer to a read of a pass: the pass of the poller goes on to what it has still to read. -/
theorem Fresh.land (h : Fresh o name now r) {caller : Option Nat} {p : Pass}
    (under : r.underway caller = some p) {result : Except Error (Option Store.Reading)}
    (fits : ∀ reading, result = .ok (some reading) → reading.leaseSeconds < 2 ^ 63)
    (renews : p.entry.name = name → ∃ reading, result = .ok (some reading) ∧ Lasting o reading) :
    Fresh o name now (r.land now p result).1 := by
  obtain ⟨s, l, hs, hl, lasts, guarded⟩ := h.leased
  obtain ⟨fitting, s', l', hs', hl', lasts', granted⟩ := h.replace hs hl lasts fits renews
  obtain ⟨n, hland⟩ := r.exists_land_eq now p result
  have named : p.caller = caller := by simpa using List.find?_some under
  have guarded' : Guarded o.pollSpan now l'.lease name (r.underway none) r.poller := by
    rcases granted with longer | ⟨rfl, -⟩
    · exact guarded.renew longer
    · exact guarded
  rw [hland]
  refine fresh_of_proceed h.options h.entry fitting hs' hl' lasts' ?_
  cases caller with
  | some c =>
    rw [named]
    obtain ⟨poller, pass⟩ := (r.landed now p result).proceed_some c n p.rest
    rw [poller, pass, underway_landed (by simp [named])]
    exact guarded'
  | none =>
    rw [named]
    refine Guarded.proceed n guarded' fun next working soon => ?_
    rcases granted with longer | ⟨rfl, other⟩
    · exact .inl (Lease.lasts_of_longer longer soon)
    · -- What is left to read is what comes behind the entry that has been read.
      rw [show r.poller = .working next from working] at guarded
      cases guarded with
      | working under' _ reads =>
        obtain rfl := Option.some.inj (under.symm.trans under')
        refine reads.imp_right fun ⟨e, he, same⟩ => ?_
        rcases List.mem_cons.1 he with rfl | he
        · exact absurd same other
        · exact ⟨e, he, same⟩

theorem Fresh.launch (h : Fresh o name now r) {p : Poller}
    (launches : r.poller.launch? o.pollSpan now = some p) :
    Fresh o name now { r with poller := p } := by
  obtain ⟨s, l, hs, hl, lasts, guarded⟩ := h.leased
  refine ⟨h.options, h.entry, h.fits, s, l, hs, hl, lasts, ?_⟩
  generalize r.poller = before at launches guarded
  cases guarded with
  | fresh longer =>
    obtain rfl := Option.some.inj launches
    exact .sleeping (Nat.le_refl _) (Lease.lasts_of_longer longer (Nat.le_refl _))
  | sleeping soon lasts => cases launches
  | working under soon reads => cases launches

/-- Before a shutdown, every step keeps a source fresh. -/
theorem Fresh.step (h : Fresh o name now r) (fraction : o.threshold.IsFraction) {e : Event}
    {made : Refresher × List Action} (steps : r.Steps now e made)
    (supplied : (⟨now, e, r, made.1⟩ : Move).Supplied o name) : Fresh o name now made.1 := by
  have running : made.1.cancelled = false := supplied.running
  cases steps with
  | refresh c => exact h.refresh c
  | launch launches => exact h.launch (h.options ▸ launches)
  | tick ticks => exact h.tick fraction (h.options ▸ ticks)
  | stop cancelled stops => exact absurd (cancelled.symm.trans running) (by simp)
  | @answered caller p result under =>
    refine h.land under (fun reading told => ?_) (supplied.renews caller result p rfl under)
    exact supplied.fits caller reading (congrArg (Event.answered caller) told)
  | shutdown c => cases running
  | join asked ended => exact ⟨h.options, h.entry, h.fits, h.leased⟩
  | drop => cases running

theorem Fresh.lives {begun : Instant} {ms : List Move} (h : Fresh o name begun r)
    (fraction : o.threshold.IsFraction) (lives : Lives r begun ms r' now)
    (supplied : ∀ m ∈ ms, m.Supplied o name) : Fresh o name now r' := by
  induction lives with
  | start => exact h
  | step _ step ih =>
    obtain ⟨earlier, last⟩ := List.forall_mem_append.1 supplied
    exact (ih earlier).step fraction (steps_of_step? step) (last _ (List.mem_singleton_self _))
  | wait _ le rests ih => exact (ih supplied).wait le rests

end

/-! ## Sources without a lease -/

/-- A source is alone with its name, and no pass is to read an entry of that. -/
structure Untouched (s : Source) (r : Refresher) : Prop where
  present : r.view.source? s.name = some s
  alone : ∀ t ∈ r.view.sources, t.name = s.name → t = s
  unread : ∀ p ∈ r.passes, ∀ e ∈ p.entry :: p.rest, e.name ≠ s.name

section
variable {s : Source} {r r' : Refresher} {now : Instant}

theorem Untouched.proceed (h : Untouched s r) (caller : Option Nat) (n : Nat)
    {es : List Backend.Entry} (others : ∀ e ∈ es, e.name ≠ s.name) :
    Untouched s (r.proceed caller n es).1 ∧
      ∀ e ∈ readings (r.proceed caller n es).2, e.name ≠ s.name := by
  cases es with
  | nil => cases caller <;> exact ⟨⟨h.present, h.alone, h.unread⟩, nofun⟩
  | cons e es =>
    refine ⟨⟨h.present, h.alone, List.forall_mem_cons.2 ⟨others, h.unread⟩⟩, fun x hx => ?_⟩
    obtain rfl := List.mem_singleton.1 hx
    exact others x List.mem_cons_self

theorem Untouched.begin (h : Untouched s r) (unleased : s.lease = none) (now : Instant)
    (caller : Option Nat) : Untouched s (r.begin now caller).1 ∧
      ∀ e ∈ readings (r.begin now caller).2, e.name ≠ s.name := by
  cases hagenda : r.agenda? now with
  | none =>
    have abandons : r.begin now caller = r.abandon caller := by
      unfold Refresher.begin
      rw [hagenda]
    rw [abandons]
    cases caller <;> exact ⟨⟨h.present, h.alone, h.unread⟩, nofun⟩
  | some agenda =>
    rw [begin_of_agenda hagenda]
    refine h.proceed caller 0 fun e he same => ?_
    -- Only what is expiring is read, and that has a lease.
    obtain ⟨⟨t, ht, due, named⟩, -⟩ := (exists_mem_agenda_iff hagenda s.name).1 ⟨e, he, same⟩
    rw [h.alone t ht named, Source.isExpiring?, unleased] at due
    cases due

theorem Untouched.landed (h : Untouched s r) {p : Pass} (hp : p ∈ r.passes)
    (result : Except Error (Option Store.Reading)) : Untouched s (r.landed now p result) := by
  have other : p.entry.name ≠ s.name := h.unread p hp p.entry List.mem_cons_self
  have unread : ∀ q ∈ (r.landed now p result).passes, ∀ e ∈ q.entry :: q.rest, e.name ≠ s.name :=
    fun q hq => h.unread q (List.mem_of_mem_filter hq)
  cases hw : r.replace? now p.entry result with
  | none =>
    have view : (r.landed now p result).view = r.view := by
      unfold Refresher.landed
      rw [hw]
      rfl
    exact ⟨view ▸ h.present, view ▸ h.alone, unread⟩
  | some w =>
    have view : (r.landed now p result).view = w := by
      unfold Refresher.landed
      rw [hw]
      rfl
    cases result with
    | error e => cases hw
    | ok reading =>
      have replaced : r.view.replace? (Compose.sourceOf p.entry now reading) = some w := hw
      refine ⟨?_, fun t ht named => ?_, unread⟩
      · rw [view, View.source?_replace? replaced, Row.sourceOf_name, if_neg other]
        exact h.present
      · rcases View.mem_of_replace? replaced (view ▸ ht) with rfl | ht
        · rw [Row.sourceOf_name] at named
          exact absurd named other
        · exact h.alone t ht named

/-- No step reads an entry of the name, or changes the source. -/
theorem Untouched.step (h : Untouched s r) (unleased : s.lease = none) {e : Event}
    {made : Refresher × List Action} (steps : r.Steps now e made) :
    Untouched s made.1 ∧ ∀ e ∈ readings made.2, e.name ≠ s.name := by
  cases steps with
  | refresh c => exact h.begin unleased now (some c)
  | @tick p ticks =>
    have idle : Untouched s { r with poller := p } := ⟨h.present, h.alone, h.unread⟩
    exact idle.begin unleased now none
  | @answered caller p result under =>
    have hp := List.mem_of_find?_eq_some under
    obtain ⟨n, hland⟩ := r.exists_land_eq now p result
    have landed : Untouched s (r.landed now p result) := h.landed hp result
    rw [hland]
    exact landed.proceed p.caller n fun e he => h.unread p hp e (List.mem_cons_of_mem _ he)
  | launch | stop | shutdown | join | drop =>
    exact ⟨⟨h.present, h.alone, h.unread⟩, by simp [readings]⟩

theorem Untouched.run (h : Untouched s r) (unleased : s.lease = none) {es : List (Instant × Event)}
    {seen : List Action} (run : r.run? es = some (r', seen)) :
    Untouched s r' ∧ ∀ e ∈ readings seen, e.name ≠ s.name := by
  induction es generalizing r seen with
  | nil =>
    obtain ⟨rfl, rfl⟩ := Prod.mk.inj (Option.some.inj run)
    exact ⟨h, nofun⟩
  | cons e es ih =>
    obtain ⟨now, e⟩ := e
    simp only [run?, Option.bind_eq_bind, Option.bind_eq_some_iff] at run
    obtain ⟨⟨r₁, first⟩, step, ⟨r₂, more⟩, rest, made⟩ := run
    obtain ⟨rfl, rfl⟩ := Prod.mk.inj (Option.some.inj made)
    obtain ⟨untouched, firstOthers⟩ := h.step unleased (steps_of_step? step)
    obtain ⟨last, moreOthers⟩ := ih untouched rest
    refine ⟨last, fun e he => ?_⟩
    rw [readings, List.filterMap_append, List.mem_append] at he
    exact he.elim (firstOthers e) (moreOthers e)

end

/-! ## The whole -/

/-- A source that is alone with its name. If it has a lease that is longer than an interval, and every
read of its entry brings another one, its lease is never over before a shutdown, whatever happens to
the other sources; if it has none, it is never read again and stays as it is. -/
theorem sources_stay_fresh {o : RenewalOptions} (enabled : o.enabled = true)
    (fraction : o.threshold.IsFraction) {view : View} (fits : Fits view.sources) {s : Source}
    (mem : s ∈ view.sources) (alone : ∀ t ∈ view.sources, t.name = s.name → t = s)
    (entries : List Backend.Entry) :
    (∀ (l : SecretLease) (entry : Backend.Entry) (begun now : Instant) (ms : List Move) (r : Refresher),
      s.lease = some l → o.pollSpan < l.lease.remaining begun → entry ∈ entries → entry.name = s.name →
      Lives (start view entries o) begun ms r now → (∀ m ∈ ms, m.Supplied o s.name) →
      ∃ s' l', r.view.source? s.name = some s' ∧ s'.lease = some l' ∧ 0 < l'.lease.remaining now) ∧
    (s.lease = none → ∀ es r seen, (start view entries o).run? es = some (r, seen) →
      r.view.source? s.name = some s ∧ ∀ e ∈ readings seen, e.name ≠ s.name) := by
  have present : view.source? s.name = some s := by
    obtain ⟨t, ht⟩ := Option.isSome_iff_exists.1
      (List.find?_isSome.2 ⟨s, mem, by simp⟩ : (view.source? s.name).isSome)
    have named : t.name = s.name := by simpa using List.find?_some ht
    exact alone t (List.mem_of_find?_eq_some ht) named ▸ ht
  refine ⟨fun l entry begun now ms r hl longer hentry named lives supplied => ?_,
    fun unleased es r seen run => ?_⟩
  · have guarded : Guarded o.pollSpan begun l.lease s.name ((start view entries o).underway none)
        (start view entries o).poller := by
      rw [show (start view entries o).poller = .fresh from if_pos enabled]
      exact .fresh longer
    have fresh : Fresh o s.name begun (start view entries o) :=
      ⟨rfl, ⟨entry, hentry, named⟩, fits, s, l, present, hl, Nat.zero_lt_of_lt longer, guarded⟩
    obtain ⟨s', l', hs', hl', lasts, -⟩ := (fresh.lives fraction lives supplied).leased
    exact ⟨s', l', hs', hl', lasts⟩
  · have untouched : Untouched s (start view entries o) := ⟨present, alone, nofun⟩
    obtain ⟨last, others⟩ := untouched.run unleased run
    exact ⟨last.present, others⟩

/-! ## Credentials beside ones that are lost -/

def brief : Store.Reading where
  data := [("username", .string "v-0")]
  leaseId := some "v-0"
  leaseSeconds := 7

theorem brief_lasting : Lasting {} brief := ⟨⟨"v-0", rfl, by decide⟩, by decide⟩

/-- Two leased sources, the first of them read at the start and the second at an instant. -/
def beside (read : Instant) : View :=
  ⟨[Compose.sourceOf { name := "secret/app" } 0 (some brief),
    Compose.sourceOf (credentials "user") read (some brief)]⟩

def neighbours (read : Instant) (poller : Poller) (passes : List Pass) : Refresher :=
  { start (beside read) [{ name := "secret/app" }, credentials "user"] {} with poller, passes }

/-- The first tick finds both leases expiring. The read for the first source fails. -/
def oneLost : List Move := [
  ⟨0, .launch, neighbours 0 .fresh [], neighbours 0 (.sleeping (Span.ofSeconds 5)) []⟩,
  ⟨Span.ofSeconds 5, .tick, neighbours 0 (.sleeping (Span.ofSeconds 5)) [],
    neighbours 0 (.working (Span.ofSeconds 10)) [⟨none, { name := "secret/app" }, [credentials "user"], 0⟩]⟩,
  ⟨Span.ofSeconds 5, .answered none (.error (.transport "timed out" [])),
    neighbours 0 (.working (Span.ofSeconds 10)) [⟨none, { name := "secret/app" }, [credentials "user"], 0⟩],
    neighbours 0 (.working (Span.ofSeconds 10)) [⟨none, credentials "user", [], 0⟩]⟩,
  ⟨Span.ofSeconds 5, .answered none (.ok (some brief)),
    neighbours 0 (.working (Span.ofSeconds 10)) [⟨none, credentials "user", [], 0⟩],
    neighbours (Span.ofSeconds 5) (.sleeping (Span.ofSeconds 10)) []⟩]

theorem rests_asleep {read due now later : Instant} (early : later ≤ due) :
    (neighbours read (.sleeping due) []).Rests now later := by
  intro u _ soon
  have unticked : ¬ due ≤ u := Nat.not_le.2 (Nat.lt_of_lt_of_le soon early)
  refine ⟨rfl, ?_⟩
  simp [system, step?, neighbours, start, Poller.tick?, Poller.launch?, unticked]

theorem agenda?_beside : (neighbours 0 (.working (Span.ofSeconds 10)) []).agenda? (Span.ofSeconds 5) =
    some [{ name := "secret/app" }, credentials "user"] := by
  have due : RenewalOptions.isExpiring? {} ⟨7, 0⟩ (Span.ofSeconds 5) = some true := by decide +kernel
  have expiring (entry : Backend.Entry) :
      (Compose.sourceOf entry 0 (some brief)).isExpiring? {} (Span.ofSeconds 5) = some true := due
  simp [agenda?, expiring?, neighbours, start, beside, expiring, Row.sourceOf_name, entryNamed?, credentials]

theorem neighbours_tick :
    (neighbours 0 (.sleeping (Span.ofSeconds 5)) []).step? (Span.ofSeconds 5) .tick =
      some (neighbours 0 (.working (Span.ofSeconds 10))
        [⟨none, { name := "secret/app" }, [credentials "user"], 0⟩],
        [.reading none { name := "secret/app" }]) :=
  congrArg some ((begin_of_agenda agenda?_beside).trans rfl)

theorem oneLost_lives :
    Lives (start (beside 0) [{ name := "secret/app" }, credentials "user"] {}) 0 oneLost
      (neighbours (Span.ofSeconds 5) (.sleeping (Span.ofSeconds 10)) []) (Span.ofSeconds 9) := by
  refine .wait (.step (.step (.step (.wait (.step .start rfl) (by decide) (rests_asleep (Nat.le_refl _)))
    neighbours_tick) rfl) rfl) (by decide) (rests_asleep (by decide))

theorem oneLost_supplied : ∀ m ∈ oneLost, m.Supplied {} "mysql/creds/app" := by
  unfold oneLost
  simp only [List.forall_mem_cons]
  refine ⟨?_, ?_, ?_, ?_, by simp⟩
  case refine_3 =>
    refine ⟨rfl, by simp, ?_⟩
    -- What was lost is a read of the other source.
    rintro caller result p ⟨⟩ under named
    obtain rfl := Option.some.inj under
    exact absurd named (by decide)
  case refine_4 =>
    refine ⟨rfl, ?_, ?_⟩
    · rintro caller reading ⟨⟩
      decide
    · rintro caller result p ⟨⟩ - -
      exact ⟨brief, rfl, brief_lasting⟩
  all_goals exact ⟨rfl, by simp, by simp⟩

theorem fits_beside : Fits (beside 0).sources := by
  have brief_fits (entry : Backend.Entry) (l : SecretLease)
      (h : (Compose.sourceOf entry 0 (some brief)).lease = some l) : l.lease.seconds < 2 ^ 63 := by
    obtain ⟨granted, told, seconds⟩ := seconds_of_sourceOf h
    obtain rfl := Option.some.inj told
    rw [seconds]
    decide
  simp only [Fits, beside, List.forall_mem_cons]
  exact ⟨brief_fits _, brief_fits _, by simp⟩

/-- The other source goes stale, and this one has a lease at nine seconds. -/
theorem second_stays_fresh :
    ({} : RenewalOptions).enabled = true ∧ ({} : RenewalOptions).threshold.IsFraction ∧
      Fits (beside 0).sources ∧ (∀ m ∈ oneLost, m.Supplied {} "mysql/creds/app") ∧
      Lives (start (beside 0) [{ name := "secret/app" }, credentials "user"] {}) 0 oneLost
        (neighbours (Span.ofSeconds 5) (.sleeping (Span.ofSeconds 10)) []) (Span.ofSeconds 9) ∧
      ∃ s l, (beside (Span.ofSeconds 5)).source? "mysql/creds/app" = some s ∧ s.lease = some l ∧
        0 < l.lease.remaining (Span.ofSeconds 9) := by
  have fraction : ({} : RenewalOptions).threshold.IsFraction :=
    ⟨by decide +kernel, by decide +kernel, by decide +kernel⟩
  obtain ⟨leased, -⟩ := sources_stay_fresh (o := {}) rfl fraction fits_beside
    (s := Compose.sourceOf (credentials "user") 0 (some brief)) (by simp [beside])
    (by simp [beside, Row.sourceOf_name, credentials]) [{ name := "secret/app" }, credentials "user"]
  refine ⟨rfl, fraction, fits_beside, oneLost_supplied, oneLost_lives, ?_⟩
  exact leased _ (credentials "user") 0 (Span.ofSeconds 9) oneLost _ rfl (by decide) (by simp) rfl
    oneLost_lives oneLost_supplied

end Refresher
end SecretLayers
