import SecretLayers.Proofs.Loading.Moves
import SecretLayers.Proofs.Properties.Arrival
import SecretLayers.Proofs.Store.Dialogues
/-!
Loads that run alone. With a session that keeps its token, a load is one login at most and then the
reads, all with one token. It is one of the runs that loads have together: the first of those who
wait is served at once, and the reads end in the order in which their answers arrive.
-/
namespace SecretLayers
set_option autoImplicit false

/-! ## Logins and reads of a load -/

/-- Reads entries that are all asked for at one instant, with one token. -/
def Store.Client.readEach (c : Client) (t : Token) (now : Instant) :
    List Backend.Entry → Dialogue Compose.Ended
  | [] => .done []
  | entry :: rest => ((c.read entry.name t).timed now).bind fun r =>
    (c.readEach t now rest).map ((entry, r) :: ·)

theorem Store.Client.readEach_entries {σ : Type} (c : Client) (t : Token) (now : Instant)
    (entries : List Backend.Entry) (store : σ → Request → Arrival × σ) (s : σ) :
    ((c.readEach t now entries).run store s).1.map (·.1) = entries := by
  induction entries generalizing s with
  | nil => rfl
  | cons entry rest ih =>
    rw [readEach, Dialogue.run_bind, Dialogue.run_map, List.map_cons, ih]

theorem Session.Discipline.usable?_simple {d : Discipline} (simple : d = .simple) (held : Option Token)
    (now : Instant) : d.usable? held now = held := by
  rw [simple]
  rfl

namespace Seat
variable {s : Seat} {t : Token} {now : Instant}

theorem token_of_usable (usable : s.discipline.usable? s.held now = some t) :
    s.token now = .done (⟨now, .ok t⟩, s) := by
  simp only [token, usable]

/-- A token that can be used is the one of all reads. -/
theorem readAll_of_usable (usable : s.discipline.usable? s.held now = some t) (entries : List Backend.Entry) :
    s.readAll now entries = (s.client.readEach t now entries).map fun reads => (reads, s) := by
  induction entries with
  | nil => rfl
  | cons entry rest ih =>
    have read : s.read now entry = ((s.client.read entry.name t).timed now).map (·, s) := by
      simp only [Seat.read, token_of_usable usable, Dialogue.bind]
    have tail (r : Timed (Except Error (Option Store.Reading))) :
        ((s.readAll now rest).map fun x => ((entry, r) :: x.1, x.2)) =
          ((s.client.readEach t now rest).map ((entry, r) :: ·)).map fun reads => (reads, s) := by
      rw [ih, Dialogue.map_map, Dialogue.map_map]
    rw [readAll, read, Store.Client.readEach, Dialogue.map, Dialogue.map, Dialogue.bind_assoc,
      Dialogue.bind_assoc]
    refine congrArg _ (funext fun r => ?_)
    simp only [Dialogue.bind]
    exact tail r

end Seat

namespace Loader
variable {l : Loader} {profiles : List String} {plan : Plan} {t : Token}

/-- A load that has a token: it reads, and the session stays as it is. -/
def readWith (l : Loader) (t : Token) (entries : List Backend.Entry) (now : Instant) :
    Dialogue (Timed (Except Error View) × Loader) :=
  (l.seat.client.readEach t now entries).map fun reads =>
    (Compose.readsDone l.config.failFast now reads, l)

theorem load_of_usable {now : Instant} (usable : l.seat.discipline.usable? l.seat.held now = some t)
    (hplan : l.plan profiles = .ok plan) :
    l.load profiles now = l.readWith t plan.entries now := by
  have composed : l.seat.compose l.config.failFast plan.entries now =
      (l.seat.client.readEach t now plan.entries).map fun reads =>
        (Compose.readsDone l.config.failFast now reads, l.seat) := by
    rw [Seat.compose, Seat.token_of_usable usable]
    show (l.seat.readAll now plan.entries).map _ = _
    rw [Seat.readAll_of_usable usable, Dialogue.map_map]
  simp only [load, hplan]
  rw [composed, Dialogue.map_map]
  rfl

theorem load_of_empty (simple : l.seat.discipline = .simple) (empty : l.seat.held = none)
    (hplan : l.plan profiles = .ok plan) (now : Instant) :
    l.load profiles now =
      ((l.seat.strategy.login l.seat.client l.seat.machine now).timed now).bind fun login =>
        let l' := l.withSeat (l.seat.after login.value)
        match login.value with
        | .error e => .done (⟨login.instant, Compose.unread l.config.failFast e plan.entries⟩, l')
        | .ok t => l'.readWith t plan.entries login.instant := by
  have token : l.seat.token now =
      ((l.seat.strategy.login l.seat.client l.seat.machine now).timed now).map fun r =>
        (r, l.seat.after r.value) := by
    rw [Seat.token, simple, empty]
    rfl
  simp only [load, hplan]
  rw [Seat.compose, token, Dialogue.map, Dialogue.map, Dialogue.bind_assoc, Dialogue.bind_assoc]
  refine congrArg _ (funext fun login => ?_)
  obtain ⟨begun, value⟩ := login
  cases value with
  | error e => rfl
  | ok t =>
    have usable : (l.seat.after (.ok t)).discipline.usable? (l.seat.after (.ok t)).held begun = some t :=
      Session.Discipline.usable?_simple simple _ _
    show (((l.seat.after (.ok t)).readAll begun plan.entries).map _).bind _ = _
    rw [Seat.readAll_of_usable usable, Dialogue.map_map]
    exact Dialogue.map_map _ _ _

end Loader

namespace Loads
open Session (Demand)

/-! ## Reads on their way -/

section
variable {full : Compose.Ended} {js : List Nat} {t : Token}

/-- When the answer to a read arrives. -/
def arrival (full : Compose.Ended) (j : Nat) : Nat := (full[j]?.map fun x => x.2.instant).getD 0

/-- Answers arrive in the order of their instants, and then in that of the entries. -/
def Before (full : Compose.Ended) (j k : Nat) : Prop :=
  arrival full j < arrival full k ∨ arrival full j = arrival full k ∧ j ≤ k

instance (full : Compose.Ended) : DecidableRel (Before full) := fun j k =>
  inferInstanceAs (Decidable (arrival full j < arrival full k ∨ _))

/-- The order in which answers arrive. -/
def schedule (full : Compose.Ended) : List Nat :=
  (List.range full.length).mergeSort fun j k => decide (Before full j k)

/-- The reads while some of them wait for their answers. -/
def progress (full : Compose.Ended) (t : Token) (js : List Nat) : List Progress :=
  full.mapIdx fun j x => if j ∈ js then .sent t else .ended x.2

/-- The same reads, each with what it comes to. -/
def coming (full : Compose.Ended) (js : List Nat) :
    List (Backend.Entry × Compose.Coming (Option Store.Reading)) :=
  full.mapIdx fun j x => (x.1, ⟨x.2, decide (j ∉ js)⟩)

theorem mem_schedule (full : Compose.Ended) (j : Nat) : j ∈ schedule full ↔ j < full.length := by
  rw [schedule, (List.mergeSort_perm _ _).mem_iff, List.mem_range]

theorem Before.trans {j k m : Nat} (first : Before full j k) (second : Before full k m) :
    Before full j m := by
  unfold Before at first second ⊢
  omega

theorem Before.total (full : Compose.Ended) (j k : Nat) : Before full j k ∨ Before full k j := by
  unfold Before
  omega

theorem schedule_pairwise (full : Compose.Ended) : (schedule full).Pairwise (Before full) := by
  have sorted : (schedule full).Pairwise fun j k => decide (Before full j k) = true := by
    refine List.pairwise_mergeSort (fun j k m first second => ?_) (fun j k => ?_) _
    · exact decide_eq_true ((of_decide_eq_true first).trans (of_decide_eq_true second))
    · simpa using Before.total full j k
  exact sorted.imp fun h => of_decide_eq_true h

theorem schedule_nodup (full : Compose.Ended) : (schedule full).Nodup :=
  (List.mergeSort_perm _ _).nodup_iff.2 List.nodup_range

theorem coming_result (full : Compose.Ended) (js : List Nat) :
    ((coming full js).map fun x => (x.1, x.2.result)) = full := by
  refine List.ext_getElem? fun j => ?_
  simp only [coming, List.getElem?_map, List.getElem?_mapIdx]
  cases full[j]? <;> rfl

theorem zip_progress (full : Compose.Ended) (t : Token) (js : List Nat) :
    (full.map (·.1)).zip ((progress full t js).map Progress.read) =
      (coming full js).map fun x => (x.1, x.2.soFar) := by
  refine List.ext_getElem? fun j => ?_
  simp only [coming, progress, List.getElem?_map, List.getElem?_mapIdx, List.zip, List.getElem?_zipWith]
  cases full[j]? with
  | none => rfl
  | some x =>
    by_cases waits : j ∈ js
    · simp [waits, Progress.read, Compose.Coming.soFar]
    · simp [waits, Progress.read, Compose.Coming.soFar]

theorem arrival_eq {j : Nat} (hj : j < full.length) : arrival full j = full[j].2.instant := by
  rw [arrival, List.getElem?_eq_getElem hj]
  rfl

theorem coming_inTime (before : ∀ j < full.length, j ∉ js → ∀ k ∈ js, k < full.length → Before full j k) :
    ((coming full js).map (·.2)).Pairwise Compose.Coming.InTime := by
  rw [List.pairwise_map, List.pairwise_iff_getElem]
  intro a b ha hb hab
  have length : (coming full js).length = full.length := List.length_mapIdx
  rw [length] at ha hb
  simp only [coming, List.getElem_mapIdx]
  refine ⟨fun waits there => ?_, fun there waits => ?_⟩
  · have sooner := before b hb (of_decide_eq_true there) a (by simpa using waits) ha
    rw [Before, arrival_eq ha, arrival_eq hb] at sooner
    show full[b].2.instant < full[a].2.instant
    rcases sooner with sooner | ⟨-, le⟩
    · exact sooner
    · omega
  · have sooner := before a ha (of_decide_eq_true there) b (by simpa using waits) hb
    rw [Before, arrival_eq ha, arrival_eq hb] at sooner
    show full[a].2.instant ≤ full[b].2.instant
    rcases sooner with sooner | ⟨same, -⟩
    · exact Nat.le_of_lt sooner
    · exact Nat.le_of_eq same

/-- A read ends that waited for its answer. -/
theorem progress_set {j : Nat} (hj : j < full.length) (once : j ∉ js) :
    (progress full t (j :: js)).set j (.ended full[j].2) = progress full t js := by
  refine List.ext_getElem? fun k => ?_
  rw [List.getElem?_set]
  simp only [progress, List.length_mapIdx, List.getElem?_mapIdx, List.mem_cons]
  by_cases same : j = k
  · subst same
    simp [hj, once]
  · simp [same, Ne.symm same]

end

/-! ## Runs of one load -/

/-- Nothing is under way, and the session holds what the one of a loader does. -/
structure Idle (s : Loads) (l : Loader) : Prop where
  config : s.config = l.config
  factories : s.factories = l.factories
  session : s.session = { discipline := .simple, held := l.seat.held }

theorem ofLoader_idle {l : Loader} (simple : l.seat.discipline = .simple) : (ofLoader l).Idle l := by
  refine ⟨rfl, rfl, ?_⟩
  show { Session.start l.seat.discipline with held := l.seat.held } = _
  rw [simple]
  rfl

/-- There is a run in which a load comes to a result, and nothing is under way after it. -/
def Comes (s : Loads) (i : Nat) (result : Except Error View) (l : Loader) : Prop :=
  ∃ es s' seen, s.run? es = some (s', seen) ∧ .returned i result ∈ seen ∧ s'.Idle l

section
variable {s u : Loads} {i : Nat} {result : Except Error View} {l : Loader} {now begun : Instant}
  {seen : List Action} {load : Load} {t : Token} {full : Compose.Ended}

theorem Comes.of_step {e : Event} (step : s.step? now e = some (u, seen))
    (h : .returned i result ∈ seen ∧ u.Idle l ∨ u.Comes i result l) : s.Comes i result l := by
  rcases h with ⟨returned, idle⟩ | ⟨es, s', more, run, returned, idle⟩
  · refine ⟨[(now, e)], u, seen, ?_, returned, idle⟩
    simp [run?, step]
  · refine ⟨(now, e) :: es, s', seen ++ more, ?_, List.mem_append_right _ returned, idle⟩
    simp [run?, step, run]

theorem Idle.finish (idle : s.Idle l) (load : Load) (result : Timed (Except Error View)) :
    .returned i result.value ∈ (s.finish i load result).2 ∧ (s.finish i load result).1.Idle l := by
  refine ⟨List.mem_singleton_self _, idle.config, idle.factories, ?_⟩
  show withdraw s.session i = _
  rw [idle.session]
  rfl

theorem put_put (s : Loads) (i : Nat) (a b : Load) : (s.put i a).put i b = s.put i b := by
  simp only [put, List.set_set]

theorem getElem?_put (bound : i < s.loads.length) (load : Load) :
    (s.put i load).loads[i]? = some load := List.getElem?_set_self bound

/-- Reads end one after another, until they come to something. -/
theorem comes_reading (idle : s.Idle l) (bound : i < s.loads.length) {js : List Nat}
    (sorted : js.Pairwise (Before full)) (once : js.Nodup) (bounds : ∀ j ∈ js, j < full.length)
    (before : ∀ j < full.length, j ∉ js → ∀ k ∈ js, k < full.length → Before full j k)
    (undecided : Compose.reads l.config.failFast begun
      ((coming full js).map fun x => (x.1, x.2.soFar)) = none) :
    (s.put i ⟨full.map (·.1), .reading begun (progress full t js)⟩).Comes i
      (Compose.readsDone l.config.failFast begun full).value l := by
  induction js with
  | nil =>
    have arrived : ((coming full []).map fun x => (x.1, x.2.soFar)) =
        full.map fun x => (x.1, some x.2) := by
      refine List.ext_getElem? fun j => ?_
      simp only [coming, List.getElem?_map, List.getElem?_mapIdx]
      cases full[j]? <;> rfl
    have decided := Compose.isSome_reads l.config.failFast begun full
    rw [arrived] at undecided
    rw [undecided] at decided
    cases decided
  | cons j js ih =>
    obtain ⟨first, sorted⟩ := List.pairwise_cons.1 sorted
    obtain ⟨unique, once⟩ := List.nodup_cons.1 once
    have hj : j < full.length := bounds j List.mem_cons_self
    have before : ∀ a < full.length, a ∉ js → ∀ k ∈ js, k < full.length → Before full a k := by
      intro a ha rest k hk bound
      by_cases same : a = j
      · rw [same]
        exact first k hk
      · exact before a ha (by simp [same, rest]) k (List.mem_cons_of_mem j hk) bound
    have there : (progress full t (j :: js))[j]? = some (.sent t) := by
      simp [progress, hj]
    let asked : Load := ⟨full.map (·.1), .reading begun (progress full t (j :: js))⟩
    have step : (s.put i asked).step? full[j].2.instant (.read i j full[j].2.value) =
        some ((s.put i asked).settle i asked begun (progress full t js)) := by
      simp only [step?, getElem?_put bound, asked, there]
      rw [← progress_set hj unique]
    have idle' : (s.put i asked).Idle l := ⟨idle.config, idle.factories, idle.session⟩
    unfold settle at step
    rw [show (s.put i asked).config = l.config from idle.config, zip_progress] at step
    cases decided : Compose.reads l.config.failFast begun
        ((coming full js).map fun x => (x.1, x.2.soFar)) with
    | some r =>
      have whole := Compose.reads_soFar (coming_inTime before) decided
      rw [coming_result] at whole
      rw [decided] at step
      rw [← whole]
      exact .of_step step (.inl (idle'.finish asked r))
    | none =>
      rw [decided, put_put] at step
      refine .of_step step (.inr (ih sorted once (fun k hk => ?_) before decided))
      exact bounds k (List.mem_cons_of_mem j hk)

/-- The load of a place, with its readers in the queue. -/
def asking (s : Loads) (i : Nat) (load : Load) (js : List Nat) : Loads :=
  { s.put i load with session := ask s.session (js.map (reader i)) }

/-- Those who ask for a read are served one after another, and all get the token that is held. -/
theorem comes_asking (idle : s.Idle l) (bound : i < s.loads.length) (held : l.seat.held = some t)
    {js : List Nat} {reads : List Progress} (length : reads.length = full.length)
    (sent : ∀ j < full.length, j ∉ js → reads[j]? = some (.sent t))
    (undecided : Compose.reads l.config.failFast begun
      ((coming full (schedule full)).map fun x => (x.1, x.2.soFar)) = none) :
    (s.asking i ⟨full.map (·.1), .reading begun reads⟩ js).Comes i
      (Compose.readsDone l.config.failFast begun full).value l := by
  induction js generalizing reads with
  | nil =>
    have all : reads = progress full t (schedule full) := by
      refine List.ext_getElem? fun j => ?_
      by_cases hj : j < full.length
      · rw [sent j hj List.not_mem_nil]
        simp [progress, mem_schedule, hj]
      · rw [List.getElem?_eq_none (by omega), List.getElem?_eq_none (by simp [progress]; omega)]
    have none : s.asking i ⟨full.map (·.1), .reading begun reads⟩ [] =
        s.put i ⟨full.map (·.1), .reading begun reads⟩ := by
      simp [asking, ask, put]
    rw [none, all]
    refine comes_reading idle bound (schedule_pairwise full) (schedule_nodup full)
      (fun j => (mem_schedule full j).1) (fun j hj rest => ?_) undecided
    exact absurd ((mem_schedule full j).2 hj) rest
  | cons j js ih =>
    let load : Load := ⟨full.map (·.1), .reading begun reads⟩
    let u : Loads := s.asking i load js
    have found : u.loads[i]? = some load := getElem?_put bound load
    have free : (s.asking i load (j :: js)).session.flight = none := by
      show s.session.flight = none
      rw [idle.session]
    have first : (s.asking i load (j :: js)).session.queue = .token (reader i j) :: u.session.queue := by
      show s.session.queue ++ _ = _ :: (s.session.queue ++ _)
      rw [idle.session]
      rfl
    have simple : u.session.discipline = .simple := by
      show s.session.discipline = _
      rw [idle.session]
    have token : u.session.held = some t := by
      show s.session.held = _
      rw [idle.session]
      exact held
    have step : (s.asking i load (j :: js)).step? begun .acquire =
        some (u.deliver begun (reader i j) (.ok t)) := by
      rw [step?, Session.step?_acquire free first, Option.map_some]
      exact congrArg some (heed_serve_of_some simple token (s.asking i load (j :: js)) begun (reader i j))
    rw [deliver_read found rfl] at step
    refine .of_step step (.inr ?_)
    have next : u.put i ⟨full.map (·.1), .reading begun (reads.set j (.sent t))⟩ =
        s.asking i ⟨full.map (·.1), .reading begun (reads.set j (.sent t))⟩ js := by
      simp [u, asking, put]
    rw [next]
    refine ih (by rw [List.length_set, length]) fun k hk rest => ?_
    rw [List.getElem?_set]
    by_cases same : j = k
    · subst same
      simp [length, hk]
    · rw [if_neg same]
      exact sent k hk (by simp [rest, Ne.symm same])

theorem withdraw_ask (idle : s.Idle l) (i : Nat) (js : List Nat) :
    withdraw (ask s.session (js.map (reader i))) i = s.session := by
  have none : (js.map (Demand.token ∘ reader i)).filter (fun d => !isAskedBy i d) = [] := by
    refine List.filter_eq_nil_iff.2 fun d hd => ?_
    obtain ⟨j, -, rfl⟩ := List.mem_map.1 hd
    simp [isAskedBy]
  simp [withdraw, ask, idle.session, none]

/-- A load that has been prepared comes to what its reads do. -/
theorem comes_startReads (idle : s.Idle l) (held : l.seat.held = some t)
    (found : s.loads[i]? = some load) (entries : load.entries = full.map (·.1)) (begun : Instant) :
    let next := s.startReads begun i load
    let result := (Compose.readsDone l.config.failFast begun full).value
    .returned i result ∈ next.2 ∧ next.1.Idle l ∨ next.1.Comes i result l := by
  have bound : i < s.loads.length := (List.getElem?_eq_some_iff.1 found).1
  let js := List.range load.entries.length
  have absent : load.entries.zip ((load.entries.map fun _ => Progress.asking).map Progress.read) =
      (coming full (schedule full)).map fun x => (x.1, x.2.soFar) := by
    rw [entries]
    refine List.ext_getElem? fun j => ?_
    simp only [coming, List.zip, List.getElem?_zipWith, List.getElem?_map, List.getElem?_mapIdx]
    cases hx : full[j]? with
    | none => rfl
    | some x =>
      have hj : j < full.length := (List.getElem?_eq_some_iff.1 hx).1
      simp [mem_schedule, hj, Compose.Coming.soFar, Progress.read]
  let u : Loads := { s with session := ask s.session (js.map (reader i)) }
  have config : u.config = l.config := idle.config
  intro next result
  have made : next = u.settle i load begun (load.entries.map fun _ => .asking) := rfl
  unfold settle at made
  rw [absent, config] at made
  cases decided : Compose.reads l.config.failFast begun
      ((coming full (schedule full)).map fun x => (x.1, x.2.soFar)) with
  | some r =>
    have whole := Compose.reads_soFar (coming_inTime fun j hj rest =>
      absurd ((mem_schedule full j).2 hj) rest) decided
    rw [coming_result] at whole
    rw [decided] at made
    refine .inl ?_
    rw [made]
    refine ⟨?_, idle.config, idle.factories, ?_⟩
    · show _ ∈ [Action.returned i r.value]
      rw [List.mem_singleton, whole]
    · exact (withdraw_ask idle i js).trans idle.session
  | none =>
    rw [decided] at made
    refine .inr ?_
    rw [made, entries]
    have length : (load.entries.map fun _ => Progress.asking).length = full.length := by
      rw [List.length_map, entries, List.length_map]
    rw [entries] at length
    refine comes_asking idle bound held length (fun j hj rest => ?_) decided
    refine absurd (List.mem_range.2 ?_) rest
    rw [entries, List.length_map]
    exact hj

/-- Somebody waits for the preparation of a load. -/
def waiting (s : Loads) (i : Nat) : Loads := { s with session := ask s.session [preparer i] }

theorem acquire_waiting (idle : s.Idle l) (now : Instant) (i : Nat) :
    (s.waiting i).step? now .acquire =
      some ({ s with session := (s.session.serve now (.token (preparer i))).1 }.heed now
        (s.session.serve now (.token (preparer i))).2) := by
  have free : (s.waiting i).session.flight = none := by
    show s.session.flight = none
    rw [idle.session]
  have first : (s.waiting i).session.queue = [.token (preparer i)] := by
    show s.session.queue ++ _ = _
    rw [idle.session]
    rfl
  have served : (s.waiting i).session.withQueue [] = s.session := by
    show { s.session with queue := [] } = s.session
    rw [idle.session]
  rw [step?, Session.step?_acquire free first, served]
  rfl

theorem comes_of_held (idle : s.Idle l) (held : l.seat.held = some t)
    (found : s.loads[i]? = some load) (phase : load.phase = .preparing)
    (entries : load.entries = full.map (·.1)) (now : Instant) :
    (s.waiting i).Comes i (Compose.readsDone l.config.failFast now full).value l := by
  have simple : s.session.discipline = .simple := by rw [idle.session]
  have token : s.session.held = some t := by
    rw [idle.session]
    exact held
  have step := acquire_waiting idle now i
  rw [heed_serve_of_some simple token, deliver_ok found phase] at step
  exact .of_step step (comes_startReads idle held found entries now)

/-- The session while the login of a load is under way. -/
def loggingIn (s : Loads) (i : Nat) : Loads :=
  { s with session := { s.session with flight := some (.login (preparer i)) } }

theorem comes_of_empty (idle : s.Idle l) (empty : l.seat.held = none) (now : Instant) {l' : Loader}
    (h : (s.loggingIn i).Comes i result l') : (s.waiting i).Comes i result l' := by
  have simple : s.session.discipline = .simple := by rw [idle.session]
  have none : s.session.held = none := by
    rw [idle.session]
    exact empty
  have step := acquire_waiting idle now i
  rw [heed_serve_of_none simple none] at step
  exact .of_step step (.inr h)

theorem comes_of_refused (l' : Loader) (idle : s.Idle l) (config : l'.config = l.config)
    (factories : l'.factories = l.factories) (held : l'.seat.held = l.seat.held)
    (found : s.loads[i]? = some load) (phase : load.phase = .preparing) (now : Instant) (e : Error) :
    (s.loggingIn i).Comes i (Compose.unread l.config.failFast e load.entries) l' := by
  let u : Loads := { s with session := { s.session with flight := none } }
  have found : u.loads[i]? = some load := found
  have idle : u.Idle l' := by
    refine ⟨idle.config.trans config.symm, idle.factories.trans factories.symm, ?_⟩
    show { s.session with flight := none } = _
    rw [idle.session, held]
  have flight : (s.loggingIn i).session.flight = some (.login (preparer i)) := rfl
  have refused : u.deliver now (preparer i) (.error e) =
      u.finish i load ⟨now, Compose.unread l.config.failFast e load.entries⟩ := by
    rw [deliver_error found phase, idle.config, config]
  obtain ⟨returned, idle⟩ :=
    idle.finish (i := i) load ⟨now, Compose.unread l.config.failFast e load.entries⟩
  rw [← refused] at returned idle
  have step : (s.loggingIn i).step? now (.answered (.error e)) = some (_, _) := step?_refused flight e
  exact .of_step step (.inl ⟨List.mem_cons_of_mem _ returned, idle⟩)

theorem comes_of_granted (l' : Loader) (idle : s.Idle l) (config : l'.config = l.config)
    (factories : l'.factories = l.factories) (held : l'.seat.held = some t)
    (found : s.loads[i]? = some load) (phase : load.phase = .preparing)
    (entries : load.entries = full.map (·.1)) (now : Instant) :
    (s.loggingIn i).Comes i (Compose.readsDone l.config.failFast now full).value l' := by
  let u : Loads := { s with session := { s.session with flight := none, held := some t } }
  have found : u.loads[i]? = some load := found
  have idle : u.Idle l' := by
    refine ⟨idle.config.trans config.symm, idle.factories.trans factories.symm, ?_⟩
    show { s.session with flight := none, held := some t } = _
    rw [idle.session, held]
  have flight : (s.loggingIn i).session.flight = some (.login (preparer i)) := rfl
  have comes := comes_startReads idle held found entries now
  rw [← deliver_ok found phase now t, config] at comes
  have step : (s.loggingIn i).step? now (.answered (.ok t)) = some (_, _) := step?_granted flight t
  refine .of_step step ?_
  rcases comes with ⟨returned, idle⟩ | comes
  · exact .inl ⟨List.mem_cons_of_mem _ returned, idle⟩
  · exact .inr comes

/-- Whatever the store answers, a load that runs alone is one of the runs that loads have together. -/
theorem comes_load {σ : Type} (simple : l.seat.discipline = .simple) (idle : s.Idle l)
    (profiles : List String) (now : Instant) (store : σ → Request → Arrival × σ) (w : σ) :
    let done := ((l.load profiles now).run store w).1
    s.Comes s.loads.length done.1.value done.2 := by
  intro done
  have planned : Plan.ofConfig s.factories s.config profiles = l.plan profiles := by
    rw [idle.factories, idle.config]
    rfl
  cases hplan : l.plan profiles with
  | error e =>
    have failed : done = (⟨now, .error e⟩, l) := by
      simp only [done, Loader.load, hplan, Dialogue.run]
    have step : s.step? now (.begin profiles) =
        some ({ s with loads := s.loads ++ [⟨[], .ended ⟨now, .error e⟩⟩] },
          [.returned s.loads.length (.error e)]) := by
      simp only [step?, planned, hplan]
    rw [failed]
    refine .of_step step (.inl ⟨List.mem_singleton_self _, ?_⟩)
    exact ⟨idle.config, idle.factories, idle.session⟩
  | ok plan =>
    let u : Loads := { s with loads := s.loads ++ [⟨plan.entries, .preparing⟩] }
    have idle : u.Idle l := ⟨idle.config, idle.factories, idle.session⟩
    have found : u.loads[s.loads.length]? = some ⟨plan.entries, .preparing⟩ :=
      List.getElem?_concat_length
    have step : s.step? now (.begin profiles) = some (u.waiting s.loads.length, []) := by
      simp only [step?, planned, hplan]
      rfl
    refine .of_step step (.inr ?_)
    cases held : l.seat.held with
    | some t =>
      let reads := ((l.seat.client.readEach t now plan.entries).run store w).1
      have entries : reads.map (·.1) = plan.entries :=
        l.seat.client.readEach_entries t now plan.entries store w
      have loaded : done = (Compose.readsDone l.config.failFast now reads, l) := by
        have usable : l.seat.discipline.usable? l.seat.held now = some t := by
          rw [Session.Discipline.usable?_simple simple, held]
        simp only [done, Loader.load_of_usable usable hplan, Loader.readWith, Dialogue.run_map]
        rfl
      rw [loaded]
      exact comes_of_held idle held found rfl entries.symm now
    | none =>
      refine comes_of_empty idle held now ?_
      obtain ⟨⟨⟨begun, value⟩, requests, w'⟩, run⟩ : ∃ r, ((l.seat.strategy.login l.seat.client
        l.seat.machine now).timed now).run store w = r := ⟨_, rfl⟩
      have loaded := congrArg (fun d => (Dialogue.run store d w).1)
        (Loader.load_of_empty simple held hplan now)
      simp only [Dialogue.run_bind, run] at loaded
      cases value with
      | error e =>
        let l' : Loader := l.withSeat (l.seat.after (.error e))
        have loaded : done = (⟨begun, Compose.unread l.config.failFast e plan.entries⟩, l') := loaded
        rw [loaded]
        exact comes_of_refused l' idle rfl rfl rfl found rfl begun e
      | ok t =>
        let l' : Loader := l.withSeat (l.seat.after (.ok t))
        let reads := ((l.seat.client.readEach t begun plan.entries).run store w').1
        have entries : reads.map (·.1) = plan.entries :=
          l.seat.client.readEach_entries t begun plan.entries store w'
        have loaded : done = (Compose.readsDone l.config.failFast begun reads, l') := by
          rw [show done = ((l'.readWith t plan.entries begun).run store w').1 from loaded,
            Loader.readWith, Dialogue.run_map]
          rfl
        rw [loaded]
        exact comes_of_granted l' idle rfl rfl rfl found rfl entries.symm begun

end

end Loads
end SecretLayers
