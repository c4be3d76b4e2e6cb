import SecretLayers.Loads
import SecretLayers.Proofs.Session.History
/-!
Moves of loads that share a session which keeps its token. Whoever waits for it asks for the
preparation of a load or, once there is a token, for a read: so only preparations can find none, and
log in.
-/
namespace SecretLayers
set_option autoImplicit false

namespace Loads
open Session (Demand Flight)

/-! ## Who asks -/

@[simp] theorem loadOf_preparer (i : Nat) : loadOf (preparer i) = i := by
  rw [loadOf, preparer, Nat.unpair_pair]

@[simp] theorem loadOf_reader (i j : Nat) : loadOf (reader i j) = i := by
  rw [loadOf, reader, Nat.unpair_pair]

theorem preparer_inj {i k : Nat} : preparer i = preparer k ↔ i = k := by
  simp [preparer, Nat.pair_eq_pair]

theorem preparer_ne_reader (i k j : Nat) : preparer i ≠ reader k j := by
  simp [preparer, reader, Nat.pair_eq_pair]

/-- A demand of a load: for its preparation while that lasts, or for a read, when there is a token. -/
inductive Asks (s : Loads) : Demand → Prop where
  | preparer {i : Nat} {load : Load} (found : s.loads[i]? = some load)
      (phase : load.phase = .preparing) : Asks s (.token (preparer i))
  | reader (i j : Nat) (held : s.session.held.isSome) : Asks s (.token (reader i j))

theorem asks_preparer {s : Loads} {i : Nat} (h : s.Asks (.token (preparer i))) :
    ∃ load : Load, s.loads[i]? = some load ∧ load.phase = .preparing := by
  generalize hd : Demand.token (preparer i) = d at h
  cases h with
  | @preparer k load found phase =>
    obtain rfl := preparer_inj.1 (Demand.token.inj hd)
    exact ⟨load, found, phase⟩
  | reader k j => exact absurd (Demand.token.inj hd) (preparer_ne_reader i k j)

/-- Nobody asks for the preparation of a load. -/
structure Unasked (s : Session) (i : Nat) : Prop where
  queue : .token (preparer i) ∉ s.queue
  flight : s.flight ≠ some (.login (preparer i))

/-- What holds of the session between the steps of loads. -/
structure Standing (s : Loads) : Prop where
  simple : s.session.discipline = .simple
  asked : ∀ d ∈ s.session.queue, Asks s d
  once : ∀ i, s.session.queue.count (.token (preparer i)) ≤ 1
  served : ∀ f, s.session.flight = some f → s.session.held = none ∧
    ∃ i load, f = .login (preparer i) ∧ s.loads[i]? = some load ∧ load.phase = .preparing ∧
      .token (preparer i) ∉ s.session.queue

section
variable {s : Loads} {i : Nat}

theorem unasked_withdraw (s : Session) (i : Nat) : Unasked (withdraw s i) i where
  queue h := by simp [withdraw, isAskedBy] at h
  flight h := by
    have kept := (Option.filter_eq_some_iff.1 h).2
    simp [isLoginBy] at kept

theorem Standing.unasked (h : s.Standing) {load : Load} (found : s.loads[i]? = some load)
    (phase : load.phase ≠ .preparing) : Unasked s.session i where
  queue asked := by
    obtain ⟨load', found', phase'⟩ := asks_preparer (h.asked _ asked)
    cases found.symm.trans found'
    exact phase phase'
  flight serves := by
    obtain ⟨-, k, load', same, found', phase', -⟩ := h.served _ serves
    obtain rfl := preparer_inj.1 (Flight.login.inj same)
    cases found.symm.trans found'
    exact phase phase'

end

/-! ## Loads that go on -/

/-- What is seen of a load that has been prepared. -/
inductive Shown (s : Loads) (i : Nat) : Action → Prop where
  | returned (result : Except Error View) : Shown s i (.returned i result)
  | reading {load : Load} {begun : Instant} {reads : List Progress} (found : s.loads[i]? = some load)
      (phase : load.phase = .reading begun reads) (entry : Backend.Entry) (t : Token) :
      Shown s i (.reading i entry t)

/-- A load that has been prepared goes on, or is over. Of the others nothing changes, except that the
session has less to do. -/
structure GoesOn (s : Loads) (i : Nat) (s' : Loads) (seen : List Action) : Prop where
  config : s'.config = s.config
  discipline : s'.session.discipline = s.session.discipline
  held : s'.session.held = s.session.held
  flight : ∀ f, s'.session.flight = some f → s.session.flight = some f
  queue : ∀ d ∈ s'.session.queue,
    d ∈ s.session.queue ∨ s.session.held.isSome ∧ ∃ j, d = .token (reader i j)
  count : ∀ k, s'.session.queue.count (.token (preparer k)) ≤
    s.session.queue.count (.token (preparer k))
  unasked : Unasked s'.session i
  loads : ∃ load, load.phase ≠ .preparing ∧ s'.loads = s.loads.set i load
  seen : ∀ a ∈ seen, Shown s i a

section
variable {s : Loads} {i : Nat} {load : Load}

theorem goesOn_put (unasked : Unasked s.session i) (phase : load.phase ≠ .preparing)
    {seen : List Action} (shown : ∀ a ∈ seen, Shown s i a) : GoesOn s i (s.put i load) seen where
  config := rfl
  discipline := rfl
  held := rfl
  flight _ hf := hf
  queue _ hd := .inl hd
  count _ := Nat.le_refl _
  unasked := unasked
  loads := ⟨load, phase, rfl⟩
  seen := shown

theorem goesOn_withdraw (s : Loads) (i : Nat) (phase : load.phase ≠ .preparing) {seen : List Action}
    (shown : ∀ a ∈ seen, Shown s i a) :
    GoesOn s i { s.put i load with session := withdraw s.session i } seen where
  config := rfl
  discipline := rfl
  held := rfl
  flight _ hf := (Option.filter_eq_some_iff.1 hf).1
  queue _ hd := .inl (List.mem_filter.1 hd).1
  count _ := List.filter_sublist.count_le _
  unasked := unasked_withdraw s.session i
  loads := ⟨load, phase, rfl⟩
  seen := shown

theorem goesOn_finish (s : Loads) (i : Nat) (load : Load) (result : Timed (Except Error View)) :
    GoesOn s i (s.finish i load result).1 (s.finish i load result).2 := by
  refine goesOn_withdraw s i (by simp) fun a ha => ?_
  rw [List.mem_singleton.1 ha]
  exact .returned result.value

theorem goesOn_settle (unasked : Unasked s.session i) (load : Load) (begun : Instant)
    (reads : List Progress) :
    GoesOn s i (s.settle i load begun reads).1 (s.settle i load begun reads).2 := by
  unfold settle
  split
  · exact goesOn_finish s i load _
  · exact goesOn_put unasked (by simp) (by simp)

theorem count_preparer_readers (k i : Nat) (js : List Nat) :
    ((js.map (reader i)).map Demand.token).count (.token (preparer k)) = 0 := by
  rw [List.count_eq_zero]
  intro h
  obtain ⟨c, hc, same⟩ := List.mem_map.1 h
  obtain ⟨j, -, rfl⟩ := List.mem_map.1 hc
  exact preparer_ne_reader k i j (Demand.token.inj same).symm

theorem goesOn_startReads (unasked : Unasked s.session i) (held : s.session.held.isSome)
    (now : Instant) (load : Load) :
    GoesOn s i (s.startReads now i load).1 (s.startReads now i load).2 := by
  let js := List.range load.entries.length
  let u : Loads := { s with session := ask s.session (js.map (reader i)) }
  have count (k : Nat) : u.session.queue.count (.token (preparer k)) =
      s.session.queue.count (.token (preparer k)) := by
    show (s.session.queue ++ (js.map (reader i)).map Demand.token).count _ = _
    rw [List.count_append, count_preparer_readers, Nat.add_zero]
  have still : Unasked u.session i := by
    refine ⟨?_, unasked.flight⟩
    rw [← List.count_eq_zero, count, List.count_eq_zero]
    exact unasked.queue
  have goes : GoesOn u i (s.startReads now i load).1 (s.startReads now i load).2 :=
    goesOn_settle still load now _
  refine ⟨goes.config, goes.discipline, goes.held, goes.flight, fun d hd => ?_,
    fun k => Nat.le_trans (goes.count k) (Nat.le_of_eq (count k)), goes.unasked, goes.loads, fun a ha => ?_⟩
  · rcases goes.queue d hd with old | fresh
    · rcases List.mem_append.1 old with old | new
      · exact .inl old
      · obtain ⟨c, hc, rfl⟩ := List.mem_map.1 new
        obtain ⟨j, -, rfl⟩ := List.mem_map.1 hc
        exact .inr ⟨held, j, rfl⟩
    · exact .inr fresh
  · cases goes.seen a ha with
    | returned result => exact .returned result
    | reading found phase entry t =>
      have found : s.loads[i]? = some _ := found
      exact .reading found phase entry t

/-- A load goes on without more requests for its preparation, and all others are as they were. -/
theorem GoesOn.standing {s' : Loads} {seen : List Action} (h : GoesOn s i s' seen) (hs : s.Standing) :
    s'.Standing := by
  obtain ⟨load, phase, loads⟩ := h.loads
  have other {k : Nat} (hk : k ≠ i) : s'.loads[k]? = s.loads[k]? := by
    rw [loads, List.getElem?_set_ne hk.symm]
  refine ⟨h.discipline.trans hs.simple, fun d hd => ?_, fun k => Nat.le_trans (h.count k) (hs.once k), ?_⟩
  · rcases h.queue d hd with old | ⟨held, j, rfl⟩
    · cases hs.asked d old with
      | @preparer k load found phase =>
        have hk : k ≠ i := by
          rintro rfl
          exact h.unasked.queue hd
        exact .preparer ((other hk).trans found) phase
      | reader k j held => exact .reader k j (h.held ▸ held)
    · exact .reader i j (h.held ▸ held)
  · intro f hf
    obtain ⟨empty, k, load', rfl, found, phase', unqueued⟩ := hs.served f (h.flight f hf)
    have hk : k ≠ i := by
      rintro rfl
      exact h.unasked.flight hf
    refine ⟨h.held.trans empty, k, load', rfl, (other hk).trans found, phase', fun hq => ?_⟩
    rcases h.queue _ hq with old | ⟨-, j, same⟩
    · exact unqueued old
    · exact preparer_ne_reader k i j (Demand.token.inj same)

end

/-! ## Tokens that are handed over -/

section
variable {s : Loads} {i : Nat} {load : Load}

theorem deliver_ok (found : s.loads[i]? = some load) (phase : load.phase = .preparing) (now : Instant)
    (t : Token) : s.deliver now (preparer i) (.ok t) = s.startReads now i load := by
  simp [deliver, found, phase, preparer, loadOf]

theorem deliver_error (found : s.loads[i]? = some load) (phase : load.phase = .preparing)
    (now : Instant) (e : Error) : s.deliver now (preparer i) (.error e) =
      s.finish i load ⟨now, Compose.unread s.config.failFast e load.entries⟩ := by
  simp [deliver, found, phase, preparer, loadOf]

theorem deliver_read {begun : Instant} {reads : List Progress} (found : s.loads[i]? = some load)
    (phase : load.phase = .reading begun reads) (now : Instant) (j : Nat) (t : Token) :
    s.deliver now (reader i j) (.ok t) =
      (s.put i { load with phase := .reading begun (reads.set j (.sent t)) },
        (load.entries[j]?).toList.map fun entry => .reading i entry t) := by
  simp [deliver, found, phase, reader, loadOf]

/-- A token for a read goes to a load that is reading, and else to nobody. -/
theorem deliver_reader (s : Loads) (now : Instant) (i j : Nat) (t : Token) :
    s.deliver now (reader i j) (.ok t) = (s, []) ∨
      ∃ load begun reads, s.loads[i]? = some load ∧ load.phase = .reading begun reads := by
  cases found : s.loads[i]? with
  | none =>
    refine .inl ?_
    simp [deliver, found, reader, loadOf]
  | some load =>
    cases phase : load.phase with
    | reading begun reads => exact .inr ⟨load, begun, reads, rfl, phase⟩
    | preparing | ended | dropped =>
      refine .inl ?_
      simp [deliver, found, phase, reader, loadOf]

end

/-! ## Steps that begin a load -/

/-- One load more, which is prepared or over at once. -/
structure Begins (s : Loads) (load : Load) (s' : Loads) (seen : List Action) : Prop where
  config : s'.config = s.config
  loads : s'.loads = s.loads ++ [load]
  discipline : s'.session.discipline = s.session.discipline
  held : s'.session.held = s.session.held
  flight : s'.session.flight = s.session.flight
  queue : ∀ d ∈ s'.session.queue, d ∈ s.session.queue ∨
    load.phase = .preparing ∧ d = .token (preparer s.loads.length)
  count : ∀ k, s'.session.queue.count (.token (preparer k)) ≤
    s.session.queue.count (.token (preparer k)) + if k = s.loads.length then 1 else 0
  seen : ∀ a ∈ seen, ∃ result, a = .returned s.loads.length result

section
variable {s s' : Loads} {load : Load} {seen : List Action}

theorem begins_over (s : Loads) (now : Instant) (e : Error) :
    Begins s ⟨[], .ended ⟨now, .error e⟩⟩
      { s with loads := s.loads ++ [⟨[], .ended ⟨now, .error e⟩⟩] }
      [.returned s.loads.length (.error e)] where
  loads := rfl
  config := rfl
  discipline := rfl
  held := rfl
  flight := rfl
  queue _ hd := .inl hd
  count _ := Nat.le_add_right _ _
  seen _ ha := ⟨.error e, List.mem_singleton.1 ha⟩

theorem begins_preparing (s : Loads) (entries : List Backend.Entry) :
    Begins s ⟨entries, .preparing⟩
      { s with
        loads := s.loads ++ [⟨entries, .preparing⟩]
        session := ask s.session [preparer s.loads.length] } [] where
  loads := rfl
  config := rfl
  discipline := rfl
  held := rfl
  flight := rfl
  queue d hd := by
    rcases List.mem_append.1 hd with old | new
    · exact .inl old
    · exact .inr ⟨rfl, List.mem_singleton.1 new⟩
  count k := by
    show (s.session.queue ++ [Demand.token (preparer s.loads.length)]).count _ ≤ _
    rw [List.count_append, List.count_singleton]
    by_cases same : k = s.loads.length
    · simp [same]
    · have other : preparer s.loads.length ≠ preparer k := fun h => same (preparer_inj.1 h).symm
      simp [same, other]
  seen a ha := by cases ha

/-- Nobody asks for a load that has not begun. -/
theorem Standing.unborn (hs : s.Standing) :
    s.session.queue.count (.token (preparer s.loads.length)) = 0 := by
  refine List.count_eq_zero.2 fun asked => ?_
  obtain ⟨load, found, -⟩ := asks_preparer (hs.asked _ asked)
  have bound := (List.getElem?_eq_some_iff.1 found).1
  omega

theorem Begins.old (h : Begins s load s' seen) {k : Nat} {x : Load} (hk : s.loads[k]? = some x) :
    s'.loads[k]? = some x := by
  rw [h.loads, List.getElem?_append_left (List.getElem?_eq_some_iff.1 hk).1, hk]

theorem Begins.standing (h : Begins s load s' seen) (hs : s.Standing) : s'.Standing := by
  refine ⟨h.discipline.trans hs.simple, fun d hd => ?_, fun k => ?_, fun f hf => ?_⟩
  · rcases h.queue d hd with old | ⟨phase, rfl⟩
    · cases hs.asked d old with
      | preparer found phase => exact .preparer (h.old found) phase
      | reader k j held => exact .reader k j (h.held ▸ held)
    · have found : s'.loads[s.loads.length]? = some load := by
        rw [h.loads, List.getElem?_concat_length]
      exact .preparer found phase
  · have count := h.count k
    have once := hs.once k
    by_cases same : k = s.loads.length
    · rw [same, hs.unborn, if_pos rfl] at count
      rw [same]
      omega
    · rw [if_neg same] at count
      omega
  · obtain ⟨empty, k, x, rfl, found, phase, unqueued⟩ := hs.served f (h.flight ▸ hf)
    refine ⟨h.held.trans empty, k, x, rfl, h.old found, phase, fun hq => ?_⟩
    rcases h.queue _ hq with old | ⟨-, same⟩
    · exact unqueued old
    · have bound := (List.getElem?_eq_some_iff.1 found).1
      have same := preparer_inj.1 (Demand.token.inj same)
      omega

end

/-! ## Moves -/

/-- A state whose session has served somebody. -/
structure Served (s u : Loads) : Prop where
  standing : u.Standing
  config : u.config = s.config
  loads : u.loads = s.loads
  held : s.session.held.isSome → u.session.held.isSome
  count : ∀ k, u.session.queue.count (.token (preparer k)) ≤
    s.session.queue.count (.token (preparer k))

/-- What a step can do. -/
inductive Move (s s' : Loads) : List Action → Prop where
  | begins {load : Load} {seen : List Action} (begins : Begins s load s' seen) : Move s s' seen
  | logsIn {i : Nat} {load : Load} {rest : List Demand}
      (first : s.session.queue = .token (preparer i) :: rest) (empty : s.session.held = none)
      (found : s.loads[i]? = some load) (phase : load.phase = .preparing)
      (made : s' = { s with session :=
        { s.session.withQueue rest with flight := some (.login (preparer i)) } }) :
      Move s s' [.login i]
  | loggedIn {u : Loads} {i : Nat} {load : Load} {result : Except Error Token} {seen : List Action}
      (served : Served s u) (empty : s.session.held = none) (found : s.loads[i]? = some load)
      (phase : load.phase = .preparing) (goes : GoesOn u i s' seen)
      (grants : ∀ t, result = .ok t → s'.session.held.isSome)
      (refuses : ∀ e, result = .error e → ∃ now, s'.loads[i]? = some { load with
        phase := .ended ⟨now, Compose.unread s.config.failFast e load.entries⟩ }) :
      Move s s' (.loggedIn i result :: seen)
  | goesOn {u : Loads} {i : Nat} {load : Load} {seen : List Action} (served : Served s u)
      (found : s.loads[i]? = some load) (live : load.phase.isOver = false) (goes : GoesOn u i s' seen) :
      Move s s' seen
  /-- A read is served that nobody waits for. -/
  | still (served : Served s s') : Move s s' []

section
variable {s s' : Loads} {now : Instant} {seen : List Action}

theorem Standing.served_self (hs : s.Standing) : Served s s :=
  ⟨hs, rfl, rfl, id, fun _ => Nat.le_refl _⟩

/-- The first of those who wait has left the queue. -/
theorem Standing.withQueue (hs : s.Standing) {d : Demand} {rest : List Demand}
    (free : s.session.flight = none) (first : s.session.queue = d :: rest) :
    Served s { s with session := s.session.withQueue rest } := by
  have count (k : Nat) : rest.count (.token (preparer k)) ≤
      s.session.queue.count (.token (preparer k)) := by
    rw [first]
    exact List.count_le_count_cons
  refine ⟨⟨hs.simple, fun d' hd => ?_, fun i => Nat.le_trans (count i) (hs.once i), fun f hf => ?_⟩,
    rfl, rfl, id, count⟩
  · cases hs.asked d' (by rw [first]; exact List.mem_cons_of_mem d hd) with
    | preparer found phase => exact .preparer found phase
    | reader i j held => exact .reader i j held
  · have hf : s.session.flight = some f := hf
    rw [free] at hf
    cases hf

/-- A login has come to its end, and nobody is served any more. -/
theorem Standing.landed (hs : s.Standing) (empty : s.session.held = none) (held : Option Token) :
    Served s { s with session := { s.session with flight := none, held } } := by
  have none : ¬ s.session.held.isSome := by simp [empty]
  refine ⟨⟨hs.simple, fun d hd => ?_, hs.once, by simp⟩, rfl, rfl, fun some => absurd some none,
    fun _ => Nat.le_refl _⟩
  cases hs.asked d hd with
  | preparer found phase => exact .preparer found phase
  | reader k j some => exact absurd some none

theorem Standing.unqueued (hs : s.Standing) {i : Nat} {rest : List Demand}
    (first : s.session.queue = .token (preparer i) :: rest) : .token (preparer i) ∉ rest := by
  intro again
  have once := hs.once i
  have twice := List.count_pos_iff.2 again
  rw [first, List.count_cons_self] at once
  omega

/-! ## What the session shows -/

/-- Without a token, whoever is served logs in. -/
theorem heed_serve_of_none {session : Session} (simple : session.discipline = .simple)
    (empty : session.held = none) (s : Loads) (now : Instant) (c : Nat) :
    { s with session := (session.serve now (.token c)).1 }.heed now (session.serve now (.token c)).2 =
      ({ s with session := { session with flight := some (.login c) } }, [.login (loadOf c)]) := by
  simp only [Session.serve, Session.serveToken, simple, empty, Session.Discipline.usable?]
  rfl

/-- A token that is held goes to whoever is served. -/
theorem heed_serve_of_some {session : Session} (simple : session.discipline = .simple) {t : Token}
    (held : session.held = some t) (s : Loads) (now : Instant) (c : Nat) :
    { s with session := (session.serve now (.token c)).1 }.heed now (session.serve now (.token c)).2 =
      { s with session }.deliver now c (.ok t) := by
  simp only [Session.serve, Session.serveToken, simple, held, Session.Discipline.usable?]
  rfl

theorem step?_granted {c : Nat} (flight : s.session.flight = some (.login c)) (t : Token) :
    s.step? now (.answered (.ok t)) =
      let u := { s with session := { s.session with flight := none, held := some t } }
      some ((u.deliver now c (.ok t)).1, .loggedIn (loadOf c) (.ok t) :: (u.deliver now c (.ok t)).2) := by
  simp only [step?, Session.step?, flight, loggingIn?]
  rfl

theorem step?_refused {c : Nat} (flight : s.session.flight = some (.login c)) (e : Error) :
    s.step? now (.answered (.error e)) =
      let u := { s with session := { s.session with flight := none } }
      some ((u.deliver now c (.error e)).1,
        .loggedIn (loadOf c) (.error e) :: (u.deliver now c (.error e)).2) := by
  simp only [step?, Session.step?, flight, loggingIn?]
  rfl

/-! ## Steps -/

theorem Standing.acquire (hs : s.Standing) (step : s.step? now .acquire = some (s', seen)) :
    Move s s' seen := by
  obtain ⟨⟨session, shown⟩, serves, made⟩ := Option.map_eq_some_iff.1 step
  cases Session.step_of_step? serves with
  | @acquire _ d rest free first =>
    let u : Loads := { s with session := s.session.withQueue rest }
    have served : Served s u := hs.withQueue free first
    have simple : (s.session.withQueue rest).discipline = .simple := hs.simple
    cases hs.asked d (by rw [first]; exact List.mem_cons_self) with
    | @preparer i load found phase =>
      cases held : s.session.held with
      | none =>
        have made := (heed_serve_of_none simple held s now (preparer i)).symm.trans made
        rw [loadOf_preparer] at made
        obtain ⟨hs', rfl⟩ := Prod.mk.inj made
        exact .logsIn first held found phase hs'.symm
      | some t =>
        have made : u.deliver now (preparer i) (.ok t) = (s', seen) :=
          (heed_serve_of_some simple held s now (preparer i)).symm.trans made
        have unasked : Unasked u.session i := ⟨hs.unqueued first, fun login => by
          cases free.symm.trans login⟩
        have goes := goesOn_startReads unasked (show s.session.held.isSome by rw [held]; rfl) now load
        rw [← deliver_ok (s := u) found phase now t, made] at goes
        exact .goesOn served found (by rw [phase]; rfl) goes
    | reader i j held =>
      -- Whoever asks for a read comes after a token, and so never logs in.
      obtain ⟨t, held⟩ := Option.isSome_iff_exists.1 held
      have made : u.deliver now (reader i j) (.ok t) = (s', seen) :=
        (heed_serve_of_some simple held s now (reader i j)).symm.trans made
      rcases deliver_reader u now i j t with stays | ⟨load, begun, reads, found, phase⟩
      · obtain ⟨hs', rfl⟩ := Prod.mk.inj (stays.symm.trans made)
        exact .still (hs' ▸ served)
      · obtain ⟨rfl, rfl⟩ := Prod.mk.inj ((deliver_read found phase now j t).symm.trans made)
        have unasked : Unasked u.session i := served.standing.unasked found (by simp [phase])
        refine .goesOn served found (by rw [phase]; rfl) (goesOn_put unasked (by simp) fun a ha => ?_)
        obtain ⟨entry, -, rfl⟩ := List.mem_map.1 ha
        exact .reading found phase entry t

theorem Standing.answered (hs : s.Standing) {result : Except Error Token}
    (step : s.step? now (.answered result) = some (s', seen)) : Move s s' seen := by
  obtain ⟨f, flight⟩ : ∃ f, s.session.flight = some f := by
    cases flight : s.session.flight with
    | none => simp [step?, Session.step?, flight] at step
    | some f => exact ⟨f, rfl⟩
  obtain ⟨empty, i, load, rfl, found, phase, unqueued⟩ := hs.served f flight
  cases result with
  | ok t =>
    let u : Loads := { s with session := { s.session with flight := none, held := some t } }
    have found' : u.loads[i]? = some load := found
    have unasked : Unasked u.session i := ⟨unqueued, by simp [u]⟩
    have goes := goesOn_startReads unasked rfl now load
    rw [← deliver_ok found' phase now t] at goes
    rw [step?_granted flight, loadOf_preparer] at step
    obtain ⟨rfl, rfl⟩ := Prod.mk.inj (Option.some.inj step)
    refine .loggedIn (hs.landed empty (some t)) empty found phase goes (fun _ _ => ?_) (by simp)
    rw [goes.held]
    rfl
  | error e =>
    let u : Loads := { s with session := { s.session with flight := none } }
    have found' : u.loads[i]? = some load := found
    let result : Timed (Except Error View) := ⟨now, Compose.unread s.config.failFast e load.entries⟩
    have sends : u.deliver now (preparer i) (.error e) = u.finish i load result :=
      deliver_error found' phase now e
    have goes := goesOn_finish u i load result
    rw [← sends] at goes
    rw [step?_refused flight, loadOf_preparer] at step
    obtain ⟨rfl, rfl⟩ := Prod.mk.inj (Option.some.inj step)
    refine .loggedIn (hs.landed empty s.session.held) empty found phase goes (by simp) ?_
    rintro _ ⟨⟩
    refine ⟨now, ?_⟩
    show (u.deliver now (preparer i) (.error e)).1.loads[i]? = _
    rw [sends]
    show (s.loads.set i _)[i]? = _
    rw [List.getElem?_set_self (List.getElem?_eq_some_iff.1 found).1]

theorem Standing.move (hs : s.Standing) {e : Event} (step : s.step? now e = some (s', seen)) :
    Move s s' seen := by
  cases e with
  | begin profiles =>
    simp only [step?] at step
    split at step
    · cases step
      exact .begins (begins_over s now _)
    · cases step
      exact .begins (begins_preparing s _)
  | acquire => exact hs.acquire step
  | answered result => exact hs.answered step
  | read i j result =>
    simp only [step?] at step
    split at step
    · cases step
    · rename_i load found
      split at step
      · rename_i begun reads phase
        split at step
        · have unasked : Unasked s.session i := hs.unasked found (by simp [phase])
          have goes := goesOn_settle unasked load begun (reads.set j (.ended ⟨now, result⟩))
          rw [Option.some.inj step] at goes
          exact .goesOn hs.served_self found (by rw [phase]; rfl) goes
        · cases step
      · cases step
  | drop i =>
    simp only [step?] at step
    split at step
    · cases step
    · rename_i load found
      split at step
      · cases step
      · rename_i live
        cases step
        exact .goesOn hs.served_self found (Bool.eq_false_iff.2 live)
          (goesOn_withdraw s i (by simp) (by simp))

/-- What stands is kept. -/
theorem Move.standing (h : Move s s' seen) (hs : s.Standing) : s'.Standing := by
  cases h with
  | begins begins => exact begins.standing hs
  | @logsIn i load rest first empty found phase made =>
    subst made
    refine ⟨hs.simple, fun d hd => ?_, fun k => ?_, fun f hf => ?_⟩
    · cases hs.asked d (by rw [first]; exact List.mem_cons_of_mem _ hd) with
      | preparer found phase => exact .preparer found phase
      | reader k j held => exact absurd held (by simp [empty])
    · refine Nat.le_trans ?_ (hs.once k)
      rw [first]
      exact List.count_le_count_cons
    · cases hf
      exact ⟨empty, i, load, rfl, found, phase, hs.unqueued first⟩
  | loggedIn served _ _ _ goes => exact goes.standing served.standing
  | goesOn served _ _ goes => exact goes.standing served.standing
  | still served => exact served.standing

end

end Loads
end SecretLayers
