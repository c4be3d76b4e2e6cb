import Mathlib.Data.List.Forall2
import SecretLayers.Proofs.Auth.Readiness
import SecretLayers.Proofs.Loading.Precedence
/-!
What the answers of the store do to a load. For each entry a load tries to get its secret; what comes
of that is told by the answer alone. Under the soft policy a load gives a view with what has been
answered; under the strict one it does so only if everything has been, and fails for the store if not.
-/
namespace SecretLayers
set_option autoImplicit false

/-! ## Answers to reads -/

namespace Answer

structure Tells (a : Answer) (r : Store.Response) : Prop where
  success : a.isSuccess = true
  content : a.status ≠ 204
  document : Store.Response.parse? a.body = some r

/-- An answer that a read takes for data, or for nothing. -/
def IsAccepted (a : Answer) : Prop :=
  a.status = 404 ∨ a.status = 204 ∨
    a.isSuccess = true ∧ (Store.Response.parse? a.body).isSome = true

theorem Tells.isAccepted {a : Answer} {r : Store.Response} (h : a.Tells r) : a.IsAccepted :=
  .inr (.inr ⟨h.success, by rw [h.document]; rfl⟩)

end Answer

/-- What a read makes of an answer. -/
inductive Store.Client.Takes (a : Answer) : Except Error (Option Store.Reading) → Prop
  | nothing (found : a.status = 404 ∨ a.status = 204) : Takes a (.ok none)
  | data {r : Store.Response} (tells : a.Tells r) : Takes a (.ok (some (.ofResponse r)))
  | failure {e : Error} (rejected : ¬ a.IsAccepted) : Takes a (.error e)

theorem Store.Client.readingOf_takes (path : String) (a : Answer) : Takes a (readingOf path a) := by
  unfold readingOf
  split
  · rename_i found
    exact .nothing found
  · rename_i found
    obtain ⟨missing, content⟩ := not_or.1 found
    split
    · rename_i denied
      refine .failure ?_
      rintro (h | h | ⟨success, -⟩)
      · exact missing h
      · exact content h
      · simp [Answer.isSuccess] at success
        omega
    · split
      · rename_i success
        split
        · rename_i unread
          refine .failure ?_
          rintro (h | h | ⟨-, document⟩)
          · exact missing h
          · exact content h
          · simp [unread] at document
        · rename_i r document
          exact .data ⟨success, content, document⟩
      · rename_i failed
        refine .failure ?_
        rintro (h | h | ⟨success, -⟩)
        · exact missing h
        · exact content h
        · exact failed success

/-! ## Trials -/

/-- What came of asking for the secret of an entry. -/
inductive Trial where
  /-- There was no token to ask with. -/
  | refused (e : Error)
  /-- There was no answer. -/
  | lost (fault : NetworkFault)
  | answered (a : Answer)

namespace Trial

def IsAccepted : Trial → Prop
  | answered a => a.IsAccepted
  | refused _ | lost _ => False

def outcome (path : String) : Trial → Except Error (Option Store.Reading)
  | refused e => .error e
  | lost fault => .error fault.error
  | answered a => Store.Client.readingOf path a

/-- The source of an entry: the data that it was answered with, or nothing. -/
inductive Contributes (entry : Backend.Entry) : Trial → Source → Prop
  | data {a : Answer} {r : Store.Response} {source : Source} (tells : a.Tells r)
      (name : source.name = entry.name)
      (properties : source.properties = entry.transform.apply (.flatten (r.data.getD []))) :
      Contributes entry (answered a) source
  | nothing {trial : Trial} (silent : ∀ a r, trial = answered a → ¬ a.Tells r) :
      Contributes entry trial (.empty entry.name)

theorem exists_outcome_iff {path : String} {trial : Trial} :
    (∃ reading, trial.outcome path = .ok reading) ↔ trial.IsAccepted := by
  cases trial with
  | refused e => simp [outcome, IsAccepted]
  | lost fault => simp [outcome, IsAccepted]
  | answered a =>
    have takes := Store.Client.readingOf_takes path a
    simp only [outcome, IsAccepted]
    generalize Store.Client.readingOf path a = result at takes ⊢
    cases takes with
    | nothing found => exact iff_of_true ⟨none, rfl⟩ (by
        rcases found with h | h
        · exact .inl h
        · exact .inr (.inl h))
    | data tells =>
      exact iff_of_true ⟨_, rfl⟩ tells.isAccepted
    | failure rejected => exact iff_of_false (fun ⟨_, h⟩ => by cases h) rejected

theorem expected_of_vacant {entry : Backend.Entry} {read : Timed (Except Error (Option Store.Reading))}
    (h : ∀ r, read.value ≠ .ok (some r)) : Compose.expected entry read = .empty entry.name := by
  unfold Compose.expected
  split
  · rename_i r value
    exact absurd value (h r)
  · rfl
  · rfl

theorem expected_properties {entry : Backend.Entry} {read : Timed (Except Error (Option Store.Reading))}
    {r : Store.Response} (h : read.value = .ok (some (.ofResponse r))) :
    (Compose.expected entry read).properties = entry.transform.apply (.flatten (r.data.getD [])) := by
  simp only [Compose.expected, h, Store.Reading.ofResponse]

theorem contributes_expected {entry : Backend.Entry} {trial : Trial}
    {read : Timed (Except Error (Option Store.Reading))} (h : read.value = trial.outcome entry.name) :
    trial.Contributes entry (Compose.expected entry read) := by
  cases trial with
  | refused e | lost fault =>
    rw [expected_of_vacant (by simp [h, outcome])]
    exact .nothing fun a r told => by cases told
  | answered a =>
    have takes := Store.Client.readingOf_takes entry.name a
    rw [outcome] at h
    rw [← h] at takes
    cases value : read.value with
    | error e =>
      rw [value] at takes
      cases takes with
      | failure rejected =>
        rw [expected_of_vacant (by simp [value])]
        refine .nothing fun a' r told tells => ?_
        obtain rfl := answered.inj told
        exact rejected tells.isAccepted
    | ok reading =>
      rw [value] at takes
      cases takes with
      | nothing found =>
        rw [expected_of_vacant (by simp [value])]
        refine .nothing fun a' r told tells => ?_
        obtain rfl := answered.inj told
        rcases found with missing | content
        · have success := tells.success
          simp [Answer.isSuccess, missing] at success
        · exact tells.content content
      | data tells => exact .data tells (Compose.expected_name entry read) (expected_properties value)

end Trial

/-! ## Trials of a load -/

section
variable {σ : Type}

/-- What comes of a request for a path with a token. -/
def Store.Client.trial (c : Client) (store : σ → Request → Arrival × σ) (s : σ) (path : String)
    (t : Token) : Trial :=
  match c.url path with
  | .error e => .refused e
  | .ok url =>
    let r : Request := { verb := .get, url, token := some t.text, namespaceName := c.namespaceName }
    match formFault? r, (store s r).1.outcome with
    | some fault, _ | none, .error fault => .lost fault
    | none, .ok a => .answered a

namespace Seat

/-- What comes of the read of an entry, with the token that the session has or a login brings. -/
def trial (store : σ → Request → Arrival × σ) (now : Instant) (entry : Backend.Entry) (seat : Seat)
    (s : σ) : Trial :=
  let ((login, seat'), _, s') := (seat.token now).run store s
  match login.value with
  | .error e => .refused e
  | .ok t => seat'.client.trial store s' entry.name t

/-- What comes of the reads of entries, one after another. -/
def trials (store : σ → Request → Arrival × σ) (now : Instant) :
    List Backend.Entry → Seat → σ → List (Backend.Entry × Trial)
  | [], _, _ => []
  | entry :: rest, seat, s =>
    let ((_, seat'), _, s') := (seat.read now entry).run store s
    (entry, seat.trial store now entry s) :: trials store now rest seat' s'

end Seat

/-- What comes of the reads of a load; nothing is asked for where its first login fails. -/
def Loader.trials (l : Loader) (store : σ → Request → Arrival × σ) (s : σ) (now : Instant)
    (entries : List Backend.Entry) : List (Backend.Entry × Trial) :=
  let ((login, seat), _, s') := (l.seat.token now).run store s
  match login.value with
  | .error e => entries.map fun entry => (entry, .refused e)
  | .ok _ => seat.trials store login.instant entries s'

end

/-! ## Reads by their trials -/

section
variable {σ : Type} {store : σ → Request → Arrival × σ}

theorem Store.Client.run_read (c : Client) (path : String) (t : Token) (s : σ) :
    ((c.read path t).run store s).1 = (c.trial store s path t).outcome path := by
  unfold read call trial
  cases c.url path with
  | error e => rfl
  | ok url =>
    dsimp only
    unfold exchange
    split
    · rename_i fault form
      simp only [form]
      rfl
    · rename_i form
      simp only [form, Dialogue.run]
      split
      · rename_i outcome
        simp only [outcome]
        rfl
      · rename_i outcome
        simp only [outcome]
        rfl

namespace Seat

theorem run_read (seat : Seat) (now : Instant) (entry : Backend.Entry) (s : σ) :
    ((seat.read now entry).run store s).1.1.value = (seat.trial store now entry s).outcome entry.name := by
  unfold read trial
  rw [Dialogue.run_bind]
  obtain ⟨⟨login, seat'⟩, requests, s'⟩ := (seat.token now).run store s
  obtain ⟨begun, value⟩ := login
  cases value with
  | error e => rfl
  | ok t =>
    simp only [Dialogue.run_map, Dialogue.value_timed]
    exact seat'.client.run_read entry.name t s'

theorem trials_entries (now : Instant) (entries : List Backend.Entry) (seat : Seat) (s : σ) :
    (trials store now entries seat s).map (·.1) = entries := by
  induction entries generalizing seat s with
  | nil => rfl
  | cons entry rest ih => exact congrArg (entry :: ·) (ih _ _)

theorem run_readAll (now : Instant) (entries : List Backend.Entry) (seat : Seat) (s : σ) :
    ((seat.readAll now entries).run store s).1.1.map (fun read => (read.1, read.2.value)) =
      (trials store now entries seat s).map fun x => (x.1, x.2.outcome x.1.name) := by
  induction entries generalizing seat s with
  | nil => rfl
  | cons entry rest ih =>
    simp only [readAll, trials, Dialogue.run_bind, Dialogue.run_map, List.map_cons, run_read, ih]

end Seat

/-! ## Loads -/

namespace Loader

/-- What a load comes to, by its first login and what comes of its reads. -/
structure LoadsBy (failFast : Bool) (login : Except Error Token)
    (trials : List (Backend.Entry × Trial)) (result : Except Error View) : Prop where
  soft : failFast = false → ∃ view, result = .ok view
  strict : failFast = true →
    ((∃ view, result = .ok view) ↔ (∃ t, login = .ok t) ∧ ∀ x ∈ trials, x.2.IsAccepted)
  contributes : ∀ view, result = .ok view →
    List.Forall₂ (fun x source => x.2.Contributes x.1 source) trials view.sources
  fails : FailsForStore result

variable {failFast : Bool} {trials : List (Backend.Entry × Trial)} {result : Except Error View}

/-- Reads that are made and come to what their trials are. -/
theorem loadsBy_of_meets {reads : Compose.Ended} (meets : Compose.Meets failFast reads result)
    (fails : ∀ read ∈ reads, FailsForStore read.2.value)
    (told : reads.map (fun read => (read.1, read.2.value)) =
      trials.map fun x => (x.1, x.2.outcome x.1.name)) (t : Token) :
    LoadsBy failFast (.ok t) trials result where
  soft := by
    rintro rfl
    refine meets.ok_iff.2 fun read hread e value => ?_
    exact Error.isFatal_of_isOfStore (fails read hread e value)
  strict := by
    rintro rfl
    have answered : (∀ read ∈ reads, ∃ reading, read.2.value = .ok reading) ↔
        ∀ x ∈ trials, x.2.IsAccepted := by
      have pairs := congrArg (fun l => ∀ x ∈ l, ∃ reading, x.2 = Except.ok reading) told
      simp only [List.forall_mem_map, Trial.exists_outcome_iff] at pairs
      exact iff_of_eq pairs
    rw [meets.ok_iff, ← answered]
    constructor
    · intro tolerated
      refine ⟨⟨t, rfl⟩, fun read hread => ?_⟩
      cases value : read.2.value with
      | error e => exact absurd (tolerated read hread e value) (by simp [Compose.aborts])
      | ok reading => exact ⟨reading, rfl⟩
    · rintro ⟨-, ends⟩ read hread e value
      obtain ⟨reading, hreading⟩ := ends read hread
      cases hreading.symm.trans value
  contributes := by
    intro view hview
    have pairs : List.Forall₂ (· = ·) (reads.map fun read => (read.1, read.2.value))
        (trials.map fun x => (x.1, x.2.outcome x.1.name)) := told ▸ List.forall₂_refl _
    rw [List.forall₂_map_left_iff, List.forall₂_map_right_iff] at pairs
    rw [meets.sources view hview, List.forall₂_map_right_iff]
    refine pairs.flip.imp fun x read h => ?_
    obtain ⟨entry, value⟩ := Prod.mk.inj h
    rw [entry]
    exact Trial.contributes_expected value
  fails := by
    intro e he
    obtain ⟨-, read, hread, value⟩ := meets.error_mem e he
    exact fails read hread e value

theorem loadsBy_of_refused {e : Error} (h : e.isOfStore = true) (entries : List Backend.Entry) :
    LoadsBy failFast (.error e) (entries.map fun entry => (entry, .refused e))
      (Compose.unread failFast e entries) := by
  have soft : Compose.aborts failFast e = failFast := by
    rw [Compose.aborts, Error.isFatal_of_isOfStore h, Bool.or_false]
  rw [Compose.unread, soft]
  cases failFast with
  | true =>
    refine ⟨nofun, fun _ => iff_of_false ?_ ?_, ?_, failsForStore_error h⟩
    · rintro ⟨view, hview⟩
      cases hview
    · rintro ⟨⟨t, ht⟩, -⟩
      cases ht
    · rintro view hview
      cases hview
  | false =>
    refine ⟨fun _ => ⟨_, rfl⟩, nofun, ?_, failsForStore_ok _⟩
    rintro view hview
    obtain rfl := Except.ok.inj hview
    rw [Compose.emptyView, List.forall₂_map_left_iff, List.forall₂_map_right_iff, List.forall₂_same]
    exact fun entry _ => .nothing fun a r told => by cases told

section
variable {l : Loader} {profiles : List String} {plan : Plan} {now : Instant} {s : σ}

theorem run_load_of_refused (hplan : l.plan profiles = .ok plan) {e : Error}
    (refused : ((l.seat.token now).run store s).1.1.value = .error e) :
    ((l.load profiles now).run store s).1.1.value =
      Compose.unread l.config.failFast e plan.entries := by
  simp only [load, hplan, Seat.compose, Dialogue.run_map, Dialogue.run_bind, refused, Dialogue.run]

theorem trials_of_refused (entries : List Backend.Entry) {e : Error}
    (refused : ((l.seat.token now).run store s).1.1.value = .error e) :
    l.trials store s now entries = entries.map fun entry => (entry, .refused e) := by
  simp only [Loader.trials, refused]

theorem trials_of_granted (entries : List Backend.Entry) {begun : Instant} {t : Token} {seat : Seat}
    {requests : List Request} {s' : σ}
    (granted : (l.seat.token now).run store s = ((⟨begun, .ok t⟩, seat), requests, s')) :
    l.trials store s now entries = seat.trials store begun entries s' := by
  simp only [Loader.trials, granted]

/-- Whatever the store answers, a load comes to what is answered to its logins and reads. -/
theorem load_answered (hplan : l.plan profiles = .ok plan)
    (reaches : ∀ entry ∈ plan.entries, l.seat.client.Reaches entry.name) (ready : l.seat.Ready)
    (store : σ → Request → Arrival × σ) (s : σ) (now : Instant) :
    (l.trials store s now plan.entries).map (·.1) = plan.entries ∧
      LoadsBy l.config.failFast ((l.seat.token now).run store s).1.1.value
        (l.trials store s now plan.entries) ((l.load profiles now).run store s).1.1.value := by
  have token : (l.seat.token now).Ensures (Dialogue.answersOf store) fun r =>
      FailsForStore r.1.value ∧ l.seat.Readies r.2 := Seat.token_fails ready now
  obtain ⟨loginFails, readies⟩ := token.run s
  obtain ⟨⟨⟨begun, value⟩, seat⟩, requests, s', login⟩ :
      ∃ r requests s', (l.seat.token now).run store s = (r, requests, s') := ⟨_, _, _, rfl⟩
  rw [login] at loginFails readies
  cases value with
  | error e =>
    have refused : ((l.seat.token now).run store s).1.1.value = .error e := by rw [login]
    rw [trials_of_refused _ refused, run_load_of_refused hplan refused, refused]
    exact ⟨by rw [List.map_map]; exact List.map_id _, loadsBy_of_refused (loginFails e rfl) plan.entries⟩
  | ok t =>
    rw [trials_of_granted _ login, load_run hplan login, login]
    refine ⟨Seat.trials_entries begun plan.entries seat s', ?_⟩
    have reads : (seat.readAll begun plan.entries).Ensures (Dialogue.answersOf store) fun r =>
        ∀ read ∈ r.1, FailsForStore read.2.value :=
      Seat.readAll_fails readies.ready (readies.client ▸ reaches) begun
    exact loadsBy_of_meets (Compose.readsDone_meets _ begun _) (reads.run s')
      (Seat.run_readAll begun plan.entries seat s') t

end

end Loader

end

/-! ## A load from a store that fails in several ways -/

def certifiedOrders : Config := { orders with authentication := .cert }

/-- A store that grants logins and has credentials of the database, and nothing else that is of use. -/
def flakyStore (_ : Unit) (r : Request) : Arrival × Unit :=
  let outcome : Except NetworkFault Answer :=
    match r.url.render with
    | "http://127.0.0.1:8200/v1/auth/cert/login" =>
      .ok ⟨200, "\x7b\"auth\": \x7b\"client_token\": \"s.1\"\x7d\x7d"⟩
    | "http://127.0.0.1:8200/v1/mysql/creds/readonly" =>
      .ok ⟨200, "\x7b\"data\": \x7b\"username\": \"v-1\"\x7d\x7d"⟩
    | "http://127.0.0.1:8200/v1/secret/orders/dev" => .error (.timedOut r.url.render)
    | "http://127.0.0.1:8200/v1/secret/orders" => .ok ⟨503, ""⟩
    | "http://127.0.0.1:8200/v1/secret/application/dev" => .ok ⟨200, "sealed"⟩
    | _ => .ok ⟨204, ""⟩
  ({ outcome, instant := 0 }, ())

def hasAddress (c : Store.Client) (path : String) : Bool := (c.url path).toOption.isSome

theorem reaches_of_hasAddress {c : Store.Client} {path : String} (h : hasAddress c path = true) :
    c.Reaches path := by
  unfold hasAddress at h
  cases hurl : c.url path with
  | error e =>
    rw [hurl] at h
    cases h
  | ok url => exact ⟨url, hurl⟩

/-- Whether a loader logs in by certificate, at a path with an address. -/
def certifies (l : Loader) : Bool :=
  match l.seat.strategy with
  | .certificate path => hasAddress l.seat.client (Auth.Strategy.loginPath path)
  | _ => false

theorem ready_of_certifies {l : Loader} (h : certifies l = true) : l.seat.Ready := by
  unfold certifies at h
  unfold Seat.Ready
  split at h
  · rename_i path strategy
    rw [strategy]
    exact reaches_of_hasAddress h
  · cases h

/-- The credentials of the database are there, and the sources beside them are empty. -/
theorem load_of_flaky_store :
    ∃ l plan view, Loader.ofConfig certifiedOrders Backend.Factory.builtin bareMachine "" true = .ok l ∧
      l.plan ["dev"] = .ok plan ∧ (∀ entry ∈ plan.entries, l.seat.client.Reaches entry.name) ∧
      l.seat.Ready ∧ ((l.load ["dev"] 0).run flakyStore ()).1.1.value = .ok view ∧
      List.Forall₂ (fun x source => x.2.Contributes x.1 source)
        (l.trials flakyStore () 0 plan.entries) view.sources ∧
      view.sources.map (fun source => source.properties.toList) =
        [[], [], [], [], [("datasource.username", "v-1")]] := by
  have run : (Loader.ofConfig certifiedOrders Backend.Factory.builtin bareMachine "" true).toOption.any
      (fun l => certifies l && !l.config.failFast && (l.plan ["dev"]).toOption.any (fun plan =>
        plan.entries.all fun entry => hasAddress l.seat.client entry.name) &&
        ((l.load ["dev"] 0).run flakyStore ()).1.1.value.toOption.any fun view =>
          view.sources.map (fun source => source.properties.toList) =
            [[], [], [], [], [("datasource.username", "v-1")]]) = true := by decide +kernel
  obtain ⟨l, hl, run⟩ := exists_ok run
  simp only [Bool.and_eq_true, Bool.not_eq_true'] at run
  obtain ⟨⟨⟨certified, soft⟩, run⟩, shown⟩ := run
  obtain ⟨plan, hplan, run⟩ := exists_ok run
  obtain ⟨view, hview, shown⟩ := exists_ok shown
  have reaches : ∀ entry ∈ plan.entries, l.seat.client.Reaches entry.name :=
    fun entry hentry => reaches_of_hasAddress (List.all_eq_true.1 run entry hentry)
  have ready := ready_of_certifies certified
  obtain ⟨-, loads⟩ := Loader.load_answered hplan reaches ready flakyStore () 0
  exact ⟨l, plan, view, hl, hplan, reaches, ready, hview, loads.contributes view hview,
    of_decide_eq_true shown⟩

end SecretLayers
