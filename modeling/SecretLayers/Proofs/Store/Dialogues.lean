import SecretLayers.Loader
/-!
What dialogues end with. A dialogue ensures a property of its value against a store if it
has it after every way in which the store may answer; what runs of it end with follows. The
reads of a session end with what the store answers to requests for the paths of entries.
-/
namespace SecretLayers
set_option autoImplicit false

namespace Dialogue

section
variable {α β σ : Type} {store : σ → Request → Arrival × σ}

/-! ## Runs -/

theorem run_bind (d : Dialogue α) (f : α → Dialogue β) (s : σ) :
    ((d.bind f).run store s).1 = ((f (d.run store s).1).run store (d.run store s).2.2).1 := by
  induction d generalizing s with
  | done a => rfl
  | send r next ih => exact ih (store s r).1 (store s r).2

theorem run_map (f : α → β) (d : Dialogue α) (s : σ) :
    ((d.map f).run store s).1 = f (d.run store s).1 := run_bind d _ s

theorem requests_bind (d : Dialogue α) (f : α → Dialogue β) (s : σ) :
    ((d.bind f).run store s).2.1 =
      (d.run store s).2.1 ++ ((f (d.run store s).1).run store (d.run store s).2.2).2.1 := by
  induction d generalizing s with
  | done a => rfl
  | send r next ih => exact congrArg (r :: ·) (ih (store s r).1 (store s r).2)

theorem requests_map (f : α → β) (d : Dialogue α) (s : σ) :
    ((d.map f).run store s).2.1 = (d.run store s).2.1 :=
  (requests_bind d _ s).trans (List.append_nil _)

theorem state_bind (d : Dialogue α) (f : α → Dialogue β) (s : σ) :
    ((d.bind f).run store s).2.2 = ((f (d.run store s).1).run store (d.run store s).2.2).2.2 := by
  induction d generalizing s with
  | done a => rfl
  | send r next ih => exact ih (store s r).1 (store s r).2

theorem state_map (f : α → β) (d : Dialogue α) (s : σ) :
    ((d.map f).run store s).2.2 = (d.run store s).2.2 := state_bind d _ s

theorem value_timed (d : Dialogue α) (now : Instant) (s : σ) :
    ((d.timed now).run store s).1.value = (d.run store s).1 := by
  induction d generalizing now s with
  | done a => rfl
  | send r next ih => exact ih (store s r).1 _ (store s r).2

theorem requests_timed (d : Dialogue α) (now : Instant) (s : σ) :
    ((d.timed now).run store s).2.1 = (d.run store s).2.1 := by
  induction d generalizing now s with
  | done a => rfl
  | send r next ih => exact congrArg (r :: ·) (ih (store s r).1 _ (store s r).2)

theorem state_timed (d : Dialogue α) (now : Instant) (s : σ) :
    ((d.timed now).run store s).2.2 = (d.run store s).2.2 := by
  induction d generalizing now s with
  | done a => rfl
  | send r next ih => exact ih (store s r).1 _ (store s r).2

theorem map_map {γ : Type} (d : Dialogue α) (f : α → β) (g : β → γ) :
    (d.map f).map g = d.map fun a => g (f a) := bind_assoc d _ _

/-- The requests of a run, each with what came of it. -/
def exchanges (store : σ → Request → Arrival × σ) : Dialogue α → σ → List (Request × Arrival)
  | done _, _ => []
  | send r next, s => (r, (store s r).1) :: (next (store s r).1).exchanges store (store s r).2

theorem requests_exchanges (d : Dialogue α) (s : σ) :
    (d.exchanges store s).map (·.1) = (d.run store s).2.1 := by
  induction d generalizing s with
  | done a => rfl
  | send r next ih => exact congrArg (r :: ·) (ih (store s r).1 (store s r).2)

/-! ## What is ensured -/

/-- Whatever a store may answer, the value has a property in the end. -/
inductive Ensures (answers : Request → Arrival → Prop) (post : α → Prop) : Dialogue α → Prop
  | done {a : α} (holds : post a) : Ensures answers post (done a)
  | send {r : Request} {next : Arrival → Dialogue α}
      (onward : ∀ arrival, answers r arrival → Ensures answers post (next arrival)) :
      Ensures answers post (send r next)

/-- The answers that a store may give in any of its states. -/
def answersOf (store : σ → Request → Arrival × σ) (r : Request) (arrival : Arrival) : Prop :=
  ∃ s, (store s r).1 = arrival

variable {answers : Request → Arrival → Prop} {post : α → Prop} {d : Dialogue α}

theorem answersOf_exchanges (d : Dialogue α) (s : σ) :
    ∀ x ∈ d.exchanges store s, answersOf store x.1 x.2 := by
  induction d generalizing s with
  | done a => simp [exchanges]
  | send r next ih => exact List.forall_mem_cons.2 ⟨⟨s, rfl⟩, ih _ _⟩

theorem Ensures.run (h : d.Ensures (answersOf store) post) (s : σ) : post (d.run store s).1 := by
  induction h generalizing s with
  | done holds => exact holds
  | @send r next _ ih => exact ih (store s r).1 ⟨s, rfl⟩ (store s r).2

theorem Ensures.bind {post' : β → Prop} {f : α → Dialogue β} (h : d.Ensures answers post)
    (hf : ∀ a, post a → (f a).Ensures answers post') : (d.bind f).Ensures answers post' := by
  induction h with
  | done holds => exact hf _ holds
  | send _ ih => exact .send ih

theorem Ensures.map {post' : β → Prop} {f : α → β} (h : d.Ensures answers post)
    (hf : ∀ a, post a → post' (f a)) : (d.map f).Ensures answers post' :=
  h.bind fun a ha => .done (hf a ha)

theorem Ensures.timed (h : d.Ensures answers post) (now : Instant) :
    (d.timed now).Ensures answers fun r => post r.value := by
  induction h generalizing now with
  | done holds => exact .done holds
  | send _ ih => exact .send fun arrival answered => ih arrival answered _

theorem ensures_true (d : Dialogue α) : d.Ensures answers fun _ => True := by
  induction d with
  | done a => exact .done trivial
  | send r next ih => exact .send fun arrival _ => ih arrival

end

end Dialogue

/-! ## Reads -/

/-- A reading that a store may bring for an entry: what it answers to a request for the
address of the entry's path, taken as an answer for that path. -/
inductive Store.Client.Brings (answers : Request → Arrival → Prop) (c : Store.Client)
    (entry : Backend.Entry) (reading : Option Store.Reading) : Prop
  | intro {r : Request} {arrival : Arrival} {a : Answer} (verb : r.verb = .get)
      (url : c.url entry.name = .ok r.url) (answered : answers r arrival)
      (outcome : arrival.outcome = .ok a)
      (reads : Store.Client.readingOf entry.name a = .ok reading) : Brings answers c entry reading

section
variable {answers : Request → Arrival → Prop}

theorem Store.Client.read_brings (c : Store.Client) (entry : Backend.Entry) (t : Token) :
    (c.read entry.name t).Ensures answers fun result =>
      ∀ reading, result = .ok reading → c.Brings answers entry reading := by
  unfold Store.Client.read Store.Client.call
  cases hurl : c.url entry.name with
  | error e => exact .done fun reading h => by cases h
  | ok u =>
    simp only [Store.Client.exchange]
    split
    · exact .done fun reading h => by cases h
    · refine .send fun arrival answered => .done fun reading h => ?_
      cases houtcome : arrival.outcome with
      | error fault =>
        simp only [houtcome] at h
        cases h
      | ok a =>
        simp only [houtcome] at h
        exact .intro rfl hurl answered houtcome h

namespace Seat

/-- The session has the same client, and treats its tokens alike. -/
structure Keeps (s s' : Seat) : Prop where
  client : s'.client = s.client
  discipline : s'.discipline = s.discipline

theorem Keeps.trans {s s' s'' : Seat} (h : s.Keeps s') (h' : s'.Keeps s'') : s.Keeps s'' :=
  ⟨h'.client.trans h.client, h'.discipline.trans h.discipline⟩

theorem token_keeps (s : Seat) (now : Instant) : (s.token now).Ensures answers fun r => s.Keeps r.2 := by
  unfold token
  split
  · exact .done ⟨rfl, rfl⟩
  · exact (Dialogue.ensures_true _).map fun _ _ => ⟨rfl, rfl⟩

theorem read_keeps (s : Seat) (now : Instant) (entry : Backend.Entry) :
    (s.read now entry).Ensures answers fun r => s.Keeps r.2 := by
  refine (s.token_keeps now).bind fun (r, s') kept => ?_
  obtain ⟨begun, value⟩ := r
  cases value with
  | error e => exact .done kept
  | ok t => exact (Dialogue.ensures_true _).map fun _ _ => kept

theorem readAll_keeps (s : Seat) (now : Instant) (entries : List Backend.Entry) :
    (s.readAll now entries).Ensures answers fun r => s.Keeps r.2 := by
  induction entries generalizing s with
  | nil => exact .done ⟨rfl, rfl⟩
  | cons entry rest ih =>
    refine (s.read_keeps now entry).bind fun (r, s') kept => ?_
    exact (ih s').map fun _ keptOn => kept.trans keptOn

theorem compose_keeps (s : Seat) (failFast : Bool) (entries : List Backend.Entry) (now : Instant) :
    (s.compose failFast entries now).Ensures answers fun r => s.Keeps r.2 := by
  refine (s.token_keeps now).bind fun (r, s') kept => ?_
  obtain ⟨begun, value⟩ := r
  cases value with
  | error e => exact .done kept
  | ok t => exact (s'.readAll_keeps begun entries).map fun _ keptOn => kept.trans keptOn

/-- A reading of a session is one that the store brings for its client. -/
theorem read_brings (s : Seat) (now : Instant) (entry : Backend.Entry) :
    (s.read now entry).Ensures answers fun r => r.2.client = s.client ∧
      ∀ reading, r.1.value = .ok reading → s.client.Brings answers entry reading := by
  refine (s.token_keeps now).bind fun (r, s') ⟨hclient, _⟩ => ?_
  obtain ⟨begun, value⟩ := r
  cases value with
  | error e => exact .done ⟨hclient, fun reading h => by cases h⟩
  | ok t =>
    refine ((s'.client.read_brings entry t).timed begun).map fun r hbrings => ⟨hclient, ?_⟩
    rw [← hclient]
    exact hbrings

/-- Reading entries gives one result for each, in their order. -/
theorem readAll_brings (s : Seat) (now : Instant) (entries : List Backend.Entry) :
    (s.readAll now entries).Ensures answers fun r => r.1.map (·.1) = entries ∧
      ∀ read ∈ r.1, ∀ reading, read.2.value = .ok reading →
        s.client.Brings answers read.1 reading := by
  induction entries generalizing s with
  | nil => exact .done ⟨rfl, fun read h => by cases h⟩
  | cons entry rest ih =>
    refine (s.read_brings now entry).bind fun (r, s') ⟨hclient, hbrings⟩ => ?_
    refine (ih s').map fun (rs, s'') ⟨hentries, hrest⟩ => ⟨?_, ?_⟩
    · rw [List.map_cons, hentries]
    · intro read hread reading hvalue
      rcases List.mem_cons.1 hread with rfl | hread
      · exact hbrings reading hvalue
      · rw [← hclient]
        exact hrest read hread reading hvalue

end Seat

end

end SecretLayers
