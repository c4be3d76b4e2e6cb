import SecretLayers.Proofs.Backend.Order
import SecretLayers.Proofs.Properties.Joining
import SecretLayers.Proofs.Properties.Lookup
import SecretLayers.Proofs.Store.Dialogues
/-!
Precedence of a whole load. A load that may log in and read every entry of its plan makes a
view of the entries in their order, and every key has the value and the origin of the first
entry whose data supply it.
-/
namespace SecretLayers
set_option autoImplicit false

/-! ## What is planned -/

/-- The entries that a loader plans for some profiles: the generic ones by context, whose
keys are kept, then those of the credential backends in order. -/
structure Loader.Plans (l : Loader) (profiles : List String)
    (generic backends : List Backend.Entry) : Prop where
  names : generic.map (·.name) =
    if l.config.generic.enabled then
      (l.contexts profiles).map fun context =>
        Text.trimSlashes l.config.generic.backend ++ "/" ++ context
    else []
  kept : ∀ entry ∈ generic, entry.transform = .noop
  ordering : ∃ built : List Backend.Entry,
    built.map .ok = l.config.backends.filterMap (Backend.built? l.factories) ∧
      Backend.IsOrdering built backends

theorem Config.Generic.entries_names (g : Config.Generic) (profiles : List String) :
    (g.entries profiles).map (·.name) =
      if g.enabled then
        (g.contexts profiles).map fun context => Text.trimSlashes g.backend ++ "/" ++ context
      else [] := by
  unfold Config.Generic.entries
  split
  · rw [List.map_map]
    rfl
  · rfl

theorem Config.Generic.entries_kept (g : Config.Generic) (profiles : List String) :
    ∀ entry ∈ g.entries profiles, entry.transform = .noop := by
  intro entry hentry
  unfold Config.Generic.entries at hentry
  split at hentry
  · obtain ⟨context, -, rfl⟩ := List.mem_map.1 hentry
    rfl
  · cases hentry

theorem Loader.plan_plans {l : Loader} {profiles : List String} {plan : Plan}
    (h : l.plan profiles = .ok plan) :
    ∃ generic backends, plan.entries = generic ++ backends ∧ l.Plans profiles generic backends := by
  unfold Loader.plan Plan.ofConfig at h
  cases hresolve : Backend.resolve l.factories l.config.backends with
  | error e =>
    rw [hresolve] at h
    cases h
  | ok resolution =>
    rw [hresolve] at h
    obtain rfl := Except.ok.inj h
    refine ⟨_, _, rfl, ?_, ?_, ?_⟩
    · exact l.config.generic.entries_names profiles
    · exact l.config.generic.entries_kept profiles
    · exact ⟨resolution.entries, Backend.resolve_entries hresolve,
        Backend.mergeSort_isOrdering resolution.entries⟩

/-! ## What is supplied -/

/-- The properties that a reading of an entry supplies. -/
def Backend.Entry.supplied (entry : Backend.Entry) (reading : Option Store.Reading) : Properties :=
  match reading with
  | some r => entry.transform.apply (Properties.flatten r.data)
  | none => ∅

/-- The first of readings that supplies a key, and the value that it supplies. -/
inductive FirstSupply (readings : List (Backend.Entry × Option Store.Reading)) (key : String) :
    Option (Backend.Entry × String) → Prop
  | found {before after : List (Backend.Entry × Option Store.Reading)} {entry : Backend.Entry}
      {reading : Option Store.Reading} {value : String}
      (split : readings = before ++ (entry, reading) :: after)
      (others : ∀ x ∈ before, (x.1.supplied x.2)[key]? = none)
      (supplies : (entry.supplied reading)[key]? = some value) :
      FirstSupply readings key (some (entry, value))
  | none (others : ∀ x ∈ readings, (x.1.supplied x.2)[key]? = none) : FirstSupply readings key none

theorem exists_firstSupply (readings : List (Backend.Entry × Option Store.Reading)) (key : String) :
    ∃ first, FirstSupply readings key first := by
  induction readings with
  | nil => exact ⟨none, .none fun x h => by cases h⟩
  | cons x readings ih =>
    obtain ⟨entry, reading⟩ := x
    cases hx : (entry.supplied reading)[key]? with
    | some value =>
      exact ⟨some (entry, value), .found (List.nil_append _).symm (fun y h => by cases h) hx⟩
    | none =>
      obtain ⟨first, hfirst⟩ := ih
      cases hfirst with
      | @found before after entry' reading' value split others supplies =>
        have hsplit : (entry, reading) :: readings =
            ((entry, reading) :: before) ++ (entry', reading') :: after := by
          rw [split, List.cons_append]
        exact ⟨some (entry', value), .found hsplit (List.forall_mem_cons.2 ⟨hx, others⟩) supplies⟩
      | none others => exact ⟨none, .none (List.forall_mem_cons.2 ⟨hx, others⟩)⟩

/-- What is found where every read brought data or nothing. -/
def brought (reads : Compose.Ended) : List (Backend.Entry × Option Store.Reading) :=
  reads.map fun read => (read.1, read.2.value.toOption.join)

theorem expected_get? (entry : Backend.Entry) (read : Timed (Except Error (Option Store.Reading)))
    (key : String) :
    (Compose.expected entry read).get? key = (entry.supplied read.value.toOption.join)[key]? := by
  obtain ⟨t, value⟩ := read
  rcases value with e | _ | r
  · rfl
  · rfl
  · rfl

/-- The lookups of a view are those of the first supply among the readings. -/
theorem lookup_of_firstSupply {view : View} {key : String} {reads : Compose.Ended}
    {first : Option (Backend.Entry × String)}
    (hview : view.sources = reads.map fun read => Compose.expected read.1 read.2)
    (h : FirstSupply (brought reads) key first) :
    view.get? key = first.map (·.2) ∧ view.origin? key = first.map (·.1.name) ∧
      view.merged[key]? = first.map (·.2) := by
  cases h with
  | @found before after entry reading value split others supplies =>
    obtain ⟨reads₁, rest, rfl, rfl, hrest⟩ := List.map_eq_append_iff.1 split
    obtain ⟨read, reads₂, rfl, hread, rfl⟩ := List.map_eq_cons_iff.1 hrest
    obtain ⟨rfl, rfl⟩ := Prod.mk.inj hread
    rw [List.map_append, List.map_cons] at hview
    have hbefore : ∀ source ∈ reads₁.map (fun read => Compose.expected read.1 read.2),
        source.get? key = none := by
      intro source hsource
      obtain ⟨x, hx, rfl⟩ := List.mem_map.1 hsource
      rw [expected_get?]
      exact others _ (List.mem_map_of_mem hx)
    have hsupplies : (Compose.expected read.1 read.2).get? key = some value := by
      rw [expected_get?]
      exact supplies
    have hlookup := View.lookup_of_first hview hbefore hsupplies
    rw [Compose.expected_name] at hlookup
    exact hlookup
  | none others =>
    refine View.lookup_of_none fun source hsource => ?_
    rw [hview] at hsource
    obtain ⟨x, hx, rfl⟩ := List.mem_map.1 hsource
    rw [expected_get?]
    exact others _ (List.mem_map_of_mem hx)

/-! ## Loads -/

section
variable {σ : Type} {store : σ → Request → Arrival × σ} {l : Loader} {profiles : List String}
  {plan : Plan} {now begun : Instant} {s s' : σ} {requests : List Request} {t : Token} {seat : Seat}

/-- After its login a load is the composition of the reads that are made then. -/
theorem load_run (hplan : l.plan profiles = .ok plan)
    (hlogin : (l.seat.token now).run store s = ((⟨begun, .ok t⟩, seat), requests, s')) :
    ((l.load profiles now).run store s).1.1 =
      Compose.readsDone l.config.failFast begun
        ((seat.readAll begun plan.entries).run store s').1.1 := by
  have hcompose : ((l.seat.compose l.config.failFast plan.entries now).run store s).1.1 =
      Compose.readsDone l.config.failFast begun
        ((seat.readAll begun plan.entries).run store s').1.1 := by
    unfold Seat.compose
    rw [Dialogue.run_bind, hlogin]
    simp only [Dialogue.run_map]
  simp only [Loader.load, hplan, Dialogue.run_map, hcompose]

/-- The client of a session stays through a login. -/
theorem login_client
    (hlogin : (l.seat.token now).run store s = ((⟨begun, .ok t⟩, seat), requests, s')) :
    seat.client = l.seat.client := by
  have ensured : (l.seat.token now).Ensures (Dialogue.answersOf store) fun r =>
      l.seat.Keeps r.2 := l.seat.token_keeps now
  have kept := ensured.run s
  rw [hlogin] at kept
  exact kept.client

/-- A load whose login succeeds and whose reads all bring data or nothing makes a view with
one source for each planned entry, in order. Each reading is what the store answers for its
entry. The value and the origin of a key, and its place among the merged properties, are
those of the first entry that supplies it. -/
theorem load_precedence (hplan : l.plan profiles = .ok plan)
    (hlogin : (l.seat.token now).run store s = ((⟨begun, .ok t⟩, seat), requests, s'))
    (hreads : ∀ read ∈ ((seat.readAll begun plan.entries).run store s').1.1,
      ∃ reading, read.2.value = .ok reading) :
    ∃ view generic backends readings,
      ((l.load profiles now).run store s).1.1.value = .ok view ∧
      l.Plans profiles generic backends ∧
      readings.map (·.1) = generic ++ backends ∧
      (∀ x ∈ readings, l.seat.client.Brings (Dialogue.answersOf store) x.1 x.2) ∧
      view.sources.map (·.name) = (generic ++ backends).map (·.name) ∧
      ∀ key, ∃ first, FirstSupply readings key first ∧
        view.get? key = first.map (·.2) ∧ view.origin? key = first.map (·.1.name) ∧
        view.merged[key]? = first.map (·.2) := by
  obtain ⟨generic, backends, hentries, plans⟩ := Loader.plan_plans hplan
  have ensured : (seat.readAll begun plan.entries).Ensures (Dialogue.answersOf store) fun r =>
      r.1.map (·.1) = plan.entries ∧ ∀ read ∈ r.1, ∀ reading, read.2.value = .ok reading →
        seat.client.Brings (Dialogue.answersOf store) read.1 reading :=
    seat.readAll_brings begun plan.entries
  obtain ⟨hnames, hbrings⟩ := ensured.run s'
  have meets := Compose.readsDone_meets l.config.failFast begun
    ((seat.readAll begun plan.entries).run store s').1.1
  rw [← load_run hplan hlogin] at meets
  -- Only what came of the reads counts from here on, not how they were made.
  generalize ((seat.readAll begun plan.entries).run store s').1.1 = reads at *
  obtain ⟨view, hview⟩ := meets.ok_iff.2 fun read hread e hvalue => by
    obtain ⟨reading, hreading⟩ := hreads read hread
    rw [hreading] at hvalue
    cases hvalue
  rw [hview] at meets
  refine ⟨view, generic, backends, brought reads, hview, plans, ?_, ?_, ?_, ?_⟩
  · rw [← hentries, ← hnames, brought, List.map_map]
    rfl
  · intro x hx
    obtain ⟨read, hread, rfl⟩ := List.mem_map.1 hx
    obtain ⟨reading, hreading⟩ := hreads read hread
    have hbrought := hbrings read hread reading hreading
    rw [login_client hlogin] at hbrought
    simp only [hreading, Except.toOption, Option.join_some]
    exact hbrought
  · rw [meets.names, hnames, hentries]
  · intro key
    obtain ⟨first, hfirst⟩ := exists_firstSupply (brought reads) key
    exact ⟨first, hfirst, lookup_of_firstSupply (meets.sources view rfl) hfirst⟩

end

/-! ## A load of an application -/

theorem exists_ok {ε α : Type} {x : Except ε α} {p : α → Bool} (h : x.toOption.any p = true) :
    ∃ a, x = .ok a ∧ p a = true := by
  cases x with
  | error e => cases h
  | ok a => exact ⟨a, rfl, h⟩

/-- An application with credentials of a database. -/
def orders : Config where
  token := some ⟨"s.static"⟩
  generic := { applicationName := "orders" }
  backends := [(Backend.Descriptor.ofKind "mysql").withRole "readonly", .ofKind "ldap"]
  lifecycle := { enabled := false }

/-- A store that has the credentials of the database, and a user that is set for the application. -/
def credentialStore (_ : Unit) (r : Request) : Arrival × Unit :=
  let answer : Answer :=
    if r.url.render = "http://127.0.0.1:8200/v1/mysql/creds/readonly" then
      ⟨200, "\x7b\"data\": \x7b\"username\": \"v-1\", \"password\": \"p-1\"\x7d\x7d"⟩
    else if r.url.render = "http://127.0.0.1:8200/v1/secret/orders" then
      ⟨200, "\x7b\"data\": \x7b\"datasource.username\": \"fixed\"\x7d\x7d"⟩
    else ⟨404, ""⟩
  ({ outcome := .ok answer, instant := 0 }, ())

def bareMachine : Auth.Machine where
  files := (FileTree.ofPairs []).files ""
  hostAddress := ""

/-- Whether a loader can log in and read all that it plans. -/
def readsAll (l : Loader) (profiles : List String) : Bool :=
  (l.plan profiles).toOption.any fun plan =>
    let ((r, seat), _, s) := (l.seat.token 0).run credentialStore ()
    r.value.toOption.isSome &&
      ((seat.readAll r.instant plan.entries).run credentialStore s).1.1.all
        fun read => read.2.value.toOption.isSome

/-- Whether a load gives keys these values, each from this source. -/
def looksUp (l : Loader) (profiles : List String) (found : List (String × String × String)) : Bool :=
  ((l.load profiles 0).run credentialStore ()).1.1.value.toOption.any fun view =>
    found.all fun (key, value, source) => view.get? key == some value && view.origin? key == some source

/-- The user that is set for the application comes before the one of the credentials. -/
theorem load_of_orders :
    ∃ l, Loader.ofConfig orders Backend.Factory.builtin bareMachine "nonce" true = .ok l ∧
      ∃ view generic backends,
        ((l.load ["dev"] 0).run credentialStore ()).1.1.value = .ok view ∧
        l.Plans ["dev"] generic backends ∧
        view.sources.map (·.name) = (generic ++ backends).map (·.name) ∧
        view.get? "datasource.username" = some "fixed" ∧
        view.origin? "datasource.username" = some "secret/orders" ∧
        view.merged["datasource.username"]? = some "fixed" ∧
        view.get? "datasource.password" = some "p-1" ∧
        view.origin? "datasource.password" = some "mysql/creds/readonly" ∧
        view.merged["datasource.password"]? = some "p-1" := by
  have hruns : (Loader.ofConfig orders Backend.Factory.builtin bareMachine "nonce" true).toOption.any
      (fun l => readsAll l ["dev"] && looksUp l ["dev"] [("datasource.username", "fixed", "secret/orders"),
        ("datasource.password", "p-1", "mysql/creds/readonly")]) = true := by decide +kernel
  obtain ⟨l, hl, hruns⟩ := exists_ok hruns
  rw [Bool.and_eq_true] at hruns
  obtain ⟨hreads, hlookups⟩ := hruns
  obtain ⟨plan, hplan, hreads⟩ := exists_ok hreads
  obtain ⟨⟨⟨begun, value⟩, seat⟩, requests, s, hlogin⟩ :
      ∃ r requests s, (l.seat.token 0).run credentialStore () = (r, requests, s) := ⟨_, _, _, rfl⟩
  simp only [hlogin, Bool.and_eq_true, List.all_eq_true] at hreads
  obtain ⟨hvalue, hreads⟩ := hreads
  cases value with
  | error e => cases hvalue
  | ok t =>
    have hbrought : ∀ read ∈ ((seat.readAll begun plan.entries).run credentialStore s).1.1,
        ∃ reading, read.2.value = .ok reading := by
      intro read hread
      have hsome := hreads read hread
      cases hread : read.2.value with
      | error e =>
        rw [hread] at hsome
        cases hsome
      | ok reading => exact ⟨reading, rfl⟩
    obtain ⟨view, generic, backends, readings, hview, plans, -, -, hnames, hkeys⟩ :=
      load_precedence hplan hlogin hbrought
    obtain ⟨view', hview', hfound⟩ := exists_ok hlookups
    obtain rfl : view' = view := Except.ok.inj (hview'.symm.trans hview)
    simp only [List.all_cons, List.all_nil, Bool.and_true, Bool.and_eq_true, beq_iff_eq] at hfound
    obtain ⟨⟨huser, huser_from⟩, hpassword, hpassword_from⟩ := hfound
    have hmerged (key : String) : view'.merged[key]? = view'.get? key := by
      obtain ⟨first, -, hget, -, hmerged⟩ := hkeys key
      rw [hget, hmerged]
    exact ⟨l, hl, view', generic, backends, hview, plans, hnames, huser, huser_from, (hmerged _).trans huser,
      hpassword, hpassword_from, (hmerged _).trans hpassword⟩

end SecretLayers
