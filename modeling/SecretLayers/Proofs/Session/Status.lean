import SecretLayers.Proofs.Session.SingleFlight
/-!
The status of a session, and what a renewal check does by it. A session is authenticated, then
expiring, then unauthenticated while nothing but time passes. A check looks at the lease alone, and
not at whether that is over: it keeps to the status just where the token it finds has not expired.
-/
namespace SecretLayers
set_option autoImplicit false

/-! ## Tokens as time passes -/

namespace Token
variable {t : Token} {o : RenewalOptions} {now later : Instant}

theorem isExpired_eq_true_iff :
    t.isExpired now = true ↔ t.expires = true ∧ t.lease.remaining now = 0 := by
  unfold isExpired remaining?
  split
  · rename_i expires
    rw [Option.any_some, decide_eq_true_eq]
    exact ⟨fun h => ⟨expires, h⟩, fun h => h.2⟩
  · rename_i unending
    rw [Option.any_none]
    exact ⟨nofun, fun h => absurd h.1 unending⟩

theorem isExpired_later (h : t.isExpired now = true) (le : now ≤ later) :
    t.isExpired later = true := by
  obtain ⟨expires, nothing⟩ := isExpired_eq_true_iff.1 h
  have hle := t.lease.remaining_antitone le
  rw [nothing] at hle
  exact isExpired_eq_true_iff.2 ⟨expires, Nat.le_zero.1 hle⟩

theorem expires_of_isExpiring? (h : t.isExpiring? o now = some true) : t.expires = true := by
  unfold isExpiring? at h
  split at h
  · assumption
  · cases h

theorem isExpiring?_later (h : t.isExpiring? o now = some true) (le : now ≤ later) :
    t.isExpiring? o later = some true := by
  have expires := expires_of_isExpiring? h
  rw [isExpiring?, if_pos expires] at h ⊢
  exact RenewalOptions.isExpiring?_later h le

theorem isSome_isExpiring? (defined : (Span.scaled? o.threshold t.lease.seconds).isSome)
    (now : Instant) : ∃ expiring, t.isExpiring? o now = some expiring := by
  obtain ⟨limit, hlimit⟩ := Option.isSome_iff_exists.1 defined
  unfold isExpiring? RenewalOptions.isExpiring?
  split
  · exact ⟨_, by rw [hlimit, Option.map_some]⟩
  · exact ⟨false, rfl⟩

theorem isExpiring?_of_isExpired (defined : (Span.scaled? o.threshold t.lease.seconds).isSome)
    (h : t.isExpired now = true) : t.isExpiring? o now = some true := by
  obtain ⟨limit, hlimit⟩ := Option.isSome_iff_exists.1 defined
  obtain ⟨expires, nothing⟩ := isExpired_eq_true_iff.1 h
  rw [isExpiring?, if_pos expires, RenewalOptions.isExpiring?, hlimit, Option.map_some, nothing]
  simp

end Token

namespace Session

/-! ## What is decided -/

namespace Discipline
variable {o : RenewalOptions} {held : Option Token} {t : Token} {now : Instant}

theorem decide?_eq_renew_iff :
    (renewing o).decide? held now = some (.renew t) ↔
      held = some t ∧ t.isExpiring? o now = some true ∧ t.renewable = true := by
  constructor
  · intro h
    obtain rfl := decide?_renew h
    simp only [decide?, Option.map_eq_some_iff] at h
    obtain ⟨expiring, hexpiring, h⟩ := h
    cases expiring with
    | false => cases h
    | true =>
      refine ⟨rfl, hexpiring, ?_⟩
      cases hrenewable : t.renewable with
      | false => simp [hrenewable] at h
      | true => rfl
  · rintro ⟨rfl, expiring, renewable⟩
    simp [decide?, expiring, renewable]

theorem status?_eq_unauthenticated_iff :
    (renewing o).status? held now = some .unauthenticated ↔
      ∀ t, held = some t → t.isExpired now = true := by
  cases held with
  | none => simp [status?]
  | some t =>
    cases hexpired : t.isExpired now with
    | true => simp [status?, hexpired]
    | false =>
      simp only [status?, hexpired, Bool.false_eq_true, if_false, Option.map_eq_some_iff,
        Option.some.injEq, forall_eq', iff_false]
      rintro ⟨_ | _, -, h⟩ <;> cases h

theorem usable?_eq_none_iff :
    (renewing o).usable? held now = none ↔
      (renewing o).status? held now = some .unauthenticated := by
  rw [status?_eq_unauthenticated_iff]
  cases held with
  | none => simp [usable?]
  | some t => simp [usable?, Option.filter]

end Discipline

/-! ## The order of statuses -/

/-- How far a status is from the beginning of a lease. -/
def Status.rank : Status → Nat
  | .authenticated => 0
  | .expiring => 1
  | .unauthenticated => 2

theorem Status.rank_le (s : Status) : s.rank ≤ Status.unauthenticated.rank := by
  cases s <;> decide

/-- While nothing but time passes, the status is defined and never goes back. -/
theorem Discipline.status?_advances {o : RenewalOptions} {held : Option Token} {now later : Instant}
    (defined : ∀ t, held = some t → (Span.scaled? o.threshold t.lease.seconds).isSome)
    (le : now ≤ later) :
    ∃ x y, (renewing o).status? held now = some x ∧ (renewing o).status? held later = some y ∧
      x.rank ≤ y.rank := by
  cases held with
  | none => exact ⟨_, _, rfl, rfl, Nat.le_refl _⟩
  | some t =>
    obtain ⟨a, ha⟩ := Token.isSome_isExpiring? (defined t rfl) now
    obtain ⟨b, hb⟩ := Token.isSome_isExpiring? (defined t rfl) later
    cases hlater : t.isExpired later with
    | true =>
      obtain ⟨x, hx⟩ : ∃ x, (renewing o).status? (some t) now = some x := by
        simp only [status?, ha, Option.map_some]
        split
        · exact ⟨_, rfl⟩
        · exact ⟨_, rfl⟩
      exact ⟨x, .unauthenticated, hx, by simp [status?, hlater], x.rank_le⟩
    | false =>
      have hnow : t.isExpired now = false := by
        by_contra expired
        rw [Token.isExpired_later (Bool.not_eq_false _ ▸ expired) le] at hlater
        cases hlater
      refine ⟨if a then .expiring else .authenticated, if b then .expiring else .authenticated,
        by simp [status?, hnow, ha], by simp [status?, hlater, hb], ?_⟩
      cases a with
      | false => cases b <;> decide
      | true =>
        obtain rfl := Option.some.inj (hb.symm.trans (Token.isExpiring?_later ha le))
        exact Nat.le_refl _

/-! ## What a check does -/

section
variable {o : RenewalOptions} {s : Session} {now : Instant} {t : Token}

theorem serve_check (s : Session) (now : Instant) (c : Option Nat) :
    s.serve now (c.elim .poll .check) = s.serveCheck now c := by
  cases c <;> rfl

theorem called_notMem_conclude (s : Session) (c : Option Nat) (outcome : Outcome) (call : Call) :
    .called call ∉ (s.conclude c outcome).2 := by
  cases c <;> simp [conclude]

theorem serveCheck_renews (discipline : s.discipline = .renewing o) (held : s.held = some t)
    (expiring : t.isExpiring? o now = some true) (renewable : t.renewable = true) (c : Option Nat) :
    s.serveCheck now c = ({ s with flight := some (.renewal c t) }, [.called (.renew t)]) := by
  simp [serveCheck, discipline, held, Discipline.decide?, expiring, renewable]

theorem serveCheck_drops (discipline : s.discipline = .renewing o) (held : s.held = some t)
    (expiring : t.isExpiring? o now = some true) (fixed : t.renewable = false) (c : Option Nat) :
    s.serveCheck now c = { s with held := none }.conclude c .dropped := by
  simp [serveCheck, discipline, held, Discipline.decide?, expiring, fixed]

theorem serveCheck_idle (discipline : s.discipline = .renewing o)
    (left : ∀ t, s.held = some t → t.isExpiring? o now = some false) (c : Option Nat) :
    s.serveCheck now c = s.conclude c .idle := by
  cases held : s.held with
  | none => simp [serveCheck, discipline, held, Discipline.decide?]
  | some t => simp [serveCheck, discipline, held, Discipline.decide?, left t held]

end

def status? (s : Session) (now : Instant) : Option Status := s.discipline.status? s.held now

namespace Move

/-- A check that leaves all as it is and tells so. -/
def Rests (m : Move) (c : Option Nat) : Prop :=
  ∃ rest, m.before.queue = c.elim .poll .check :: rest ∧
    (m.after, m.seen) = (m.before.withQueue rest).conclude c .idle

/-- A check that keeps to the status: only a token that is expiring is renewed or dropped, and
for any other status nothing is done. -/
structure KeepsToStatus (m : Move) (c : Option Nat) : Prop where
  acts : (∃ t, .called (.renew t) ∈ m.seen) ∨ m.empties →
    m.before.status? m.now = some .expiring
  rests : m.before.status? m.now = some .unauthenticated ∨
    m.before.status? m.now = some .authenticated → m.Rests c

section
variable {o : RenewalOptions} {m : Move} {c : Option Nat} {t : Token}

theorem Rests.idle (h : m.Rests c) : m.after.held = m.before.held ∧ ∀ t, .called (.renew t) ∉ m.seen := by
  obtain ⟨rest, -, hrest⟩ := h
  have hafter : m.after = ((m.before.withQueue rest).conclude c .idle).1 := congrArg Prod.fst hrest
  have hseen : m.seen = ((m.before.withQueue rest).conclude c .idle).2 := congrArg Prod.snd hrest
  rw [hafter, hseen, conclude_held]
  refine ⟨rfl, fun t ht => ?_⟩
  have aside := isAside_conclude _ c _ _ ht
  cases aside

theorem Rests.keepsToStatus (h : m.Rests c) : m.KeepsToStatus c where
  acts := by
    rintro (⟨t, ht⟩ | ⟨isSome, emptied⟩)
    · exact absurd ht (h.idle.2 t)
    · rw [h.idle.1] at emptied
      rw [emptied] at isSome
      cases isSome
  rests _ := h

/-- What a check does with the token that it finds. -/
inductive Checks (m : Move) (o : RenewalOptions) (c : Option Nat) (t : Token) : Prop
  | rests (left : t.isExpiring? o m.now = some false) (rests : m.Rests c)
  | renews (expiring : t.isExpiring? o m.now = some true) (renewable : t.renewable = true)
      (held : m.after.held = some t) (seen : m.seen = [.called (.renew t)])
  | drops (expiring : t.isExpiring? o m.now = some true) (fixed : t.renewable = false)
      (held : m.after.held = none) (uncalled : ∀ call, .called call ∉ m.seen)

theorem Serves.rests (served : m.Serves (c.elim .poll .check))
    (step : m.before.step? m.now m.event = some (m.after, m.seen))
    (discipline : m.before.discipline = .renewing o)
    (left : ∀ t, m.before.held = some t → t.isExpiring? o m.now = some false) : m.Rests c := by
  obtain ⟨rest, queue, hserve⟩ := served.serve_eq step
  rw [serve_check, serveCheck_idle (s := m.before.withQueue rest) discipline left c] at hserve
  exact ⟨rest, queue, hserve.symm⟩

theorem Serves.checks (served : m.Serves (c.elim .poll .check))
    (step : m.before.step? m.now m.event = some (m.after, m.seen))
    (discipline : m.before.discipline = .renewing o) (held : m.before.held = some t)
    {expiring : Bool} (hexpiring : t.isExpiring? o m.now = some expiring) : m.Checks o c t := by
  cases expiring with
  | false =>
    refine .rests hexpiring (served.rests step discipline fun u hu => ?_)
    obtain rfl := Option.some.inj (held.symm.trans hu)
    exact hexpiring
  | true =>
    obtain ⟨rest, queue, hserve⟩ := served.serve_eq step
    rw [serve_check] at hserve
    cases hrenewable : t.renewable with
    | true =>
      rw [serveCheck_renews (s := m.before.withQueue rest) discipline held hexpiring hrenewable c]
        at hserve
      obtain ⟨hafter, hseen⟩ := Prod.mk.inj hserve
      exact .renews hexpiring hrenewable (hafter ▸ held) hseen.symm
    | false =>
      rw [serveCheck_drops (s := m.before.withQueue rest) discipline held hexpiring hrenewable c]
        at hserve
      have hafter : _ = m.after := congrArg Prod.fst hserve
      have hseen : _ = m.seen := congrArg Prod.snd hserve
      refine .drops hexpiring hrenewable (by rw [← hafter, conclude_held]) fun call hcall => ?_
      rw [← hseen] at hcall
      exact called_notMem_conclude _ c _ call hcall

theorem Checks.of_isExpired (h : m.Checks o c t) (expired : t.isExpired m.now = true)
    (defined : (Span.scaled? o.threshold t.lease.seconds).isSome) :
    t.renewable = true ∧ m.seen = [.called (.renew t)] ∨
      t.renewable = false ∧ m.after.held = none := by
  cases h with
  | rests left rests =>
    rw [Token.isExpiring?_of_isExpired defined expired] at left
    cases left
  | renews expiring renewable held seen => exact .inl ⟨renewable, seen⟩
  | drops expiring fixed held uncalled => exact .inr ⟨fixed, held⟩

theorem Checks.not_keepsToStatus (h : m.Checks o c t) (discipline : m.before.discipline = .renewing o)
    (held : m.before.held = some t) (expired : t.isExpired m.now = true)
    (defined : (Span.scaled? o.threshold t.lease.seconds).isSome) : ¬ m.KeepsToStatus c := by
  intro keeps
  have status : m.before.status? m.now = some .unauthenticated := by
    rw [Session.status?, discipline, Discipline.status?_eq_unauthenticated_iff, held]
    rintro u ⟨⟩
    exact expired
  obtain ⟨kept, unasked⟩ := (keeps.rests (.inl status)).idle
  rcases h.of_isExpired expired defined with ⟨-, seen⟩ | ⟨-, emptied⟩
  · exact unasked t (by rw [seen]; exact List.mem_singleton_self _)
  · rw [emptied, held] at kept
    cases kept

theorem Checks.keepsToStatus (h : m.Checks o c t) (discipline : m.before.discipline = .renewing o)
    (held : m.before.held = some t) (lasting : t.isExpired m.now = false) : m.KeepsToStatus c := by
  have acting (expiring : t.isExpiring? o m.now = some true) : m.KeepsToStatus c := by
    have status : m.before.status? m.now = some .expiring := by
      simp [Session.status?, discipline, held, Discipline.status?, lasting, expiring]
    refine ⟨fun _ => status, fun other => ?_⟩
    rw [status] at other
    rcases other with other | other <;> cases other
  cases h with
  | rests left rests => exact rests.keepsToStatus
  | renews expiring => exact acting expiring
  | drops expiring => exact acting expiring

/-- A check keeps to the status just where it finds no token that has expired. -/
theorem Serves.keepsToStatus_iff (served : m.Serves (c.elim .poll .check))
    (step : m.before.step? m.now m.event = some (m.after, m.seen))
    (discipline : m.before.discipline = .renewing o)
    (defined : ∀ t, m.before.held = some t → (Span.scaled? o.threshold t.lease.seconds).isSome) :
    m.KeepsToStatus c ↔ ¬ m.before.isExpired m.now := by
  cases held : m.before.held with
  | none =>
    have rests : m.Rests c :=
      served.rests step discipline fun t ht => by cases held.symm.trans ht
    refine ⟨fun _ => ?_, fun _ => rests.keepsToStatus⟩
    rintro ⟨_, t, _, ht, _⟩
    cases held.symm.trans ht
  | some t =>
    obtain ⟨expiring, hexpiring⟩ := Token.isSome_isExpiring? (defined t held) m.now
    have checks := served.checks step discipline held hexpiring
    constructor
    · rintro keeps ⟨_, u, _, hu, expired⟩
      obtain rfl := Option.some.inj (held.symm.trans hu)
      exact checks.not_keepsToStatus discipline held expired (defined t held) keeps
    · intro fresh
      refine checks.keepsToStatus discipline held ?_
      rw [Bool.eq_false_iff]
      exact fun expired => fresh ⟨o, t, discipline, held, expired⟩

end

end Move

/-! ## The whole -/

/-- Where expiry is defined, a renewal check keeps to the status of its session exactly where it
does not find a token that has expired: such a token it renews if it can, and drops otherwise. The
status itself goes from authenticated over expiring to unauthenticated while only time passes. -/
theorem checks_keep_to_status_iff (o : RenewalOptions) {ms : List Move} {s : Session}
    (h : History (start (.renewing o)) ms s) :
    (∀ m ∈ ms, ∀ c : Option Nat, m.Serves (c.elim .poll .check) →
      (∀ t, m.before.held = some t → (Span.scaled? o.threshold t.lease.seconds).isSome) →
      (m.KeepsToStatus c ↔ ¬ m.before.isExpired m.now) ∧
        ∀ t, m.before.held = some t → t.isExpired m.now = true →
          t.renewable = true ∧ m.seen = [.called (.renew t)] ∨
            t.renewable = false ∧ m.after.held = none) ∧
    ∀ (held : Option Token) (now later : Instant), now ≤ later →
      (∀ t, held = some t → (Span.scaled? o.threshold t.lease.seconds).isSome) →
      ∃ x y, (Discipline.renewing o).status? held now = some x ∧
        (Discipline.renewing o).status? held later = some y ∧ x.rank ≤ y.rank := by
  refine ⟨fun m hm c served defined => ?_, fun held now later le defined =>
    Discipline.status?_advances defined le⟩
  have discipline : m.before.discipline = .renewing o := h.before_discipline m hm
  have step := h.steps m hm
  refine ⟨served.keepsToStatus_iff step discipline defined, fun t held expired => ?_⟩
  have expiring := Token.isExpiring?_of_isExpired (defined t held) expired
  exact (served.checks step discipline held expiring).of_isExpired expired (defined t held)

/-! ## Early and late checks -/

def unpolled : RenewalOptions := { enabled := false }

/-- A token that is granted for ten seconds. -/
def lent : Token := .granted "s.1" 10 true 0

def resting (held : Option Token) (flight : Option Flight) (queue : List Demand) : Session :=
  { start (.renewing unpolled) with held, flight, queue }

def checkAt (now : Instant) : Move :=
  ⟨now, .acquire, resting (some lent) none [.check 2],
    resting (some lent) (some (.renewal (some 2) lent)) [], [.called (.renew lent)]⟩

def checkedAt (now : Instant) : List Move :=
  [⟨0, .demand (.token 1), resting none none [], resting none none [.token 1], []⟩,
    ⟨0, .acquire, resting none none [.token 1], resting none (some (.login 1)) [], [.called .login]⟩,
    ⟨0, .answered (.ok lent), resting none (some (.login 1)) [], resting (some lent) none [],
      [.replied 1 (.token (.ok lent))]⟩,
    ⟨now, .demand (.check 2), resting (some lent) none [], resting (some lent) none [.check 2], []⟩,
    checkAt now]

theorem checkedAt_history {now : Instant} (expiring : lent.isExpiring? unpolled now = some true) :
    History (start (.renewing unpolled)) (checkedAt now)
      (resting (some lent) (some (.renewal (some 2) lent)) []) := by
  have renews := serveCheck_renews (o := unpolled) (s := resting (some lent) none []) rfl rfl
    expiring rfl (some 2)
  refine .cons rfl <| .cons rfl <| .cons rfl <| .cons rfl <| .cons (congrArg some renews) (.nil _)

theorem lent_defined : (Span.scaled? unpolled.threshold lent.lease.seconds).isSome = true := by
  decide +kernel

/-- Two seconds before the end the check keeps to the status. -/
theorem early_check_keeps_to_status :
    checkAt (Span.ofSeconds 8) ∈ checkedAt (Span.ofSeconds 8) ∧
      (checkAt (Span.ofSeconds 8)).KeepsToStatus (some 2) := by
  have expiring : lent.isExpiring? unpolled (Span.ofSeconds 8) = some true := by decide +kernel
  have lasting : lent.isExpired (Span.ofSeconds 8) = false := by decide +kernel
  have mem : checkAt (Span.ofSeconds 8) ∈ checkedAt (Span.ofSeconds 8) := by simp [checkedAt]
  have served : (checkAt (Span.ofSeconds 8)).Serves ((some 2).elim .poll .check) := ⟨rfl, rfl, [], rfl⟩
  have keeps := (checks_keep_to_status_iff unpolled (checkedAt_history expiring)).1 _ mem (some 2)
    served fun t ht => by
      obtain rfl := Option.some.inj ht
      exact lent_defined
  refine ⟨mem, keeps.1.2 ?_⟩
  rintro ⟨o, t, -, ht, expired⟩
  obtain rfl := Option.some.inj ht
  rw [show (checkAt (Span.ofSeconds 8)).now = Span.ofSeconds 8 from rfl, lasting] at expired
  cases expired

/-- Ten seconds after the end the token is sent for renewal, with the session unauthenticated. -/
theorem late_check_renews_expired :
    History (start (.renewing unpolled)) (checkedAt (Span.ofSeconds 20))
        (resting (some lent) (some (.renewal (some 2) lent)) []) ∧
      (checkAt (Span.ofSeconds 20)).before.status? (Span.ofSeconds 20) = some .unauthenticated ∧
      lent.isExpired (Span.ofSeconds 20) = true ∧
      .called (.renew lent) ∈ (checkAt (Span.ofSeconds 20)).seen ∧
      ¬ (checkAt (Span.ofSeconds 20)).KeepsToStatus (some 2) := by
  have expired : lent.isExpired (Span.ofSeconds 20) = true := by decide +kernel
  have expiring := Token.isExpiring?_of_isExpired lent_defined expired
  have status : (checkAt (Span.ofSeconds 20)).before.status? (Span.ofSeconds 20) =
      some .unauthenticated :=
    Discipline.status?_eq_unauthenticated_iff.2 fun t ht => Option.some.inj ht ▸ expired
  have called : .called (.renew lent) ∈ (checkAt (Span.ofSeconds 20)).seen :=
    List.mem_singleton_self _
  refine ⟨checkedAt_history expiring, status, expired, called, fun keeps => ?_⟩
  have acting := keeps.acts (.inl ⟨lent, called⟩)
  rw [show (checkAt (Span.ofSeconds 20)).now = Span.ofSeconds 20 from rfl, status] at acting
  cases acting

end Session
end SecretLayers
