import SecretLayers.Properties.Refresh
import SecretLayers.Session.Slot
import SecretLayers.Proofs.Config.Acceptance
/-!
When it is defined whether a lease is expiring. With an accepted configuration it is defined
for the terms that the fraction measures, whatever time has passed; the fractions that measure
every term of 64 bits are those below one.
-/
namespace SecretLayers
set_option autoImplicit false

/-! ## Terms that a fraction measures -/

namespace RenewalOptions

/-- The fraction is a number, and it is below one or the term is not rounded up to 64 bits. -/
def Measures (o : RenewalOptions) (seconds : Nat) : Prop :=
  o.threshold.isNumber = true ∧ (o.threshold.lt .one = true ∨ seconds < 2 ^ 64 - 2 ^ 10)

section
variable {o : RenewalOptions} {seconds : Nat}

theorem isNumber_of_lt_one (h : o.threshold.lt .one = true) : o.threshold.isNumber = true := by
  cases hx : o.threshold with
  | nan n =>
    rw [hx] at h
    cases h
  | infinity n => rfl
  | finite n m s => rfl

theorem scaled?_nan (n : Bool) : Span.scaled? (.nan n) seconds = none := rfl

theorem isExpiring?_of_nan {n : Bool} (h : o.threshold = .nan n) (lease : Lease) (now : Instant) :
    o.isExpiring? lease now = none := by
  rw [isExpiring?, h, scaled?_nan]
  rfl

theorem measures_of_lt_one (h : o.threshold.lt .one = true) : o.Measures seconds :=
  ⟨isNumber_of_lt_one h, .inl h⟩

/-- The greatest term of 64 bits is measured by the fractions below one only. -/
theorem lt_one_of_measures (h : o.Measures (2 ^ 64 - 1)) : o.threshold.lt .one = true := by
  obtain ⟨-, hlt | hlt⟩ := h
  · exact hlt
  · exact absurd hlt (by decide)

variable (within : Config.isWithin .zero .one o.threshold = true) (precise : o.threshold.IsPrecise)
include within precise

theorem isSome_scaled?_iff (fits : seconds < 2 ^ 64) :
    (Span.scaled? o.threshold seconds).isSome ↔ o.Measures seconds := by
  unfold Measures
  cases hnumber : o.threshold.isNumber with
  | true =>
    have fraction := Binary64.isFraction_of_isWithin within hnumber
    rw [Span.isSome_scaled?_iff_of_precise fraction precise fits]
    simp only [true_and]
  | false =>
    obtain ⟨n, hnan⟩ : ∃ n, o.threshold = .nan n := by
      cases hx : o.threshold with
      | nan n => exact ⟨n, rfl⟩
      | infinity n | finite n m s =>
        rw [hx] at hnumber
        cases hnumber
    rw [hnan, scaled?_nan]
    simp only [Option.isSome_none, Bool.false_eq_true, false_and]

theorem isSome_isExpiring?_iff {lease : Lease} (fits : lease.seconds < 2 ^ 64) (now : Instant) :
    (o.isExpiring? lease now).isSome ↔ o.Measures lease.seconds := by
  rw [isExpiring?, Option.isSome_map, isSome_scaled?_iff within precise fits]

end

end RenewalOptions

/-! ## Tokens and sources -/

section
variable {o : RenewalOptions}
  (within : Config.isWithin .zero .one o.threshold = true) (precise : o.threshold.IsPrecise)
include within precise

theorem Token.isSome_isExpiring?_iff {t : Token} (fits : t.lease.seconds < 2 ^ 64) (now : Instant) :
    (t.isExpiring? o now).isSome ↔ (t.expires = true → o.Measures t.lease.seconds) := by
  unfold Token.isExpiring?
  cases hexpires : t.expires with
  | true =>
    simp only [if_true, true_implies]
    exact RenewalOptions.isSome_isExpiring?_iff within precise fits now
  | false => simp

theorem Source.isSome_isExpiring?_iff {s : Source} (fits : ∀ l ∈ s.lease, l.lease.seconds < 2 ^ 64)
    (now : Instant) :
    (s.isExpiring? o now).isSome ↔ ∀ l ∈ s.lease, o.Measures l.lease.seconds := by
  unfold Source.isExpiring?
  cases hlease : s.lease with
  | none => simp
  | some l =>
    simp only [Option.mem_def, Option.some.injEq, forall_eq']
    exact RenewalOptions.isSome_isExpiring?_iff within precise (fits l (by simp [hlease])) now

end

/-! ## Checks -/

namespace Session.Discipline
variable {o : RenewalOptions}

theorem isSome_decide?_iff (held : Option Token) (now : Instant) :
    ((renewing o).decide? held now).isSome ↔ ∀ t ∈ held, (t.isExpiring? o now).isSome := by
  cases held with
  | none => simp [decide?]
  | some t => simp [decide?]

theorem isSome_status?_iff (held : Option Token) (now : Instant) :
    ((renewing o).status? held now).isSome ↔
      ∀ t ∈ held, t.isExpired now = true ∨ (t.isExpiring? o now).isSome := by
  cases held with
  | none => simp [status?]
  | some t =>
    cases hexpired : t.isExpired now with
    | true => simp [status?, hexpired]
    | false => simp [status?, hexpired]

end Session.Discipline

namespace Refresher
variable {o : RenewalOptions}

theorem isSome_expiring?_iff (now : Instant) (sources : List Source) :
    (expiring? o now sources).isSome ↔ ∀ s ∈ sources, (s.isExpiring? o now).isSome := by
  induction sources with
  | nil => simp [expiring?]
  | cons s rest ih =>
    rw [List.forall_mem_cons, ← ih, expiring?]
    cases s.isExpiring? o now with
    | none => simp
    | some isExpiring => cases expiring? o now rest <;> simp

theorem isSome_agenda?_iff (r : Refresher) (now : Instant) :
    (r.agenda? now).isSome ↔ ∀ s ∈ r.view.sources, (s.isExpiring? r.options now).isSome := by
  rw [agenda?, Option.isSome_map, isSome_expiring?_iff]

end Refresher

/-! ## Accepted configurations -/

namespace Config

/-- The checks of a session and of a refresher are defined for the terms that the fractions of
their options measure: for all terms of 64 bits just where the fraction is below one, which a
value that is no number is not. -/
theorem expiry_defined_iff {c : Config} (accepted : c.Accepted) :
    (∀ (t : Token) (now : Instant), t.lease.seconds < 2 ^ 64 →
      ((t.isExpiring? c.lifecycle now).isSome ↔
        (t.expires = true → c.lifecycle.Measures t.lease.seconds))) ∧
    (∀ (s : Source) (now : Instant), (∀ l ∈ s.lease, l.lease.seconds < 2 ^ 64) →
      ((s.isExpiring? c.leaseRefresh now).isSome ↔
        ∀ l ∈ s.lease, c.leaseRefresh.Measures l.lease.seconds)) ∧
    ((∀ (held : Option Token) (now : Instant), (∀ t ∈ held, t.lease.seconds < 2 ^ 64) →
        ((Session.Discipline.renewing c.lifecycle).decide? held now).isSome ∧
          ((Session.Discipline.renewing c.lifecycle).status? held now).isSome) ↔
      c.lifecycle.threshold.lt .one = true) ∧
    ((∀ (r : Refresher) (now : Instant), r.options = c.leaseRefresh →
        (∀ s ∈ r.view.sources, ∀ l ∈ s.lease, l.lease.seconds < 2 ^ 64) → (r.agenda? now).isSome) ↔
      c.leaseRefresh.threshold.lt .one = true) := by
  obtain ⟨within, within'⟩ := accepted.isWithin
  obtain ⟨precise, precise'⟩ := accepted.valid_and_precise.2
  have ofToken (t : Token) (now : Instant) (fits : t.lease.seconds < 2 ^ 64) :=
    Token.isSome_isExpiring?_iff within precise fits now
  have ofSource (s : Source) (now : Instant) (fits : ∀ l ∈ s.lease, l.lease.seconds < 2 ^ 64) :=
    Source.isSome_isExpiring?_iff within' precise' fits now
  refine ⟨ofToken, ofSource, ?_, ?_⟩
  · constructor
    · intro h
      have fits : (Token.granted "" (2 ^ 64 - 1) true 0).lease.seconds < 2 ^ 64 := by decide
      have hdecide := (h (some (.granted "" (2 ^ 64 - 1) true 0)) 0 (by simpa using fits)).1
      rw [Session.Discipline.isSome_decide?_iff] at hdecide
      have hmeasures := (ofToken _ 0 fits).1 (hdecide _ rfl) rfl
      exact RenewalOptions.lt_one_of_measures hmeasures
    · intro h held now fits
      have hdefined : ∀ t ∈ held, (t.isExpiring? c.lifecycle now).isSome := fun t ht =>
        (ofToken t now (fits t ht)).2 fun _ => RenewalOptions.measures_of_lt_one h
      rw [Session.Discipline.isSome_decide?_iff, Session.Discipline.isSome_status?_iff]
      exact ⟨hdefined, fun t ht => .inr (hdefined t ht)⟩
  · constructor
    · intro h
      let source : Source := { name := "", lease := some ⟨"", ⟨2 ^ 64 - 1, 0⟩, true⟩ }
      have fits : ∀ l ∈ source.lease, l.lease.seconds < 2 ^ 64 := by
        simp [source]
      have hagenda := h { view := ⟨[source]⟩, entries := [], options := c.leaseRefresh } 0 rfl
        (by simpa using fits)
      rw [Refresher.isSome_agenda?_iff] at hagenda
      have hmeasures := (ofSource source 0 fits).1 (hagenda source List.mem_cons_self) _ rfl
      exact RenewalOptions.lt_one_of_measures hmeasures
    · intro h r now hoptions fits
      rw [Refresher.isSome_agenda?_iff, hoptions]
      intro s hs
      exact (ofSource s now (fits s hs)).2 fun _ _ => RenewalOptions.measures_of_lt_one h

/-! ## Fractions that are not below one -/

theorem exists_ok_of_map {ε α β : Type} {f : α → β} {x : Except ε α} {b : β}
    (h : x.toOption.map f = some b) : ∃ a, x = .ok a ∧ f a = b := by
  cases x with
  | error e => cases h
  | ok a => exact ⟨a, rfl, Option.some.inj h⟩

/-- With no variable set, the fraction is below one. -/
theorem expiry_defined_by_default :
    ∃ c, ofVariables (fun _ => none) = .ok c ∧
      ∀ (held : Option Token) (now : Instant), (∀ t ∈ held, t.lease.seconds < 2 ^ 64) →
        ((Session.Discipline.renewing c.lifecycle).decide? held now).isSome := by
  have hread : ((ofVariables fun _ => none).toOption.map fun c => c.lifecycle.threshold.lt .one) =
      some true := by decide +kernel
  obtain ⟨c, hc, hbelow⟩ := exists_ok_of_map hread
  obtain ⟨-, -, session, -⟩ := expiry_defined_iff (.environment hc)
  exact ⟨c, hc, fun held now fits => (session.2 hbelow held now fits).1⟩

def longestThreshold : Lookup := fun name =>
  if name = "VAULT_LIFECYCLE_EXPIRY_THRESHOLD" then some "1" else none

/-- What is not a number is accepted, and one with a term that is rounded up to 64 bits. -/
theorem expiry_undefined :
    (∃ c, ofYaml "lifecycle:\n  expiry_threshold: .nan\n" = .ok c ∧
      (Token.granted "s.1" 60 true 0).isExpiring? c.lifecycle 0 = none) ∧
    (∃ c, ofVariables longestThreshold = .ok c ∧
      (Token.granted "s.1" (2 ^ 64 - 1) true 0).isExpiring? c.lifecycle 0 = none) ∧
    ∃ c, ofYaml "lease_refresh:\n  expiry_threshold: .nan\n" = .ok c ∧
      Source.isExpiring? c.leaseRefresh
        { name := "mysql/creds/app", lease := some ⟨"mysql/creds/app/0", ⟨60, 0⟩, true⟩ } 0 = none := by
  refine ⟨?_, ?_, ?_⟩
  · have hread : ((ofYaml "lifecycle:\n  expiry_threshold: .nan\n").toOption.map
        fun c => c.lifecycle.threshold) = some (.nan false) := by decide +kernel
    obtain ⟨c, hc, hnan⟩ := exists_ok_of_map hread
    refine ⟨c, hc, ?_⟩
    rw [Token.isExpiring?, if_pos (by decide), RenewalOptions.isExpiring?_of_nan hnan]
  · have hread : ((ofVariables longestThreshold).toOption.map fun c => c.lifecycle.threshold) =
        some .one := by decide +kernel
    obtain ⟨c, hc, hone⟩ := exists_ok_of_map hread
    refine ⟨c, hc, ?_⟩
    have hscaled : Span.scaled? .one (2 ^ 64 - 1) = none := by decide +kernel
    have hexpires : (Token.granted "s.1" (2 ^ 64 - 1) true 0).expires = true := by decide
    have hseconds : (Token.granted "s.1" (2 ^ 64 - 1) true 0).lease.seconds = 2 ^ 64 - 1 := rfl
    rw [Token.isExpiring?, if_pos hexpires, RenewalOptions.isExpiring?, hseconds, hone, hscaled]
    rfl
  · have hread : ((ofYaml "lease_refresh:\n  expiry_threshold: .nan\n").toOption.map
        fun c => c.leaseRefresh.threshold) = some (.nan false) := by decide +kernel
    obtain ⟨c, hc, hnan⟩ := exists_ok_of_map hread
    exact ⟨c, hc, RenewalOptions.isExpiring?_of_nan hnan _ _⟩

end Config
end SecretLayers
