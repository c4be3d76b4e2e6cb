import SecretLayers.Proofs.Backend.Resolution
/-!
Which entries come of the descriptors of credential backends, and in which order: one for
each enabled descriptor that a factory supports, sorted by order, and as declared where the
orders are the same.
-/
namespace SecretLayers.Backend
set_option autoImplicit false

/-! ## Sorting -/

/-- A sorting of entries by order that keeps those of one order as they are given. -/
structure IsOrdering (given entries : List Entry) : Prop where
  perm : entries.Perm given
  sorted : entries.Pairwise fun a b => a.order ≤ b.order
  stable : ∀ order, entries.filter (·.order == order) = given.filter (·.order == order)

theorem order_trans (a b c : Entry) (hab : decide (a.order ≤ b.order) = true)
    (hbc : decide (b.order ≤ c.order) = true) : decide (a.order ≤ c.order) = true := by
  simp only [decide_eq_true_eq] at hab hbc ⊢
  omega

theorem order_total (a b : Entry) : (decide (a.order ≤ b.order) || decide (b.order ≤ a.order)) = true := by
  simp only [Bool.or_eq_true, decide_eq_true_eq]
  omega

/-- Entries of one order are sorted as they stand, so sorting keeps them as they stand. -/
theorem filter_sublist_mergeSort (given : List Entry) (order : Int) :
    (given.filter (·.order == order)).Sublist (given.mergeSort fun a b => a.order ≤ b.order) := by
  refine List.sublist_mergeSort order_trans order_total ?_ List.filter_sublist
  rw [List.pairwise_filter]
  refine List.pairwise_of_forall fun a b ha hb => ?_
  simp only [beq_iff_eq] at ha hb
  simp only [decide_eq_true_eq]
  omega

theorem mergeSort_isOrdering (given : List Entry) :
    IsOrdering given (given.mergeSort fun a b => a.order ≤ b.order) := by
  have perm := List.mergeSort_perm given fun a b => decide (a.order ≤ b.order)
  refine ⟨perm, ?_, ?_⟩
  · refine (List.pairwise_mergeSort order_trans order_total given).imp fun h => ?_
    simpa only [decide_eq_true_eq] using h
  · intro order
    have hsub := (filter_sublist_mergeSort given order).filter (·.order == order)
    simp only [List.filter_filter, Bool.and_self] at hsub
    exact (hsub.eq_of_length (perm.filter _).length_eq.symm).symm

/-! ## Resolution -/

/-- What the factories make of an enabled descriptor, if one of them supports it. -/
def built? (factories : List Factory) (d : Descriptor) : Option (Except Error Entry) :=
  if d.enabled then (factories.find? fun f => f.supports d).map fun f => f.build d else none

theorem resolve_single_entries {factories : List Factory} {d : Descriptor} {r : Resolution}
    (h : resolve factories [d] = .ok r) : r.entries.map .ok = [d].filterMap (built? factories) := by
  have comes := (comes_single factories d).1
  rw [h] at comes
  cases comes with
  | disabled off => simp [built?, off]
  | built on built =>
    obtain ⟨f, decides, hbuild⟩ := built
    have hfind := decides_iff_find?.1 decides
    simp [built?, on, hfind, hbuild]
  | unsupported on hno =>
    have hnone : (factories.find? fun f => f.supports d) = none :=
      List.find?_eq_none.2 (List.any_eq_false.1 hno)
    simp [built?, on, hnone]

/-- A resolution has the entries of all enabled descriptors that are supported. -/
theorem resolve_entries {factories : List Factory} {ds : List Descriptor} {r : Resolution}
    (h : resolve factories ds = .ok r) : r.entries.map .ok = ds.filterMap (built? factories) := by
  induction ds generalizing r with
  | nil =>
    obtain rfl := Except.ok.inj h
    rfl
  | cons d ds ih =>
    rw [resolve_cons, inTurn_eq_ok_iff] at h
    obtain ⟨a, b, ha, hb, rfl⟩ := h
    have hfirst := resolve_single_entries ha
    have hrest := ih hb
    rw [← List.singleton_append, List.filterMap_append, ← hfirst, ← hrest]
    exact List.map_append

end SecretLayers.Backend
