import Mathlib.Data.List.Forall2
import SecretLayers.Backend.Factory
/-!
What a list of descriptors resolves to. The first factory that supports a descriptor decides
for it alone, so a resolution is put together from those of its descriptors, one by one: the
first that is rejected ends it, and what is not rejected is either built or counted as
unsupported. Disabled descriptors and factories that come too late have no part in it.
-/
namespace SecretLayers.Backend
set_option autoImplicit false

/-! ## The factory that decides -/

/-- A factory of a list that supports a descriptor, behind others that do not. -/
structure Decides (factories : List Factory) (d : Descriptor) (f : Factory) : Prop where
  supports : f.supports d = true
  first : ∃ before after, factories = before ++ f :: after ∧ ∀ g ∈ before, g.supports d = false

def Builds (factories : List Factory) (d : Descriptor) (entry : Entry) : Prop :=
  ∃ f, Decides factories d f ∧ f.build d = .ok entry

def Rejects (factories : List Factory) (d : Descriptor) (e : Error) : Prop :=
  ∃ f, Decides factories d f ∧ f.build d = .error e

def isSupported (factories : List Factory) (d : Descriptor) : Bool :=
  factories.any fun f => f.supports d

section
variable {factories others : List Factory} {d : Descriptor} {f g : Factory}
  {entry entry' : Entry} {e e' : Error}

theorem decides_iff_find? : Decides factories d f ↔ factories.find? (fun f => f.supports d) = some f := by
  rw [List.find?_eq_some_iff_append]
  constructor
  · intro h
    obtain ⟨before, after, split, passed⟩ := h.first
    refine ⟨h.supports, before, after, split, fun g hg => ?_⟩
    rw [passed g hg]
    rfl
  · rintro ⟨supports, before, after, split, passed⟩
    refine ⟨supports, before, after, split, fun g hg => ?_⟩
    have hpassed := passed g hg
    simpa using hpassed

theorem Decides.unique (hf : Decides factories d f) (hg : Decides factories d g) : f = g := by
  have hsome := decides_iff_find?.1 hf
  rw [decides_iff_find?.1 hg] at hsome
  exact (Option.some.inj hsome).symm

theorem Decides.isSupported (h : Decides factories d f) : isSupported factories d = true := by
  obtain ⟨before, after, rfl, -⟩ := h.first
  exact List.any_eq_true.2 ⟨f, by simp, h.supports⟩

theorem exists_decides (h : isSupported factories d = true) : ∃ f, Decides factories d f := by
  cases hfind : factories.find? fun f => f.supports d with
  | some f => exact ⟨f, decides_iff_find?.2 hfind⟩
  | none =>
    obtain ⟨f, hf, supports⟩ := List.any_eq_true.1 h
    have hnot := List.find?_eq_none.1 hfind f hf
    exact absurd supports hnot

/-- Factories that are added behind others leave it to those to decide. -/
theorem Decides.append (h : Decides factories d f) (others : List Factory) :
    Decides (factories ++ others) d f := by
  obtain ⟨before, after, rfl, passed⟩ := h.first
  exact ⟨h.supports, before, after ++ others, by simp, passed⟩

theorem Builds.isSupported (h : Builds factories d entry) : Backend.isSupported factories d = true := by
  obtain ⟨f, decides, -⟩ := h
  exact decides.isSupported

theorem Rejects.isSupported (h : Rejects factories d e) : Backend.isSupported factories d = true := by
  obtain ⟨f, decides, -⟩ := h
  exact decides.isSupported

theorem Builds.unique (h : Builds factories d entry) (h' : Builds factories d entry') :
    entry = entry' := by
  obtain ⟨f, decides, built⟩ := h
  obtain ⟨g, decides', built'⟩ := h'
  rw [decides.unique decides', built'] at built
  exact (Except.ok.inj built).symm

theorem Rejects.unique (h : Rejects factories d e) (h' : Rejects factories d e') : e = e' := by
  obtain ⟨f, decides, rejected⟩ := h
  obtain ⟨g, decides', rejected'⟩ := h'
  rw [decides.unique decides', rejected'] at rejected
  exact (Except.error.inj rejected).symm

theorem Builds.not_rejects (h : Builds factories d entry) : ¬ Rejects factories d e := by
  rintro ⟨g, decides', rejected⟩
  obtain ⟨f, decides, built⟩ := h
  rw [decides.unique decides', rejected] at built
  cases built

end

/-! ## Resolutions in turn -/

/-- One resolution behind another. -/
def Resolution.append (r s : Resolution) : Resolution where
  entries := r.entries ++ s.entries
  unsupported := r.unsupported ++ s.unsupported

/-- One resolution behind another, unless one of them fails; of two errors the first counts. -/
def inTurn (r s : Except Error Resolution) : Except Error Resolution := do
  return (← r).append (← s)

theorem inTurn_empty (s : Except Error Resolution) : inTurn (.ok {}) s = s := by
  cases s <;> rfl

theorem inTurn_assoc (r s t : Except Error Resolution) :
    inTurn (inTurn r s) t = inTurn r (inTurn s t) := by
  rcases r with e | r
  · rfl
  · rcases s with e | s
    · rfl
    · rcases t with e | t
      · rfl
      · have happend : (r.append s).append t = r.append (s.append t) := by
          simp only [Resolution.append, List.append_assoc]
        exact congrArg Except.ok happend

theorem inTurn_eq_ok_iff {r s : Except Error Resolution} {t : Resolution} :
    inTurn r s = .ok t ↔ ∃ a b, r = .ok a ∧ s = .ok b ∧ t = a.append b := by
  constructor
  · intro h
    rcases r with e | a
    · cases h
    · rcases s with e | b
      · cases h
      · exact ⟨a, b, rfl, rfl, (Except.ok.inj h).symm⟩
  · rintro ⟨a, b, rfl, rfl, rfl⟩
    rfl

theorem inTurn_eq_error_iff {r s : Except Error Resolution} {e : Error} :
    inTurn r s = .error e ↔ r = .error e ∨ (∃ a, r = .ok a) ∧ s = .error e := by
  rcases r with e' | a
  · constructor
    · exact fun h => .inl h
    · rintro (h | ⟨⟨a, h⟩, -⟩)
      · exact h
      · cases h
  · rcases s with e' | b
    · constructor
      · exact fun h => .inr ⟨⟨a, rfl⟩, h⟩
      · rintro (h | ⟨-, h⟩)
        · cases h
        · exact h
    · constructor
      · intro h
        cases h
      · rintro (h | ⟨-, h⟩)
        · cases h
        · cases h

/-! ## Resolutions of single descriptors -/

/-- What one descriptor comes to. -/
inductive Comes (factories : List Factory) (d : Descriptor) : Except Error Resolution → Prop
  | disabled (off : d.enabled = false) : Comes factories d (.ok {})
  | built {entry : Entry} (on : d.enabled = true) (h : Builds factories d entry) :
      Comes factories d (.ok { entries := [entry] })
  | rejected {e : Error} (on : d.enabled = true) (h : Rejects factories d e) :
      Comes factories d (.error e)
  | unsupported (on : d.enabled = true) (h : isSupported factories d = false) :
      Comes factories d (.ok { unsupported := [d.kind] })

theorem exists_comes (factories : List Factory) (d : Descriptor) :
    ∃ r, Comes factories d r ∧ ∀ ds, resolve factories (d :: ds) = inTurn r (resolve factories ds) := by
  cases on : d.enabled with
  | false =>
    refine ⟨_, .disabled on, fun ds => ?_⟩
    rw [inTurn_empty]
    simp [resolve, on]
  | true =>
    cases hfind : factories.find? fun f => f.supports d with
    | none =>
      have hno : isSupported factories d = false := by
        rw [isSupported, List.any_eq_false]
        exact List.find?_eq_none.1 hfind
      refine ⟨_, .unsupported on hno, fun ds => ?_⟩
      simp only [resolve, on, hfind]
      cases resolve factories ds <;> rfl
    | some f =>
      have decides := decides_iff_find?.2 hfind
      cases hbuild : f.build d with
      | error e =>
        refine ⟨_, .rejected on ⟨f, decides, hbuild⟩, fun ds => ?_⟩
        simp only [resolve, on, hfind, hbuild]
        rfl
      | ok entry =>
        refine ⟨_, .built on ⟨f, decides, hbuild⟩, fun ds => ?_⟩
        simp only [resolve, on, hfind, hbuild]
        cases resolve factories ds <;> rfl

theorem comes_single (factories : List Factory) (d : Descriptor) :
    Comes factories d (resolve factories [d]) ∧
      ∀ ds, resolve factories (d :: ds) = inTurn (resolve factories [d]) (resolve factories ds) := by
  obtain ⟨r, comes, hr⟩ := exists_comes factories d
  have hsingle : resolve factories [d] = r := by
    rw [hr []]
    rcases r with e | r
    · rfl
    · have hright : r.append {} = r := by simp [Resolution.append]
      exact congrArg Except.ok hright
  rw [hsingle]
  exact ⟨comes, hr⟩

theorem resolve_cons (factories : List Factory) (d : Descriptor) (ds : List Descriptor) :
    resolve factories (d :: ds) = inTurn (resolve factories [d]) (resolve factories ds) :=
  (comes_single factories d).2 ds

section
variable {factories : List Factory} {d : Descriptor} {e : Error}

theorem resolve_disabled (off : d.enabled = false) : resolve factories [d] = .ok {} := by
  simp [resolve, off]

theorem resolve_single_error_iff :
    resolve factories [d] = .error e ↔ d.enabled = true ∧ Rejects factories d e := by
  have comes := (comes_single factories d).1
  generalize resolve factories [d] = result at comes
  constructor
  · rintro rfl
    cases comes with
    | rejected on rejected => exact ⟨on, rejected⟩
  · rintro ⟨on, rejected⟩
    cases comes with
    | disabled off =>
      rw [on] at off
      cases off
    | built _ built => exact absurd rejected built.not_rejects
    | rejected _ rejected' => rw [rejected.unique rejected']
    | unsupported _ hno =>
      rw [rejected.isSupported] at hno
      cases hno

theorem resolve_single_ok_iff : (∃ r, resolve factories [d] = .ok r) ↔
    (d.enabled = true → ∀ e, ¬ Rejects factories d e) := by
  constructor
  · rintro ⟨r, hr⟩ on e rejected
    rw [resolve_single_error_iff.2 ⟨on, rejected⟩] at hr
    cases hr
  · intro h
    cases hsingle : resolve factories [d] with
    | ok r => exact ⟨r, rfl⟩
    | error e =>
      obtain ⟨on, rejected⟩ := resolve_single_error_iff.1 hsingle
      exact absurd rejected (h on e)

theorem resolve_supported (h : isSupported factories d = true) (others : List Factory) :
    resolve (factories ++ others) [d] = resolve factories [d] := by
  obtain ⟨f, decides⟩ := exists_decides h
  have hfew := decides_iff_find?.1 decides
  have hmany := decides_iff_find?.1 (decides.append others)
  simp only [resolve, hfew, hmany]

theorem resolve_unsupported (h : isSupported factories d = false) :
    ∃ r, resolve factories [d] = .ok r ∧ r.entries = [] := by
  have comes := (comes_single factories d).1
  generalize resolve factories [d] = result at comes
  cases comes with
  | disabled off => exact ⟨_, rfl, rfl⟩
  | unsupported on h => exact ⟨_, rfl, rfl⟩
  | built on built =>
    rw [built.isSupported] at h
    cases h
  | rejected on rejected =>
    rw [rejected.isSupported] at h
    cases h

end

/-! ## Resolutions of lists -/

theorem resolve_append (factories : List Factory) (ds es : List Descriptor) :
    resolve factories (ds ++ es) = inTurn (resolve factories ds) (resolve factories es) := by
  induction ds with
  | nil => exact (inTurn_empty _).symm
  | cons d ds ih => rw [List.cons_append, resolve_cons, ih, ← inTurn_assoc, ← resolve_cons]

theorem resolve_enabled (factories : List Factory) (ds : List Descriptor) :
    resolve factories (ds.filter (·.enabled)) = resolve factories ds := by
  induction ds with
  | nil => rfl
  | cons d ds ih =>
    cases on : d.enabled with
    | true => rw [List.filter_cons_of_pos on, resolve_cons, ih, ← resolve_cons]
    | false =>
      have hnot : ¬ d.enabled = true := by simp [on]
      rw [List.filter_cons_of_neg hnot, ih, resolve_cons factories d ds, resolve_disabled on, inTurn_empty]

/-- The first enabled descriptor that is rejected, and the error that it is rejected with. -/
def FirstRejection (factories : List Factory) (ds : List Descriptor) (e : Error) : Prop :=
  ∃ before d after, ds = before ++ d :: after ∧ d.enabled = true ∧ Rejects factories d e ∧
    ∀ x ∈ before, x.enabled = true → ∀ e, ¬ Rejects factories x e

/-- A resolution has an entry for each enabled descriptor that is supported, in order, and the
kinds of the others that are enabled. -/
structure Resolves (factories : List Factory) (ds : List Descriptor) (r : Resolution) : Prop where
  entries :
    List.Forall₂ (Builds factories) ((ds.filter (·.enabled)).filter (isSupported factories)) r.entries
  unsupported : r.unsupported =
    ((ds.filter (·.enabled)).filter fun d => !isSupported factories d).map (·.kind)

section
variable {factories : List Factory} {d : Descriptor} {ds : List Descriptor} {r s : Resolution} {e : Error}

theorem not_firstRejection_nil : ¬ FirstRejection factories [] e := by
  rintro ⟨before, d, after, split, -⟩
  simp at split

theorem firstRejection_cons_iff : FirstRejection factories (d :: ds) e ↔
    (d.enabled = true ∧ Rejects factories d e) ∨
      ((d.enabled = true → ∀ e, ¬ Rejects factories d e) ∧ FirstRejection factories ds e) := by
  constructor
  · rintro ⟨before, x, after, split, on, rejected, others⟩
    rcases List.cons_eq_append_iff.1 split with ⟨rfl, hx⟩ | ⟨rest, rfl, rfl⟩
    · obtain ⟨rfl, -⟩ := List.cons.inj hx
      exact .inl ⟨on, rejected⟩
    · have hd := others d List.mem_cons_self
      refine .inr ⟨hd, rest, x, after, rfl, on, rejected, fun y hy => ?_⟩
      exact others y (List.mem_cons_of_mem _ hy)
  · rintro (⟨on, rejected⟩ | ⟨hd, before, x, after, rfl, on, rejected, others⟩)
    · exact ⟨[], d, ds, rfl, on, rejected, by simp⟩
    · refine ⟨d :: before, x, after, rfl, on, rejected, ?_⟩
      exact List.forall_mem_cons.2 ⟨hd, others⟩

theorem resolve_error_iff : resolve factories ds = .error e ↔ FirstRejection factories ds e := by
  induction ds with
  | nil => exact iff_of_false (by simp [resolve]) not_firstRejection_nil
  | cons d ds ih =>
    rw [resolve_cons, inTurn_eq_error_iff, firstRejection_cons_iff, resolve_single_error_iff,
      resolve_single_ok_iff, ih]

theorem resolve_fails_iff : (∃ e, resolve factories ds = .error e) ↔
    ∃ d ∈ ds, d.enabled = true ∧ ∃ e, Rejects factories d e := by
  constructor
  · rintro ⟨e, h⟩
    obtain ⟨before, d, after, rfl, on, rejected, -⟩ := resolve_error_iff.1 h
    exact ⟨d, by simp, on, e, rejected⟩
  · rintro ⟨d, hd, on, e, rejected⟩
    obtain ⟨before, after, rfl⟩ := List.append_of_mem hd
    rw [resolve_append, resolve_cons, resolve_single_error_iff.2 ⟨on, rejected⟩]
    cases resolve factories before with
    | error e' => exact ⟨e', rfl⟩
    | ok r => exact ⟨e, rfl⟩

theorem Resolves.append {es : List Descriptor} (hr : Resolves factories ds r)
    (hs : Resolves factories es s) : Resolves factories (ds ++ es) (r.append s) := by
  constructor
  · rw [List.filter_append, List.filter_append]
    exact List.rel_append hr.entries hs.entries
  · rw [List.filter_append, List.filter_append, List.map_append, ← hr.unsupported, ← hs.unsupported]
    rfl

theorem resolves_single (h : resolve factories [d] = .ok r) : Resolves factories [d] r := by
  have comes := (comes_single factories d).1
  rw [h] at comes
  cases comes with
  | disabled off => exact ⟨by simp [off], by simp [off]⟩
  | built on built => exact ⟨by simp [on, built.isSupported, built], by simp [on, built.isSupported]⟩
  | unsupported on hno => exact ⟨by simp [on, hno], by simp [on, hno]⟩

theorem resolves_of_ok (h : resolve factories ds = .ok r) : Resolves factories ds r := by
  induction ds generalizing r with
  | nil =>
    obtain rfl := Except.ok.inj h
    exact ⟨.nil, rfl⟩
  | cons d ds ih =>
    rw [resolve_cons, inTurn_eq_ok_iff] at h
    obtain ⟨a, b, ha, hb, rfl⟩ := h
    exact (resolves_single ha).append (ih hb)

theorem Resolves.exists_builds (h : Resolves factories ds r) (hd : d ∈ ds) (on : d.enabled = true)
    (supported : isSupported factories d = true) : ∃ entry, Builds factories d entry := by
  have hmem : d ∈ (ds.filter (·.enabled)).filter (isSupported factories) :=
    List.mem_filter.2 ⟨List.mem_filter.2 ⟨hd, on⟩, supported⟩
  obtain ⟨i, hi, rfl⟩ := List.getElem_of_mem hmem
  have hlen := h.entries.length_eq
  exact ⟨r.entries[i], h.entries.get hi (hlen ▸ hi)⟩

theorem resolve_ok_iff : resolve factories ds = .ok r ↔ Resolves factories ds r := by
  constructor
  · exact resolves_of_ok
  · intro h
    cases hresolve : resolve factories ds with
    | error e =>
      obtain ⟨d, hd, on, e, rejected⟩ := resolve_fails_iff.1 ⟨e, hresolve⟩
      obtain ⟨entry, built⟩ := h.exists_builds hd on rejected.isSupported
      exact absurd rejected built.not_rejects
    | ok s =>
      have hs := resolves_of_ok hresolve
      have unique : Relator.RightUnique (Builds factories) := fun _ _ _ => Builds.unique
      have hentries : s.entries = r.entries := List.right_unique_forall₂' unique hs.entries h.entries
      have hkinds : s.unsupported = r.unsupported := by rw [hs.unsupported, h.unsupported]
      cases s
      cases r
      simp only at hentries hkinds
      rw [hentries, hkinds]

/-- Every enabled descriptor is counted once. -/
theorem Resolves.length_add (h : Resolves factories ds r) :
    r.entries.length + r.unsupported.length = (ds.filter (·.enabled)).length := by
  rw [← h.entries.length_eq, h.unsupported, List.length_map]
  exact (List.length_eq_length_filter_add (isSupported factories)).symm

theorem resolve_further {others : List Factory} (h : resolve (factories ++ others) ds = .ok s) :
    ∃ r, resolve factories ds = .ok r ∧ r.entries.Sublist s.entries := by
  induction ds generalizing s with
  | nil => exact ⟨{}, rfl, List.nil_sublist _⟩
  | cons d ds ih =>
    rw [resolve_cons, inTurn_eq_ok_iff] at h
    obtain ⟨a, b, ha, hb, rfl⟩ := h
    obtain ⟨r, hr, hsub⟩ := ih hb
    cases supported : isSupported factories d with
    | true =>
      rw [resolve_supported supported] at ha
      refine ⟨a.append r, ?_, hsub.append_left a.entries⟩
      rw [resolve_cons, ha, hr]
      rfl
    | false =>
      obtain ⟨none, hnone, vacant⟩ := resolve_unsupported supported
      refine ⟨none.append r, ?_, ?_⟩
      · rw [resolve_cons, hnone, hr]
        rfl
      · have hentries : (none.append r).entries = r.entries := by
          simp only [Resolution.append, vacant, List.nil_append]
        rw [hentries]
        exact hsub.trans (List.sublist_append_right _ _)

end

/-- A resolution fails just when an enabled descriptor is rejected by the factory that decides
for it, with the error of the first such. Otherwise it has what those factories build, in order,
and the kinds of the enabled descriptors without one, so that each of them is counted once.
Disabled descriptors have no part in it, a list is resolved part by part, and factories added
behind the others leave what was supported as it was. -/
theorem resolve_decided (factories : List Factory) (ds : List Descriptor) :
    ((∃ e, resolve factories ds = .error e) ↔
      ∃ d ∈ ds, d.enabled = true ∧ ∃ e, Rejects factories d e) ∧
    (∀ e, resolve factories ds = .error e ↔ FirstRejection factories ds e) ∧
    (∀ r, resolve factories ds = .ok r ↔ Resolves factories ds r) ∧
    (∀ r, resolve factories ds = .ok r →
      r.entries.length + r.unsupported.length = (ds.filter (·.enabled)).length) ∧
    resolve factories (ds.filter (·.enabled)) = resolve factories ds ∧
    (∀ es, resolve factories (ds ++ es) = inTurn (resolve factories ds) (resolve factories es)) ∧
    ∀ others,
      (∀ d, isSupported factories d = true →
        resolve (factories ++ others) [d] = resolve factories [d]) ∧
      ∀ s, resolve (factories ++ others) ds = .ok s →
        ∃ r, resolve factories ds = .ok r ∧ r.entries.Sublist s.entries := by
  refine ⟨resolve_fails_iff, fun e => resolve_error_iff, fun r => resolve_ok_iff, ?_,
    resolve_enabled factories ds, resolve_append factories ds, fun others => ⟨?_, ?_⟩⟩
  · intro r hr
    exact (resolve_ok_iff.1 hr).length_add
  · intro d supported
    exact resolve_supported supported others
  · intro s hs
    exact resolve_further hs

end SecretLayers.Backend
