import SecretLayers.Proofs.Backend.Expansion
import SecretLayers.Proofs.Backend.Resolution
import SecretLayers.Proofs.Properties.Lookup
import SecretLayers.Proofs.Text.Blank
/-!
The factories for the kinds that are built in. Each kind belongs to one of them, so their order
does not matter. What they build is read at a path made of the mount and the role as these are
written, and each field of the credentials goes to one property.
-/
namespace SecretLayers.Backend
set_option autoImplicit false

/-! ## Kinds -/

namespace Kind

theorem ofName?_eq_some_iff {s : String} {kind : Kind} : ofName? s = some kind ↔ kind.name = s := by
  constructor
  · intro h
    simpa using List.find?_some h
  · rintro rfl
    exact ofName?_name kind

end Kind

/-- The kind that a descriptor names: letter case and blanks around it do not count. -/
def Names (d : Descriptor) (kind : Kind) : Prop := kind.name = Text.lowerAscii (Text.trim d.kind)

theorem builtinKind?_eq_some_iff {d : Descriptor} {kind : Kind} :
    d.builtinKind? = some kind ↔ Names d kind := by
  rw [Descriptor.builtinKind?, Kind.ofText?, Kind.ofName?_eq_some_iff, Names]

theorem Names.unique {d : Descriptor} {kind kind' : Kind} (h : Names d kind) (h' : Names d kind') :
    kind = kind' := by
  rw [← builtinKind?_eq_some_iff] at h h'
  rw [h] at h'
  exact Option.some.inj h'

namespace Credentials

theorem factory_supports (c : Credentials) (d : Descriptor) : c.factory.supports d = c.supports d := by
  rw [factory]

theorem factory_build (c : Credentials) (d : Descriptor) : c.factory.build d = c.build d := by
  rw [factory]

theorem supports_iff {c : Credentials} {d : Descriptor} :
    c.supports d = true ↔ ∃ kind, Names d kind ∧ kind ∈ c.kinds := by
  simp only [supports, Option.any_eq_true, List.contains_iff_mem, builtinKind?_eq_some_iff]

theorem kinds_disjoint : all.Pairwise fun a b => ∀ kind ∈ a.kinds, kind ∉ b.kinds := by decide

theorem exists_mem_kinds (kind : Kind) : ∃ c ∈ all, kind ∈ c.kinds := by cases kind <;> decide

theorem staticRoles_eq : ∀ c ∈ all, ∀ kind ∈ c.kinds, c.staticRoles = kind.isDatabase := by decide

end Credentials

/-! ## Lists of factories that share no descriptor -/

/-- No two factories of a list support one descriptor. -/
def Apart (factories : List Factory) : Prop :=
  factories.Pairwise fun f g => ∀ d, ¬ (f.supports d = true ∧ g.supports d = true)

theorem builtin_apart : Apart Factory.builtin := by
  rw [Apart, Factory.builtin, List.pairwise_map]
  refine Credentials.kinds_disjoint.imp ?_
  rintro a b disjoint d ⟨ha, hb⟩
  rw [Credentials.factory_supports] at ha hb
  obtain ⟨kind, named, mem⟩ := Credentials.supports_iff.1 ha
  obtain ⟨kind', named', mem'⟩ := Credentials.supports_iff.1 hb
  obtain rfl := named.unique named'
  exact disjoint kind mem mem'

theorem isSupported_builtin_iff {d : Descriptor} :
    isSupported Factory.builtin d = true ↔ ∃ kind, Names d kind := by
  simp only [isSupported, Factory.builtin, List.any_map, List.any_eq_true, Function.comp_apply,
    Credentials.factory_supports]
  constructor
  · rintro ⟨c, -, claims⟩
    obtain ⟨kind, named, -⟩ := Credentials.supports_iff.1 claims
    exact ⟨kind, named⟩
  · rintro ⟨kind, named⟩
    obtain ⟨c, hc, mem⟩ := Credentials.exists_mem_kinds kind
    have claims := Credentials.supports_iff.2 ⟨kind, named, mem⟩
    exact ⟨c, hc, claims⟩

section
variable {factories others : List Factory}

/-- Where no two factories support one descriptor, any order finds the same one. -/
theorem Apart.find?_perm (apart : Apart factories) (perm : factories.Perm others) (d : Descriptor) :
    factories.find? (fun f => f.supports d) = others.find? fun f => f.supports d := by
  have symmetric {f g : Factory} (h : ∀ d, ¬ (f.supports d = true ∧ g.supports d = true)) :
      ∀ d, ¬ (g.supports d = true ∧ f.supports d = true) := fun d both => h d both.symm
  induction perm with
  | nil => rfl
  | cons f _ ih =>
    have htail := ih (List.pairwise_cons.1 apart).2
    simp only [List.find?_cons, htail]
  | swap f g rest =>
    have hne := (List.pairwise_cons.1 apart).1 f List.mem_cons_self d
    simp only [List.find?_cons]
    cases hf : f.supports d with
    | false => rfl
    | true =>
      cases hg : g.supports d with
      | false => rfl
      | true => exact absurd ⟨hg, hf⟩ hne
  | trans first _ ih ih' => exact (ih apart).trans (ih' ((first.pairwise_iff symmetric).1 apart))

theorem resolve_congr
    (same : ∀ d, factories.find? (fun f => f.supports d) = others.find? fun f => f.supports d)
    (ds : List Descriptor) : resolve factories ds = resolve others ds := by
  induction ds with
  | nil => rfl
  | cons d ds ih => simp only [resolve, same d, ih]

end

/-! ## What is built -/

/-- The mount of an engine: as it is given, without the slashes around it, or else the name of the
kind. -/
def mountName (d : Descriptor) (kind : Kind) : String :=
  if Text.trimSlashes (d.backend.getD "") = "" then kind.name else Text.trimSlashes (d.backend.getD "")

theorem mount_eq (d : Descriptor) (kind : Kind) : d.mount kind = mountName d kind := by
  unfold Descriptor.mount mountName
  cases d.backend with
  | none => rfl
  | some mount =>
    by_cases bare : Text.trimSlashes mount = ""
    · simp [bare, Option.filter]
    · simp [bare, Option.filter]

theorem role?_eq_some_iff {d : Descriptor} {role : String} :
    d.role? = some role ↔ role = Text.trim (d.role.getD "") ∧ Text.trim (d.role.getD "") ≠ "" := by
  unfold Descriptor.role?
  cases d.role with
  | none => simp [Text.trim, Text.strip]
  | some given => exact Text.trimmed?_eq_some_iff

namespace Credentials

/-- What stands between mount and role in the path of credentials. -/
def folder (isStatic : Bool) : String := if isStatic then "/static-creds/" else "/creds/"

theorem brace_notMem_folder (isStatic : Bool) : '\x7b' ∉ (folder isStatic).toList := by
  cases isStatic with
  | true => decide
  | false => decide

theorem toList_pathTemplate (isStatic : Bool) : (pathTemplate isStatic).toList =
    '\x7b' :: "backend".toList ++ '\x7d' :: ((folder isStatic).toList ++
      ('\x7b' :: "role".toList ++ '\x7d' :: [])) := by
  cases isStatic with
  | true => decide
  | false => decide

/-- The path of credentials. Braces in the mount or the role are not looked at again. -/
theorem expand_pathTemplate (isStatic : Bool) (mount role : String) :
    Template.expand (pathTemplate isStatic) (.ofPairs [("backend", mount), ("role", role)]) =
      mount ++ folder isStatic ++ role := by
  let values : Properties := .ofPairs [("backend", mount), ("role", role)]
  have hmount : values[String.ofList "backend".toList]? = some mount :=
    (Properties.getElem?_ofPairs_iff _ _ _).2 ⟨[], [("role", role)], by simp, by simp⟩
  have hrole : values[String.ofList "role".toList]? = some role :=
    (Properties.getElem?_ofPairs_iff _ _ _).2 ⟨[("backend", mount)], [], by simp, by simp⟩
  have expanded : Template.expandChars values (pathTemplate isStatic).toList =
      mount.toList ++ ((folder isStatic).toList ++ role.toList) := by
    rw [toList_pathTemplate, Template.expandChars_place _ (by decide), Template.fill_of_value _ hmount,
      Template.expandChars_text _ (brace_notMem_folder isStatic), Template.expandChars_place _ (by decide),
      Template.fill_of_value _ hrole, Template.expandChars_nil, List.append_nil]
  rw [← String.toList_inj, Template.expand, String.toList_ofList, expanded, String.toList_append,
    String.toList_append, List.append_assoc]

/-- What is built for a descriptor of a kind: the path, the order, and where each field goes. -/
structure Issues (c : Credentials) (d : Descriptor) (kind : Kind) (entry : Entry) : Prop where
  name : entry.name =
    mountName d kind ++ folder (d.staticRole && kind.isDatabase) ++ Text.trim (d.role.getD "")
  order : entry.order = d.order
  field : ∀ key ∈ c.fields,
    entry.transform.newKey key = d.propertyNames[key]?.getD (defaultProperty kind key)
  other : ∀ key ∉ c.fields, entry.transform.newKey key = d.propertyNames[key]?.getD key
  transforms : ∀ properties, entry.transform.apply properties =
    .ofPairs (properties.toList.map fun x => (entry.transform.newKey x.1, x.2))

theorem getElem?_names (c : Credentials) (kind : Kind) (d : Descriptor) (key : String) :
    (c.names kind d)[key]? =
      d.propertyNames[key]?.or (if key ∈ c.fields then some (defaultProperty kind key) else none) := by
  rw [names, Properties.getElem?_extend, Properties.ofPairs_toList, Properties.getElem?_ofPairs_map]

section
variable {c : Credentials} {d : Descriptor} {kind : Kind} {entry : Entry}

/-- A descriptor of a kind is built just when it has a role. -/
theorem build_ok_iff (named : Names d kind) : c.build d = .ok entry ↔
    Text.trim (d.role.getD "") ≠ "" ∧ entry =
      { name := mountName d kind ++ folder (d.staticRole && c.staticRoles) ++ Text.trim (d.role.getD "")
        transform := .rename (c.names kind d)
        values := .ofPairs [("backend", mountName d kind), ("role", Text.trim (d.role.getD ""))]
        order := d.order } := by
  have hkind := builtinKind?_eq_some_iff.2 named
  cases hrole : d.role? with
  | none =>
    have blank : ¬ Text.trim (d.role.getD "") ≠ "" := by
      intro shown
      rw [role?_eq_some_iff.2 ⟨rfl, shown⟩] at hrole
      cases hrole
    simp [build, hkind, hrole, blank]
  | some role =>
    obtain ⟨rfl, shown⟩ := role?_eq_some_iff.1 hrole
    simp only [build, hkind, hrole, mount_eq, expand_pathTemplate, Except.ok.injEq, ne_eq, shown,
      not_false_eq_true, true_and]
    exact eq_comm

theorem build_issues (hc : c ∈ all) (mem : kind ∈ c.kinds) (named : Names d kind)
    (built : c.build d = .ok entry) : c.Issues d kind entry := by
  obtain ⟨-, rfl⟩ := (build_ok_iff named).1 built
  refine ⟨?_, rfl, fun key hkey => ?_, fun key hkey => ?_, fun properties => rfl⟩
  · rw [staticRoles_eq c hc kind mem]
  · rw [Transform.newKey, getElem?_names, if_pos hkey]
    cases d.propertyNames[key]? with
    | none => rfl
    | some name => rfl
  · rw [Transform.newKey, getElem?_names, if_neg hkey, Option.or_none]

end

end Credentials

/-- The built-in factories share no descriptor, support those whose kind is built in, and resolve
alike in any order. One that supports a descriptor builds an entry for it just when the descriptor
has a role, and that entry is read at mount and role as they are written. -/
theorem credentials_issued :
    Apart Factory.builtin ∧
    (∀ d, isSupported Factory.builtin d = true ↔ ∃ kind, Names d kind) ∧
    (∀ factories, factories.Perm Factory.builtin → ∀ ds,
      resolve factories ds = resolve Factory.builtin ds) ∧
    ∀ c ∈ Credentials.all, ∀ d, c.factory.supports d = true →
      ((∃ entry, c.factory.build d = .ok entry) ↔ Text.trim (d.role.getD "") ≠ "") ∧
      ∀ entry, c.factory.build d = .ok entry → ∃ kind, Names d kind ∧ c.Issues d kind entry := by
  refine ⟨builtin_apart, fun d => isSupported_builtin_iff, fun factories perm ds => ?_, ?_⟩
  · exact (resolve_congr (builtin_apart.find?_perm perm.symm) ds).symm
  · intro c hc d supports
    rw [Credentials.factory_supports, Credentials.supports_iff] at supports
    rw [Credentials.factory_build]
    obtain ⟨kind, named, mem⟩ := supports
    constructor
    · simp only [Credentials.build_ok_iff named, exists_and_left, exists_eq, and_true]
    · intro entry built
      exact ⟨kind, named, Credentials.build_issues hc mem named built⟩

/-- A static account of a database whose mount and role read like places of a template. -/
def braced : Descriptor where
  kind := " MySQL "
  enabled := true
  backend := some "/\x7brole\x7d/"
  role := some " \x7bbackend\x7d "
  staticRole := true
  order := 3
  propertyNames := .ofPairs [("password", "db.secret")]

theorem braced_issued :
    Credentials.database ∈ Credentials.all ∧ Credentials.database.factory.supports braced = true ∧
      ∃ entry, Credentials.database.factory.build braced = .ok entry ∧
        entry.name = "\x7brole\x7d/static-creds/\x7bbackend\x7d" ∧ entry.order = 3 ∧
        entry.transform.newKey "username" = "datasource.username" ∧
        entry.transform.newKey "password" = "db.secret" ∧
        entry.transform.newKey "expires" = "expires" := by
  have member : Credentials.database ∈ Credentials.all := List.mem_cons_self
  have claims : Credentials.database.factory.supports braced = true := by decide +kernel
  have names : Names braced .mysql := by
    unfold Names
    decide +kernel
  obtain ⟨-, -, -, issued⟩ := credentials_issued
  obtain ⟨succeeds, issues⟩ := issued _ member _ claims
  obtain ⟨entry, built⟩ := succeeds.2 (by decide +kernel)
  obtain ⟨kind, names', issues⟩ := issues entry built
  obtain rfl := names.unique names'
  refine ⟨member, claims, entry, built, ?_, issues.order, ?_, ?_, ?_⟩
  · exact issues.name.trans (by decide +kernel)
  · exact (issues.field "username" (by decide)).trans (by decide +kernel)
  · exact (issues.field "password" (by decide)).trans (by decide +kernel)
  · exact (issues.other "expires" (by decide)).trans (by decide +kernel)

end SecretLayers.Backend
