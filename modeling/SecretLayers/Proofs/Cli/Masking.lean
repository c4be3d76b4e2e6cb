import Mathlib.Data.List.Forall2
import Mathlib.Data.List.Sort
import Mathlib.Data.String.Basic
import SecretLayers.Cli.Render
import SecretLayers.Proofs.Json.Reading
import SecretLayers.Proofs.Properties.Lookup
import SecretLayers.Proofs.Yaml.Listing
/-!
What the output of a view tells.

Masked, it is a function of the names of the sources and of their keys. With values shown, it
has one row for each key in ascending order, whatever the format.
-/
namespace SecretLayers
set_option autoImplicit false

namespace View

/-! ## Views that differ in values alone -/

/-- The same sources with the same keys. Nothing is said of values and leases. -/
def SameShape (v w : View) : Prop :=
  List.Forall₂ (fun s t => s.name = t.name ∧ ∀ key, key ∈ s.properties ↔ key ∈ t.properties)
    v.sources w.sources

section
variable {v w : View} (same : SameShape v w)
include same

theorem SameShape.origin?_eq (key : String) : v.origin? key = w.origin? key := by
  unfold SameShape at same
  unfold origin?
  generalize v.sources = ss, w.sources = ts at same
  induction same with
  | nil => rfl
  | @cons s t ss ts hsource _ ih =>
    obtain ⟨hname, hkeys⟩ := hsource
    have hcontains : s.properties.contains key = t.properties.contains key := by
      rw [Bool.eq_iff_iff, Std.ExtTreeMap.contains_iff_mem, Std.ExtTreeMap.contains_iff_mem]
      exact hkeys key
    simp only [List.find?_cons, hcontains]
    cases t.properties.contains key with
    | true => simp [hname]
    | false => exact ih

theorem SameShape.keys_eq : v.keys = w.keys := by
  have hmem (key : String) : key ∈ v.keys ↔ key ∈ w.keys := by
    rw [keys, keys, Std.ExtTreeMap.mem_keys, Std.ExtTreeMap.mem_keys, mem_merged, mem_merged,
      same.origin?_eq key]
  exact v.keys_ascending.eq_of_mem_iff w.keys_ascending hmem

theorem SameShape.size_eq : v.size = w.size := List.Forall₂.length_eq same

end

end View

namespace Cli

/-! ## Rows of a view -/

theorem properties_masked (v : View) :
    properties v false = v.keys.map fun key => ⟨key, mask, (v.origin? key).getD ""⟩ := by
  rw [properties, View.keys, ← Std.ExtTreeMap.map_fst_toList_eq_keys, List.map_map]
  rfl

theorem properties_keys (v : View) (showValues : Bool) :
    (properties v showValues).map (·.key) = v.keys := by
  rw [properties, View.keys, ← Std.ExtTreeMap.map_fst_toList_eq_keys, List.map_map]
  rfl

theorem properties_shown {v : View} {row : Property} (h : row ∈ properties v true) :
    v.get? row.key = some row.value ∧ v.origin? row.key = some row.source := by
  obtain ⟨⟨key, value⟩, hmem, rfl⟩ := List.mem_map.1 h
  have hget : v.merged[key]? = some value := Std.ExtTreeMap.mem_toList_iff_getElem?_eq_some.1 hmem
  have horigin : (v.origin? key).isSome := by
    rw [← View.mem_merged, Std.ExtTreeMap.mem_iff_isSome_getElem?, hget]
    rfl
  obtain ⟨name, hname⟩ := Option.isSome_iff_exists.1 horigin
  constructor
  · rw [← View.getElem?_merged]
    exact hget
  · simp [hname]

theorem renderView_masked {v w : View} (same : v.SameShape w) (composedAt : String) (format : Format) :
    renderView v composedAt false format = renderView w composedAt false format := by
  have hrows : properties v false = properties w false := by
    rw [properties_masked, properties_masked, same.keys_eq]
    simp only [same.origin?_eq]
  simp only [renderView, hrows, same.size_eq]

/-! ## Rows in a text -/

def Property.json (p : Property) : Json :=
  .object [("key", .string p.key), ("source", .string p.source), ("value", .string p.value)]

/-- A record of YAML with the three members of a row, each of them a text that nothing else can be
read from. -/
def Property.Spelled (p : Property) (v : Yaml.Node) : Prop :=
  ∃ key value source : Yaml.Node,
    Yaml.Node.Says p.key key ∧ Yaml.Node.Says p.value value ∧ Yaml.Node.Says p.source source ∧
    v = .mapping [(.scalar "key" .plain none, key), (.scalar "value" .plain none, value),
      (.scalar "source" .plain none, source)] none

def heading : Property := { key := "KEY", value := "VALUE", source := "SOURCE" }

def blanks (n : Nat) : String := String.ofList (List.replicate n ' ')

/-- A line of a table. The first two columns have a width each, and at least two blanks between them and
the next one. -/
def Columns (keyWidth valueWidth : Nat) (row : Property) (line : String) : Prop :=
  ∃ n m, 2 ≤ n ∧ 2 ≤ m ∧ row.key.length + n = keyWidth ∧ row.value.length + m = valueWidth ∧
    line = row.key ++ blanks n ++ row.value ++ blanks m ++ row.source

/-- A text that has these rows and no other. A list of JSON or of YAML is told by what it reads as; a
table has a line for each row below its heading, each column being as wide in every line. -/
inductive Shows (rows : List Property) (footer : String) : Format → String → Prop
  | json {text : String} (read : Json.parse? text = some (.array (rows.map Property.json))) :
    Shows rows footer .json text
  | yaml {text : String} {nodes : List Yaml.Node} (read : Yaml.Node.parse? text = some (.sequence nodes none))
    (spelled : List.Forall₂ Property.Spelled rows nodes) : Shows rows footer .yaml text
  | table {keyWidth valueWidth : Nat} {lines : List String}
    (columns : List.Forall₂ (Columns keyWidth valueWidth) (heading :: rows) lines) :
    Shows rows footer .table (String.join (lines.map (· ++ "\n")) ++ "\n" ++ footer)

/-! ## JSON -/

def Cell.tree : Cell → Json.Tree
  | absent => .null
  | flag b => .bool b
  | text s => .string (some s)

def Row.tree (row : Row) : Json.Tree := .object (row.map fun (name, cell) => (some name, cell.tree))

theorem Cell.reads (cell : Cell) : Json.Reads cell.json cell.tree := by
  cases cell with
  | absent => exact Json.reads_null
  | flag b => exact Json.reads_bool b
  | text s => exact Json.reads_quote s

theorem Row.reads (row : Row) {margin : String} (blank : margin.toList.all Json.isSpace = true) :
    Json.Reads (row.json margin) row.tree := by
  have hlead : (margin ++ "  ").toList.all Json.isSpace = true := by
    rw [String.toList_append, List.all_append, blank]
    rfl
  have hmembers : ∀ member ∈ row.map fun (name, cell) => (name, cell.json, cell.tree),
      Json.Reads member.2.1 member.2.2 := by
    intro member hmember
    obtain ⟨⟨name, cell⟩, _, rfl⟩ := List.mem_map.1 hmember
    exact cell.reads
  have hread := Json.reads_object _ blank hlead hmembers
  rw [List.map_map, List.map_map] at hread
  exact hread

theorem listJson_reads (rows : List Row) : Json.Reads (listJson rows) (.array (rows.map Row.tree)) := by
  have hitems : ∀ item ∈ rows.map fun row => ("  " ++ row.json "  ", row.tree), Json.Reads item.1 item.2 := by
    intro item hitem
    obtain ⟨row, _, rfl⟩ := List.mem_map.1 hitem
    exact (row.reads rfl).blanks rfl
  have hread : Json.Reads (Json.block "[" "]" "" _) _ := Json.reads_array _ rfl hitems
  rw [List.map_map, List.map_map] at hread
  exact hread

theorem ofMembers_row (key value source : Json) :
    Json.ofMembers [("key", key), ("value", value), ("source", source)] =
      .object [("key", key), ("source", source), ("value", value)] := by
  have value_key : ¬ "value" < "key" ∧ "value" ≠ "key" := by decide
  have source_key : ¬ "source" < "key" ∧ "source" ≠ "key" := by decide
  have source_value : "source" < "value" := by decide
  simp only [Json.ofMembers, Json.sortMembers, List.foldl, Json.insertMember, if_neg value_key.1,
    if_neg value_key.2, if_neg source_key.1, if_neg source_key.2, if_pos source_value]

theorem values?_rows (rows : List Property) (room : Nat) :
    Json.Tree.values? (room + 1) ((rows.map Property.row).map Row.tree) = some (rows.map Property.json) := by
  induction rows with
  | nil => rfl
  | cons row rows ih =>
    have hrow : row.row.tree.value? (room + 1) = some row.json := by
      simp [Property.row, Row.tree, Cell.tree, Json.Tree.value?, Json.Tree.members?, ofMembers_row,
        Property.json]
    simp only [List.map_cons, Json.Tree.values?, hrow, ih, Option.bind_eq_bind, Option.bind_some]

theorem parse?_listJson (rows : List Property) :
    Json.parse? (listJson (rows.map Property.row)) = some (.array (rows.map Property.json)) := by
  have hroom : Json.depthLimit - 1 = 125 + 1 := rfl
  have hdepth : Json.depthLimit ≠ 0 := by decide
  rw [Json.parse?, (listJson_reads _).parse?]
  simp only [Option.bind_eq_bind, Option.bind_some, Json.Tree.value?, if_neg hdepth, hroom, values?_rows,
    Option.map_some]

/-! ## YAML -/

/-- A row as an item of a list. -/
def Property.item (p : Property) : Yaml.Item := (("key", p.key), [("value", p.value), ("source", p.source)])

theorem Property.named (p : Property) : p.item.Named := by
  have key : Yaml.Scanner.IsName "key".toList := ⟨by decide, by decide, List.all_iff_forall_prop.1 (by decide)⟩
  have value : Yaml.Scanner.IsName "value".toList := ⟨by decide, by decide, List.all_iff_forall_prop.1 (by decide)⟩
  have source : Yaml.Scanner.IsName "source".toList := ⟨by decide, by decide, List.all_iff_forall_prop.1 (by decide)⟩
  simp only [Yaml.Item.Named, Property.item, List.forall_mem_cons, List.not_mem_nil, IsEmpty.forall_iff, implies_true,
    and_true]
  exact ⟨key, value, source⟩

theorem Property.spelled_of_record {p : Property} {v : Yaml.Node} (record : Yaml.Node.Record p.item v) :
    p.Spelled v := by
  obtain ⟨members, rfl, same⟩ := record
  obtain ⟨⟨_, key⟩, _, ⟨rfl, says_key⟩, others, rfl⟩ := List.forall₂_cons_left_iff.1 same
  obtain ⟨⟨_, value⟩, _, ⟨rfl, says_value⟩, last, rfl⟩ := List.forall₂_cons_left_iff.1 others
  obtain ⟨⟨_, source⟩, _, ⟨rfl, says_source⟩, ends, rfl⟩ := List.forall₂_cons_left_iff.1 last
  obtain rfl := List.forall₂_nil_left_iff.1 ends
  exact ⟨key, value, source, says_key, says_value, says_source, rfl⟩

theorem toList_row (p : Property) : (Row.yaml "- " "  " p.row).toList = Yaml.itemText p.item := by
  simp [Property.row, Row.yaml, Cell.yaml, Yaml.itemText, Yaml.memberText, Yaml.othersText, Property.item]

theorem ending_row (p : Property) : ∃ ends, Yaml.Ending p.row.closing.toList ends := by
  have last : p.row.closing = Yaml.closingMark p.source := rfl
  rw [last, Yaml.closingMark]
  split
  · exact ⟨_, .marked⟩
  · exact ⟨_, .plain⟩

theorem toList_rows (rows : List Property) :
    (String.join ((rows.map Property.row).map (Row.yaml "- " "  "))).toList =
      (rows.map Property.item).flatMap Yaml.itemText := by
  rw [String.toList_join, List.map_map, List.flatMap_map, List.flatMap_map]
  exact List.flatMap_congr fun p _ => toList_row p

theorem listYaml_rows {rows : List Property} (some_rows : rows ≠ []) : listYaml (rows.map Property.row) =
    String.ofList ((rows.map Property.item).flatMap Yaml.itemText ++ (rows.getLast some_rows).row.closing.toList) := by
  have last : (rows.map Property.row).getLast? = some (rows.getLast some_rows).row := by
    rw [List.getLast?_map, List.getLast?_eq_getLast_of_ne_nil some_rows]
    rfl
  have filled : (rows.map Property.row).isEmpty = false := by simpa using some_rows
  rw [listYaml, filled, last, ← toList_rows, String.ofList_append, String.ofList_toList, String.ofList_toList]
  rfl

theorem shows_listYaml (rows : List Property) (footer : String) :
    Shows rows footer .yaml (listYaml (rows.map Property.row)) := by
  cases rows with
  | nil => exact .yaml Yaml.Node.parse?_empty .nil
  | cons row rows =>
    have some_rows : row :: rows ≠ [] := List.cons_ne_nil _ _
    have named : ∀ item ∈ row.item :: rows.map Property.item, item.Named := by
      intro item hitem
      rw [← List.map_cons] at hitem
      obtain ⟨p, _, rfl⟩ := List.mem_map.1 hitem
      exact p.named
    obtain ⟨ends, ending⟩ := ending_row ((row :: rows).getLast some_rows)
    obtain ⟨nodes, same, read⟩ := Yaml.Node.parse?_list named ending
    rw [← List.map_cons, List.forall₂_map_left_iff] at same
    rw [← List.map_cons, ← listYaml_rows some_rows] at read
    exact .yaml read (same.imp fun _ _ => Property.spelled_of_record)

/-! ## Tables -/

theorem length_le_bytes (s : String) : s.length ≤ s.utf8ByteSize := by
  induction s using String.push_induction with
  | empty => exact Nat.le_refl 0
  | push s c ih =>
    have hpos := c.utf8Size_pos
    rw [String.length_push, String.utf8ByteSize_push]
    omega

theorem le_columnWidth {s : String} {least : Nat} {texts : List String}
    (h : s ∈ texts ∨ s.utf8ByteSize ≤ least) : s.length ≤ columnWidth least texts := by
  induction texts generalizing least with
  | nil =>
    have hbytes := length_le_bytes s
    rcases h with h | h
    · cases h
    · exact hbytes.trans h
  | cons t texts ih =>
    refine ih ?_
    rcases h with h | h
    · rcases List.mem_cons.1 h with rfl | h
      · exact .inr (Nat.le_max_right _ _)
      · exact .inl h
    · exact .inr (h.trans (Nat.le_max_left _ _))

theorem append_blanks (m n : Nat) : blanks m ++ blanks n = blanks (m + n) := by
  rw [blanks, blanks, ← String.ofList_append, List.replicate_append_replicate, blanks]

/-- A line of the table without its end. -/
def lineOf (keyWidth valueWidth : Nat) (row : Property) : String :=
  row.key ++ blanks (keyWidth - row.key.length + 2) ++ row.value ++ blanks (valueWidth - row.value.length + 2) ++
    row.source

theorem tableLine_eq (keyWidth valueWidth : Nat) (row : Property) :
    tableLine keyWidth valueWidth row = lineOf keyWidth valueWidth row ++ "\n" := by
  have gap : "  " = blanks 2 := by decide
  have filled (width : Nat) (s : String) : padded width s = s ++ blanks (width - s.length) := rfl
  rw [tableLine, lineOf, filled, filled, gap, ← append_blanks, ← append_blanks]
  simp only [String.append_assoc]

theorem columns_lineOf {keyWidth valueWidth : Nat} {row : Property} (key : row.key.length ≤ keyWidth)
    (value : row.value.length ≤ valueWidth) :
    Columns (keyWidth + 2) (valueWidth + 2) row (lineOf keyWidth valueWidth row) :=
  ⟨keyWidth - row.key.length + 2, valueWidth - row.value.length + 2, by omega, by omega, by omega, by omega, rfl⟩

/-- What stands below a table. -/
def footer (properties sources : Nat) (composedAt : String) : String :=
  toString properties ++ " properties from " ++ toString sources ++ " sources (composed at " ++
    composedAt ++ ")\n"

theorem shows_table (rows : List Property) (sources : Nat) (composedAt : String) :
    Shows rows (footer rows.length sources composedAt) .table (table rows sources composedAt) := by
  have hkey {row : Property} (h : row ∈ rows) : row.key.length ≤ columnWidth 3 (rows.map (·.key)) :=
    le_columnWidth (.inl (List.mem_map_of_mem h))
  have hvalue {row : Property} (h : row ∈ rows) : row.value.length ≤ columnWidth 5 (rows.map (·.value)) :=
    le_columnWidth (.inl (List.mem_map_of_mem h))
  have hcolumns : List.Forall₂ (Columns (columnWidth 3 (rows.map (·.key)) + 2) (columnWidth 5 (rows.map (·.value)) + 2))
      (heading :: rows)
      ((heading :: rows).map (lineOf (columnWidth 3 (rows.map (·.key))) (columnWidth 5 (rows.map (·.value))))) := by
    rw [List.forall₂_map_right_iff, List.forall₂_same, List.forall_mem_cons]
    refine ⟨columns_lineOf ?_ ?_, fun row hrow => columns_lineOf (hkey hrow) (hvalue hrow)⟩
    · exact le_columnWidth (.inr (by decide))
    · exact le_columnWidth (.inr (by decide))
  have htable : Shows rows (footer rows.length sources composedAt) .table _ := .table hcolumns
  have hlines : (heading :: rows).map
      (tableLine (columnWidth 3 (rows.map (·.key))) (columnWidth 5 (rows.map (·.value)))) =
      ((heading :: rows).map (lineOf (columnWidth 3 (rows.map (·.key))) (columnWidth 5 (rows.map (·.value))))).map
        (· ++ "\n") := by
    rw [List.map_map]
    exact List.map_congr_left fun row _ => tableLine_eq _ _ row
  rw [← hlines] at htable
  simpa only [table, heading, footer, String.append_assoc] using htable

/-! ## Output of a view -/

theorem shows_view (v : View) (composedAt : String) (format : Format) :
    Shows (properties v true) (footer v.keys.length v.size composedAt) format
      (renderView v composedAt true format) := by
  have hlength : (properties v true).length = v.keys.length := by
    rw [← properties_keys v true, List.length_map]
  rw [← hlength]
  cases format with
  | json => exact .json (parse?_listJson _)
  | yaml => exact shows_listYaml _ _
  | table => exact shows_table _ _ _

/-- Masked, views that differ in values alone look the same. With values, each key has a row with the
value and the origin of the key. -/
theorem renderView_tells :
    (∀ (v w : View) (composedAt : String) (format : Format), v.SameShape w →
      renderView v composedAt false format = renderView w composedAt false format) ∧
    ∀ (v : View) (composedAt : String) (format : Format), ∃ rows : List Property,
      rows.map (·.key) = v.merged.keys ∧
      v.merged.keys.Pairwise (· < ·) ∧
      (∀ row ∈ rows, v.get? row.key = some row.value ∧ v.origin? row.key = some row.source) ∧
      Shows rows (footer v.merged.keys.length v.size composedAt) format
        (renderView v composedAt true format) := by
  constructor
  · intro v w composedAt format same
    exact renderView_masked same composedAt format
  · intro v composedAt format
    refine ⟨properties v true, properties_keys v true, v.keys_ascending, ?_, shows_view v composedAt format⟩
    intro row hrow
    exact properties_shown hrow

/-- Masked, not even the length of a password shows; with values, its row has it in every format. -/
theorem masked_passwords :
    let v : View := ⟨[{ name := "secret/orders", properties := Std.ExtTreeMap.empty.insert "password" "hunter2" }]⟩
    let w : View := ⟨[{ name := "secret/orders", properties := Std.ExtTreeMap.empty.insert "password" "x" }]⟩
    v.SameShape w ∧ v.get? "password" ≠ w.get? "password" ∧
      renderView v "now" false .table = renderView w "now" false .table ∧
      (∀ format, Shows [{ key := "password", value := "hunter2", source := "secret/orders" }] (footer 1 1 "now") format
        (renderView v "now" true format)) ∧
      renderView v "now" true .yaml = "- key: password\n  value: hunter2\n  source: secret/orders\n" ∧
      renderView v "now" true .table =
        "KEY       VALUE    SOURCE\npassword  hunter2  secret/orders\n\n1 properties from 1 sources (composed at now)\n" := by
  intro v w
  have same : v.SameShape w := by
    refine .cons ⟨rfl, ?_⟩ .nil
    intro key
    rw [Std.ExtTreeMap.mem_insert, Std.ExtTreeMap.mem_insert]
  have differ : v.get? "password" ≠ w.get? "password" := by
    simp [v, w, View.get?, Source.get?]
  have shown (format : Format) : Shows [{ key := "password", value := "hunter2", source := "secret/orders" }]
      (footer 1 1 "now") format (renderView v "now" true format) := by
    obtain ⟨rows, keys, -, cells, shows⟩ := renderView_tells.2 v "now" format
    have names : v.merged.keys = ["password"] := by decide +kernel
    have value : v.get? "password" = some "hunter2" := by decide +kernel
    have origin : v.origin? "password" = some "secret/orders" := by decide +kernel
    rw [names] at keys shows
    obtain ⟨⟨key, own, source⟩, rfl, rfl⟩ := List.map_eq_singleton_iff.1 keys
    obtain ⟨get, from_source⟩ := cells _ List.mem_cons_self
    obtain rfl := Option.some.inj (get.symm.trans value)
    obtain rfl := Option.some.inj (from_source.symm.trans origin)
    exact shows
  exact ⟨same, differ, renderView_tells.1 v w "now" .table same, shown, by decide +kernel, by decide +kernel⟩

end Cli
end SecretLayers
