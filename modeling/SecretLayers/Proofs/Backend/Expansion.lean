import Mathlib.Data.List.TakeWhile
import Mathlib.Logic.Relation
import SecretLayers.Backend.Template
/-!
Expanding templates from the left: text before the first place stays, and a closed place is
filled whatever follows it. A scan goes over the template turn by turn and never comes back, so
what it has written for a place is not read again.
-/
namespace SecretLayers.Backend.Template
set_option autoImplicit false

variable (values : Properties)

theorem expandChars_nil : expandChars values [] = [] := by rw [expandChars]

theorem expandChars_cons {c : Char} (plain : c ≠ '\x7b') (rest : List Char) :
    expandChars values (c :: rest) = c :: expandChars values rest := by
  rw [expandChars, if_neg plain]

/-- Text without an opening brace is kept. -/
theorem expandChars_text {text : List Char} (plain : '\x7b' ∉ text) (rest : List Char) :
    expandChars values (text ++ rest) = text ++ expandChars values rest := by
  induction text with
  | nil => rfl
  | cons c text ih =>
    rw [List.mem_cons, not_or] at plain
    rw [List.cons_append, expandChars_cons values (Ne.symm plain.1), ih plain.2, List.cons_append]

theorem expandChars_plain {text : List Char} (plain : '\x7b' ∉ text) : expandChars values text = text := by
  have expands := expandChars_text values plain []
  rwa [expandChars_nil, List.append_nil] at expands

/-! ## Closing braces -/

theorem passes_of_notMem {mark : Char} {cs : List Char} (h : mark ∉ cs) :
    ∀ c ∈ cs, decide (c ≠ mark) = true :=
  fun _ hc => decide_eq_true fun same => h (same ▸ hc)

theorem closing?_place {name : List Char} (closed : '\x7d' ∉ name) (rest : List Char) :
    closing? (name ++ '\x7d' :: rest) = some (name, rest) := by
  rw [closing?, List.dropWhile_append_of_pos (passes_of_notMem closed),
    List.takeWhile_append_of_pos (passes_of_notMem closed)]
  simp

theorem closing?_of_unclosed {cs : List Char} (unclosed : '\x7d' ∉ cs) : closing? cs = none := by
  rw [closing?, List.dropWhile_eq_nil_iff.2 (passes_of_notMem unclosed)]

theorem closing?_eq_none_iff {cs : List Char} : closing? cs = none ↔ '\x7d' ∉ cs := by
  refine ⟨fun h mem => ?_, closing?_of_unclosed⟩
  obtain ⟨name, rest, rfl, ends⟩ := List.eq_append_cons_of_mem mem
  rw [closing?_place ends] at h
  cases h

theorem closing?_eq_some_iff {cs name rest : List Char} :
    closing? cs = some (name, rest) ↔ cs = name ++ '\x7d' :: rest ∧ '\x7d' ∉ name := by
  constructor
  · intro h
    by_cases mem : '\x7d' ∈ cs
    · obtain ⟨first, others, rfl, ends⟩ := List.eq_append_cons_of_mem mem
      rw [closing?_place ends] at h
      cases h
      exact ⟨rfl, ends⟩
    · rw [closing?_of_unclosed mem] at h
      cases h
  · rintro ⟨rfl, ends⟩
    exact closing?_place ends rest

/-- A closed place is filled, and what follows it is expanded for itself. -/
theorem expandChars_place {name : List Char} (closed : '\x7d' ∉ name) (rest : List Char) :
    expandChars values ('\x7b' :: name ++ '\x7d' :: rest) =
      fill values name ++ expandChars values rest := by
  rw [List.cons_append, expandChars, if_pos rfl, closing?_place closed rest]

theorem expandChars_unclosed {tail : List Char} (unclosed : '\x7d' ∉ tail) :
    expandChars values ('\x7b' :: tail) = '\x7b' :: tail := by
  rw [expandChars, if_pos rfl, closing?_of_unclosed unclosed]

theorem fill_of_value {name : List Char} {value : String}
    (h : values[String.ofList name]? = some value) : fill values name = value.toList := by
  rw [fill, h]

theorem fill_of_unnamed {name : List Char} (h : values[String.ofList name]? = none) :
    fill values name = '\x7b' :: name ++ ['\x7d'] := by
  rw [fill, h]

/-! ## Places -/

/-- A text that closes every place it opens. The name in a place goes up to the first closing brace,
whatever else is in it. -/
inductive Closed : List Char → Prop
  | nil : Closed []
  | text {c : Char} {rest : List Char} (plain : c ≠ '\x7b') (closed : Closed rest) : Closed (c :: rest)
  | place {name rest : List Char} (ends : '\x7d' ∉ name) (closed : Closed rest) :
      Closed ('\x7b' :: name ++ '\x7d' :: rest)

/-- A text opens a place with a name, and closes it. -/
inductive HasPlace (name : List Char) : List Char → Prop
  | here (ends : '\x7d' ∉ name) (rest : List Char) : HasPlace name ('\x7b' :: name ++ '\x7d' :: rest)
  | text {c : Char} {rest : List Char} (plain : c ≠ '\x7b') (later : HasPlace name rest) :
      HasPlace name (c :: rest)
  | place {other rest : List Char} (ends : '\x7d' ∉ other) (later : HasPlace name rest) :
      HasPlace name ('\x7b' :: other ++ '\x7d' :: rest)

/-- A text is closed, or behind a closed part of it a brace is opened and never closed. -/
theorem closed_or_unclosed (t : List Char) :
    Closed t ∨ ∃ before tail, t = before ++ '\x7b' :: tail ∧ Closed before ∧ '\x7d' ∉ tail := by
  fun_induction expandChars ∅ t with
  | case1 => exact .inl .nil
  | case2 cs h => exact .inr ⟨[], cs, rfl, .nil, closing?_eq_none_iff.1 h⟩
  | case3 cs name rest h ih =>
    obtain ⟨rfl, ends⟩ := closing?_eq_some_iff.1 h
    rcases ih with closed | ⟨before, tail, rfl, closed, unclosed⟩
    · exact .inl (.place ends closed)
    · exact .inr ⟨_, tail, by simp, .place ends closed, unclosed⟩
  | case4 c cs plain ih =>
    rcases ih with closed | ⟨before, tail, rfl, closed, unclosed⟩
    · exact .inl (.text plain closed)
    · exact .inr ⟨c :: before, tail, rfl, .text plain closed, unclosed⟩

theorem Closed.of_brace {tail : List Char} (h : Closed ('\x7b' :: tail)) :
    ∃ name rest, tail = name ++ '\x7d' :: rest ∧ '\x7d' ∉ name ∧ Closed rest := by
  generalize whole : '\x7b' :: tail = t at h
  cases h with
  | nil => cases whole
  | text plain closed => exact absurd (List.cons.inj whole).1.symm plain
  | @place name rest ends closed => exact ⟨name, rest, (List.cons.inj whole).2, ends, closed⟩

theorem Closed.of_cons {c : Char} {rest : List Char} (plain : c ≠ '\x7b') (h : Closed (c :: rest)) :
    Closed rest := by
  generalize whole : c :: rest = t at h
  cases h with
  | nil => cases whole
  | text _ closed => exact (List.cons.inj whole).2 ▸ closed
  | place ends closed => exact absurd (List.cons.inj whole).1 plain

/-- What follows a closed part of a closed text is closed. -/
theorem Closed.of_append {s t : List Char} (closed : Closed s) (h : Closed (s ++ t)) : Closed t := by
  induction closed with
  | nil => exact h
  | text plain _ ih => exact ih (h.of_cons plain)
  | @place name rest ends _ ih =>
    have split : '\x7b' :: name ++ '\x7d' :: rest ++ t = '\x7b' :: (name ++ '\x7d' :: (rest ++ t)) := by simp
    rw [split] at h
    obtain ⟨other, onward, same, otherEnds, closed⟩ := h.of_brace
    -- Both splits are at the first closing brace.
    have first := closing?_place ends (rest ++ t)
    rw [same, closing?_place otherEnds] at first
    cases first
    exact ih closed

/-- In a closed text, and in no other, each brace that is opened behind a closed part is closed. -/
theorem closed_iff {t : List Char} :
    Closed t ↔ ∀ before tail, t = before ++ '\x7b' :: tail → Closed before → '\x7d' ∈ tail := by
  constructor
  · rintro h before tail rfl closed
    obtain ⟨name, rest, rfl, -, -⟩ := (closed.of_append h).of_brace
    simp
  · intro h
    refine (closed_or_unclosed t).resolve_right ?_
    rintro ⟨before, tail, split, closed, unclosed⟩
    exact unclosed (h before tail split closed)

/-! ## What texts with places expand to -/

/-- A closed text and what follows it expand each for itself. -/
theorem expandChars_append {s : List Char} (closed : Closed s) (t : List Char) :
    expandChars values (s ++ t) = expandChars values s ++ expandChars values t := by
  induction closed with
  | nil => rw [expandChars_nil, List.nil_append, List.nil_append]
  | @text c rest plain closed ih =>
    rw [List.cons_append, expandChars_cons values plain, expandChars_cons values plain, ih,
      List.cons_append]
  | @place name rest ends closed ih =>
    calc expandChars values ('\x7b' :: name ++ '\x7d' :: rest ++ t)
        = expandChars values ('\x7b' :: name ++ '\x7d' :: (rest ++ t)) := by simp
      _ = fill values name ++ (expandChars values rest ++ expandChars values t) := by
        rw [expandChars_place values ends, ih]
      _ = expandChars values ('\x7b' :: name ++ '\x7d' :: rest) ++ expandChars values t := by
        rw [expandChars_place values ends, List.append_assoc]

/-- Where no place has the name of a value, nothing is replaced. -/
theorem expandChars_of_unnamed {t : List Char}
    (unnamed : ∀ name, HasPlace name t → values[String.ofList name]? = none) :
    expandChars values t = t := by
  fun_induction expandChars values t with
  | case1 => rfl
  | case2 cs h => rfl
  | case3 cs name rest h ih =>
    obtain ⟨rfl, ends⟩ := closing?_eq_some_iff.1 h
    rw [fill_of_unnamed values (unnamed name (.here ends rest)),
      ih fun other later => unnamed other (.place ends later)]
    simp
  | case4 c cs plain ih => rw [ih fun name later => unnamed name (.text plain later)]

theorem expand_append {s : String} (closed : Closed s.toList) (t : String) :
    expand (s ++ t) values = expand s values ++ expand t values := by
  rw [expand, String.toList_append, expandChars_append values closed, String.ofList_append]
  rfl

theorem ofList_fill (name : String) : String.ofList (fill values name.toList) =
    values[name]?.getD ("\x7b" ++ name ++ "\x7d") := by
  cases named : values[name]? with
  | none =>
    rw [fill_of_unnamed values (by rw [String.ofList_toList, named]), Option.getD_none, ← String.toList_inj,
      String.toList_ofList]
    simp
  | some value =>
    rw [fill_of_value values (by rw [String.ofList_toList, named]), Option.getD_some, String.ofList_toList]

/-- A closed place gives its value, or itself where that has none. -/
theorem expand_place {name : String} (ends : '\x7d' ∉ name.toList) (t : String) :
    expand ("\x7b" ++ name ++ "\x7d" ++ t) values =
      values[name]?.getD ("\x7b" ++ name ++ "\x7d") ++ expand t values := by
  have read : ("\x7b" ++ name ++ "\x7d" ++ t).toList = '\x7b' :: name.toList ++ '\x7d' :: t.toList := by simp
  rw [expand, read, expandChars_place values ends, String.ofList_append, ofList_fill]
  rfl

theorem expand_empty : expand "" values = "" := by
  rw [expand, String.toList_empty, expandChars_nil, String.ofList_nil]

/-! ## The scan, turn by turn -/

/-- What a scan has written, and the text that it has still to read. -/
structure Scan where
  written : List Char
  rest : List Char

namespace Scan

/-- A turn of a scan goes to the next opening brace and past the place that begins there, or past all
the text where that is never closed. Without such a brace there is no further turn. -/
def turn? (s : Scan) : Option Scan :=
  match s.rest.dropWhile (· ≠ '\x7b') with
  | [] => none
  | brace :: after =>
    let before := s.written ++ s.rest.takeWhile (· ≠ '\x7b')
    match closing? after with
    | some (name, rest) => some ⟨before ++ fill values name, rest⟩
    | none => some ⟨before ++ brace :: after, []⟩

/-- The scans that turns lead to from a scan. -/
def Turns (s s' : Scan) : Prop := Relation.ReflTransGen (fun a b => a.turn? values = some b) s s'

/-- What there is at the end of a scan: what it has written, and what is left behind the last place. -/
def result (s : Scan) : String := String.ofList (s.written ++ s.rest)

theorem turn?_plain {text : List Char} (plain : '\x7b' ∉ text) (written : List Char) :
    turn? values ⟨written, text⟩ = none := by
  rw [turn?, List.dropWhile_eq_nil_iff.2 (passes_of_notMem plain)]

theorem turn?_brace {text : List Char} (plain : '\x7b' ∉ text) (written after : List Char) :
    turn? values ⟨written, text ++ '\x7b' :: after⟩ = match closing? after with
      | some (name, rest) => some ⟨written ++ text ++ fill values name, rest⟩
      | none => some ⟨written ++ text ++ '\x7b' :: after, []⟩ := by
  rw [turn?, List.dropWhile_append_of_pos (passes_of_notMem plain),
    List.takeWhile_append_of_pos (passes_of_notMem plain)]
  simp

/-- What a turn leaves to be read is the end of what there was, whatever the turn writes. -/
theorem suffix_of_turn? {s s' : Scan} (h : s.turn? values = some s') : s'.rest <:+ s.rest := by
  obtain ⟨written, text⟩ := s
  by_cases mem : '\x7b' ∈ text
  · obtain ⟨before, after, rfl, plain⟩ := List.eq_append_cons_of_mem mem
    rw [turn?_brace values plain] at h
    split at h
    · rename_i name rest hclosing
      obtain ⟨rfl, -⟩ := closing?_eq_some_iff.1 hclosing
      obtain rfl := Option.some.inj h
      exact ⟨before ++ '\x7b' :: name ++ ['\x7d'], by simp⟩
    · obtain rfl := Option.some.inj h
      exact List.nil_suffix
  · rw [turn?_plain values mem] at h
    cases h

theorem Turns.suffix {s s' : Scan} (h : s.Turns values s') : s'.rest <:+ s.rest := by
  induction h with
  | refl => exact List.suffix_rfl
  | tail _ turn ih => exact (suffix_of_turn? values turn).trans ih

/-- A scan ends, with what it had written and the expansion of what it had still to read. -/
theorem exists_last (written text : List Char) :
    ∃ s, Turns values ⟨written, text⟩ s ∧ s.turn? values = none ∧
      s.result = String.ofList (written ++ expandChars values text) := by
  -- What is left to be read gets shorter with every turn.
  induction hn : text.length using Nat.strongRecOn generalizing written text with
  | ind n ih =>
    by_cases mem : '\x7b' ∈ text
    · obtain ⟨before, after, rfl, plain⟩ := List.eq_append_cons_of_mem mem
      have turn := turn?_brace values plain written after
      cases hclosing : closing? after with
      | none =>
        rw [hclosing] at turn
        refine ⟨_, .single turn, turn?_plain values List.not_mem_nil _, ?_⟩
        rw [expandChars_text values plain, expandChars_unclosed values (closing?_eq_none_iff.1 hclosing)]
        simp [result]
      | some place =>
        obtain ⟨name, rest⟩ := place
        rw [hclosing] at turn
        obtain ⟨rfl, ends⟩ := closing?_eq_some_iff.1 hclosing
        have shorter : rest.length < n := by
          rw [← hn, List.length_append, List.length_cons, List.length_append, List.length_cons]
          omega
        obtain ⟨s, turns, last, hresult⟩ := ih rest.length shorter _ rest rfl
        refine ⟨s, turns.head turn, last, ?_⟩
        have expands := expandChars_place values ends rest
        rw [List.cons_append] at expands
        rw [hresult, expandChars_text values plain, expands]
        simp
    · refine ⟨_, .refl, turn?_plain values mem written, ?_⟩
      rw [expandChars_plain values mem, result]

end Scan

/-! ## Templates -/

/-- A template is read once, from the left: closed parts of it expand each for itself, a place to its
value as that is written, and all the rest to itself. -/
structure ReadsOnce : Prop where
  ends (t : String) : ∃ s, Scan.Turns values ⟨[], t.toList⟩ s ∧ s.turn? values = none ∧
    s.result = expand t values
  onward (t : String) (s : Scan) : Scan.Turns values ⟨[], t.toList⟩ s → s.rest <:+ t.toList
  plain (t : String) : '\x7b' ∉ t.toList → expand t values = t
  closed (t : List Char) :
    Closed t ↔ ∀ before tail, t = before ++ '\x7b' :: tail → Closed before → '\x7d' ∈ tail
  append (s t : String) : Closed s.toList → expand (s ++ t) values = expand s values ++ expand t values
  place (name : String) : '\x7d' ∉ name.toList →
    expand ("\x7b" ++ name ++ "\x7d") values = values[name]?.getD ("\x7b" ++ name ++ "\x7d")
  unclosed (s tail : String) : Closed s.toList → '\x7d' ∉ tail.toList →
    expand (s ++ "\x7b" ++ tail) values = expand s values ++ "\x7b" ++ tail
  value (s name value t : String) : Closed s.toList → '\x7d' ∉ name.toList → values[name]? = some value →
    expand (s ++ ("\x7b" ++ name ++ "\x7d" ++ t)) values = expand s values ++ (value ++ expand t values)
  unnamed (t : String) : (∀ name, HasPlace name t.toList → values[String.ofList name]? = none) →
    expand t values = t

/-- For every map of values, expanding a template is a scan that ends, reads the template once and
does not look at the values it has put in. -/
theorem template_read_once : ReadsOnce values where
  ends t := Scan.exists_last values [] t.toList
  onward t s turns := turns.suffix
  plain t plain := by rw [expand, expandChars_plain values plain, String.ofList_toList]
  closed t := closed_iff
  append s t closed := expand_append values closed t
  place name ends := by
    have expands := expand_place values ends ""
    rwa [expand_empty, String.append_empty, String.append_empty] at expands
  unclosed s tail closed unclosed := by
    have read : ("\x7b" ++ tail).toList = '\x7b' :: tail.toList := by simp
    have kept : expand ("\x7b" ++ tail) values = "\x7b" ++ tail := by
      rw [expand, read, expandChars_unclosed values unclosed, ← read, String.ofList_toList]
    rw [String.append_assoc, expand_append values closed, kept, String.append_assoc]
  value s name value t closed ends named := by
    rw [expand_append values closed, expand_place values ends, named, Option.getD_some]
  unnamed t unnamed := by rw [expand, expandChars_of_unnamed values unnamed, String.ofList_toList]

/-- Values that are themselves written with places. -/
def nested : Properties := .ofPairs [("mount", "\x7brole\x7d"), ("role", "\x7bmount")]

/-- Places in values stay, also where a brace of a value would close one of the template. -/
theorem nested_values_kept :
    Closed "v1/".toList ∧ '\x7d' ∉ "mount".toList ∧ nested["mount"]? = some "\x7brole\x7d" ∧
      expand "v1/\x7bmount\x7d/\x7brole\x7d\x7d" nested = "v1/\x7brole\x7d/\x7bmount\x7d" := by
  have front : Closed "v1/".toList := .text (by decide) (.text (by decide) (.text (by decide) .nil))
  have slash : Closed "/".toList := .text (by decide) .nil
  have mount : nested["mount"]? = some "\x7brole\x7d" := by decide +kernel
  have role : nested["role"]? = some "\x7bmount" := by decide +kernel
  have read := template_read_once nested
  have first := read.value "v1/" "mount" _ "/\x7brole\x7d\x7d" front (by decide) mount
  have second := read.value "/" "role" _ "\x7d" slash (by decide) role
  refine ⟨front, by decide, mount, first.trans ?_⟩
  have onward : expand "/\x7brole\x7d\x7d" nested = "/\x7bmount\x7d" := by
    refine second.trans ?_
    rw [read.plain "/" (by decide), read.plain "\x7d" (by decide)]
    decide
  rw [read.plain "v1/" (by decide), onward]
  decide

end SecretLayers.Backend.Template
