import Mathlib.Data.Bool.AllAny
import Mathlib.Data.List.TakeWhile
import SecretLayers.Yaml.Printer
import SecretLayers.Yaml.Text
/-!
Places in what is written: a cursor stands before a text, and passes blanks and line breaks up to the
first character of a word.
-/
namespace SecretLayers.Yaml
set_option autoImplicit false

/-! ## Places -/

namespace Cursor

/-- A cursor before a text, at a column of its line. -/
structure At (c : Cursor) (rest : List Char) (column : Nat) : Prop where
  rest : c.rest = rest
  column : c.column = column

variable {c : Cursor} {rest : List Char} {d : Char} {k : Nat}

theorem skip_skip (c : Cursor) (m n : Nat) : (c.skip m).skip n = c.skip (m + n) := by
  simp only [skip, List.drop_drop, Nat.add_assoc]

theorem At.skip (cs : List Char) (h : c.At (cs ++ rest) k) : (c.skip cs.length).At rest (k + cs.length) :=
  ⟨by rw [Cursor.skip, h.rest, List.drop_left], by rw [Cursor.skip, h.column]⟩

theorem At.skip_one (h : c.At (d :: rest) k) : c.skip.At rest (k + 1) := h.skip [d]

theorem At.skip_blanks (n : Nat) (h : c.At (List.replicate n ' ' ++ rest) k) : (c.skip n).At rest (k + n) := by
  have passed := h.skip (List.replicate n ' ')
  rwa [List.length_replicate] at passed

/-- The line breaks that are kept as they are. -/
def keptBreaks : List Char := ['\n', '\u2028', '\u2029']

theorem At.readBreak (kept : d ∈ keptBreaks) (h : c.At (d :: rest) k) :
    c.readBreak.1 = [d] ∧ c.readBreak.2.At rest 0 := by
  simp only [keptBreaks, List.mem_cons, List.not_mem_nil, or_false] at kept
  unfold Cursor.readBreak
  rw [h.rest]
  rcases kept with rfl | rfl | rfl
  · exact ⟨rfl, rfl, rfl⟩
  · exact ⟨rfl, rfl, rfl⟩
  · exact ⟨rfl, rfl, rfl⟩

end Cursor

open Cursor

theorem mem_keptBreaks_of_isShown {d : Char} (shown : isShown d = true) (h : isBreak d = true) :
    d ∈ keptBreaks := by
  simp only [isBreak, Bool.or_eq_true, beq_iff_eq] at h
  rcases h with (((rfl | rfl) | rfl) | rfl) | rfl
  · decide
  · cases shown
  · cases shown
  · decide
  · decide

theorem isBreak_of_mem_keptBreaks {d : Char} (h : d ∈ keptBreaks) : isBreak d = true := by
  have all : ∀ d ∈ keptBreaks, isBreak d = true := List.all_iff_forall_prop.1 (by decide)
  exact all d h

/-- Neither a gap nor a line break stands first, if anything does. -/
def Settled (cs : List Char) : Prop := ∀ d ds, cs = d :: ds → isGap d = false ∧ isBreak d = false

theorem settled_nil : Settled [] := fun _ _ h => by cases h

theorem settled_cons {d : Char} (gap : isGap d = false) (line : isBreak d = false) (cs : List Char) :
    Settled (d :: cs) := fun _ _ h => by
  obtain ⟨rfl, -⟩ := List.cons.inj h
  exact ⟨gap, line⟩

/-- What a scanner takes for the start of a token, if anything is left. -/
structure Word (cs : List Char) : Prop where
  settled : Settled cs
  uncommented : cs.head? ≠ some '#'
  /-- A byte order mark may stand before a line, and is passed there. -/
  unmarked : cs.head? ≠ some '\uFEFF'

theorem word_nil : Word [] := ⟨settled_nil, (fun h => by cases h), (fun h => by cases h)⟩

theorem word_cons {d : Char} (gap : isGap d = false) (line : isBreak d = false) (comment : d ≠ '#')
    (mark : d ≠ '\uFEFF') (cs : List Char) : Word (d :: cs) :=
  ⟨settled_cons gap line cs, fun h => comment (Option.some.inj h), fun h => mark (Option.some.inj h)⟩

/-- What follows the line of a scalar: blanks up to one of the first columns, and then a word. -/
structure Next (after : List Char) (column : Nat) (word : List Char) : Prop extends Word word where
  split : after = List.replicate column ' ' ++ word
  low : column < 3

/-! ## Joints -/

section
variable {least fuel k : Nat} {j : Joint} {c : Cursor} {rest : List Char}

theorem readJoint?_settled (h : c.At rest k) (settled : Settled rest) :
    readJoint? least (fuel + 1) j c = some (j, c) := by
  rw [readJoint?, h.rest]
  cases rest with
  | nil => rfl
  | cons d ds =>
    obtain ⟨gap, line⟩ := settled d ds rfl
    simp only [gap, line, Bool.false_eq_true, if_false]

/-- The joint after some blanks. -/
def Joint.addBlanks (j : Joint) (n : Nat) : Joint :=
  if j.broken then j else { j with gaps := j.gaps ++ List.replicate n ' ' }

theorem readJoint?_blanks (n : Nat) (h : c.At (List.replicate n ' ' ++ rest) k) (settled : Settled rest)
    (enough : n < fuel) : readJoint? least fuel j c = some (j.addBlanks n, c.skip n) := by
  induction n generalizing c j k fuel with
  | zero =>
    obtain ⟨fuel, rfl⟩ := Nat.exists_eq_add_one_of_ne_zero (Nat.ne_of_gt enough)
    have same : j.addBlanks 0 = j := by
      unfold Joint.addBlanks
      split
      · rfl
      · rw [List.replicate_zero, List.append_nil]
    rw [same]
    exact readJoint?_settled h settled
  | succ n ih =>
    obtain ⟨fuel, rfl⟩ := Nat.exists_eq_add_one_of_ne_zero (Nat.ne_of_gt (Nat.zero_lt_of_lt enough))
    rw [List.replicate_succ, List.cons_append] at h
    have onward := ih (j := j.addBlanks 1) h.skip_one (Nat.lt_of_succ_lt_succ enough)
    have more : (j.addBlanks 1).addBlanks n = j.addBlanks (n + 1) := by
      unfold Joint.addBlanks
      cases hb : j.broken <;> simp [hb, List.replicate_succ]
    rw [more, skip_skip, Nat.add_comm 1 n] at onward
    rw [readJoint?, h.rest]
    cases hb : j.broken <;> simpa [Joint.addBlanks, isGap, hb] using onward

/-- The joint after some line breaks. -/
def Joint.addBreaks (j : Joint) (bs : List Char) : Joint := bs.foldl (fun j b => j.addBreak [b]) j

theorem readJoint?_breaks (bs : List Char) (n : Nat) (kept : ∀ b ∈ bs, b ∈ keptBreaks) (some_breaks : bs ≠ [])
    (h : c.At (bs ++ (List.replicate n ' ' ++ rest)) k) (settled : Settled rest)
    (enough : bs.length + n < fuel) :
    ∃ c', readJoint? least fuel j c = some (j.addBreaks bs, c') ∧ c'.At rest n := by
  induction bs generalizing c j k fuel with
  | nil => exact absurd rfl some_breaks
  | cons b bs ih =>
    obtain ⟨fuel, rfl⟩ := Nat.exists_eq_add_one_of_ne_zero (Nat.ne_of_gt (Nat.zero_lt_of_lt enough))
    obtain ⟨mark, others⟩ := List.forall_mem_cons.1 kept
    have step : readJoint? least (fuel + 1) j c = readJoint? least fuel (j.addBreak [b]) c.readBreak.2 := by
      have line := isBreak_of_mem_keptBreaks mark
      have gap : isGap b = false := by
        have all : ∀ d ∈ keptBreaks, isGap d = false := List.all_iff_forall_prop.1 (by decide)
        exact all b mark
      rw [readJoint?, h.rest, ← (At.readBreak mark h).1]
      simp only [List.cons_append, gap, line, Bool.false_eq_true, if_false, if_true]
    have next := (At.readBreak mark h).2
    rw [List.length_cons] at enough
    cases bs with
    | nil =>
      refine ⟨c.readBreak.2.skip n, ?_, ?_⟩
      · rw [step, readJoint?_blanks n next settled (by simp at enough; omega)]
        unfold Joint.addBreaks Joint.addBlanks Joint.addBreak
        cases hb : j.broken <;> simp [hb]
      · have passed := next.skip_blanks n
        rwa [Nat.zero_add] at passed
    | cons b' bs =>
      have onward : ∃ c', readJoint? least fuel (j.addBreak [b]) c.readBreak.2 =
          some ((j.addBreak [b]).addBreaks (b' :: bs), c') ∧ c'.At rest n :=
        ih others (List.cons_ne_nil _ _) next (by omega)
      obtain ⟨c', reads, at'⟩ := onward
      exact ⟨c', step.trans reads, at'⟩

theorem chars_addBlanks (n : Nat) : (Joint.addBlanks {} n).chars = List.replicate n ' ' := by
  simp [Joint.addBlanks, Joint.chars]

theorem addBreaks_of_broken (broken : j.broken = true) (bs : List Char) :
    j.addBreaks bs = { j with others := j.others ++ bs } := by
  induction bs generalizing j with
  | nil => simp [Joint.addBreaks]
  | cons b bs ih =>
    have first : j.addBreak [b] = { j with others := j.others ++ [b] } := by simp [Joint.addBreak, broken]
    have next := ih (j := j.addBreak [b]) (by rw [first]; exact broken)
    rw [first] at next
    simpa [Joint.addBreaks, first] using next

/-- Separators are kept: only a line feed is folded. -/
theorem chars_addBreaks {b : Char} (separator : b ≠ '\n') (bs : List Char) :
    (Joint.addBreaks {} (b :: bs)).chars = b :: bs := by
  have first : Joint.addBreaks {} (b :: bs) = Joint.addBreaks { broken := true, first := [b] } bs := rfl
  rw [first, addBreaks_of_broken rfl]
  simp [Joint.chars, separator]

end

/-! ## Runs -/

/-- The blanks that a text starts with, and the rest of it. -/
theorem exists_blanks (cs : List Char) :
    ∃ n rest, cs = List.replicate n ' ' ++ rest ∧ rest.head? ≠ some ' ' ∧ (cs.head? = some ' ' → 0 < n) := by
  refine ⟨(cs.takeWhile (· == ' ')).length, cs.dropWhile (· == ' '), ?_, ?_, ?_⟩
  · have blanks : cs.takeWhile (· == ' ') = List.replicate (cs.takeWhile (· == ' ')).length ' ' := by
      refine List.eq_replicate_of_mem fun c hc => ?_
      simpa using List.mem_takeWhile_imp hc
    rw [← blanks, List.takeWhile_append_dropWhile]
  · have ends := List.head?_dropWhile_not (· == ' ') cs
    intro h
    rw [h] at ends
    cases ends
  · intro h
    cases cs with
    | nil => cases h
    | cons c cs =>
      obtain rfl := Option.some.inj h
      simp

/-- No line break stands first, if anything does. -/
def Unbroken (cs : List Char) : Prop := ∀ d ds, cs = d :: ds → isBreak d = false

/-- The line breaks that a text starts with, and the rest of it. -/
theorem exists_breaks (cs : List Char) : ∃ bs rest, cs = bs ++ rest ∧ (∀ b ∈ bs, isBreak b = true) ∧
    Unbroken rest ∧ (∀ d ds, cs = d :: ds → isBreak d = true → bs ≠ []) := by
  refine ⟨cs.takeWhile isBreak, cs.dropWhile isBreak, List.takeWhile_append_dropWhile.symm,
    fun b hb => List.mem_takeWhile_imp hb, ?_, ?_⟩
  · intro d ds h
    have ends := List.head?_dropWhile_not isBreak cs
    rw [h] at ends
    exact ends
  · rintro d ds rfl line
    simp [line]

end SecretLayers.Yaml
