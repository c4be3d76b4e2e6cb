import SecretLayers.Proofs.Yaml.Places
/-!
Literal blocks, read back. The lines of a block stand at the fourth column, whether the first of them
shows it or the header says so, and the mark of the header tells which of the line breaks at its end
belong to the text.
-/
namespace SecretLayers.Yaml
set_option autoImplicit false

open Cursor

/-! ## How blocks are written -/

/-- What happens to the line breaks at the end of a text that is written as a block. -/
def chompOf (cs : List Char) : Chomp :=
  match cs.reverse with
  | [] => .strip
  | [c] => if isBreak c then .keep else .strip
  | c :: d :: _ => if !isBreak c then .strip else if isBreak d then .keep else .clip

section
variable {margin : List Char}

theorem blockLines_line {line : List Char} (unbroken : ∀ d ∈ line, isBreak d = false) (rest : List Char) :
    blockLines margin false (line ++ rest) = line ++ blockLines margin false rest := by
  induction line with
  | nil => rfl
  | cons d ds ih =>
    obtain ⟨first, others⟩ := List.forall_mem_cons.1 unbroken
    rw [List.cons_append, blockLines, if_neg (by simp [first]), ih others]
    rfl

theorem blockLines_breaks {bs : List Char} (breaks : ∀ b ∈ bs, isBreak b = true) (rest : List Char) :
    blockLines margin true (bs ++ rest) = bs ++ blockLines margin true rest := by
  induction bs with
  | nil => rfl
  | cons b bs ih =>
    obtain ⟨first, others⟩ := List.forall_mem_cons.1 breaks
    rw [List.cons_append, blockLines, if_pos first, ih others, List.cons_append]

theorem blockLines_onlyBreaks {bs : List Char} (breaks : ∀ b ∈ bs, isBreak b = true) :
    blockLines margin true bs = bs := by
  have all : blockLines margin true (bs ++ []) = bs ++ [] := blockLines_breaks breaks []
  rwa [List.append_nil] at all

theorem blockLines_break {b : Char} (line : isBreak b = true) (rest : List Char) :
    blockLines margin false (b :: rest) = b :: blockLines margin true rest := by
  rw [blockLines, if_pos line]

theorem blockLines_char {d : Char} (line : isBreak d = false) (ds : List Char) :
    blockLines margin false (d :: ds) = d :: blockLines margin false ds :=
  blockLines_line (by simpa using line : ∀ e ∈ [d], isBreak e = false) ds

/-- The first character of a line stands behind the margin. -/
theorem blockLines_margin {d : Char} (line : isBreak d = false) (ds : List Char) :
    blockLines margin true (d :: ds) = margin ++ blockLines margin false (d :: ds) := by
  simp [blockLines, line]

theorem length_le_blockLines (fresh : Bool) (cs : List Char) : cs.length ≤ (blockLines margin fresh cs).length := by
  induction cs generalizing fresh with
  | nil => exact Nat.zero_le _
  | cons c cs ih =>
    rw [blockLines]
    split
    · exact Nat.succ_le_succ (ih true)
    · have shorter := ih false
      rw [List.length_append, List.length_cons, List.length_cons]
      omega

end

theorem chompOf_append {d : Char} (line : isBreak d = false) (front ds : List Char) :
    chompOf (front ++ d :: ds) = chompOf (d :: ds) := by
  unfold chompOf
  rw [List.reverse_append]
  cases ends : (d :: ds).reverse with
  | nil => simp at ends
  | cons x xs =>
    cases xs with
    | cons y ys => rfl
    | nil =>
      obtain rfl : d = x := by
        have single := congrArg List.reverse ends
        rw [List.reverse_reverse, List.reverse_singleton] at single
        exact (List.cons.inj single).1
      cases front.reverse with
      | nil => rfl
      | cons e es => simp [line]

/-- A text that ends within a line. -/
theorem chompOf_line {line : List Char} (unbroken : ∀ d ∈ line, isBreak d = false) : chompOf line = .strip := by
  unfold chompOf
  cases ends : line.reverse with
  | nil => rfl
  | cons x xs =>
    have last : isBreak x = false := by
      refine unbroken x ?_
      rw [← List.mem_reverse, ends]
      exact List.mem_cons_self
    cases xs with
    | nil => simp [last]
    | cons y ys => simp [last]

/-- A text that ends with a single line break behind a line. -/
theorem chompOf_break {line : List Char} {b : Char} (some_chars : line ≠ [])
    (unbroken : ∀ d ∈ line, isBreak d = false) (breaks : isBreak b = true) : chompOf (line ++ [b]) = .clip := by
  unfold chompOf
  rw [List.reverse_append, List.reverse_singleton, List.singleton_append]
  cases ends : line.reverse with
  | nil => exact absurd (List.reverse_eq_nil_iff.1 ends) some_chars
  | cons x xs =>
    have last : isBreak x = false := by
      refine unbroken x ?_
      rw [← List.mem_reverse, ends]
      exact List.mem_cons_self
    simp [breaks, last]

/-- A text that ends with several line breaks. -/
theorem chompOf_breaks (front : List Char) {b b' : Char} {bs : List Char}
    (breaks : ∀ d ∈ b :: b' :: bs, isBreak d = true) : chompOf (front ++ b :: b' :: bs) = .keep := by
  unfold chompOf
  rw [List.reverse_append]
  cases ends : (b :: b' :: bs).reverse with
  | nil => simp at ends
  | cons x xs =>
    have last (e : Char) (h : e ∈ x :: xs) : isBreak e = true := by
      refine breaks e ?_
      rw [← List.mem_reverse, ends]
      exact h
    cases xs with
    | nil =>
      have length := congrArg List.length ends
      simp at length
    | cons y ys => simp [last x List.mem_cons_self, last y (List.mem_cons_of_mem x List.mem_cons_self)]

/-- A text of line breaks. -/
theorem chompOf_all {bs : List Char} (breaks : ∀ b ∈ bs, isBreak b = true) (some_breaks : bs ≠ []) :
    chompOf bs = .keep := by
  cases bs with
  | nil => exact absurd rfl some_breaks
  | cons b bs =>
    cases bs with
    | nil => simp [chompOf, breaks b List.mem_cons_self]
    | cons b' bs => exact chompOf_breaks [] breaks

/-! ## Empty lines -/

section
variable {indent : Option Nat} {fuel farthest n : Nat} {breaks rest : List Char} {c : Cursor}

theorem takeWhile_blanks (n : Nat) {rest : List Char} (spaceless : rest.head? ≠ some ' ') :
    ((List.replicate n ' ' ++ rest).takeWhile (· == ' ')).length = n := by
  have blanks : ∀ c ∈ List.replicate n ' ', (c == ' ') = true := by
    intro c hc
    rw [List.eq_of_mem_replicate hc]
    rfl
  rw [List.takeWhile_append_of_pos blanks]
  cases rest with
  | nil => simp
  | cons d ds =>
    have other : d ≠ ' ' := fun same => spaceless (by rw [same]; rfl)
    simp [other]

/-- How many blanks the reader of empty lines passes. -/
def passedBlanks (indent : Option Nat) (c : Cursor) : Nat :=
  match indent with
  | some n => min (c.rest.takeWhile (· == ' ')).length (n - c.column)
  | none => (c.rest.takeWhile (· == ' ')).length

theorem readEmptyLines?_eq : readEmptyLines? indent (fuel + 1) farthest breaks c =
    if (c.skip (passedBlanks indent c)).rest.head? == some '\t' &&
        indent.all ((c.skip (passedBlanks indent c)).column < ·) then none
    else if (c.skip (passedBlanks indent c)).atBreak then
      readEmptyLines? indent fuel (max farthest (c.skip (passedBlanks indent c)).column)
        (breaks ++ (c.skip (passedBlanks indent c)).readBreak.1) (c.skip (passedBlanks indent c)).readBreak.2
    else some (max farthest (c.skip (passedBlanks indent c)).column, breaks, c.skip (passedBlanks indent c)) := by
  cases indent with
  | none => rfl
  | some n => rfl

/-- A line that is not empty: blanks up to some column, which is as far as the reader goes. -/
theorem readEmptyLines?_line (h : c.At (List.replicate n ' ' ++ rest) 0) (unbroken : Unbroken rest)
    (tabless : rest.head? ≠ some '\t') (passed : passedBlanks indent c = n) :
    readEmptyLines? indent (fuel + 1) farthest breaks c = some (max farthest n, breaks, c.skip n) := by
  have behind := h.skip_blanks n
  rw [Nat.zero_add] at behind
  have line : (c.skip n).atBreak = false := by
    rw [atBreak, behind.rest]
    cases rest with
    | nil => rfl
    | cons d ds => exact unbroken d ds rfl
  have tab : (rest.head? == some '\t') = false := by simpa using tabless
  rw [readEmptyLines?_eq, passed]
  simp only [behind.rest, behind.column, tab, line, Bool.false_and, Bool.false_eq_true, if_false]

theorem readEmptyLines?_break {b : Char} (kept : b ∈ keptBreaks) (h : c.At (b :: rest) 0) :
    readEmptyLines? indent (fuel + 1) farthest breaks c =
      readEmptyLines? indent fuel farthest (breaks ++ [b]) c.readBreak.2 := by
  have all : ∀ b ∈ keptBreaks, (b == ' ') = false ∧ (some b == some '\t') = false :=
    List.all_iff_forall_prop.1 (by decide)
  obtain ⟨spaceless, tabless⟩ := all b kept
  have spaces : (c.rest.takeWhile (· == ' ')).length = 0 := by
    rw [h.rest, List.takeWhile_cons_of_neg (by simp [spaceless])]
    rfl
  have stays : c.skip (passedBlanks indent c) = c := by
    have none_passed : passedBlanks indent c = 0 := by
      cases indent with
      | none => exact spaces
      | some m => rw [passedBlanks, spaces, Nat.zero_min]
    rw [none_passed]
    rfl
  have line : c.atBreak = true := by
    rw [atBreak, h.rest]
    exact isBreak_of_mem_keptBreaks kept
  have tab : (c.rest.head? == some '\t') = false := by
    rw [h.rest]
    exact tabless
  rw [readEmptyLines?_eq, stays]
  simp only [h.column, tab, line, Bool.false_and, Bool.false_eq_true, if_false, if_true, Nat.max_zero,
    (At.readBreak kept h).1]

/-- Empty lines, and the blanks of the next line. -/
theorem readEmptyLines?_breaks (bs : List Char) (kept : ∀ b ∈ bs, b ∈ keptBreaks)
    (h : c.At (bs ++ (List.replicate n ' ' ++ rest)) 0) (unbroken : Unbroken rest) (tabless : rest.head? ≠ some '\t')
    (passed : ∀ c : Cursor, c.At (List.replicate n ' ' ++ rest) 0 → passedBlanks indent c = n)
    (enough : bs.length < fuel) :
    ∃ c', readEmptyLines? indent fuel farthest breaks c = some (max farthest n, breaks ++ bs, c') ∧ c'.At rest n := by
  induction bs generalizing c fuel breaks with
  | nil =>
    obtain ⟨fuel, rfl⟩ := Nat.exists_eq_add_one_of_ne_zero (Nat.ne_of_gt enough)
    have behind := h.skip_blanks n
    rw [Nat.zero_add] at behind
    refine ⟨c.skip n, ?_, behind⟩
    rw [readEmptyLines?_line h unbroken tabless (passed c h), List.append_nil]
  | cons b bs ih =>
    obtain ⟨fuel, rfl⟩ := Nat.exists_eq_add_one_of_ne_zero (Nat.ne_of_gt (Nat.zero_lt_of_lt enough))
    obtain ⟨mark, others⟩ := List.forall_mem_cons.1 kept
    have onward : ∃ c', readEmptyLines? indent fuel farthest (breaks ++ [b]) c.readBreak.2 =
        some (max farthest n, breaks ++ [b] ++ bs, c') ∧ c'.At rest n :=
      ih others (At.readBreak mark h).2 (Nat.lt_of_succ_lt_succ enough)
    obtain ⟨c', reads, at'⟩ := onward
    refine ⟨c', ?_, at'⟩
    rw [readEmptyLines?_break mark h, reads, List.append_assoc, List.singleton_append]

end

/-! ## Lines of a block -/

section
variable {fuel k column : Nat} {c : Cursor} {after word : List Char}

/-- The column of a block is as far as blanks are passed. -/
theorem passedBlanks_margin {rest : List Char} (h : c.At (List.replicate 4 ' ' ++ rest) 0) :
    passedBlanks (some 4) c = 4 := by
  have blanks : ∀ d ∈ List.replicate 4 ' ', (d == ' ') = true := List.all_iff_forall_prop.1 (by decide)
  rw [passedBlanks, h.rest, h.column, List.takeWhile_append_of_pos blanks, List.length_append, List.length_replicate]
  omega

theorem passedBlanks_word {indent : Option Nat} {n : Nat} (h : c.At (List.replicate n ' ' ++ word) 0)
    (spaceless : word.head? ≠ some ' ') (within : ∀ m, indent = some m → n ≤ m) : passedBlanks indent c = n := by
  have count := takeWhile_blanks n spaceless
  cases indent with
  | none => rw [passedBlanks, h.rest, count]
  | some m =>
    have low := within m rfl
    rw [passedBlanks, h.rest, h.column, count]
    omega

theorem Settled.spaceless (settled : Settled word) : word.head? ≠ some ' ' ∧ word.head? ≠ some '\t' := by
  cases word with
  | nil => exact ⟨(fun h => by cases h), (fun h => by cases h)⟩
  | cons d ds =>
    have gap := (settled d ds rfl).1
    constructor
    · intro h
      obtain rfl := Option.some.inj h
      cases gap
    · intro h
      obtain rfl := Option.some.inj h
      cases gap

/-- Behind the line breaks of a block stands the next word, to the left of the block. -/
theorem readEmptyLines?_next {indent : Option Nat} {bs : List Char} (kept : ∀ b ∈ bs, b ∈ keptBreaks)
    (h : c.At (bs ++ after) 0) (next : Next after column word) (within : ∀ m, indent = some m → m = 4)
    (enough : bs.length < fuel) :
    ∃ c' farthest, readEmptyLines? indent fuel 0 [] c = some (farthest, bs, c') ∧ c'.At word column := by
  obtain ⟨spaceless, tabless⟩ := next.settled.spaceless
  rw [next.split] at h
  have passed (c : Cursor) (here : c.At (List.replicate column ' ' ++ word) 0) : passedBlanks indent c = column := by
    refine passedBlanks_word here spaceless fun m own => ?_
    rw [within m own]
    exact Nat.le_of_lt (Nat.lt_of_lt_of_le next.low (by omega))
  obtain ⟨c', reads, at'⟩ :=
    readEmptyLines?_breaks bs kept h (fun d ds split => (next.settled d ds split).2) tabless passed enough
  exact ⟨c', _, reads, at'⟩

/-- Behind the line breaks of a block stands its next line. -/
theorem readEmptyLines?_margin {bs : List Char} (kept : ∀ b ∈ bs, b ∈ keptBreaks) {d : Char} {ds : List Char}
    (h : c.At (bs ++ (List.replicate 4 ' ' ++ d :: ds)) 0) (line : isBreak d = false) (tabless : d ≠ '\t')
    (enough : bs.length < fuel) :
    ∃ c' farthest, readEmptyLines? (some 4) fuel 0 [] c = some (farthest, bs, c') ∧ c'.At (d :: ds) 4 := by
  have unbroken : Unbroken (d :: ds) := by
    intro e es split
    obtain ⟨rfl, -⟩ := List.cons.inj split
    exact line
  obtain ⟨c', reads, at'⟩ := readEmptyLines?_breaks bs kept h unbroken (fun tab => tabless (Option.some.inj tab))
    (fun c here => passedBlanks_margin here) enough
  exact ⟨c', _, reads, at'⟩

/-- The text of a block whose lines have been read. -/
def blockText (chomp : Chomp) (acc leading trailing : List Char) : String :=
  String.ofList (acc.reverse ++ match chomp with
    | .strip => []
    | .clip => leading
    | .keep => leading ++ trailing)

theorem readBlockLines?_end {chomp : Chomp} {acc leading trailing : List Char} {gap : Bool} (h : c.At word column)
    (low : column < 3) :
    readBlockLines? false 4 chomp (fuel + 1) acc leading trailing gap c =
      some (blockText chomp acc leading trailing, c) := by
  have outside : c.column ≠ 4 := by
    rw [h.column]
    omega
  rw [readBlockLines?.eq_def]
  dsimp only
  cases hr : c.rest with
  | nil => rfl
  | cons d ds =>
    dsimp only
    rw [if_neg outside]
    rfl

/-- A line is added with the line breaks before it; those behind it are kept apart. -/
theorem readBlockLines?_turn {line more bs : List Char} {e : Char} {farthest : Nat} {c' : Cursor}
    (h : c.At (line ++ e :: more) 4) (some_chars : line ≠ []) (unbroken : ∀ d ∈ line, isBreak d = false)
    (kept : e ∈ keptBreaks)
    (behind : readEmptyLines? (some 4) ((c.skip line.length).readBreak.2.rest.length + 1) 0 []
      (c.skip line.length).readBreak.2 = some (farthest, bs, c')) :
    ∃ gap', ∀ chomp fuel acc leading trailing gap,
      readBlockLines? false 4 chomp (fuel + 1) acc leading trailing gap c =
        readBlockLines? false 4 chomp fuel (line.reverse ++ ((leading ++ trailing).reverse ++ acc)) [e] bs gap' c' := by
  have breaks := isBreak_of_mem_keptBreaks kept
  have span : (c.span fun _ => true) = (line, c.skip line.length) := by
    have all : ∀ d ∈ line, (true && !isBreak d) = true := by
      intro d hd
      simp [unbroken d hd]
    have taken : c.rest.takeWhile (fun d => true && !isBreak d) = line := by
      rw [h.rest, List.takeWhile_append_of_pos all, List.takeWhile_cons_of_neg (by simp [breaks]), List.append_nil]
    rw [Cursor.span, taken]
  have read := At.readBreak kept (h.skip line)
  cases line with
  | nil => exact absurd rfl some_chars
  | cons d ds =>
    refine ⟨isGap d, fun chomp fuel acc leading trailing gap => ?_⟩
    rw [readBlockLines?.eq_def]
    simp only [h.rest, List.cons_append, h.column, if_true, span, read.1, behind, Bool.false_and, Bool.false_eq_true,
      if_false]

/-- The last line of a block, with the line breaks behind it. -/
theorem readBlockLines?_last {line bs : List Char} {e : Char} (h : c.At (line ++ e :: (bs ++ after)) 4)
    (some_chars : line ≠ []) (unbroken : ∀ d ∈ line, isBreak d = false) (kept : ∀ b ∈ e :: bs, b ∈ keptBreaks)
    (next : Next after column word) : ∃ c', c'.At word column ∧ ∀ chomp fuel acc leading trailing gap,
      readBlockLines? false 4 chomp (fuel + 2) acc leading trailing gap c =
        some (blockText chomp (line.reverse ++ ((leading ++ trailing).reverse ++ acc)) [e] bs, c') := by
  obtain ⟨first, others⟩ := List.forall_mem_cons.1 kept
  have below := (At.readBreak first (h.skip line)).2
  have empty : ∃ c' farthest, readEmptyLines? (some 4) ((c.skip line.length).readBreak.2.rest.length + 1) 0 []
      (c.skip line.length).readBreak.2 = some (farthest, bs, c') ∧ c'.At word column := by
    refine readEmptyLines?_next others below next (fun m own => (Option.some.inj own).symm) ?_
    rw [below.rest, List.length_append]
    omega
  obtain ⟨c', farthest, behind, at'⟩ := empty
  obtain ⟨gap', turn⟩ := readBlockLines?_turn h some_chars unbroken first behind
  exact ⟨c', at', fun chomp fuel acc leading trailing gap => by rw [turn, readBlockLines?_end at' next.low]⟩

/-- A line of a block that is followed by another, with the line breaks between them. -/
theorem readBlockLines?_onward {line bs ds : List Char} {d e : Char}
    (h : c.At (line ++ e :: (bs ++ (List.replicate 4 ' ' ++ d :: ds))) 4) (some_chars : line ≠ [])
    (unbroken : ∀ d ∈ line, isBreak d = false) (kept : ∀ b ∈ e :: bs, b ∈ keptBreaks) (starts : isBreak d = false)
    (tabless : d ≠ '\t') : ∃ c' gap', c'.At (d :: ds) 4 ∧ ∀ chomp fuel acc leading trailing gap,
      readBlockLines? false 4 chomp (fuel + 1) acc leading trailing gap c =
        readBlockLines? false 4 chomp fuel (line.reverse ++ ((leading ++ trailing).reverse ++ acc)) [e] bs gap' c' := by
  obtain ⟨first, others⟩ := List.forall_mem_cons.1 kept
  have below := (At.readBreak first (h.skip line)).2
  have empty : ∃ c' farthest, readEmptyLines? (some 4) ((c.skip line.length).readBreak.2.rest.length + 1) 0 []
      (c.skip line.length).readBreak.2 = some (farthest, bs, c') ∧ c'.At (d :: ds) 4 := by
    refine readEmptyLines?_margin others below starts tabless ?_
    rw [below.rest, List.length_append]
    omega
  obtain ⟨c', farthest, behind, at'⟩ := empty
  obtain ⟨gap', turn⟩ := readBlockLines?_turn h some_chars unbroken first behind
  exact ⟨c', gap', at', turn⟩

theorem mem_keptBreaks {cs : List Char} (shown : ∀ d ∈ cs, isShown d = true) {bs : List Char}
    (part : ∀ b ∈ bs, b ∈ cs) (breaks : ∀ b ∈ bs, isBreak b = true) : ∀ b ∈ bs, b ∈ keptBreaks :=
  fun b hb => mem_keptBreaks_of_isShown (shown b (part b hb)) (breaks b hb)

/-- A text is split into its first line, the line breaks behind that, and the lines after them. -/
theorem exists_line {d : Char} (line : isBreak d = false) (ds : List Char) :
    ∃ first bs rest, d :: ds = first ++ (bs ++ rest) ∧ first ≠ [] ∧ (∀ d ∈ first, isBreak d = false) ∧
      (∀ b ∈ bs, isBreak b = true) ∧ Unbroken rest ∧ (bs = [] → rest = []) := by
  obtain ⟨bs, rest, split, breaks, unbroken, some_breaks⟩ := exists_breaks ((d :: ds).dropWhile fun d => !isBreak d)
  have whole := List.takeWhile_append_dropWhile (p := fun d => !isBreak d) (l := d :: ds)
  refine ⟨(d :: ds).takeWhile fun d => !isBreak d, bs, rest, ?_, ?_, ?_, breaks, unbroken, ?_⟩
  · rw [← split, whole]
  · rw [List.takeWhile_cons_of_pos (by simp [line])]
    exact List.cons_ne_nil _ _
  · intro e he
    simpa using List.mem_takeWhile_imp he
  · rintro rfl
    rw [List.nil_append] at split
    cases hr : rest with
    | nil => rfl
    | cons e es =>
      have ends := List.head?_dropWhile_not (fun d => !isBreak d) (d :: ds)
      rw [split, hr] at ends
      have breaks' : isBreak e = true := by simpa using ends
      rw [unbroken e es hr] at breaks'
      cases breaks'

theorem ne_tab_of_isShown {d : Char} (shown : isShown d = true) : d ≠ '\t' := by
  rintro rfl
  cases shown

/-- The last line of a text, with the line breaks that the text ends in. -/
theorem readBlockLines?_final {first bs : List Char}
    (h : c.At (blockLines (List.replicate 4 ' ') false (first ++ bs) ++ after) 4) (some_chars : first ≠ [])
    (unbroken : ∀ d ∈ first, isBreak d = false) (kept : ∀ b ∈ bs, b ∈ keptBreaks) (next : Next after column word) :
    ∃ c', c'.At word column ∧ ∀ fuel acc leading trailing gap,
      readBlockLines? false 4 (chompOf (first ++ bs)) (fuel + 2) acc leading trailing gap c =
        some (String.ofList (acc.reverse ++ (leading ++ trailing ++ (first ++ bs))), c') := by
  rw [blockLines_line unbroken] at h
  cases bs with
  | nil =>
    -- The text ends within a line, which is ended by a line feed of its own.
    have ended : c.At (first ++ '\n' :: ([] ++ after)) 4 := by
      rw [List.append_assoc] at h
      exact h
    obtain ⟨c', at', reads⟩ :=
      readBlockLines?_last ended some_chars unbroken (List.all_iff_forall_prop.1 (by decide)) next
    refine ⟨c', at', fun fuel acc leading trailing gap => ?_⟩
    rw [List.append_nil, reads, chompOf_line unbroken, blockText]
    simp
  | cons b bs =>
    have breaks : ∀ b' ∈ b :: bs, isBreak b' = true := fun b' hb => isBreak_of_mem_keptBreaks (kept b' hb)
    obtain ⟨break_b, breaks_bs⟩ := List.forall_mem_cons.1 breaks
    rw [blockLines_break break_b, blockLines_onlyBreaks breaks_bs, List.append_assoc, List.cons_append] at h
    obtain ⟨c', at', reads⟩ := readBlockLines?_last h some_chars unbroken kept next
    refine ⟨c', at', fun fuel acc leading trailing gap => ?_⟩
    rw [reads]
    cases bs with
    | nil =>
      rw [chompOf_break some_chars unbroken break_b, blockText]
      simp
    | cons b' bs =>
      rw [chompOf_breaks first breaks, blockText]
      simp

/-- The lines of a block are read as the text from here on. -/
theorem readBlockLines?_text {d : Char} {ds : List Char}
    (h : c.At (blockLines (List.replicate 4 ' ') false (d :: ds) ++ after) 4) (line : isBreak d = false)
    (shown : ∀ e ∈ d :: ds, isShown e = true) (next : Next after column word) :
    ∃ c', c'.At word column ∧ ∀ fuel acc leading trailing gap, ds.length + 1 < fuel →
      readBlockLines? false 4 (chompOf (d :: ds)) fuel acc leading trailing gap c =
        some (String.ofList (acc.reverse ++ (leading ++ trailing ++ d :: ds)), c') := by
  -- A step reads a line; what is left of the text is shorter then.
  induction hlen : ds.length using Nat.strongRecOn generalizing d ds c with
  | ind len ih =>
    obtain ⟨first, bs, rest, split, some_chars, unbroken, breaks, starts, ends⟩ := exists_line line ds
    have kept : ∀ b ∈ bs, b ∈ keptBreaks := by
      refine mem_keptBreaks shown (fun b hb => ?_) breaks
      rw [split]
      exact List.mem_append_right _ (List.mem_append_left _ hb)
    cases rest with
    | nil =>
      rw [List.append_nil] at split
      rw [split] at h ⊢
      obtain ⟨c', at', reads⟩ := readBlockLines?_final h some_chars unbroken kept next
      refine ⟨c', at', fun fuel acc leading trailing gap enough => ?_⟩
      obtain ⟨fuel, rfl⟩ : ∃ n, fuel = n + 2 := ⟨fuel - 2, by omega⟩
      exact reads fuel acc leading trailing gap
    | cons e es =>
      cases bs with
      | nil => cases ends rfl
      | cons b bs =>
        obtain ⟨break_b, breaks_bs⟩ := List.forall_mem_cons.1 breaks
        have starts_e := starts e es rfl
        have shown_e : ∀ x ∈ e :: es, isShown x = true := by
          intro x hx
          refine shown x ?_
          rw [split]
          exact List.mem_append_right _ (List.mem_append_right _ hx)
        have opened : blockLines (List.replicate 4 ' ') false (e :: es) =
            e :: blockLines (List.replicate 4 ' ') false es := blockLines_char starts_e es
        have written : blockLines (List.replicate 4 ' ') false (d :: ds) = first ++ b :: (bs ++
            (List.replicate 4 ' ' ++ e :: blockLines (List.replicate 4 ' ') false es)) := by
          rw [split, blockLines_line unbroken, List.cons_append, blockLines_break break_b, blockLines_breaks breaks_bs,
            blockLines_margin starts_e, opened]
        rw [written, List.append_assoc, List.cons_append, List.append_assoc, List.append_assoc, List.cons_append] at h
        obtain ⟨c₁, gap₁, at₁, turn⟩ := readBlockLines?_onward h some_chars unbroken kept starts_e
          (ne_tab_of_isShown (shown_e e List.mem_cons_self))
        rw [← List.cons_append, ← opened] at at₁
        have lengths := congrArg List.length split
        have positive := List.length_pos_iff.2 some_chars
        simp only [List.length_append, List.length_cons] at lengths
        obtain ⟨c', at', reads⟩ := ih es.length (by omega) at₁ starts_e shown_e rfl
        refine ⟨c', at', fun fuel acc leading trailing gap enough => ?_⟩
        obtain ⟨fuel, rfl⟩ : ∃ n, fuel = n + 1 := ⟨fuel - 1, by omega⟩
        have same : chompOf (d :: ds) = chompOf (e :: es) := by
          rw [split, ← List.append_assoc, chompOf_append starts_e]
        rw [same, turn, reads _ _ _ _ _ (by omega), split]
        simp

end

/-! ## Whole blocks -/

def Chomp.mark : Chomp → String
  | strip => "-"
  | clip => ""
  | keep => "+"

theorem chompMark_eq (cs : List Char) : chompMark cs = (chompOf cs).mark := by
  unfold chompMark chompOf
  generalize cs.reverse = rs
  match rs with
  | [] => rfl
  | [c] => cases hc : isBreak c <;> simp [hc, Chomp.mark]
  | c :: d :: _ =>
    cases hc : isBreak c with
    | false => simp [hc, Chomp.mark]
    | true => cases hd : isBreak d <;> simp [hc, hd, Chomp.mark]

/-- The digit in the header of a block that starts with a blank or a line break. -/
def hintOf (cs : List Char) : String := if cs.head?.any fun c => isSpace c || isBreak c then "2" else ""

theorem literalBlock_eq (margin s : String) : literalBlock margin s =
    "|" ++ hintOf s.toList ++ chompMark s.toList ++ "\n" ++
      String.ofList (blockLines margin.toList true s.toList) := rfl

section
variable {k column : Nat} {c : Cursor} {after word : List Char}

/-- The header of a block, up to the end of its line. -/
theorem readBlockHeader?_written {hint : String} (hints : hint = "" ∨ hint = "2") (chomp : Chomp)
    (h : c.At (hint.toList ++ (chomp.mark.toList ++ '\n' :: after)) k) :
    ∃ c' k', readBlockHeader? c = some (chomp, if hint = "" then none else some 2, c') ∧
      c'.At ('\n' :: after) k' := by
  refine ⟨(c.skip hint.toList.length).skip chomp.mark.toList.length, _, ?_, (h.skip hint.toList).skip chomp.mark.toList⟩
  rw [readBlockHeader?, h.rest, skip_skip]
  rcases hints with rfl | rfl
  · cases chomp <;> rfl
  · cases chomp <;> rfl

/-- The column that the header of a block gives. -/
def givenOf (cs : List Char) : Option Nat := if hintOf cs = "" then none else some 4

/-- Behind the header stand the empty lines that a block starts with. -/
theorem readBlock?_open (cs : List Char)
    (h : c.At ((hintOf cs).toList ++ ((chompOf cs).mark.toList ++ '\n' :: after)) k) :
    ∃ c', c'.At after 0 ∧ ∀ farthest breaks next,
      readEmptyLines? (givenOf cs) (after.length + 1) 0 [] c' = some (farthest, breaks, next) →
        readBlock? false 3 c = readBlockLines? false ((givenOf cs).getD (max farthest 3)) (chompOf cs)
          (after.length + 1) [] [] breaks false next := by
  have hints : hintOf cs = "" ∨ hintOf cs = "2" := by
    unfold hintOf
    split
    · exact .inr rfl
    · exact .inl rfl
  obtain ⟨c₁, k₁, header, at₁⟩ := readBlockHeader?_written hints (chompOf cs) h
  have stays : (c₁.span isGap).2 = c₁ := by
    rw [Cursor.span, at₁.rest]
    rfl
  have below := (At.readBreak (by decide) at₁).2
  have given : Option.map (fun n => 3 - 1 + n) (if hintOf cs = "" then none else some 2) = givenOf cs := by
    unfold givenOf
    split
    · rfl
    · rfl
  have line : endsLine ('\n' :: after) = true := rfl
  have comment : (('\n' :: after).head? == some '#') = false := rfl
  refine ⟨c₁.readBreak.2, below, fun farthest breaks next reads => ?_⟩
  rw [← below.rest] at reads ⊢
  rw [readBlock?, header]
  simp only [Option.bind_eq_bind, Option.bind_some, stays, at₁.rest, comment, line, given, reads, Bool.false_eq_true,
    Bool.not_true, if_false]
  rfl

/-- The empty lines that a block starts with, up to its first word. -/
theorem readEmptyLines?_opening {bs ds : List Char} {d : Char} {fuel : Nat} (kept : ∀ b ∈ bs, b ∈ keptBreaks)
    (line : isBreak d = false) (tabless : d ≠ '\t')
    (h : c.At (bs ++ (List.replicate 4 ' ' ++ d :: after)) 0) (enough : bs.length < fuel) :
    ∃ c' farthest, readEmptyLines? (givenOf (bs ++ d :: ds)) fuel 0 [] c = some (farthest, bs, c') ∧
      c'.At (d :: after) 4 ∧ (givenOf (bs ++ d :: ds)).getD (max farthest 3) = 4 := by
  by_cases hint : hintOf (bs ++ d :: ds) = ""
  · -- The column is found: the text starts with a character of its first line.
    have given : givenOf (bs ++ d :: ds) = none := if_pos hint
    have first : bs = [] ∧ d ≠ ' ' := by
      cases bs with
      | nil =>
        refine ⟨rfl, ?_⟩
        rintro rfl
        exact absurd hint (by simp [hintOf, isSpace])
      | cons b bs =>
        have breaks := isBreak_of_mem_keptBreaks (kept b List.mem_cons_self)
        simp [hintOf, breaks] at hint
    obtain ⟨rfl, spaceless⟩ := first
    have spaces : (d :: after).head? ≠ some ' ' := fun same => spaceless (Option.some.inj same)
    have passed : passedBlanks none c = 4 := by
      rw [List.nil_append] at h
      exact passedBlanks_word h spaces (fun m own => by cases own)
    obtain ⟨fuel, rfl⟩ := Nat.exists_eq_add_one_of_ne_zero (Nat.ne_of_gt enough)
    have unbroken : Unbroken (d :: after) := by
      intro e es split
      obtain ⟨rfl, -⟩ := List.cons.inj split
      exact line
    have behind := At.skip_blanks 4 h
    refine ⟨c.skip 4, 4, ?_, behind, ?_⟩
    · rw [given]
      exact readEmptyLines?_line h unbroken (fun tab => tabless (Option.some.inj tab)) passed
    · rw [given]
      rfl
  · have given : givenOf (bs ++ d :: ds) = some 4 := if_neg hint
    obtain ⟨c', farthest, reads, at'⟩ := readEmptyLines?_margin kept h line tabless enough
    refine ⟨c', farthest, ?_, at', ?_⟩
    · rw [given]
      exact reads
    · rw [given]
      rfl

theorem givenOf_breaks {bs : List Char} (breaks : ∀ b ∈ bs, isBreak b = true) (some_breaks : bs ≠ []) :
    givenOf bs = some 4 := by
  cases bs with
  | nil => exact absurd rfl some_breaks
  | cons b bs =>
    have hint : hintOf (b :: bs) = "2" := by simp [hintOf, breaks b List.mem_cons_self]
    rw [givenOf, hint]
    rfl

/-- A block of nothing but line breaks, which are all kept. -/
theorem readBlock?_breaks {bs : List Char} (h : c.At ((hintOf bs).toList ++ ((chompOf bs).mark.toList ++
      '\n' :: (blockLines (List.replicate 4 ' ') true bs ++ after))) k) (some_breaks : bs ≠ [])
    (kept : ∀ b ∈ bs, b ∈ keptBreaks) (next : Next after column word) :
    ∃ c', readBlock? false 3 c = some (String.ofList bs, c') ∧ c'.At word column := by
  have breaks : ∀ b ∈ bs, isBreak b = true := fun b hb => isBreak_of_mem_keptBreaks (kept b hb)
  rw [blockLines_onlyBreaks breaks] at h
  obtain ⟨c₁, at₁, opens⟩ := readBlock?_open bs h
  have given : givenOf bs = some 4 := givenOf_breaks breaks some_breaks
  have enough : bs.length < (bs ++ after).length + 1 := by
    rw [List.length_append]
    omega
  obtain ⟨c', farthest, reads, at'⟩ :=
    readEmptyLines?_next kept at₁ next (fun m own => (Option.some.inj own).symm) enough
  rw [← given] at reads
  refine ⟨c', ?_, at'⟩
  rw [opens farthest bs c' reads, given]
  have ended : readBlockLines? false 4 (chompOf bs) ((bs ++ after).length + 1) [] [] bs false c' =
      some (blockText (chompOf bs) [] [] bs, c') := readBlockLines?_end at' next.low
  rw [chompOf_all breaks some_breaks] at ended ⊢
  exact ended

/-- A literal block is read up to the next word. -/
theorem readBlock?_literal (cs : List Char) (h : c.At ((hintOf cs).toList ++ ((chompOf cs).mark.toList ++
      '\n' :: (blockLines (List.replicate 4 ' ') true cs ++ after))) k) (some_chars : cs ≠ [])
    (shown : ∀ d ∈ cs, isShown d = true) (next : Next after column word) :
    ∃ c', readBlock? false 3 c = some (String.ofList cs, c') ∧ c'.At word column := by
  obtain ⟨bs, rest, split, breaks, starts, -⟩ := exists_breaks cs
  have kept : ∀ b ∈ bs, b ∈ keptBreaks := by
    refine mem_keptBreaks shown (fun b hb => ?_) breaks
    rw [split]
    exact List.mem_append_left rest hb
  cases rest with
  | nil =>
    rw [List.append_nil] at split
    subst split
    exact readBlock?_breaks h some_chars kept next
  | cons d ds =>
    obtain ⟨c₁, at₁, opens⟩ := readBlock?_open cs h
    have line := starts d ds rfl
    have shown_d : ∀ e ∈ d :: ds, isShown e = true := by
      intro e he
      refine shown e ?_
      rw [split]
      exact List.mem_append_right bs he
    have written : blockLines (List.replicate 4 ' ') true cs ++ after =
        bs ++ (List.replicate 4 ' ' ++ d :: (blockLines (List.replicate 4 ' ') false ds ++ after)) := by
      rw [split, blockLines_breaks breaks, blockLines_margin line, blockLines_char line]
      simp only [List.append_assoc, List.cons_append]
    have long : cs.length ≤ (blockLines (List.replicate 4 ' ') true cs).length := length_le_blockLines true cs
    have longer := congrArg List.length split
    rw [List.length_append, List.length_cons] at longer
    generalize hfuel : (blockLines (List.replicate 4 ' ') true cs ++ after).length + 1 = fuel at opens
    have enough : bs.length + ds.length + 1 < fuel := by
      rw [← hfuel, List.length_append]
      omega
    rw [written] at at₁
    have opening : ∃ c₂ farthest, readEmptyLines? (givenOf (bs ++ d :: ds)) fuel 0 [] c₁ = some (farthest, bs, c₂) ∧
        c₂.At (d :: (blockLines (List.replicate 4 ' ') false ds ++ after)) 4 ∧
        (givenOf (bs ++ d :: ds)).getD (max farthest 3) = 4 :=
      readEmptyLines?_opening kept line (ne_tab_of_isShown (shown_d d List.mem_cons_self)) at₁ (by omega)
    obtain ⟨c₂, farthest, reads, at₂, given⟩ := opening
    rw [← split] at reads given
    rw [← List.cons_append, ← blockLines_char line] at at₂
    obtain ⟨c', at', text⟩ := readBlockLines?_text at₂ line shown_d next
    refine ⟨c', ?_, at'⟩
    rw [opens farthest bs c₂ reads, given, split, chompOf_append line, text _ _ _ _ _ (by omega)]
    rfl

end

end SecretLayers.Yaml
