import SecretLayers.Proofs.Yaml.Places
/-!
Texts of one line, read back: a plain text up to the end of its line, or to the colon behind a key, and
a text in quotes up to the quote that closes it. Each is read as it was before it was written.
-/
namespace SecretLayers.Yaml
set_option autoImplicit false

open Cursor

/-! ## Plain texts -/

theorem endsWord_append (cs : List Char) {b : Char} (line : isBreak b = true) (after : List Char) :
    endsWord (cs ++ b :: after) = endsWord cs := by
  cases cs with
  | nil => simp [endsWord, endOr, line]
  | cons c cs => rfl

theorem holdsMark_tail {c : Char} {cs : List Char} (h : holdsMark (c :: cs) = false) : holdsMark cs = false := by
  cases cs with
  | nil => rfl
  | cons d cs =>
    rw [holdsMark, Bool.or_eq_false_iff] at h
    exact h.2

theorem holdsMark_append (cs : List Char) {ds : List Char} (h : holdsMark (cs ++ ds) = false) :
    holdsMark ds = false := by
  induction cs with
  | nil => exact h
  | cons c cs ih => exact ih (holdsMark_tail h)

/-- What a plain text is read from on: neither a mark nor a gap is in the way. -/
structure Plain (cs : List Char) : Prop where
  marks : holdsMark cs = false
  first : ∀ rest, cs = ':' :: rest → endsWord rest = false
  shown : ∀ d ∈ cs, isBreak d = false ∧ d ≠ '\t'
  ends : cs.getLast? ≠ some ' '

theorem Plain.tail {d : Char} {cs : List Char} (h : Plain (d :: cs)) : Plain cs where
  marks := holdsMark_tail h.marks
  first rest split := by
    subst split
    have marks := h.marks
    simp only [holdsMark, Bool.or_eq_false_iff, beq_self_eq_true, Bool.true_and] at marks
    exact marks.1.1
  shown c hc := h.shown c (List.mem_cons_of_mem d hc)
  ends last := by
    cases cs with
    | nil => cases last
    | cons c cs => exact h.ends (by rw [List.getLast?_cons_cons]; exact last)

theorem Plain.append {bs cs : List Char} (h : Plain (bs ++ cs)) : Plain cs := by
  induction bs with
  | nil => exact h
  | cons b bs ih => exact ih h.tail

/-- The reader of plain texts passes a part of the text. -/
def PassesPlain (least : Nat) (front : List Char) (c c' : Cursor) : Prop :=
  ∃ n, n ≤ front.length ∧ ∀ fuel acc, readPlain? false least (fuel + n) acc {} c =
    readPlain? false least fuel (front.reverse ++ acc) {} c'

section
variable {least k : Nat} {c c₁ c₂ : Cursor}

theorem PassesPlain.refl (least : Nat) (c : Cursor) : PassesPlain least [] c c :=
  ⟨0, Nat.le_refl 0, fun _ _ => rfl⟩

theorem PassesPlain.trans {front front' : List Char} (h : PassesPlain least front c c₁)
    (h' : PassesPlain least front' c₁ c₂) : PassesPlain least (front ++ front') c c₂ := by
  obtain ⟨n, short, turns⟩ := h
  obtain ⟨n', short', turns'⟩ := h'
  refine ⟨n' + n, ?_, fun fuel acc => ?_⟩
  · rw [List.length_append]
    omega
  · rw [← Nat.add_assoc, turns, turns', List.reverse_append, List.append_assoc]

variable {d : Char} {ds : List Char}

theorem readPlain?_char {fuel : Nat} {acc : List Char} {j : Joint} (h : c.At (d :: ds) k) (gap : isGap d = false)
    (line : isBreak d = false) (onward : (d == ':' && endsWord ds) = false) :
    readPlain? false least (fuel + 1) acc j c =
      readPlain? false least fuel (d :: (j.chars.reverse ++ acc)) {} c.skip := by
  have clash : clashesInFlow false (d :: ds) = false := by
    unfold clashesInFlow
    split <;> simp
  have more : endsPlain false (d :: ds) = false := by simp [endsPlain, onward]
  rw [readPlain?, h.rest]
  simp only [gap, line, clash, more, Bool.or_self, Bool.false_eq_true, if_false]

theorem passesPlain_char (h : c.At (d :: ds) k) (gap : isGap d = false) (line : isBreak d = false)
    (onward : (d == ':' && endsWord ds) = false) : PassesPlain least [d] c c.skip :=
  ⟨1, Nat.le_refl 1, fun _ _ => readPlain?_char h gap line onward⟩

/-- Blanks are read with the character behind them. -/
theorem passesPlain_blanks {m : Nat} (some_blanks : 0 < m) (h : c.At (List.replicate m ' ' ++ d :: ds) k)
    (gap : isGap d = false) (line : isBreak d = false) (onward : (d == ':' && endsWord ds) = false)
    (uncommented : d ≠ '#') (deep : least ≤ k) :
    PassesPlain least (List.replicate m ' ' ++ [d]) c (c.skip m).skip := by
  have joint : readJoint? least (c.rest.length + 1) {} c = some (Joint.addBlanks {} m, c.skip m) := by
    refine readJoint?_blanks m h (settled_cons gap line ds) ?_
    rw [h.rest, List.length_append, List.length_replicate]
    omega
  have passed := h.skip_blanks m
  have column : ¬ (c.skip m).column < least := by
    rw [passed.column]
    omega
  have mark : (c.skip m).atDocumentMark = false := by
    have inside : (c.skip m).column ≠ 0 := by
      rw [passed.column]
      omega
    simp [atDocumentMark, inside]
  have comment : ((d :: ds).head? == some '#') = false := by simpa using uncommented
  refine ⟨2, by simp; omega, fun fuel acc => ?_⟩
  have blanks : readPlain? false least (fuel + 1 + 1) acc {} c =
      readPlain? false least (fuel + 1) acc (Joint.addBlanks {} m) (c.skip m) := by
    obtain ⟨m, rfl⟩ := Nat.exists_eq_add_one_of_ne_zero (Nat.ne_of_gt some_blanks)
    have first := h.rest
    rw [List.replicate_succ, List.cons_append] at first
    have space : isGap ' ' = true := by decide
    rw [readPlain?, first]
    rw [first] at joint
    simp only [space, Bool.true_or, if_true, joint, Option.bind_eq_bind, Option.bind_some, column, mark,
      passed.rest, comment, Bool.not_false, Bool.true_and, decide_false, Bool.false_eq_true, if_false, Bool.or_self]
  rw [blanks, readPlain?_char passed gap line onward, chars_addBlanks]
  simp

variable {after word : List Char}

/-- A plain text is passed up to the end of its line. -/
theorem passesPlain_line (cs : List Char) (h : c.At (cs ++ '\n' :: after) k) (deep : least ≤ k) (plain : Plain cs) :
    ∃ c' k', PassesPlain least cs c c' ∧ c'.At ('\n' :: after) k' := by
  -- A step passes a character, with the blanks before it.
  induction hlen : cs.length using Nat.strongRecOn generalizing cs c k with
  | ind len ih =>
    obtain ⟨m, rest, split, unspaced, some_blanks⟩ := exists_blanks cs
    cases rest with
    | nil =>
      cases m with
      | zero =>
        subst split
        exact ⟨c, k, .refl least c, h⟩
      | succ m =>
        subst split
        exact absurd (by simp [List.getLast?_replicate]) plain.ends
    | cons d ds =>
      have spaceless : d ≠ ' ' := fun same => unspaced (by rw [same]; rfl)
      have here : Plain (d :: ds) := by
        rw [split] at plain
        exact plain.append
      obtain ⟨line, tabless⟩ := here.shown d List.mem_cons_self
      have gap : isGap d = false := by simp [isGap, spaceless, tabless]
      have onward : (d == ':' && endsWord (ds ++ '\n' :: after)) = false := by
        rw [endsWord_append ds (by decide)]
        by_cases colon : d = ':'
        · subst colon
          simpa using here.first ds rfl
        · simp [colon]
      subst split
      rw [List.append_assoc, List.cons_append] at h
      simp only [List.length_append, List.length_replicate, List.length_cons] at hlen
      have passed := h.skip_blanks m
      have front : PassesPlain least (List.replicate m ' ' ++ [d]) c (c.skip m).skip := by
        rcases Nat.eq_zero_or_pos m with rfl | positive
        · exact passesPlain_char h gap line onward
        · refine passesPlain_blanks positive h gap line onward ?_ deep
          rintro rfl
          obtain ⟨m, rfl⟩ := Nat.exists_eq_add_one_of_ne_zero (Nat.ne_of_gt positive)
          have marks := plain.marks
          rw [List.replicate_succ', List.append_assoc, List.singleton_append] at marks
          have marked := holdsMark_append (List.replicate m ' ') marks
          simp [holdsMark, isGap] at marked
      obtain ⟨c', k', passes, at'⟩ := ih ds.length (by omega) ds passed.skip_one (by omega) here.tail rfl
      refine ⟨c', k', ?_, at'⟩
      have both := front.trans passes
      rwa [List.append_assoc, List.singleton_append] at both

theorem readPlain?_end {fuel column : Nat} {acc : List Char} (h : c.At ('\n' :: after) k) (deep : 3 ≤ least)
    (next : Next after column word) :
    ∃ c', readPlain? false least (fuel + 1) acc {} c = some (String.ofList acc.reverse, true, c') ∧
      c'.At word column := by
  have line : isBreak '\n' = true := by decide
  rw [next.split] at h
  have joint : ∃ c', readJoint? least (c.rest.length + 1) {} c = some (Joint.addBreaks {} ['\n'], c') ∧
      c'.At word column :=
    readJoint?_breaks ['\n'] column (List.all_iff_forall_prop.1 (by decide)) (List.cons_ne_nil _ _) h next.settled
      (by rw [h.rest]; simp; omega)
  obtain ⟨c', joint, at'⟩ := joint
  have low : c'.column < least := by
    rw [at'.column]
    exact Nat.lt_of_lt_of_le next.low deep
  refine ⟨c', ?_, at'⟩
  rw [readPlain?, h.rest]
  rw [h.rest] at joint
  simp only [line, Bool.or_true, if_true, joint, Option.bind_eq_bind, Option.bind_some, low, Bool.not_false,
    Bool.true_and, decide_true]
  rfl

/-- A plain text is read to the end of its line, and on to the word behind. -/
theorem readPlain?_line {fuel column : Nat} (cs : List Char) (h : c.At (cs ++ '\n' :: after) k) (deep : least ≤ k)
    (low : 3 ≤ least) (next : Next after column word) (plain : Plain cs) (enough : cs.length < fuel) :
    ∃ c', readPlain? false least fuel [] {} c = some (String.ofList cs, true, c') ∧ c'.At word column := by
  obtain ⟨c₁, k₁, ⟨n, short, turns⟩, at₁⟩ := passesPlain_line cs h deep plain
  obtain ⟨m, rfl⟩ : ∃ m, fuel = m + 1 + n := ⟨fuel - 1 - n, by omega⟩
  have ended : ∃ c', readPlain? false least (m + 1) cs.reverse {} c₁ =
      some (String.ofList cs.reverse.reverse, true, c') ∧ c'.At word column := readPlain?_end at₁ low next
  obtain ⟨c', reads, at'⟩ := ended
  refine ⟨c', ?_, at'⟩
  rw [turns, List.append_nil, reads, List.reverse_reverse]

/-- Letters are passed one by one. -/
theorem passesPlain_letters (cs : List Char) {rest : List Char} (h : c.At (cs ++ rest) k)
    (letters : ∀ d ∈ cs, isGap d = false ∧ isBreak d = false ∧ d ≠ ':') :
    PassesPlain least cs c (c.skip cs.length) := by
  induction cs generalizing c k with
  | nil => exact .refl least c
  | cons d ds ih =>
    obtain ⟨⟨gap, line, colon⟩, others⟩ := List.forall_mem_cons.1 letters
    have onward : (d == ':' && endsWord (ds ++ rest)) = false := by simp [colon]
    have both := (passesPlain_char h gap line onward).trans (ih h.skip_one others)
    rwa [skip_skip, Nat.add_comm 1] at both

/-- A key is read up to its colon. -/
theorem readPlain?_key {fuel : Nat} (cs : List Char) (h : c.At (cs ++ ':' :: ' ' :: after) k)
    (letters : ∀ d ∈ cs, isGap d = false ∧ isBreak d = false ∧ d ≠ ':') (enough : cs.length < fuel) :
    readPlain? false least fuel [] {} c = some (String.ofList cs, false, c.skip cs.length) := by
  obtain ⟨n, short, turns⟩ : PassesPlain least cs c (c.skip cs.length) := passesPlain_letters cs h letters
  obtain ⟨m, rfl⟩ : ∃ m, fuel = m + 1 + n := ⟨fuel - 1 - n, by omega⟩
  have colon : (isGap ':' || isBreak ':') = false := by decide
  have clash : clashesInFlow false (':' :: ' ' :: after) = false := rfl
  have ends : endsPlain false (':' :: ' ' :: after) = true := rfl
  rw [turns, readPlain?, (h.skip cs).rest]
  simp only [colon, clash, ends, Bool.false_eq_true, if_false, if_true]
  simp

end

/-! ## Texts in quotes -/

/-- The reader of texts in quotes passes what stands for a part of the text. -/
def Passes (quote : Char) (front : List Char) (c c' : Cursor) : Prop :=
  ∃ n, n ≤ front.length ∧ ∀ fuel acc, readQuoted? quote (fuel + n) acc c =
    readQuoted? quote fuel (front.reverse ++ acc) c'

section
variable {quote d : Char} {k : Nat} {c c₁ c₂ : Cursor} {ds after front : List Char}

theorem Passes.refl (quote : Char) (c : Cursor) : Passes quote [] c c := ⟨0, Nat.le_refl 0, fun _ _ => rfl⟩

theorem Passes.trans {front' : List Char} (h : Passes quote front c c₁) (h' : Passes quote front' c₁ c₂) :
    Passes quote (front ++ front') c c₂ := by
  obtain ⟨n, short, turns⟩ := h
  obtain ⟨n', short', turns'⟩ := h'
  refine ⟨n' + n, ?_, fun fuel acc => ?_⟩
  · rw [List.length_append]
    omega
  · rw [← Nat.add_assoc, turns, turns', List.reverse_append, List.append_assoc]

theorem not_atDocumentMark (h : c.At after k) (inside : 0 < k) : c.atDocumentMark = false := by
  have column : c.column ≠ 0 := by
    rw [h.column]
    omega
  simp [atDocumentMark, column]

/-- Blanks and line breaks are passed together. -/
theorem passes_joint {j : Joint} {c' : Cursor} (h : c.At (d :: ds) k) (inside : 0 < k)
    (parts : (isGap d || isBreak d) = true) (joint : readJoint? 0 (c.rest.length + 1) {} c = some (j, c'))
    (chars : j.chars = front) (some_chars : front ≠ []) : Passes quote front c c' := by
  subst chars
  refine ⟨1, List.length_pos_iff.2 some_chars, fun fuel acc => ?_⟩
  rw [h.rest] at joint
  rw [readQuoted?, h.rest]
  simp only [not_atDocumentMark h inside, Bool.false_eq_true, if_false, parts, if_true, joint, Option.bind_eq_bind,
    Option.bind_some]

theorem passes_blanks {m : Nat} (some_blanks : 0 < m) (h : c.At (List.replicate m ' ' ++ ds) k) (inside : 0 < k)
    (settled : Settled ds) : Passes quote (List.replicate m ' ') c (c.skip m) := by
  have joint : readJoint? 0 (c.rest.length + 1) {} c = some (Joint.addBlanks {} m, c.skip m) := by
    refine readJoint?_blanks m h settled ?_
    rw [h.rest, List.length_append, List.length_replicate]
    omega
  obtain ⟨m, rfl⟩ := Nat.exists_eq_add_one_of_ne_zero (Nat.ne_of_gt some_blanks)
  have first := h
  rw [List.replicate_succ, List.cons_append] at first
  exact passes_joint first inside (by decide) joint (chars_addBlanks _) (List.cons_ne_nil _ _)

/-- Separators are passed with the blanks at the start of the next line, which are not kept. -/
theorem passes_breaks {b : Char} {bs : List Char} {n : Nat} (h : c.At (b :: bs ++ (List.replicate n ' ' ++ ds)) k)
    (inside : 0 < k) (separator : b ≠ '\n') (kept : ∀ d ∈ b :: bs, d ∈ keptBreaks) (settled : Settled ds) :
    ∃ c', Passes quote (b :: bs) c c' ∧ c'.At ds n := by
  have joint : ∃ c', readJoint? 0 (c.rest.length + 1) {} c = some (Joint.addBreaks {} (b :: bs), c') ∧ c'.At ds n :=
    readJoint?_breaks (b :: bs) n kept (List.cons_ne_nil _ _) h settled (by rw [h.rest]; simp; omega)
  obtain ⟨c', joint, at'⟩ := joint
  have line : isBreak b = true := isBreak_of_mem_keptBreaks (kept b List.mem_cons_self)
  exact ⟨c', passes_joint h inside (by simp [line]) joint (chars_addBreaks separator bs) (List.cons_ne_nil _ _), at'⟩

theorem passes_char (h : c.At (d :: ds) k) (inside : 0 < k) (gap : isGap d = false) (line : isBreak d = false)
    (unquoted : d ≠ quote) (literal : ¬ (quote = '"' ∧ d = '\\')) : Passes quote [d] c c.skip := by
  have escape : (quote == '"' && d == '\\') = false := by
    rw [Bool.and_eq_false_iff, beq_eq_false_iff_ne, beq_eq_false_iff_ne]
    exact not_and_or.1 literal
  have inner : (d == quote) = false := beq_eq_false_iff_ne.2 unquoted
  refine ⟨1, Nat.le_refl 1, fun fuel acc => ?_⟩
  rw [readQuoted?, h.rest]
  simp only [not_atDocumentMark h inside, gap, line, inner, escape, Bool.or_self, Bool.false_eq_true, if_false]
  rfl

/-- A text is read once all of it is passed, up to the quote that closes it. -/
theorem Passes.readQuoted? {fuel : Nat} (h : Passes quote front c c₁) (closes : c₁.At (quote :: after) k)
    (inside : 0 < k) (mark : quote = '\'' ∨ quote = '"') (single : after.head? ≠ some '\'')
    (enough : front.length < fuel) : Yaml.readQuoted? quote fuel [] c = some (String.ofList front, c₁.skip) := by
  obtain ⟨n, short, turns⟩ := h
  obtain ⟨m, rfl⟩ : ∃ m, fuel = m + 1 + n := ⟨fuel - 1 - n, by omega⟩
  have gap : (isGap quote || isBreak quote) = false := by
    rcases mark with rfl | rfl <;> decide
  have doubled : (quote == '\'' && after.head? == some '\'') = false := by
    rw [Bool.and_eq_false_iff]
    exact .inr (by simpa using single)
  rw [turns, Yaml.readQuoted?, closes.rest]
  simp only [not_atDocumentMark closes inside, gap, doubled, beq_self_eq_true, Bool.false_eq_true, if_false, if_true,
    List.append_nil, List.reverse_reverse]

end

/-! ## Single quotes -/

/-- What a text in single quotes is read from on. -/
structure Quotable (cs : List Char) : Prop where
  shown : ∀ d ∈ cs, isShown d = true ∧ d ≠ '\n'
  blankBreak : hasPair isSpace isBreak cs = false
  breakBlank : hasPair isBreak isSpace cs = false

theorem hasPair_append {p q : Char → Bool} (cs : List Char) {ds : List Char} (h : hasPair p q (cs ++ ds) = false) :
    hasPair p q ds = false := by
  induction cs with
  | nil => exact h
  | cons c cs ih =>
    refine ih ?_
    cases hcs : cs ++ ds with
    | nil => rfl
    | cons d rest =>
      rw [List.cons_append, hcs, hasPair, Bool.or_eq_false_iff] at h
      exact h.2

theorem Quotable.append (bs : List Char) {cs : List Char} (h : Quotable (bs ++ cs)) : Quotable cs where
  shown d hd := h.shown d (List.mem_append_right bs hd)
  blankBreak := hasPair_append bs h.blankBreak
  breakBlank := hasPair_append bs h.breakBlank

theorem not_pair {p q : Char → Bool} {cs ds : List Char} {c d : Char} (h : hasPair p q (cs ++ c :: d :: ds) = false)
    (first : p c = true) : q d = false := by
  have pair := hasPair_append cs h
  rw [hasPair, Bool.or_eq_false_iff, first, Bool.true_and] at pair
  exact pair.1

theorem not_isGap_of_isShown {d : Char} (shown : isShown d = true) (spaceless : d ≠ ' ') : isGap d = false := by
  have tabless : d ≠ '\t' := by
    rintro rfl
    cases shown
  simp [isGap, spaceless, tabless]

section
variable {margin : String} {n : Nat}

theorem body_blanks (m : Nat) (cs : List Char) : singleQuoted.body margin false (List.replicate m ' ' ++ cs) =
    List.replicate m ' ' ++ singleQuoted.body margin false cs := by
  induction m with
  | zero => rfl
  | succ m ih =>
    have line : isBreak ' ' = false := by decide
    rw [List.replicate_succ, List.cons_append, singleQuoted.body, ih]
    simp [line]

theorem body_breaks (bs : List Char) (cs : List Char) (breaks : ∀ b ∈ bs, isBreak b = true) (broken : Bool)
    (some_breaks : bs ≠ []) : singleQuoted.body margin broken (bs ++ cs) = bs ++ singleQuoted.body margin true cs := by
  induction bs generalizing broken with
  | nil => exact absurd rfl some_breaks
  | cons b bs ih =>
    obtain ⟨line, others⟩ := List.forall_mem_cons.1 breaks
    rw [List.cons_append, singleQuoted.body, if_pos line]
    cases bs with
    | nil => rfl
    | cons b' bs =>
      rw [ih others true (List.cons_ne_nil _ _)]
      rfl

/-- Behind line breaks stands the margin. -/
theorem body_true {cs : List Char} (unbroken : Unbroken cs) :
    singleQuoted.body margin true cs = margin.toList ++ singleQuoted.body margin false cs := by
  cases cs with
  | nil => simp [singleQuoted.body]
  | cons d ds =>
    have line := unbroken d ds rfl
    simp [singleQuoted.body, line]

theorem body_char {d : Char} (line : isBreak d = false) (ds : List Char) :
    singleQuoted.body margin false (d :: ds) =
      (if d = '\'' then ['\'', '\''] else [d]) ++ singleQuoted.body margin false ds := by
  simp [singleQuoted.body, line]

theorem settled_body {cs : List Char} (unbroken : Unbroken cs) (spaceless : cs.head? ≠ some ' ')
    (shown : ∀ d ∈ cs, isShown d = true) (rest : List Char) :
    Settled (singleQuoted.body margin false cs ++ '\'' :: rest) := by
  cases cs with
  | nil => exact settled_cons (by decide) (by decide) _
  | cons d ds =>
    have line := unbroken d ds rfl
    have gap : isGap d = false :=
      not_isGap_of_isShown (shown d List.mem_cons_self) fun same => spaceless (by rw [same]; rfl)
    rw [body_char line]
    split
    · exact settled_cons (by decide) (by decide) _
    · exact settled_cons gap line _

variable {k : Nat} {c : Cursor} {after : List Char}

theorem passes_doubled {rest : List Char} (h : c.At ('\'' :: '\'' :: rest) k) (inside : 0 < k) :
    Passes '\'' ['\''] c (c.skip 2) := by
  have gap : (isGap '\'' || isBreak '\'') = false := by decide
  refine ⟨1, Nat.le_refl 1, fun fuel acc => ?_⟩
  rw [readQuoted?, h.rest]
  simp only [not_atDocumentMark h inside, gap, List.head?_cons, beq_self_eq_true, Bool.and_self, Bool.false_eq_true,
    if_false, if_true]
  rfl

/-- A part of a text is passed, and the cursor stands in front of the rest of it. -/
def SinglePart (margin : String) (after : List Char) (c : Cursor) (cs : List Char) : Prop :=
  ∃ front rest c' k, cs = front ++ rest ∧ front ≠ [] ∧ Quotable rest ∧ 0 < k ∧
    c'.At (singleQuoted.body margin false rest ++ '\'' :: after) k ∧ Passes '\'' front c c'

theorem singlePart_blanks {ds : List Char} (h : c.At (singleQuoted.body margin false (' ' :: ds) ++ '\'' :: after) k)
    (inside : 0 < k) (quotable : Quotable (' ' :: ds)) : SinglePart margin after c (' ' :: ds) := by
  obtain ⟨m, rest, split, unspaced, some_blanks⟩ := exists_blanks (' ' :: ds)
  have positive : 0 < m := some_blanks rfl
  rw [split] at h quotable ⊢
  have unbroken : Unbroken rest := by
    rintro e es rfl
    obtain ⟨m, rfl⟩ := Nat.exists_eq_add_one_of_ne_zero (Nat.ne_of_gt positive)
    have pairless := quotable.blankBreak
    rw [List.replicate_succ', List.append_assoc, List.singleton_append] at pairless
    exact not_pair pairless rfl
  have here := quotable.append
  rw [body_blanks, List.append_assoc] at h
  refine ⟨List.replicate m ' ', rest, c.skip m, k + m, rfl, ?_, here, by omega, h.skip_blanks m, ?_⟩
  · rw [Ne, List.replicate_eq_nil_iff]
    omega
  · exact passes_blanks positive h inside (settled_body unbroken unspaced (fun e he => (here.shown e he).1) after)

theorem singlePart_breaks (margined : margin.toList = List.replicate (n + 1) ' ') {d : Char} {ds : List Char}
    (h : c.At (singleQuoted.body margin false (d :: ds) ++ '\'' :: after) k) (inside : 0 < k)
    (line : isBreak d = true) (quotable : Quotable (d :: ds)) : SinglePart margin after c (d :: ds) := by
  obtain ⟨bs, rest, split, breaks, unbroken, some_breaks⟩ := exists_breaks (d :: ds)
  have nonempty := some_breaks d ds rfl line
  obtain ⟨feedless, kept⟩ : d ≠ '\n' ∧ ∀ b ∈ bs, b ∈ keptBreaks := by
    refine ⟨(quotable.shown d List.mem_cons_self).2, fun b hb => ?_⟩
    rw [split] at quotable
    exact mem_keptBreaks_of_isShown (quotable.shown b (List.mem_append_left rest hb)).1 (breaks b hb)
  cases bs with
  | nil => exact absurd rfl nonempty
  | cons b bs =>
    obtain rfl : d = b := (List.cons.inj split).1
    rw [split] at h quotable ⊢
    have here := quotable.append
    have unspaced : rest.head? ≠ some ' ' := by
      intro space
      obtain ⟨es, rfl⟩ := List.head?_eq_some_iff.1 space
      have pairless := quotable.breakBlank
      rw [← List.dropLast_concat_getLast nonempty, List.append_assoc, List.singleton_append] at pairless
      cases not_pair pairless (breaks _ (List.getLast_mem nonempty))
    rw [body_breaks _ _ breaks false nonempty, body_true unbroken, margined, List.append_assoc,
      List.append_assoc] at h
    obtain ⟨c', passes, at'⟩ := passes_breaks h inside feedless kept
      (settled_body unbroken unspaced (fun e he => (here.shown e he).1) after)
    exact ⟨d :: bs, rest, c', n + 1, rfl, nonempty, here, Nat.succ_pos n, at', passes⟩

theorem singlePart_char {d : Char} {ds : List Char}
    (h : c.At (singleQuoted.body margin false (d :: ds) ++ '\'' :: after) k) (inside : 0 < k) (spaceless : d ≠ ' ')
    (line : isBreak d = false) (quotable : Quotable (d :: ds)) : SinglePart margin after c (d :: ds) := by
  have gap := not_isGap_of_isShown (quotable.shown d List.mem_cons_self).1 spaceless
  have here : Quotable ds := Quotable.append [d] quotable
  rw [body_char line, List.append_assoc] at h
  by_cases quote : d = '\''
  · subst quote
    rw [if_pos rfl] at h
    exact ⟨['\''], ds, c.skip 2, k + 2, rfl, List.cons_ne_nil _ _, here, by omega, h.skip ['\'', '\''],
      passes_doubled h inside⟩
  · rw [if_neg quote] at h
    exact ⟨[d], ds, c.skip, k + 1, rfl, List.cons_ne_nil _ _, here, by omega, h.skip_one,
      passes_char h inside gap line quote fun both => by cases both.1⟩

theorem singlePart (margined : margin.toList = List.replicate (n + 1) ' ') {d : Char} {ds : List Char}
    (h : c.At (singleQuoted.body margin false (d :: ds) ++ '\'' :: after) k) (inside : 0 < k)
    (quotable : Quotable (d :: ds)) : SinglePart margin after c (d :: ds) := by
  by_cases space : d = ' '
  · subst space
    exact singlePart_blanks h inside quotable
  · cases line : isBreak d with
    | true => exact singlePart_breaks margined h inside line quotable
    | false => exact singlePart_char h inside space line quotable

/-- A text in single quotes is passed up to the quote that closes it. -/
theorem passes_single (margined : margin.toList = List.replicate (n + 1) ' ') (cs : List Char)
    (h : c.At (singleQuoted.body margin false cs ++ '\'' :: after) k) (inside : 0 < k) (quotable : Quotable cs) :
    ∃ c' k', Passes '\'' cs c c' ∧ c'.At ('\'' :: after) k' ∧ 0 < k' := by
  induction hlen : cs.length using Nat.strongRecOn generalizing cs c k with
  | ind len ih =>
    cases cs with
    | nil => exact ⟨c, k, .refl _ c, h, inside⟩
    | cons d ds =>
      obtain ⟨front, rest, c₁, k₁, split, some_chars, here, inside₁, at₁, passes⟩ :=
        singlePart margined h inside quotable
      have shorter : rest.length < len := by
        have positive := List.length_pos_iff.2 some_chars
        rw [← hlen, split, List.length_append]
        omega
      obtain ⟨c', k', passes', at', inside'⟩ := ih rest.length shorter rest at₁ inside₁ here rfl
      rw [split]
      exact ⟨c', k', passes.trans passes', at', inside'⟩

end

/-! ## Double quotes -/

/-- A character between double quotes. -/
def escaped (d : Char) : List Char :=
  if isShown d && !isBreak d && d != '"' && d != '\\' then [d]
  else match escapeLetters.lookup d with
    | some letter => ['\\', letter]
    | none => escapeCode d

theorem doubleQuoted_eq (s : String) : doubleQuoted s = String.ofList ('"' :: s.toList.flatMap escaped ++ ['"']) := rfl

/-- The digits of a number are read back as the number. -/
theorem readDigits_toDigits {limit n : Nat} (rest : List Char) (fits : n ≤ limit) :
    readDigits 16 limit 0 ((Nat.toDigits 16 n).map Char.toUpper ++ rest) = readDigits 16 limit n rest := by
  have digits : ∀ k < 16, digitValue? 16 k.digitChar.toUpper = some k := by decide
  induction n using Nat.strongRecOn generalizing rest with
  | ind n ih =>
    rw [Nat.toDigits_eq_if (by omega)]
    split
    · rename_i small
      simp only [List.map_cons, List.map_nil, List.singleton_append, readDigits, digits n small, Nat.mul_zero,
        Nat.zero_add, if_pos fits]
    · have whole := Nat.div_add_mod n 16
      have last := digits (n % 16) (Nat.mod_lt n (by omega))
      rw [List.map_append, List.append_assoc, ih (n / 16) (by omega) _ (by omega)]
      simp only [List.map_cons, List.map_nil, List.singleton_append, readDigits, last, whole, if_pos fits]

theorem readDigits_zeros (limit : Nat) (m : Nat) (rest : List Char) :
    readDigits 16 limit 0 (List.replicate m '0' ++ rest) = readDigits 16 limit 0 rest := by
  have zero : digitValue? 16 '0' = some 0 := by decide
  induction m with
  | zero => rfl
  | succ m ih =>
    rw [List.replicate_succ, List.cons_append, readDigits, zero]
    simpa using ih

section
variable {d : Char} {k : Nat} {c : Cursor} {after : List Char}

/-- Digits of some width that stand for a character. -/
theorem readCode?_digits {width : Nat} (small : d.toNat < Nat.pow 16 width) (positive : 0 < width)
    (h : c.At (List.replicate (width - ((Nat.toDigits 16 d.toNat).map Char.toUpper).length) '0' ++
      (Nat.toDigits 16 d.toNat).map Char.toUpper ++ after) k) :
    readCode? width c = some (d, c.skip width) := by
  have short : ((Nat.toDigits 16 d.toNat).map Char.toUpper).length ≤ width := by
    rw [List.length_map]
    exact (Nat.length_toDigits_le_iff (by omega) positive).2 small
  have fits : d.toNat ≤ Nat.pow 2 32 := by
    have bounded := d.val.toNat_lt
    exact Nat.le_of_lt bounded
  have valid : d.toNat.isValidChar := d.valid
  have taken : c.rest.take width =
      List.replicate (width - ((Nat.toDigits 16 d.toNat).map Char.toUpper).length) '0' ++
        (Nat.toDigits 16 d.toNat).map Char.toUpper := by
    rw [h.rest]
    refine List.take_left' ?_
    rw [List.length_append, List.length_replicate]
    omega
  have wide : (c.rest.take width).length = width := by
    rw [taken, List.length_append, List.length_replicate]
    omega
  have value : readDigits 16 (Nat.pow 2 32) 0 (c.rest.take width) = .ok d.toNat := by
    have reads := readDigits_toDigits [] fits
    rw [List.append_nil] at reads
    rw [taken, readDigits_zeros, reads, readDigits]
  unfold readCode?
  simp only [wide, ne_eq, not_true_eq_false, if_false, value, Except.toOption, Option.bind_eq_bind, Option.bind_some,
    if_pos valid, Char.ofNat_toNat]

theorem passes_escape {e : Char} {rest : List Char} {c' : Cursor} (h : c.At ('\\' :: e :: rest) k) (inside : 0 < k)
    (line : isBreak e = false) (reads : readEscape? c.skip = some (d, c')) : Passes '"' [d] c c' := by
  have parts : (isGap '\\' || isBreak '\\') = false := by decide
  have inner : ('\\' == '"') = false := by decide
  have atBreak : c.skip.atBreak = false := by
    rw [atBreak, h.skip_one.rest]
    exact line
  refine ⟨1, Nat.le_refl 1, fun fuel acc => ?_⟩
  rw [readQuoted?, h.rest]
  simp only [not_atDocumentMark h inside, parts, inner, atBreak, reads, beq_self_eq_true, Bool.and_self,
    Bool.false_eq_true, if_false, if_true, Option.bind_eq_bind, Option.bind_some]
  rfl

theorem readEscape?_letter {e : Char} {rest : List Char} (h : c.At (e :: rest) k)
    (letter : escapes.lookup e = some d) : readEscape? c = some (d, c.skip) := by
  rw [readEscape?, h.rest]
  simp only [List.head?_cons, Option.bind_eq_bind, Option.bind_some, letter]

theorem readEscape?_code {mark : Char} {width : Nat} {rest : List Char} (h : c.At (mark :: rest) k)
    (unlettered : escapes.lookup mark = none) (wide : escapeWidths.lookup mark = some width) {r : Char × Cursor}
    (reads : readCode? width c.skip = some r) : readEscape? c = some r := by
  rw [readEscape?, h.rest]
  simp only [List.head?_cons, Option.bind_eq_bind, Option.bind_some, unlettered, wide, reads]

/-- A character that is written by its code. -/
theorem passes_code (h : c.At (escapeCode d ++ after) k) (inside : 0 < k) :
    ∃ c' k', Passes '"' [d] c c' ∧ c'.At after k' ∧ 0 < k' := by
  have written {mark : Char} {width : Nat} (positive : 0 < width) (small : d.toNat < Nat.pow 16 width)
      (unlettered : escapes.lookup mark = none) (wide : escapeWidths.lookup mark = some width)
      (line : isBreak mark = false)
      (at_mark : c.At ('\\' :: mark ::
        (List.replicate (width - ((Nat.toDigits 16 d.toNat).map Char.toUpper).length) '0' ++
          (Nat.toDigits 16 d.toNat).map Char.toUpper ++ after)) k) :
      ∃ c' k', Passes '"' [d] c c' ∧ c'.At after k' ∧ 0 < k' := by
    have digits := at_mark.skip_one.skip_one
    have reads := readCode?_digits small positive digits
    have length : (List.replicate (width - ((Nat.toDigits 16 d.toNat).map Char.toUpper).length) '0' ++
        (Nat.toDigits 16 d.toNat).map Char.toUpper).length = width := by
      have short : ((Nat.toDigits 16 d.toNat).map Char.toUpper).length ≤ width := by
        rw [List.length_map]
        exact (Nat.length_toDigits_le_iff (by omega) positive).2 small
      rw [List.length_append, List.length_replicate]
      omega
    have behind := digits.skip _
    rw [length] at behind
    exact ⟨_, _, passes_escape at_mark inside line (readEscape?_code at_mark.skip_one unlettered wide reads), behind,
      by omega⟩
  unfold escapeCode at h
  dsimp only at h
  by_cases narrow : d.toNat ≤ 0xFF
  · rw [if_pos narrow] at h
    exact written (by omega) (Nat.lt_of_le_of_lt narrow (by decide)) (by decide) (by decide) (by decide) h
  · rw [if_neg narrow] at h
    by_cases plane : d.toNat ≤ 0xFFFF
    · rw [if_pos plane] at h
      exact written (by omega) (Nat.lt_of_le_of_lt plane (by decide)) (by decide) (by decide) (by decide) h
    · rw [if_neg plane] at h
      have whole : d.toNat < Nat.pow 16 8 := d.val.toNat_lt
      exact written (by omega) whole (by decide) (by decide) (by decide) h

theorem passes_escaped (h : c.At (escaped d ++ after) k) (inside : 0 < k) (spaceless : d ≠ ' ') :
    ∃ c' k', Passes '"' [d] c c' ∧ c'.At after k' ∧ 0 < k' := by
  unfold escaped at h
  split at h
  · rename_i literal
    simp only [Bool.and_eq_true, Bool.not_eq_true', bne_iff_ne] at literal
    obtain ⟨⟨⟨shown, line⟩, unquoted⟩, unescaped⟩ := literal
    exact ⟨c.skip, k + 1, passes_char h inside (not_isGap_of_isShown shown spaceless) line unquoted
      (fun both => unescaped both.2), h.skip_one, by omega⟩
  · split at h
    · rename_i letter own
      have letters : ∀ entry ∈ escapeLetters, escapes.lookup entry.2 = some entry.1 ∧ isBreak entry.2 = false :=
        List.all_iff_forall_prop.1 (by decide)
      obtain ⟨before, behind, split, -⟩ := List.lookup_eq_some_iff.1 own
      obtain ⟨found, line⟩ := letters (d, letter) (by rw [split]; exact List.mem_append_right _ List.mem_cons_self)
      exact ⟨_, _, passes_escape h inside line (readEscape?_letter h.skip_one found), h.skip_one.skip_one, by omega⟩
    · exact passes_code h inside

/-- What stands for a character other than a blank starts with no blank. -/
theorem settled_escaped {cs : List Char} (spaceless : cs.head? ≠ some ' ') :
    Settled (cs.flatMap escaped ++ '"' :: after) := by
  have slash (rest : List Char) : Settled ('\\' :: rest) := settled_cons (by decide) (by decide) rest
  cases cs with
  | nil => exact settled_cons (by decide) (by decide) _
  | cons d ds =>
    have blankless : d ≠ ' ' := fun same => spaceless (by rw [same]; rfl)
    rw [List.flatMap_cons, List.append_assoc]
    unfold escaped
    split
    · rename_i literal
      simp only [Bool.and_eq_true, Bool.not_eq_true'] at literal
      exact settled_cons (not_isGap_of_isShown literal.1.1.1 blankless) literal.1.1.2 _
    · split
      · exact slash _
      · exact slash _

theorem flatMap_escaped_blanks (m : Nat) (cs : List Char) :
    (List.replicate m ' ' ++ cs).flatMap escaped = List.replicate m ' ' ++ cs.flatMap escaped := by
  have blank : escaped ' ' = [' '] := by decide
  induction m with
  | zero => rfl
  | succ m ih => rw [List.replicate_succ, List.cons_append, List.flatMap_cons, ih, blank]; rfl

/-- A text in double quotes is passed up to the quote that closes it. -/
theorem passes_double (cs : List Char) (h : c.At (cs.flatMap escaped ++ '"' :: after) k) (inside : 0 < k) :
    ∃ c' k', Passes '"' cs c c' ∧ c'.At ('"' :: after) k' ∧ 0 < k' := by
  induction hlen : cs.length using Nat.strongRecOn generalizing cs c k with
  | ind len ih =>
    obtain ⟨m, rest, split, unspaced, some_blanks⟩ := exists_blanks cs
    have front : ∃ c₁, Passes '"' (List.replicate m ' ') c c₁ ∧
        c₁.At (rest.flatMap escaped ++ '"' :: after) (k + m) := by
      rw [split, flatMap_escaped_blanks, List.append_assoc] at h
      rcases Nat.eq_zero_or_pos m with rfl | positive
      · exact ⟨c, .refl _ c, h⟩
      · exact ⟨c.skip m, passes_blanks positive h inside (settled_escaped unspaced), h.skip_blanks m⟩
    obtain ⟨c₁, passes, at₁⟩ := front
    rw [split]
    cases rest with
    | nil =>
      refine ⟨c₁, k + m, ?_, at₁, by omega⟩
      rwa [List.append_nil]
    | cons d ds =>
      have spaceless : d ≠ ' ' := fun same => unspaced (by rw [same]; rfl)
      rw [List.flatMap_cons, List.append_assoc] at at₁
      obtain ⟨c₂, k₂, passes₂, at₂, inside₂⟩ := passes_escaped at₁ (by omega) spaceless
      have shorter : ds.length < len := by
        rw [← hlen, split, List.length_append, List.length_cons]
        omega
      obtain ⟨c', k', passes', at', inside'⟩ := ih ds.length shorter ds at₂ inside₂ rfl
      exact ⟨c', k', passes.trans (passes₂.trans passes'), at', inside'⟩

end

end SecretLayers.Yaml
