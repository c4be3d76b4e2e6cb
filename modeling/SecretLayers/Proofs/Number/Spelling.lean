import Mathlib.Data.Bool.AllAny
import SecretLayers.Proofs.Number.Nearest
import SecretLayers.Proofs.Text.Lowercase
/-!
How numbers are spelled: naturals below a bound in decimal, with an optional plus sign, and doubles
as signed decimals or as the words for what is not finite. The readers accept just these spellings,
for just what they stand for.
-/
namespace SecretLayers.Spelling
set_option autoImplicit false

/-! ## Digits -/

/-- A row of decimal digits, and its value. -/
inductive Numeral : List Char → Nat → Prop
  | nil : Numeral [] 0
  | snoc {ds : List Char} {n k : Nat} (before : Numeral ds n) (digit : k < 10) :
    Numeral (ds ++ [k.digitChar]) (10 * n + k)

theorem isDigit_iff {c : Char} : c.isDigit = true ↔ 48 ≤ c.toNat ∧ c.toNat ≤ 57 := by
  simp only [Char.isDigit, Bool.and_eq_true, decide_eq_true_eq, ge_iff_le, UInt32.le_iff_toNat_le]
  exact Iff.rfl

theorem digitChar_digit {k : Nat} (h : k < 10) : k.digitChar.isDigit = true ∧ k.digitChar.toNat - 48 = k := by
  have all : ∀ k < 10, k.digitChar.isDigit = true ∧ k.digitChar.toNat - 48 = k := by decide
  exact all k h

theorem exists_digitChar {c : Char} (h : c.isDigit = true) : c.toNat - 48 < 10 ∧ (c.toNat - 48).digitChar = c := by
  obtain ⟨low, high⟩ := isDigit_iff.1 h
  have digit : c.toNat - 48 < 10 := by omega
  refine ⟨digit, Char.toNat_inj.1 ?_⟩
  have value := (digitChar_digit digit).2
  have low' := (isDigit_iff.1 (digitChar_digit digit).1).1
  omega

theorem digitsValue_snoc (ds : List Char) (c : Char) :
    digitsValue (ds ++ [c]) = 10 * digitsValue ds + (c.toNat - 48) := by
  rw [digitsValue, List.foldl_append, ← digitsValue]
  rfl

theorem numeral_iff {ds : List Char} {n : Nat} :
    Numeral ds n ↔ ds.all Char.isDigit = true ∧ digitsValue ds = n := by
  constructor
  · intro h
    induction h with
    | nil => exact ⟨rfl, rfl⟩
    | snoc before digit ih =>
      obtain ⟨digits, value⟩ := ih
      obtain ⟨isDigit, own⟩ := digitChar_digit digit
      exact ⟨by simp [digits, isDigit], by rw [digitsValue_snoc, value, own]⟩
  · rintro ⟨digits, rfl⟩
    induction ds using List.reverseRecOn with
    | nil => exact .nil
    | append_singleton ds c ih =>
      rw [List.all_append, Bool.and_eq_true] at digits
      obtain ⟨digit, char⟩ := exists_digitChar (c := c) (by simpa using digits.2)
      have next := Numeral.snoc (ih digits.1) digit
      rwa [char, ← digitsValue_snoc] at next

/-! ## Naturals -/

/-- What stands behind an optional plus sign. A lone sign is not passed. -/
inductive PastPlus : List Char → List Char → Prop
  | plus {cs : List Char} (more : cs ≠ []) : PastPlus ('+' :: cs) cs
  | bare {cs : List Char} (plain : ∀ rest, cs = '+' :: rest → rest = []) : PastPlus cs cs

/-- A text that stands for a natural below a bound. -/
def Natural (bound : Nat) (cs : List Char) (n : Nat) : Prop :=
  ∃ ds, PastPlus cs ds ∧ ds ≠ [] ∧ Numeral ds n ∧ n < bound

/-- Why a text stands for no natural below a bound: the first of its characters that is no digit, or
digits before it that are too many. -/
inductive NoNatural (bound : Nat) : List Char → String → Prop
  | empty : NoNatural bound [] "cannot parse integer from empty string"
  | character {cs ds rest : List Char} {c : Char} {n : Nat} (past : PastPlus cs (ds ++ c :: rest))
    (before : Numeral ds n) (small : n < bound) (other : c.isDigit = false) :
    NoNatural bound cs "invalid digit found in string"
  | great {cs ds rest : List Char} {n : Nat} (past : PastPlus cs (ds ++ rest)) (before : Numeral ds n)
    (beyond : bound ≤ n) : NoNatural bound cs "number too large to fit in target type"

section
variable {limit n : Nat} {cs ds : List Char}

theorem digitValue?_of_digit {c : Char} (h : c.isDigit = true) : digitValue? 10 c = some (c.toNat - 48) := by
  obtain ⟨low, high⟩ := isDigit_iff.1 h
  have small : c.toNat - 48 < 10 := by omega
  simp [digitValue?, low, high, small]

theorem digitValue?_of_other {c : Char} (h : c.isDigit = false) : digitValue? 10 c = none := by
  have outside : ¬ (48 ≤ c.toNat ∧ c.toNat ≤ 57) := by
    rw [← isDigit_iff, h]
    exact Bool.false_ne_true
  simp only [digitValue?, if_neg outside]
  split
  · rename_i lower
    rw [Option.filter_some_neg (by simp; omega)]
  · split
    · rename_i upper
      rw [Option.filter_some_neg (by simp; omega)]
    · rfl

theorem le_foldl_digits (ds : List Char) (a : Nat) : a ≤ ds.foldl (fun n c => 10 * n + (c.toNat - 48)) a := by
  induction ds generalizing a with
  | nil => exact Nat.le_refl a
  | cons c ds ih => exact Nat.le_trans (by omega) (ih (10 * a + (c.toNat - 48)))

/-- Digits are passed as long as their value stays within the limit. -/
theorem readDigits_append {a : Nat} (within : a ≤ limit) (digits : ds.all Char.isDigit = true) (rest : List Char) :
    readDigits 10 limit a (ds ++ rest) =
      if ds.foldl (fun n c => 10 * n + (c.toNat - 48)) a ≤ limit then
        readDigits 10 limit (ds.foldl (fun n c => 10 * n + (c.toNat - 48)) a) rest
      else .error .tooLarge := by
  induction ds generalizing a with
  | nil => rw [List.nil_append, List.foldl_nil, if_pos within]
  | cons c ds ih =>
    rw [List.all_cons, Bool.and_eq_true] at digits
    rw [List.cons_append, readDigits, digitValue?_of_digit digits.1, List.foldl_cons]
    dsimp only
    split
    · rename_i next
      exact ih next digits.2
    · rename_i beyond
      have grown := le_foldl_digits ds (10 * a + (c.toNat - 48))
      rw [if_neg (by omega)]

theorem readNatural_pastPlus (past : PastPlus cs ds) (some_characters : ds ≠ []) :
    readNatural 10 limit cs = readDigits 10 limit 0 ds := by
  cases past with
  | plus more => rw [readNatural]; exact more
  | bare plain =>
    unfold readNatural
    split
    · exact absurd rfl some_characters
    · rfl
    · rfl
    · rename_i rest alone
      exact absurd (plain rest rfl) (fun h => alone (by rw [h]))
    · rfl

theorem exists_pastPlus (some_characters : cs ≠ []) : ∃ ds, PastPlus cs ds ∧ ds ≠ [] := by
  by_cases signed : ∃ rest, cs = '+' :: rest ∧ rest ≠ []
  · obtain ⟨rest, rfl, more⟩ := signed
    exact ⟨rest, .plus more, more⟩
  · refine ⟨cs, .bare fun rest split => ?_, some_characters⟩
    by_contra more
    exact signed ⟨rest, split, more⟩

theorem readNatural_natural (h : Natural (limit + 1) cs n) : readNatural 10 limit cs = .ok n := by
  obtain ⟨ds, past, some_digits, numeral, small⟩ := h
  obtain ⟨digits, value⟩ := numeral_iff.1 numeral
  have reads := readDigits_append (Nat.zero_le limit) digits []
  rw [List.append_nil, ← digitsValue, value, if_pos (by omega)] at reads
  rw [readNatural_pastPlus past some_digits, reads, readDigits]

theorem readNatural_noNatural {reason : String} (h : NoNatural (limit + 1) cs reason) :
    ∃ fault, readNatural 10 limit cs = .error fault ∧ fault.message = reason := by
  cases h with
  | empty => exact ⟨.empty, rfl, rfl⟩
  | @character _ ds rest c n past before small other =>
    obtain ⟨digits, value⟩ := numeral_iff.1 before
    have reads := readDigits_append (Nat.zero_le limit) digits (c :: rest)
    rw [← digitsValue, value, if_pos (by omega), readDigits, digitValue?_of_other other] at reads
    exact ⟨.invalidDigit, by rw [readNatural_pastPlus past (by simp), reads], rfl⟩
  | @great _ ds rest n past before beyond =>
    obtain ⟨digits, value⟩ := numeral_iff.1 before
    have reads := readDigits_append (Nat.zero_le limit) digits rest
    rw [← digitsValue, value, if_neg (by omega)] at reads
    have some_characters : ds ++ rest ≠ [] := by
      rintro none
      obtain ⟨rfl, -⟩ := List.append_eq_nil_iff.1 none
      rw [digitsValue, List.foldl_nil] at value
      omega
    exact ⟨.tooLarge, by rw [readNatural_pastPlus past some_characters, reads], rfl⟩

/-- Every text stands for a natural, or there is a reason why it does not. -/
theorem natural_or (bound : Nat) (cs : List Char) :
    (∃ n, Natural bound cs n) ∨ ∃ reason, NoNatural bound cs reason := by
  by_cases none : cs = []
  · subst none
    exact .inr ⟨_, .empty⟩
  obtain ⟨ds, past, some_characters⟩ := exists_pastPlus none
  have split := List.takeWhile_append_dropWhile (p := Char.isDigit) (l := ds)
  have before : Numeral (ds.takeWhile Char.isDigit) (digitsValue (ds.takeWhile Char.isDigit)) :=
    numeral_iff.2 ⟨List.all_takeWhile, rfl⟩
  rcases Nat.lt_or_ge (digitsValue (ds.takeWhile Char.isDigit)) bound with small | beyond
  · cases rest : ds.dropWhile Char.isDigit with
    | nil =>
      rw [rest, List.append_nil] at split
      rw [split] at before small
      exact .inl ⟨_, ds, past, some_characters, before, small⟩
    | cons c cs =>
      have other := List.head?_dropWhile_not Char.isDigit ds
      rw [rest] at other split
      rw [← split] at past
      exact .inr ⟨_, .character past before small other⟩
  · rw [← split] at past
    exact .inr ⟨_, .great past before beyond⟩

theorem readNatural_ok_iff : readNatural 10 limit cs = .ok n ↔ Natural (limit + 1) cs n := by
  refine ⟨fun h => ?_, readNatural_natural⟩
  rcases natural_or (limit + 1) cs with ⟨n', natural⟩ | ⟨reason, wrong⟩
  · rw [readNatural_natural natural] at h
    cases h
    exact natural
  · obtain ⟨fault, refused, -⟩ := readNatural_noNatural wrong
    rw [refused] at h
    cases h

theorem readNatural_error_iff {reason : String} :
    (∃ fault, readNatural 10 limit cs = .error fault ∧ fault.message = reason) ↔
      NoNatural (limit + 1) cs reason := by
  refine ⟨?_, readNatural_noNatural⟩
  rintro ⟨fault, h, rfl⟩
  rcases natural_or (limit + 1) cs with ⟨n', natural⟩ | ⟨reason, wrong⟩
  · rw [readNatural_natural natural] at h
    cases h
  · obtain ⟨fault', refused, rfl⟩ := readNatural_noNatural wrong
    rw [refused] at h
    cases h
    exact wrong

end

/-! ## Letters of either case -/

/-- A word in letters of either case. -/
def AnyCase (word : String) (cs : List Char) : Prop :=
  List.Forall₂ (fun w c => c = w ∨ c = w.toUpper) word.toList cs

theorem toUpper_cases (c : Char) : c.toUpper = c ∨ ∃ n < 26, c = Char.ofNat (97 + n) := by
  unfold Char.toUpper
  split
  · rename_i small
    right
    have bounds : 97 ≤ c.toNat ∧ c.toNat ≤ 122 := small
    refine ⟨c.toNat - 97, by omega, ?_⟩
    rw [Nat.add_sub_cancel' bounds.1, Char.ofNat_toNat]
  · exact .inl rfl

theorem toLower_eq_iff {w c : Char} (lower : w.toLower = w) : c.toLower = w ↔ c = w ∨ c = w.toUpper := by
  constructor
  · rintro rfl
    rcases Text.toLower_cases c with same | ⟨n, letter, rfl⟩
    · exact .inl same.symm
    · have capitals : ∀ n < 26, (Char.ofNat (65 + n)).toLower.toUpper = Char.ofNat (65 + n) := by decide
      exact .inr (capitals n letter).symm
  · rintro (rfl | rfl)
    · exact lower
    · rcases toUpper_cases w with same | ⟨n, letter, rfl⟩
      · rw [same, lower]
      · have letters : ∀ n < 26, (Char.ofNat (97 + n)).toUpper.toLower = Char.ofNat (97 + n) := by decide
        exact letters n letter

theorem anyCase_iff (word : String) (lower : ∀ w ∈ word.toList, w.toLower = w) (cs : List Char) :
    AnyCase word cs ↔ cs.map Char.toLower = word.toList := by
  unfold AnyCase
  generalize word.toList = ws at *
  induction cs generalizing ws with
  | nil => simp
  | cons c cs ih =>
    cases ws with
    | nil => simp
    | cons w ws =>
      obtain ⟨own, others⟩ := List.forall_mem_cons.1 lower
      rw [List.forall₂_cons, List.map_cons, List.cons.injEq, ih ws others, toLower_eq_iff own]

/-! ## Doubles -/

inductive Sign : List Char → Bool → Prop
  | none : Sign [] false
  | plus : Sign ['+'] false
  | minus : Sign ['-'] true

/-- A point with the digits behind it, or nothing. -/
inductive Point : List Char → List Char → Prop
  | none : Point [] []
  | digits (ds : List Char) : Point ('.' :: ds) ds

/-- A power of ten, or nothing. -/
inductive Power : List Char → ℤ → Prop
  | none : Power [] 0
  | ten {mark : Char} {sign ds : List Char} {negative : Bool} {n : Nat} (letter : mark = 'e' ∨ mark = 'E')
    (signed : Sign sign negative) (some_digits : ds ≠ []) (numeral : Numeral ds n) :
    Power (mark :: (sign ++ ds)) (if negative then -n else n)

/-- A text that stands for a double. A decimal stands for the double nearest to it. -/
inductive Double : List Char → Binary64 → Prop
  | infinity {sign cs : List Char} {negative : Bool} (signed : Sign sign negative)
    (word : AnyCase "inf" cs ∨ AnyCase "infinity" cs) : Double (sign ++ cs) (.infinity negative)
  | nan {sign cs : List Char} {negative : Bool} (signed : Sign sign negative) (word : AnyCase "nan" cs) :
    Double (sign ++ cs) (.nan negative)
  | decimal {sign whole point fraction power : List Char} {negative : Bool} {n : Nat} {e : ℤ} {x : Binary64}
    (signed : Sign sign negative) (pointed : Point point fraction) (scaled : Power power e)
    (some_digits : whole ++ fraction ≠ []) (numeral : Numeral (whole ++ fraction) n)
    (nearest : Binary64.Rounds negative (n * 10 ^ (e - fraction.length)) x) :
    Double (sign ++ (whole ++ (point ++ power))) x

/-! ## Words -/

theorem readSpecial?_iff {negative : Bool} {cs : List Char} {x : Binary64} : readSpecial? negative cs = some x ↔
    (AnyCase "inf" cs ∨ AnyCase "infinity" cs) ∧ x = .infinity negative ∨
      AnyCase "nan" cs ∧ x = .nan negative := by
  have inf := anyCase_iff "inf" (List.all_iff_forall_prop.1 (by decide)) cs
  have infinity := anyCase_iff "infinity" (List.all_iff_forall_prop.1 (by decide)) cs
  have nan := anyCase_iff "nan" (List.all_iff_forall_prop.1 (by decide)) cs
  rw [inf, infinity, nan, readSpecial?]
  split
  · rename_i word
    have other : cs.map Char.toLower ≠ "nan".toList := by
      rcases word with h | h
      · rw [h]; decide
      · rw [h]; decide
    rw [and_iff_right word, or_iff_left fun h => other h.1, Option.some.injEq, eq_comm]
  · rename_i word
    rw [or_iff_right fun h => word h.1]
    split
    · rename_i nan
      rw [and_iff_right nan, Option.some.injEq, eq_comm]
    · rename_i nan
      exact iff_of_false (fun h => by cases h) fun h => nan h.1

/-- What a word starts with is a letter. -/
theorem AnyCase.head {word : String} {cs : List Char} (h : AnyCase word cs) {d : Char} {ds : List Char}
    (split : cs = d :: ds) : ∃ w ws, word.toList = w :: ws ∧ (d = w ∨ d = w.toUpper) := by
  subst split
  unfold AnyCase at h
  cases hw : word.toList with
  | nil => rw [hw] at h; cases h
  | cons w ws =>
    rw [hw, List.forall₂_cons] at h
    exact ⟨w, ws, rfl, h.1⟩

/-! ## Decimals -/

section
variable {ds rest : List Char}

/-- The first character is no digit. -/
def StopsDigits (rest : List Char) : Prop := ∀ c cs, rest = c :: cs → c.isDigit = false

theorem takeWhile_digits (digits : ds.all Char.isDigit = true) (stops : StopsDigits rest) :
    (ds ++ rest).takeWhile Char.isDigit = ds ∧ (ds ++ rest).dropWhile Char.isDigit = rest := by
  have all : ∀ c ∈ ds, c.isDigit = true := List.all_eq_true.1 digits
  rw [List.takeWhile_append_of_pos all, List.dropWhile_append_of_pos all]
  cases rest with
  | nil => simp
  | cons c cs => simp [stops c cs rfl]

theorem Power.stopsDigits {power : List Char} {e : ℤ} (h : Power power e) : StopsDigits power := by
  intro c cs split
  cases h with
  | none => cases split
  | ten letter signed some_digits numeral =>
    obtain ⟨rfl, -⟩ := List.cons.inj split
    rcases letter with rfl | rfl <;> rfl

theorem readExponent?_of {power : List Char} {e : ℤ} (h : Power power e) : Decimal.readExponent? power = some e := by
  cases h with
  | none => rfl
  | @ten mark sign ds negative n letter signed some_digits numeral =>
    obtain ⟨digits, value⟩ := numeral_iff.1 numeral
    have filled : ds.isEmpty = false := by simpa using some_digits
    simp only [Decimal.readExponent?, if_pos letter]
    cases signed with
    | none =>
      cases ds with
      | nil => exact absurd rfl some_digits
      | cons d ds =>
        have digit : d.isDigit = true := by
          rw [List.all_cons, Bool.and_eq_true] at digits
          exact digits.1
        have unsigned : d ≠ '-' ∧ d ≠ '+' := by
          constructor
          · rintro rfl
            cases digit
          · rintro rfl
            cases digit
        simp [unsigned, digits, value]
    | plus => simp [filled, digits, value]
    | minus => simp [filled, digits, value]

theorem power_of_readExponent? {power : List Char} {e : ℤ} (h : Decimal.readExponent? power = some e) :
    Power power e := by
  cases power with
  | nil =>
    obtain rfl := Option.some.inj h
    exact .none
  | cons mark cs =>
    have letter : mark = 'e' ∨ mark = 'E' := by
      by_contra other
      simp only [Decimal.readExponent?, if_neg other] at h
      cases h
    simp only [Decimal.readExponent?, if_pos letter] at h
    -- The sign tells what stands in front of the digits.
    have behind {sign ds : List Char} {negative : Bool} (signed : Sign sign negative)
        (reads : (if (ds.isEmpty || !ds.all Char.isDigit) = true then none
          else some ((if negative then -1 else 1) * (digitsValue ds : ℤ))) = some e) :
        Power (mark :: (sign ++ ds)) e := by
      split at reads
      · cases reads
      · rename_i filled
        simp only [Bool.or_eq_true, List.isEmpty_iff, Bool.not_eq_true', not_or, Bool.not_eq_false] at filled
        have power := Power.ten letter signed filled.1 (numeral_iff.2 ⟨filled.2, rfl⟩)
        obtain rfl := Option.some.inj reads
        cases negative <;> simpa using power
    split at h
    · exact behind .minus h
    · exact behind .plus h
    · exact behind .none h

theorem Point.stopsDigits {point fraction power : List Char} {e : ℤ} (pointed : Point point fraction)
    (scaled : Power power e) : StopsDigits (point ++ power) := by
  cases pointed with
  | none => exact scaled.stopsDigits
  | digits =>
    intro c cs split
    obtain ⟨rfl, -⟩ := List.cons.inj split
    rfl

theorem readUnsigned?_of {whole point fraction power : List Char} {n : Nat} {e : ℤ} (negative : Bool)
    (pointed : Point point fraction) (scaled : Power power e) (some_digits : whole ++ fraction ≠ [])
    (numeral : Numeral (whole ++ fraction) n) : Decimal.readUnsigned? negative (whole ++ (point ++ power)) =
      some { negative, coefficient := n, exponent := e - fraction.length } := by
  obtain ⟨digits, value⟩ := numeral_iff.1 numeral
  rw [List.all_append, Bool.and_eq_true] at digits
  obtain ⟨taken, dropped⟩ := takeWhile_digits digits.1 (pointed.stopsDigits scaled)
  have filled : (whole.isEmpty && fraction.isEmpty) = false := by
    rw [Bool.and_eq_false_iff, List.isEmpty_eq_false_iff, List.isEmpty_eq_false_iff]
    exact not_and_or.1 fun none => some_digits (List.append_eq_nil_iff.2 none)
  have exponent := readExponent?_of scaled
  unfold Decimal.readUnsigned?
  rw [taken, dropped]
  cases pointed with
  | none =>
    rw [List.append_nil] at some_digits value
    cases scaled with
    | none => simp [some_digits, exponent, value]
    | ten letter signed some_power power =>
      rcases letter with rfl | rfl
      · simp [some_digits, exponent, value]
      · simp [some_digits, exponent, value]
  | digits =>
    obtain ⟨taken', dropped'⟩ := takeWhile_digits digits.2 scaled.stopsDigits
    simp [taken', dropped', filled, exponent, value]

theorem exists_of_readUnsigned? {negative : Bool} {cs : List Char} {d : Decimal}
    (h : Decimal.readUnsigned? negative cs = some d) : ∃ whole point fraction power n e,
      cs = whole ++ (point ++ power) ∧ Point point fraction ∧ Power power e ∧ whole ++ fraction ≠ [] ∧
        Numeral (whole ++ fraction) n ∧ d = { negative, coefficient := n, exponent := e - fraction.length } := by
  unfold Decimal.readUnsigned? at h
  have whole := List.takeWhile_append_dropWhile (p := Char.isDigit) (l := cs)
  have digits : (cs.takeWhile Char.isDigit).all Char.isDigit = true := List.all_takeWhile
  generalize cs.takeWhile Char.isDigit = front at *
  generalize cs.dropWhile Char.isDigit = rest at *
  subst whole
  have finish {point fraction power : List Char} (pointed : Point point fraction)
      (own : fraction.all Char.isDigit = true) (reads : (if (front.isEmpty && fraction.isEmpty) = true then none
        else (Decimal.readExponent? power).map fun e =>
          { negative, coefficient := digitsValue (front ++ fraction), exponent := e - fraction.length }) = some d) :
      ∃ whole point' fraction power' n e, front ++ (point ++ power) = whole ++ (point' ++ power') ∧
        Point point' fraction ∧ Power power' e ∧ whole ++ fraction ≠ [] ∧ Numeral (whole ++ fraction) n ∧
          d = { negative, coefficient := n, exponent := e - fraction.length } := by
    split at reads
    · cases reads
    · rename_i filled
      obtain ⟨e, scaled, rfl⟩ := Option.map_eq_some_iff.1 reads
      refine ⟨front, point, fraction, power, _, e, rfl, pointed, power_of_readExponent? scaled, ?_,
        numeral_iff.2 ⟨by rw [List.all_append, digits, own]; rfl, rfl⟩, rfl⟩
      rintro none
      obtain ⟨rfl, rfl⟩ := List.append_eq_nil_iff.1 none
      exact filled rfl
  dsimp only at h
  split at h
  · rename_i ds
    have joined := finish (.digits (ds.takeWhile Char.isDigit)) List.all_takeWhile h
    rwa [List.cons_append, List.takeWhile_append_dropWhile] at joined
  · exact finish .none rfl h

end

/-! ## Reading doubles -/

section
variable {cs : List Char} {negative : Bool} {x : Binary64}

theorem readDouble?_signed {sign : List Char} (signed : Sign sign negative)
    (unsigned : sign = [] → ∀ d ds, cs = d :: ds → d ≠ '-' ∧ d ≠ '+') :
    readDouble? (String.ofList (sign ++ cs)) =
      (readSpecial? negative cs).or ((Decimal.readUnsigned? negative cs).map Decimal.nearest) := by
  unfold readDouble?
  rw [String.toList_ofList]
  cases signed with
  | none =>
    cases cs with
    | nil => rfl
    | cons d ds =>
      obtain ⟨minus, plus⟩ := unsigned rfl d ds rfl
      simp [minus, plus]
  | plus => rfl
  | minus => rfl

theorem readDouble?_word {sign : List Char} (signed : Sign sign negative)
    (word : readSpecial? negative cs = some x) (unsigned : ∀ d ds, cs = d :: ds → d ≠ '-' ∧ d ≠ '+') :
    readDouble? (String.ofList (sign ++ cs)) = some x := by
  rw [readDouble?_signed signed fun _ => unsigned, word, Option.some_or]

/-- A word starts with neither a sign nor a digit. -/
theorem AnyCase.unsigned {word : String} (h : AnyCase word cs)
    (letters : ∀ w ∈ word.toList, w ≠ '-' ∧ w ≠ '+' ∧ w.toUpper ≠ '-' ∧ w.toUpper ≠ '+') :
    ∀ d ds, cs = d :: ds → d ≠ '-' ∧ d ≠ '+' := by
  intro d ds split
  obtain ⟨w, ws, first, own⟩ := h.head split
  obtain ⟨minus, plus, minus', plus'⟩ := letters w (by rw [first]; exact List.mem_cons_self)
  rcases own with rfl | rfl
  · exact ⟨minus, plus⟩
  · exact ⟨minus', plus'⟩

/-- The first character is a digit or the point. -/
def StartsNumber (cs : List Char) : Prop := ∀ d ds, cs = d :: ds → d.isDigit = true ∨ d = '.'

theorem StartsNumber.unsigned (h : StartsNumber cs) : ∀ d ds, cs = d :: ds → d ≠ '-' ∧ d ≠ '+' := by
  intro d ds split
  rcases h d ds split with digit | rfl
  · constructor
    · rintro rfl
      cases digit
    · rintro rfl
      cases digit
  · decide

theorem AnyCase.not_startsNumber {word : String} (h : AnyCase word cs)
    (letters : ∀ w ∈ word.toList, w.isDigit = false ∧ w ≠ '.' ∧ w.toUpper.isDigit = false ∧ w.toUpper ≠ '.')
    (some_letters : word.toList ≠ []) : ¬ StartsNumber cs := by
  intro starts
  cases cs with
  | nil =>
    unfold AnyCase at h
    rw [List.forall₂_nil_right_iff] at h
    exact some_letters h
  | cons d ds =>
    obtain ⟨w, ws, first, own⟩ := h.head rfl
    obtain ⟨digit, dot, digit', dot'⟩ := letters w (by rw [first]; exact List.mem_cons_self)
    rcases starts d ds rfl with isDigit | isPoint
    · rcases own with rfl | rfl
      · rw [digit] at isDigit; cases isDigit
      · rw [digit'] at isDigit; cases isDigit
    · rcases own with rfl | rfl
      · exact dot isPoint
      · exact dot' isPoint

theorem StartsNumber.wordless (h : StartsNumber cs) (negative : Bool) : readSpecial? negative cs = none := by
  rw [Option.eq_none_iff_forall_ne_some]
  intro y special
  rcases readSpecial?_iff.1 special with ⟨inf | infinity, -⟩ | ⟨nan, -⟩
  · exact inf.not_startsNumber (List.all_iff_forall_prop.1 (by decide)) (by decide) h
  · exact infinity.not_startsNumber (List.all_iff_forall_prop.1 (by decide)) (by decide) h
  · exact nan.not_startsNumber (List.all_iff_forall_prop.1 (by decide)) (by decide) h

theorem Point.startsNumber {whole point fraction : List Char} (pointed : Point point fraction)
    (digits : whole.all Char.isDigit = true) (some_digits : whole ++ fraction ≠ []) (power : List Char) :
    StartsNumber (whole ++ (point ++ power)) := by
  intro d ds split
  cases whole with
  | cons c cs =>
    obtain ⟨rfl, -⟩ := List.cons.inj split
    rw [List.all_cons, Bool.and_eq_true] at digits
    exact .inl digits.1
  | nil =>
    cases pointed with
    | none => exact absurd rfl some_digits
    | digits ds => exact .inr (List.cons.inj split).1.symm

theorem readDouble?_double (h : Double cs x) : readDouble? (String.ofList cs) = some x := by
  cases h with
  | infinity signed word =>
    refine readDouble?_word signed (readSpecial?_iff.2 (.inl ⟨word, rfl⟩)) ?_
    rcases word with inf | infinity
    · exact inf.unsigned (List.all_iff_forall_prop.1 (by decide))
    · exact infinity.unsigned (List.all_iff_forall_prop.1 (by decide))
  | nan signed word =>
    have unsigned := word.unsigned (List.all_iff_forall_prop.1 (by decide))
    exact readDouble?_word signed (readSpecial?_iff.2 (.inr ⟨word, rfl⟩)) unsigned
  | @decimal sign whole point fraction power negative n e _ signed pointed scaled some_digits numeral nearest =>
    obtain ⟨digits, -⟩ := numeral_iff.1 numeral
    rw [List.all_append, Bool.and_eq_true] at digits
    have starts := pointed.startsNumber digits.1 some_digits power
    rw [readDouble?_signed signed fun _ => starts.unsigned, starts.wordless, Option.none_or,
      readUnsigned?_of negative pointed scaled some_digits numeral, Option.map_some]
    have read := Decimal.rounds_nearest { negative, coefficient := n, exponent := e - fraction.length }
    exact congrArg some (read.unique nearest)

theorem exists_sign (cs : List Char) : ∃ sign negative rest, cs = sign ++ rest ∧ Sign sign negative ∧
    (sign = [] → ∀ d ds, rest = d :: ds → d ≠ '-' ∧ d ≠ '+') := by
  by_cases minus : ∃ rest, cs = '-' :: rest
  · obtain ⟨rest, rfl⟩ := minus
    exact ⟨['-'], true, rest, rfl, .minus, fun h => by cases h⟩
  by_cases plus : ∃ rest, cs = '+' :: rest
  · obtain ⟨rest, rfl⟩ := plus
    exact ⟨['+'], false, rest, rfl, .plus, fun h => by cases h⟩
  refine ⟨[], false, cs, rfl, .none, fun _ d ds split => ⟨?_, ?_⟩⟩
  · rintro rfl
    exact minus ⟨ds, split⟩
  · rintro rfl
    exact plus ⟨ds, split⟩

theorem double_of_readDouble? (h : readDouble? (String.ofList cs) = some x) : Double cs x := by
  obtain ⟨sign, negative, rest, rfl, signed, unsigned⟩ := exists_sign cs
  rw [readDouble?_signed signed unsigned, Option.or_eq_some_iff] at h
  rcases h with special | ⟨-, decimal⟩
  · rcases readSpecial?_iff.1 special with ⟨word, rfl⟩ | ⟨word, rfl⟩
    · exact .infinity signed word
    · exact .nan signed word
  · obtain ⟨d, read, rfl⟩ := Option.map_eq_some_iff.1 decimal
    obtain ⟨whole, point, fraction, power, n, e, rfl, pointed, scaled, some_digits, numeral, rfl⟩ :=
      exists_of_readUnsigned? read
    have nearest := Decimal.rounds_nearest { negative, coefficient := n, exponent := e - fraction.length }
    exact .decimal signed pointed scaled some_digits numeral nearest

theorem readDouble?_iff {s : String} : readDouble? s = some x ↔ Double s.toList x := by
  constructor
  · intro h
    refine double_of_readDouble? ?_
    rwa [String.ofList_toList]
  · intro h
    have read := readDouble?_double h
    rwa [String.ofList_toList] at read

end

end SecretLayers.Spelling
