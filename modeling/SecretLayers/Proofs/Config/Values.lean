import SecretLayers.Config.Environment
import SecretLayers.Proofs.Number.Spelling
import SecretLayers.Proofs.Text.Blank
/-!
The values of variables: which texts stand for a value of a kind, and how a text that stands for none
is reported. What a setting reads is held against that.
-/
namespace SecretLayers.Config
set_option autoImplicit false

/-! ## Kinds -/

/-- A kind of values: what a trimmed text stands for, and what is reported of one that stands for
nothing, with the name of its variable. -/
structure Kind (α : Type) where
  Spells : String → α → Prop
  Wrong : String → String → Error → Prop

/-- The report on a value, with the reason why it cannot be read. -/
def Reports (name reason : String) (e : Error) : Prop :=
  e = .configuration ("Invalid value for " ++ name ++ ": " ++ reason)

namespace Kind

/-- Any text. -/
def text : Kind String where
  Spells s a := a = s
  Wrong _ _ _ := False

/-- Any text, in a field that need not have one. -/
def given : Kind (Option String) where
  Spells s a := a = some s
  Wrong _ _ _ := False

/-- Any text, which is kept from sight. -/
def secret : Kind (Option Secret) where
  Spells s a := a = some ⟨s⟩
  Wrong _ _ _ := False

/-- The words for ways of logging in. -/
def methodWords : List (String × Auth.Method) :=
  [("token", .token), ("approle", .approle), ("app_role", .approle), ("appid", .appid), ("app_id", .appid),
    ("cert", .cert), ("aws_ec2", .awsEc2), ("kubernetes", .kubernetes), ("cubbyhole", .cubbyhole),
    ("wrapped_token", .cubbyhole)]

/-- A word in letters of either case, with hyphens or underscores in it. -/
def WordLike (word s : String) : Prop :=
  List.Forall₂ (fun w c => c = w ∨ c = w.toUpper ∨ w = '_' ∧ c = '-') word.toList s.toList

/-- A word for a way of logging in. -/
def method : Kind Auth.Method where
  Spells s a := ∃ word, (word, a) ∈ methodWords ∧ WordLike word s
  Wrong _ s e := (∀ entry ∈ methodWords, ¬ WordLike entry.1 s) ∧
    e = .configuration ("Unknown authentication method: " ++ s)

/-- Yes or no. -/
def flag : Kind Bool where
  Spells s a := s = "true" ∧ a = true ∨ s = "false" ∧ a = false
  Wrong name s e := s ≠ "true" ∧ s ≠ "false" ∧
    Reports name "provided string was not \x60true\x60 or \x60false\x60" e

/-- A natural of 64 bits. -/
def natural : Kind Nat where
  Spells s a := Spelling.Natural (2 ^ 64) s.toList a
  Wrong name s e := ∃ reason, Spelling.NoNatural (2 ^ 64) s.toList reason ∧ Reports name reason e

/-- A double. -/
def fraction : Kind Binary64 where
  Spells s a := Spelling.Double s.toList a
  Wrong name s e := (∀ a, ¬ Spelling.Double s.toList a) ∧ Reports name "invalid float literal" e

/-! ## Readers -/

section
variable {α : Type}

/-- A reader accepts what stands for a value, for that value, and reports everything else. -/
structure ReadBy (k : Kind α) (name : String) (read : String → Except Error α) : Prop where
  ok_iff : ∀ s a, Text.trim s = s → (read s = .ok a ↔ k.Spells s a)
  error_iff : ∀ s e, Text.trim s = s → (read s = .error e ↔ k.Wrong name s e)

/-- A reader whose refusals are reported with the name of the variable. -/
def named (name : String) (read : String → Except String α) (s : String) : Except Error α :=
  (read s).mapError (unreadableVariable name)

theorem named_ok_iff {name s : String} {read : String → Except String α} {a : α} :
    named name read s = .ok a ↔ read s = .ok a := by
  unfold named
  cases read s with
  | ok b => simp [Except.mapError]
  | error reason => simp [Except.mapError]

theorem named_error_iff {name s : String} {read : String → Except String α} {e : Error} :
    named name read s = .error e ↔ ∃ reason, read s = .error reason ∧ Reports name reason e := by
  unfold named Reports
  cases read s with
  | ok b => simp [Except.mapError]
  | error reason => simp [Except.mapError, unreadableVariable, eq_comm]

theorem flag_readBy (name : String) : flag.ReadBy name (named name readFlag) where
  ok_iff s a _ := by
    rw [named_ok_iff, readFlag, flag]
    split
    · rename_i yes
      simp [yes, eq_comm]
    · split
      · rename_i no
        simp [no, eq_comm]
      · rename_i yes no
        simp [yes, no]
  error_iff s e _ := by
    rw [named_error_iff, readFlag, flag]
    split
    · rename_i yes
      simp [yes]
    · split
      · rename_i no
        simp [no]
      · rename_i yes no
        simp [yes, no]

theorem natural_readBy (name : String) : natural.ReadBy name (named name readInteger) where
  ok_iff s a _ := by
    have read : readNatural 10 maxUnsigned64 s.toList = .ok a ↔ natural.Spells s a := Spelling.readNatural_ok_iff
    rw [← read, named_ok_iff, readInteger]
    cases readNatural 10 maxUnsigned64 s.toList with
    | ok b => simp [Except.mapError]
    | error fault => simp [Except.mapError]
  error_iff s e _ := by
    have read (reason : String) : (∃ fault, readNatural 10 maxUnsigned64 s.toList = .error fault ∧
        fault.message = reason) ↔ Spelling.NoNatural (2 ^ 64) s.toList reason := Spelling.readNatural_error_iff
    refine Iff.trans ?_ (exists_congr fun reason => and_congr_left fun _ => read reason)
    rw [named_error_iff, readInteger]
    cases readNatural 10 maxUnsigned64 s.toList with
    | ok b => simp [Except.mapError]
    | error fault => simp [Except.mapError]

theorem fraction_readBy (name : String) : fraction.ReadBy name (named name readFraction) where
  ok_iff s a _ := by
    refine Iff.trans ?_ Spelling.readDouble?_iff
    rw [named_ok_iff, readFraction]
    cases readDouble? s with
    | some x => simp
    | none => simp
  error_iff s e _ := by
    refine Iff.trans ?_ (and_congr_left fun _ => forall_congr' fun a => not_congr Spelling.readDouble?_iff)
    rw [named_error_iff, readFraction]
    cases readDouble? s with
    | some x => simp
    | none => simp

end

/-- A character as it is compared with the words: a small letter, or an underscore for a hyphen. -/
def plainChar (c : Char) : Char := if c.toLower = '-' then '_' else c.toLower

theorem plainChar_eq_iff {w c : Char} (lower : w.toLower = w) (hyphenless : w ≠ '-') :
    plainChar c = w ↔ c = w ∨ c = w.toUpper ∨ w = '_' ∧ c = '-' := by
  have hyphen : c.toLower = '-' ↔ c = '-' := by
    rw [Spelling.toLower_eq_iff (by decide), show '-'.toUpper = '-' by decide, or_self]
  have letter := Spelling.toLower_eq_iff (c := c) lower
  unfold plainChar
  split
  · rename_i same
    obtain rfl := hyphen.1 same
    constructor
    · rintro rfl
      exact .inr (.inr ⟨rfl, rfl⟩)
    · rintro (rfl | own | ⟨rfl, -⟩)
      · exact absurd rfl hyphenless
      · rw [same] at letter
        exact absurd (letter.2 (.inr own)) (Ne.symm hyphenless)
      · rfl
  · rename_i other
    rw [letter]
    constructor
    · rintro (own | capital)
      · exact .inl own
      · exact .inr (.inl capital)
    · rintro (own | capital | ⟨-, rfl⟩)
      · exact .inl own
      · exact .inr capital
      · exact absurd rfl (mt hyphen.2 other)

theorem wordLike_iff {word s : String} (lower : ∀ w ∈ word.toList, w.toLower = w ∧ w ≠ '-') :
    WordLike word s ↔ s.toList.map plainChar = word.toList := by
  unfold WordLike
  generalize word.toList = ws at *
  generalize s.toList = cs
  induction cs generalizing ws with
  | nil => simp
  | cons c cs ih =>
    cases ws with
    | nil => simp
    | cons w ws =>
      obtain ⟨⟨own, hyphenless⟩, others⟩ := List.forall_mem_cons.1 lower
      rw [List.forall₂_cons, List.map_cons, List.cons.injEq, ih ws others, plainChar_eq_iff own hyphenless]

/-- A word is looked up as it is spelled in small letters. -/
theorem ofText?_eq {s : String} (trimmed : Text.trim s = s) :
    Auth.Method.ofText? s = methodWords.lookup (String.ofList (s.toList.map plainChar)) := by
  rw [Auth.Method.ofText?, trimmed, Text.lowerAscii, String.toList_ofList, List.map_map]
  rfl

theorem wordLike_entry {entry : String × Auth.Method} (h : entry ∈ methodWords) (s : String) :
    WordLike entry.1 s ↔ String.ofList (s.toList.map plainChar) = entry.1 := by
  have all : ∀ entry ∈ methodWords, entry.1.toList.all (fun w => w.toLower = w ∧ w ≠ '-') := by decide
  have lower : ∀ w ∈ entry.1.toList, w.toLower = w ∧ w ≠ '-' := List.all_iff_forall_prop.1 (all entry h)
  rw [wordLike_iff lower, ← String.toList_inj, String.toList_ofList]

theorem method_readBy (name : String) : method.ReadBy name readMethod where
  ok_iff s a trimmed := by
    have own : ∀ entry ∈ methodWords, methodWords.lookup entry.1 = some entry.2 := by decide
    have found : Auth.Method.ofText? s = some a ↔ method.Spells s a := by
      rw [ofText?_eq trimmed]
      constructor
      · intro h
        obtain ⟨before, after, split, -⟩ := List.lookup_eq_some_iff.1 h
        have entry : (String.ofList (s.toList.map plainChar), a) ∈ methodWords := by
          rw [split]
          exact List.mem_append_right _ List.mem_cons_self
        exact ⟨_, entry, (wordLike_entry entry s).2 rfl⟩
      · rintro ⟨word, entry, like⟩
        rw [(wordLike_entry entry s).1 like]
        exact own _ entry
    rw [← found]
    unfold readMethod
    cases Auth.Method.ofText? s with
    | some m => simp
    | none => simp
  error_iff s e trimmed := by
    have unfound : Auth.Method.ofText? s = none ↔ ∀ entry ∈ methodWords, ¬ WordLike entry.1 s := by
      rw [ofText?_eq trimmed, List.lookup_eq_none_iff]
      refine forall₂_congr fun entry h => ?_
      rw [wordLike_entry h, bne_iff_ne]
    refine Iff.trans ?_ (and_congr_left fun _ => unfound)
    unfold readMethod
    cases Auth.Method.ofText? s with
    | some m => simp
    | none => exact ⟨fun h => ⟨rfl, (Except.error.inj h).symm⟩, fun h => congrArg Except.error h.2.symm⟩

end Kind
end SecretLayers.Config
