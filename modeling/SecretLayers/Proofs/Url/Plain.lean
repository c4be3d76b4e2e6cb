import SecretLayers.Proofs.Text.Blank
import SecretLayers.Proofs.Url.Relative
/-!
Plain paths: pieces of letters, digits and four marks between slashes, none of them a step. A
reader neither takes them apart otherwise nor rewrites them, so relative to a directory they
come out as they are written.
-/
namespace SecretLayers.Url
set_option autoImplicit false

/-! ## Characters -/

/-- A letter, a digit or a mark that means nothing in an address. -/
def isPlain (c : Char) : Bool := c.isAlphanum || c == '-' || c == '_' || c == '~' || c == '.'

/-- A character that is neither cut from an address nor ends a part of one, and that a path holds
as it is. -/
structure Stays (c : Char) : Prop where
  shown : decide (c.toNat ≤ 0x20) = false
  unbroken : (c != '\t' && c != '\n' && c != '\r') = true
  noScheme : c ≠ ':'
  noQuery : c ≠ '?'
  noFragment : c ≠ '#'
  slash : isSlash true c = (c == '/')
  unescaped : c ≠ '/' → needsEscape pathSet c = false
  noPercent : c.toLower ≠ '%'
  point : c.toLower = '.' → c = '.'

theorem toNat_lt_of_isPlain {c : Char} (h : isPlain c = true) : c.toNat < 128 := by
  simp only [isPlain, Bool.or_eq_true, beq_iff_eq] at h
  rcases h with (((h | rfl) | rfl) | rfl) | rfl
  · unfold Char.isAlphanum Char.isAlpha Char.isUpper Char.isLower Char.isDigit at h
    simp only [Bool.or_eq_true, Bool.and_eq_true, decide_eq_true_eq, UInt32.le_iff_toNat_le, ge_iff_le] at h
    have upper : 'Z'.val.toNat = 90 := rfl
    have lower : 'z'.val.toNat = 122 := rfl
    have digit : '9'.val.toNat = 57 := rfl
    change c.val.toNat < 128
    omega
  all_goals decide

theorem stays_of_isPlain {c : Char} (h : isPlain c = true ∨ c = '/') : Stays c := by
  have ascii : ∀ n < 128, isPlain (Char.ofNat n) = true ∨ Char.ofNat n = '/' →
      decide ((Char.ofNat n).toNat ≤ 0x20) = false ∧
      (Char.ofNat n != '\t' && Char.ofNat n != '\n' && Char.ofNat n != '\r') = true ∧
      Char.ofNat n ≠ ':' ∧ Char.ofNat n ≠ '?' ∧ Char.ofNat n ≠ '#' ∧
      isSlash true (Char.ofNat n) = (Char.ofNat n == '/') ∧
      (Char.ofNat n ≠ '/' → needsEscape pathSet (Char.ofNat n) = false) ∧
      (Char.ofNat n).toLower ≠ '%' ∧
      ((Char.ofNat n).toLower = '.' → Char.ofNat n = '.') := by decide +kernel
  have small : c.toNat < 128 := by
    rcases h with h | rfl
    · exact toNat_lt_of_isPlain h
    · decide
  obtain ⟨shown, unbroken, noScheme, noQuery, noFragment, slash, unescaped, noPercent, point⟩ :=
    Char.ofNat_toNat c ▸ ascii c.toNat small (by rwa [Char.ofNat_toNat])
  exact ⟨shown, unbroken, noScheme, noQuery, noFragment, slash, unescaped, noPercent, point⟩

/-! ## Paths -/

/-- Pieces of plain characters between slashes, none of which is a step. -/
structure IsPlainPath (cs : List Char) : Prop where
  plain : ∀ c ∈ cs, isPlain c = true ∨ c = '/'
  steps : ∀ piece ∈ Text.splitChars (· == '/') cs, piece ≠ ['.'] ∧ piece ≠ ['.', '.']

instance (cs : List Char) : Decidable (IsPlainPath cs) :=
  decidable_of_iff ((cs.all fun c => isPlain c || c == '/') = true ∧
      ((Text.splitChars (· == '/') cs).all fun piece => piece != ['.'] && piece != ['.', '.']) = true) <| by
    simp only [List.all_eq_true, Bool.or_eq_true, beq_iff_eq, Bool.and_eq_true, bne_iff_ne]
    exact ⟨fun ⟨plain, steps⟩ => ⟨plain, steps⟩, fun ⟨plain, steps⟩ => ⟨plain, steps⟩⟩

section
variable {cs : List Char}

theorem IsPlainPath.tail (h : IsPlainPath ('/' :: cs)) : IsPlainPath cs where
  plain c hc := h.plain c (List.mem_cons_of_mem _ hc)
  steps piece hp := h.steps piece (by simp [Text.splitChars, hp])

/-- Slashes in front do not count. -/
theorem IsPlainPath.dropSlashes (h : IsPlainPath cs) : IsPlainPath (cs.dropWhile (· == '/')) := by
  induction cs with
  | nil => exact h
  | cons c cs ih =>
    by_cases hc : c = '/'
    · subst hc
      simpa using ih h.tail
    · simpa [hc] using h

theorem splitChars_congr {p q : Char → Bool} (h : ∀ c ∈ cs, p c = q c) :
    Text.splitChars p cs = Text.splitChars q cs := by
  induction cs with
  | nil => rfl
  | cons c cs ih =>
    rw [List.forall_mem_cons] at h
    simp only [Text.splitChars, h.1, ih h.2]

theorem pieces_of_plain (h : IsPlainPath cs) : pieces cs = Text.splitChars (· == '/') cs :=
  splitChars_congr fun c hc => (stays_of_isPlain (h.plain c hc)).slash

/-- The pieces of a text, written behind slashes, are the text behind a slash. -/
theorem chars_splitChars (cs : List Char) :
    (Path.segments (Text.splitChars (· == '/') cs)).chars = '/' :: cs := by
  induction cs with
  | nil => rfl
  | cons c cs ih =>
    by_cases hc : c = '/'
    · subst hc
      simpa [Text.splitChars, chars_cons] using ih
    · cases hsplit : Text.splitChars (· == '/') cs with
      | nil => exact absurd hsplit (Text.splitChars_ne_nil _ _)
      | cons piece rest =>
        rw [hsplit, chars_cons, List.cons.injEq] at ih
        simp [Text.splitChars, hc, hsplit, chars_cons, ih.2]

/-- The characters of a piece are plain. -/
theorem IsPlainPath.stays (h : IsPlainPath cs) {piece : List Char}
    (hp : piece ∈ Text.splitChars (· == '/') cs) {c : Char} (hc : c ∈ piece) : Stays c ∧ c ≠ '/' := by
  have noSlash : c ≠ '/' := by simpa using splitChars_forall (· == '/') cs piece hp c hc
  have written : c ∈ '/' :: cs := by
    rw [← chars_splitChars]
    exact List.mem_flatMap.2 ⟨piece, hp, List.mem_cons_of_mem _ hc⟩
  exact ⟨stays_of_isPlain (h.plain c ((List.mem_cons.1 written).resolve_left noSlash)), noSlash⟩

end

/-! ## Pieces -/

section
variable {piece : List Char}

theorem points_of_map_toLower {n : Nat} (h : ∀ c ∈ piece, Stays c)
    (points : piece.map Char.toLower = List.replicate n '.') : piece = List.replicate n '.' := by
  rw [List.eq_replicate_iff] at points ⊢
  refine ⟨by simpa using points.1, fun c hc => ?_⟩
  exact (h c hc).point (points.2 _ (List.mem_map_of_mem hc))

theorem percent_notMem_map_toLower (h : ∀ c ∈ piece, Stays c) : '%' ∉ piece.map Char.toLower := by
  intro hm
  obtain ⟨c, hc, same⟩ := List.mem_map.1 hm
  exact (h c hc).noPercent same

theorem isUp_of_stays (h : ∀ c ∈ piece, Stays c) (noStep : piece ≠ ['.', '.']) : isUp piece = false := by
  have noPercent := percent_notMem_map_toLower h
  have noPoints : piece.map Char.toLower ≠ "..".toList := fun same =>
    noStep (points_of_map_toLower (n := 2) h same)
  have noEscape {step : List Char} (hstep : '%' ∈ step) : piece.map Char.toLower ≠ step := by
    rintro rfl
    exact noPercent hstep
  simp only [isUp, Bool.or_eq_false_iff, beq_eq_false_iff_ne]
  exact ⟨⟨⟨noPoints, noEscape (by decide)⟩, noEscape (by decide)⟩, noEscape (by decide)⟩

theorem isHere_of_stays (h : ∀ c ∈ piece, Stays c) (noStep : piece ≠ ['.']) : isHere piece = false := by
  have noEscape : piece.map Char.toLower ≠ "%2e".toList := by
    intro same
    exact percent_notMem_map_toLower h (same ▸ by decide)
  simp only [isHere, Bool.or_eq_false_iff, beq_eq_false_iff_ne]
  exact ⟨noStep, noEscape⟩

end

/-! ## Reading -/

/-- Pieces that are no steps and need no escapes lead into themselves. -/
theorem directoryOf_of_same (dir : List (List Char)) {pieces : List (List Char)} (hne : pieces ≠ [])
    (same : ∀ piece ∈ pieces, isUp piece = false ∧ isHere piece = false ∧ escape pathSet piece = piece) :
    directoryOf dir pieces ++ [nameOf pieces] = dir ++ pieces := by
  induction pieces generalizing dir with
  | nil => exact absurd rfl hne
  | cons piece rest ih =>
    obtain ⟨⟨up, here, unescaped⟩, hrest⟩ := List.forall_mem_cons.1 same
    cases rest with
    | nil => simp [directoryOf, nameOf, up, here, unescaped]
    | cons next rest =>
      simp only [directoryOf, nameOf, up, here, unescaped, Bool.false_eq_true, if_false]
      rw [ih (dir ++ [piece]) (by simp) hrest, List.append_assoc, List.singleton_append]

section
variable {cs : List Char}

theorem readSegments_of_plain (dir : List (List Char)) (h : IsPlainPath cs) :
    readSegments true dir cs = dir ++ Text.splitChars (· == '/') cs := by
  rw [readSegments_eq, pieces_of_plain h]
  refine directoryOf_of_same dir (Text.splitChars_ne_nil _ _) fun piece hp => ?_
  have stays : ∀ c ∈ piece, Stays c := fun c hc => (h.stays hp hc).1
  refine ⟨isUp_of_stays stays (h.steps piece hp).2, isHere_of_stays stays (h.steps piece hp).1, ?_⟩
  exact escape_of_plain fun c hc => (stays c hc).unescaped (h.stays hp hc).2

theorem significant_of_plain (h : IsPlainPath cs) : significant (String.ofList cs) = cs := by
  have stays : ∀ c ∈ cs, Stays c := fun c hc => stays_of_isPlain (h.plain c hc)
  rw [significant, String.toList_ofList, Text.strip_eq_self fun c hc => (stays c hc).shown]
  exact List.filter_eq_self.2 fun c hc => (stays c hc).unbroken

theorem splitScheme?_of_plain (h : IsPlainPath cs) : splitScheme? cs = none := by
  unfold splitScheme?
  split
  · rename_i rest hdrop
    have hmem : ':' ∈ cs := by
      refine (List.dropWhile_sublist (p := isSchemeChar)).mem ?_
      rw [hdrop]
      exact List.mem_cons_self
    exact absurd rfl (stays_of_isPlain (h.plain _ hmem)).noScheme
  · rfl

theorem splitParts_of_plain (h : IsPlainPath cs) :
    splitParts true cs = { path := cs, query := none, fragment := none } := by
  have stays : ∀ c ∈ cs, Stays c := fun c hc => stays_of_isPlain (h.plain c hc)
  have noFragment : ∀ c ∈ cs, decide (c ≠ '#') = true := fun c hc => decide_eq_true (stays c hc).noFragment
  have noQuery : ∀ c ∈ cs, decide (c ≠ '?') = true := fun c hc => decide_eq_true (stays c hc).noQuery
  simp only [splitParts, List.dropWhile_eq_nil_iff.2 noFragment, List.takeWhile_eq_self_iff.2 noFragment,
    List.dropWhile_eq_nil_iff.2 noQuery, List.takeWhile_eq_self_iff.2 noQuery]

/-- A plain path is read in the directory of the base, and nothing else of the base changes. -/
theorem parse_plain {base : Url} {dir : List (List Char)} (special : isSpecial base.scheme)
    (path : base.path = .segments (dir ++ [[]])) (query : base.query = none)
    (fragment : base.fragment = none) (h : IsPlainPath cs) (relative : cs.head? ≠ some '/') :
    parse (some base) (String.ofList cs) =
      .ok { base with path := .segments (dir ++ Text.splitChars (· == '/') cs) } := by
  simp only [parse, significant_of_plain h, splitScheme?_of_plain h, path]
  cases cs with
  | nil => simp [readRelative, Text.splitChars, ← path, fragment]
  | cons c rest =>
    have hc : isSlash true c = false := by
      rw [(stays_of_isPlain (h.plain c List.mem_cons_self)).slash]
      simpa using relative
    simp [readRelative, special, splitParts_of_plain h, hc, path, Path.parent, readSegments_of_plain dir h,
      query, fragment]

end

end SecretLayers.Url
