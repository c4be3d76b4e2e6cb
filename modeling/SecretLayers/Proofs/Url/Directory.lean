import SecretLayers.Url.Reference
/-!
Directories of paths: where the pieces of a path lead to from a directory, told from the
front. The reader keeps its segments in reverse; both come to the same. Segments have no
slash in them, so that a written path begins with a written directory only if its segments
begin with those of the directory.
-/
namespace SecretLayers.Url
set_option autoImplicit false

/-! ## Walking through pieces -/

/-- The directory that pieces lead to. The last piece names what is in it, unless it is
made of points. -/
def directoryOf (dir : List (List Char)) : List (List Char) → List (List Char)
  | [] => dir
  | [piece] => if isUp piece then dir.dropLast else dir
  | piece :: rest =>
    directoryOf
      (if isUp piece then dir.dropLast
        else if isHere piece then dir
        else dir ++ [escape pathSet piece]) rest

/-- What pieces name in the directory they lead to. -/
def nameOf : List (List Char) → List Char
  | [] => []
  | [piece] => if isUp piece || isHere piece then [] else escape pathSet piece
  | _ :: rest => nameOf rest

theorem addPieces_reverse (dir : List (List Char)) {pieces : List (List Char)} (h : pieces ≠ []) :
    (addPieces dir.reverse pieces).reverse = directoryOf dir pieces ++ [nameOf pieces] := by
  induction pieces generalizing dir with
  | nil => exact absurd rfl h
  | cons piece rest ih =>
    cases rest with
    | nil =>
      simp only [addPieces, addPiece, directoryOf, nameOf]
      by_cases up : isUp piece
      · simp [up, List.tail_reverse]
      · by_cases here : isHere piece <;> simp [up, here]
    | cons next rest =>
      simp only [addPieces, addPiece, directoryOf, nameOf]
      by_cases up : isUp piece
      · simp only [up, if_true, Bool.false_eq_true, if_false, List.tail_reverse]
        exact ih _ (by simp)
      · by_cases here : isHere piece
        · simp only [up, here, if_true, Bool.false_eq_true, if_false]
          exact ih _ (by simp)
        · simp only [up, here, Bool.false_eq_true, if_false]
          rw [← ih (dir ++ [escape pathSet piece]) (by simp), List.reverse_append]
          rfl

/-- The pieces of a path text, as addresses of the web are split. -/
def pieces (cs : List Char) : List (List Char) := Text.splitChars (isSlash true) cs

theorem readSegments_eq (dir : List (List Char)) (cs : List Char) :
    readSegments true dir cs = directoryOf dir (pieces cs) ++ [nameOf (pieces cs)] :=
  addPieces_reverse dir (Text.splitChars_ne_nil _ cs)

/-! ## Pieces that do not climb -/

/-- Whether pieces go up more often than they have gone down before. -/
def climbs (depth : Nat) : List (List Char) → Bool
  | [] => false
  | piece :: rest =>
    if isUp piece then depth == 0 || climbs (depth - 1) rest
    else climbs (if isHere piece then depth else depth + 1) rest

theorem prefix_directoryOf (dir below : List (List Char)) {pieces : List (List Char)}
    (h : climbs below.length pieces = false) : dir <+: directoryOf (dir ++ below) pieces := by
  -- `below` is where the pieces so far have led to inside of `dir`.
  induction pieces generalizing below with
  | nil => exact List.prefix_append dir below
  | cons piece rest ih =>
    simp only [climbs] at h
    have drops (hb : below ≠ []) : (dir ++ below).dropLast = dir ++ below.dropLast :=
      List.dropLast_append_of_ne_nil hb
    by_cases up : isUp piece
    · simp only [up, if_true, Bool.or_eq_false_iff, beq_eq_false_iff_ne] at h
      have hb : below ≠ [] := fun e => h.1 (by simp [e])
      have hlen : below.dropLast.length = below.length - 1 := List.length_dropLast
      cases rest with
      | nil =>
        simp only [directoryOf, up, if_true, drops hb]
        exact List.prefix_append dir _
      | cons next rest =>
        simp only [directoryOf, up, if_true, drops hb]
        exact ih _ (hlen ▸ h.2)
    · simp only [up, Bool.false_eq_true, if_false] at h
      cases rest with
      | nil => simp [directoryOf, up]
      | cons next rest =>
        by_cases here : isHere piece
        · simp only [directoryOf, up, here, Bool.false_eq_true, if_false, if_true] at h ⊢
          exact ih _ h
        · simp only [directoryOf, up, here, Bool.false_eq_true, if_false, List.append_assoc] at h ⊢
          exact ih _ (by simpa using h)

/-- Pieces that do not climb stay in the directory they start from. -/
theorem directoryOf_of_not_climbs (dir : List (List Char)) {pieces : List (List Char)}
    (h : climbs 0 pieces = false) : dir <+: directoryOf dir pieces := by
  simpa using prefix_directoryOf dir [] h

/-! ## Segments without slashes -/

theorem splitChars_forall (p : Char → Bool) (cs : List Char) :
    ∀ piece ∈ Text.splitChars p cs, ∀ c ∈ piece, p c = false := by
  induction cs with
  | nil => simp [Text.splitChars]
  | cons c cs ih =>
    simp only [Text.splitChars]
    split
    · simpa using ih
    · rename_i hc
      have hc : p c = false := by simpa using hc
      split
      · simp [hc]
      · rename_i piece rest heq
        rw [heq] at ih
        simp only [List.mem_cons, forall_eq_or_imp] at ih ⊢
        exact ⟨⟨hc, ih.1⟩, ih.2⟩

theorem upperHex_ne_slash : ∀ n < 16, upperHex n ≠ '/' := by decide

theorem bytesOf_lt (c : Char) : ∀ b ∈ bytesOf c, b < 256 := by
  have hc : c.toNat < 0x110000 := by
    have := c.valid
    unfold UInt32.isValidChar Nat.isValidChar at this
    change c.val.toNat < 0x110000
    omega
  unfold bytesOf
  dsimp only
  split
  · intro b hb
    simp only [List.mem_singleton] at hb
    omega
  · split
    · intro b hb
      simp only [List.mem_cons, List.not_mem_nil, or_false] at hb
      omega
    · split <;>
      · intro b hb
        simp only [List.mem_cons, List.not_mem_nil, or_false] at hb
        omega

theorem slash_notMem_escapeChar (set : EscapeSet) {c : Char} (h : c ≠ '/') :
    '/' ∉ escapeChar set c := by
  unfold escapeChar
  split
  · intro hm
    obtain ⟨b, hb, hm⟩ := List.mem_flatMap.1 hm
    have hlt := bytesOf_lt c b hb
    simp only [escapeByte, List.mem_cons, List.not_mem_nil, or_false] at hm
    rcases hm with hm | hm | hm
    · exact absurd hm (by decide)
    · exact upperHex_ne_slash (b / 16) (by omega) hm.symm
    · exact upperHex_ne_slash (b % 16) (by omega) hm.symm
  · simpa using h.symm

theorem slash_notMem_escape (set : EscapeSet) {cs : List Char} (h : '/' ∉ cs) :
    '/' ∉ escape set cs := by
  intro hm
  obtain ⟨c, hc, hm⟩ := List.mem_flatMap.1 hm
  exact slash_notMem_escapeChar set (fun e => h (e ▸ hc)) hm

/-- Segments that can be told apart again once they are written. -/
def AreSegments (list : List (List Char)) : Prop := ∀ s ∈ list, '/' ∉ s

theorem areSegments_pieces (cs : List Char) : AreSegments (pieces cs) := by
  intro piece hp hm
  exact absurd (splitChars_forall (isSlash true) cs piece hp '/' hm) (by decide)

theorem areSegments_directoryOf {dir pieces : List (List Char)} (hd : AreSegments dir)
    (hp : AreSegments pieces) : AreSegments (directoryOf dir pieces) := by
  have drop {dir : List (List Char)} (hd : AreSegments dir) : AreSegments dir.dropLast :=
    fun s hs => hd s (List.dropLast_subset dir hs)
  induction pieces generalizing dir with
  | nil => exact hd
  | cons piece rest ih =>
    cases rest with
    | nil =>
      simp only [directoryOf]
      split
      · exact drop hd
      · exact hd
    | cons next rest =>
      have hrest : AreSegments (next :: rest) := fun s hs => hp s (List.mem_cons_of_mem _ hs)
      simp only [directoryOf]
      refine ih ?_ hrest
      split
      · exact drop hd
      · split
        · exact hd
        · intro s hs
          rcases List.mem_append.1 hs with hs | hs
          · exact hd s hs
          · obtain rfl := List.mem_singleton.1 hs
            exact slash_notMem_escape pathSet (hp piece List.mem_cons_self)

theorem slash_notMem_nameOf {pieces : List (List Char)} (hp : AreSegments pieces) :
    '/' ∉ nameOf pieces := by
  induction pieces with
  | nil => simp [nameOf]
  | cons piece rest ih =>
    cases rest with
    | nil =>
      simp only [nameOf]
      split
      · simp
      · exact slash_notMem_escape pathSet (hp piece List.mem_cons_self)
    | cons next rest => exact ih fun s hs => hp s (List.mem_cons_of_mem _ hs)

/-! ## Written paths -/

/-- How a path begins behind its segments so far: with a slash, or not at all. -/
theorem slash_prefix_iff {x y l z : List Char} (hx : '/' ∉ x) (hl : '/' ∉ l)
    (hz : z = [] ∨ ∃ w, z = '/' :: w) :
    x ++ '/' :: y <+: l ++ z ↔ x = l ∧ '/' :: y <+: z := by
  constructor
  · rintro ⟨t, ht⟩
    rcases hz with rfl | ⟨w, rfl⟩
    · have hm : '/' ∈ l ++ [] := by rw [← ht]; simp
      simp [hl] at hm
    · have plain {a : List Char} (ha : '/' ∉ a) : ∀ c ∈ a, (c != '/') = true := by
        intro c hc
        simpa using fun e : c = '/' => ha (e ▸ hc)
      -- Up to the first slash there is only the segment, on either side.
      have htake := congrArg (List.takeWhile (· != '/')) ht
      simp only [List.append_assoc, List.cons_append, List.takeWhile_append_of_pos (plain hx),
        List.takeWhile_append_of_pos (plain hl), List.takeWhile_cons, bne_self_eq_false,
        Bool.false_eq_true, if_false, List.append_nil] at htake
      subst htake
      simp only [List.append_assoc, List.append_cancel_left_eq] at ht
      exact ⟨rfl, t, ht⟩
  · rintro ⟨rfl, t, ht⟩
    exact ⟨t, by rw [List.append_assoc, ht]⟩

theorem chars_cons (s : List Char) (rest : List (List Char)) :
    (Path.segments (s :: rest)).chars = '/' :: (s ++ (Path.segments rest).chars) := rfl

theorem chars_begins (list : List (List Char)) :
    (Path.segments list).chars = [] ∨ ∃ w, (Path.segments list).chars = '/' :: w := by
  cases list with
  | nil => exact .inl rfl
  | cons s rest => exact .inr ⟨_, chars_cons s rest⟩

theorem chars_append (as bs : List (List Char)) :
    (Path.segments (as ++ bs)).chars = (Path.segments as).chars ++ (Path.segments bs).chars := by
  simp [Path.chars]

/-- A written path begins with a written directory just when what it names lies in it. -/
theorem chars_prefix_iff {dir dir' : List (List Char)} {name : List Char} (hd : AreSegments dir)
    (hd' : AreSegments dir') (hn : '/' ∉ name) :
    (Path.segments (dir ++ [[]])).chars <+: (Path.segments (dir' ++ [name])).chars ↔
      dir <+: dir' := by
  induction dir generalizing dir' with
  | nil =>
    simp only [List.nil_prefix, iff_true]
    cases dir' with
    | nil => simp [Path.chars]
    | cons s rest => simp [Path.chars]
  | cons b dir ih =>
    have hb : '/' ∉ b := hd b List.mem_cons_self
    have hdir : AreSegments dir := fun s hs => hd s (List.mem_cons_of_mem b hs)
    obtain ⟨y, hy⟩ : ∃ y, (Path.segments (dir ++ [[]])).chars = '/' :: y := by
      cases dir with
      | nil => exact ⟨[], rfl⟩
      | cons s rest => exact ⟨_, chars_cons s _⟩
    cases dir' with
    | nil =>
      simp only [List.cons_append, List.nil_append, chars_cons, List.cons_prefix_cons, true_and,
        List.prefix_nil, reduceCtorEq, iff_false, hy]
      rw [slash_prefix_iff hb hn (chars_begins [])]
      simp [Path.chars]
    | cons l dir' =>
      have hl : '/' ∉ l := hd' l List.mem_cons_self
      have hdir' : AreSegments dir' := fun s hs => hd' s (List.mem_cons_of_mem l hs)
      simp only [List.cons_append, chars_cons, List.cons_prefix_cons, true_and]
      rw [← ih hdir hdir', hy, slash_prefix_iff hb hl (chars_begins _)]

end SecretLayers.Url
