import SecretLayers.Proofs.Url.Directory
/-!
What a reference gives of its own: a scheme, a site, or only a path. An address that is
read relative to one of the web keeps its scheme and its site exactly where the reference
gives neither, and its path lies where the pieces of the reference lead.
-/
namespace SecretLayers.Url
set_option autoImplicit false

/-! ## References -/

/-- A reference by what it gives of its own. -/
inductive Reference where
  /-- Another scheme than that of the base. -/
  | foreign
  /-- A site, and what stands behind it. -/
  | site (name rest : List Char)
  /-- A path at most, and what stands behind it. -/
  | inside (text : List Char)
  deriving DecidableEq, Repr

namespace Reference

/-- Behind the scheme, two slashes or more stand before a site. -/
def behind (text : List Char) : Reference :=
  if 2 ≤ (text.takeWhile (isSlash true)).length then
    let text := text.dropWhile (isSlash true)
    let name := text.takeWhile fun c => !endsAuthority true c
    site name (text.drop name.length)
  else inside text

/-- A reference to read under a scheme of the web. -/
def of (scheme cs : List Char) : Reference :=
  match splitScheme? cs with
  | some (own, rest) => if own = scheme then behind rest else foreign
  | none => behind cs

end Reference

/-- The text of a path, without query and fragment. -/
def pathText (cs : List Char) : List Char := (cs.takeWhile (· ≠ '#')).takeWhile (· ≠ '?')

/-- The directory of a path that stands behind a site. -/
def rootedDirectory (text : List Char) : List (List Char) :=
  match text with
  | c :: rest => directoryOf [] (pieces (if isSlash true c then rest else c :: rest))
  | [] => []

/-- The directory of a path that is read in a directory; a slash leads to the root. -/
def relativeDirectory (dir : List (List Char)) (text : List Char) : List (List Char) :=
  match text with
  | c :: rest => if isSlash true c then directoryOf [] (pieces rest) else directoryOf dir (pieces text)
  | [] => dir

/-- What an address read from a reference is, in a directory of the base. -/
inductive Reference.Gives (base : Url) (dir : List (List Char)) (u : Url) : Reference → Prop
  | foreign (scheme : u.scheme ≠ base.scheme) : Gives base dir u foreign
  | site {name rest : List Char} {a : Authority} {last : List Char} (scheme : u.scheme = base.scheme)
      (read : readAuthority base.scheme name = .ok a) (authority : u.authority = some a)
      (plain : '/' ∉ last)
      (path : u.path = .segments (rootedDirectory (pathText rest) ++ [last])) :
      Gives base dir u (site name rest)
  | inside {text last : List Char} (scheme : u.scheme = base.scheme)
      (authority : u.authority = base.authority) (plain : '/' ∉ last)
      (path : u.path = .segments (relativeDirectory dir (pathText text) ++ [last])) :
      Gives base dir u (inside text)

/-! ## Readers keep the scheme -/

theorem readAfterSlashes_ok {scheme cs : List Char} {u : Url}
    (h : readAfterSlashes scheme cs = .ok u) :
    ∃ a, readAuthority scheme (cs.takeWhile fun c => !endsAuthority (isSpecial scheme) c) = .ok a ∧
      u.scheme = scheme ∧ u.authority = some a ∧
      u.path = readPath (isSpecial scheme) (splitParts (isSpecial scheme)
        (cs.drop (cs.takeWhile fun c => !endsAuthority (isSpecial scheme) c).length)).path := by
  unfold readAfterSlashes at h
  simp only [bind, Except.bind] at h
  split at h
  · simp at h
  · rename_i a ha
    obtain rfl := Except.ok.inj h
    exact ⟨a, ha, rfl, rfl, rfl⟩

theorem readFree_scheme {scheme cs : List Char} {u : Url} (h : readFree scheme cs = .ok u) :
    u.scheme = scheme := by
  unfold readFree at h
  split at h
  · obtain ⟨_, _, hs, _⟩ := readAfterSlashes_ok h
    exact hs
  · obtain rfl := Except.ok.inj h
    rfl

theorem readAlone_scheme {scheme cs : List Char} {u : Url} (h : readAlone scheme cs = .ok u) :
    u.scheme = scheme := by
  unfold readAlone at h
  split at h
  · simp only [bind, Except.bind] at h
    split at h
    · simp at h
    · obtain rfl := Except.ok.inj h
      rfl
  · split at h
    · obtain ⟨_, _, hs, _⟩ := readAfterSlashes_ok h
      exact hs
    · exact readFree_scheme h

/-! ## Paths -/

theorem splitParts_path (special : Bool) (cs : List Char) :
    (splitParts special cs).path = pathText cs := rfl

theorem readPath_web (text : List Char) :
    ∃ name, '/' ∉ name ∧ readPath true text = .segments (rootedDirectory text ++ [name]) := by
  cases text with
  | nil => exact ⟨[], by simp, rfl⟩
  | cons c rest =>
    refine ⟨_, slash_notMem_nameOf
      (areSegments_pieces (if isSlash true c then rest else c :: rest)), ?_⟩
    simp only [readPath, readSegments_eq, rootedDirectory]

theorem areSegments_nil : AreSegments [] := by simp [AreSegments]

theorem areSegments_rootedDirectory (text : List Char) : AreSegments (rootedDirectory text) := by
  cases text with
  | nil => exact areSegments_nil
  | cons c rest => exact areSegments_directoryOf areSegments_nil (areSegments_pieces _)

theorem areSegments_relativeDirectory {dir : List (List Char)} (hd : AreSegments dir)
    (text : List Char) : AreSegments (relativeDirectory dir text) := by
  cases text with
  | nil => exact hd
  | cons c rest =>
    simp only [relativeDirectory]
    split
    · exact areSegments_directoryOf areSegments_nil (areSegments_pieces _)
    · exact areSegments_directoryOf hd (areSegments_pieces _)

/-! ## References without a site -/

theorem length_takeWhile_slashes {c : Char} {rest : List Char} (hc : isSlash true c) :
    2 ≤ ((c :: rest).takeWhile (isSlash true)).length ↔ rest.head?.any (isSlash true) := by
  cases rest with
  | nil => simp [hc]
  | cons d rest => by_cases hd : isSlash true d <;> simp [hc, hd]

theorem isSpecial_of_isHttp {scheme : List Char} (h : isHttp scheme) : isSpecial scheme := by
  simp only [isHttp, Bool.or_eq_true, beq_iff_eq] at h
  rcases h with rfl | rfl <;> decide

theorem isWeb_of_isHttp {scheme : List Char} (h : isHttp scheme) : isWeb scheme := by
  simp only [isHttp, Bool.or_eq_true, beq_iff_eq] at h
  rcases h with rfl | rfl <;> decide

theorem isFile_of_isHttp {scheme : List Char} (h : isHttp scheme) : isFile scheme = false := by
  simp only [isHttp, Bool.or_eq_true, beq_iff_eq] at h
  rcases h with rfl | rfl <;> decide

section
variable {base u : Url} {dir : List (List Char)} {cs : List Char}

/-- Without a site of its own, a reference keeps that of the base. -/
theorem readRelative_inside (http : isHttp base.scheme) (hp : base.path = .segments (dir ++ [[]]))
    (hs : ¬ 2 ≤ (cs.takeWhile (isSlash true)).length) (h : readRelative base cs = .ok u) :
    (Reference.inside cs).Gives base dir u := by
  have special := isSpecial_of_isHttp http
  cases cs with
  | nil =>
    obtain rfl := Except.ok.inj h
    exact .inside rfl rfl List.not_mem_nil hp
  | cons c rest =>
    have one : ¬ (isSlash true c = true ∧ rest.head?.any (isSlash true) = true) := fun ⟨hc, hr⟩ =>
      hs ((length_takeWhile_slashes hc).2 hr)
    simp only [readRelative, special, splitParts_path, one, if_false] at h
    obtain rfl := Except.ok.inj h
    cases hd : pathText (c :: rest) with
    | nil =>
      refine .inside rfl rfl List.not_mem_nil ?_
      rw [hd]
      exact hp
    | cons d tail =>
      refine .inside rfl rfl (slash_notMem_nameOf
        (areSegments_pieces (if isSlash true d then tail else d :: tail))) ?_
      simp only [hd, hp, Path.parent, readSegments_eq, List.dropLast_concat, relativeDirectory]
      split <;> rfl

/-- What is behind the slashes takes the place of the site of the base. -/
theorem readAfterSlashes_gives (http : isHttp base.scheme)
    (hs : 2 ≤ (cs.takeWhile (isSlash true)).length)
    (h : readAfterSlashes base.scheme (cs.dropWhile (isSlash true)) = .ok u) :
    (Reference.behind cs).Gives base dir u := by
  obtain ⟨a, ha, hscheme, hauth, hpath⟩ := readAfterSlashes_ok h
  rw [isSpecial_of_isHttp http] at ha hpath
  rw [splitParts_path] at hpath
  obtain ⟨last, hlast, hread⟩ := readPath_web (pathText ((cs.dropWhile (isSlash true)).drop
    ((cs.dropWhile (isSlash true)).takeWhile fun c => !endsAuthority true c).length))
  simp only [Reference.behind, hs, if_true]
  exact .site hscheme ha hauth hlast (hpath.trans hread)

theorem readAuthority_nil {scheme : List Char} (special : isSpecial scheme) :
    readAuthority scheme [] = .error .emptyHost := by
  simp [readAuthority, splitUser, splitHost, special, bind, Except.bind]

/-- A third slash behind those before a site leaves the site without a host. -/
theorem readAfterSlashes_slash {scheme : List Char} {c : Char} {rest : List Char}
    (special : isSpecial scheme) (hc : isSlash true c) :
    readAfterSlashes scheme (c :: rest) = .error .emptyHost := by
  simp [readAfterSlashes, special, endsAuthority, hc, readAuthority_nil special, bind, Except.bind]

/-- Without a scheme, a reference has a site of its own behind two slashes. -/
theorem readRelative_site (http : isHttp base.scheme)
    (hs : 2 ≤ (cs.takeWhile (isSlash true)).length) (h : readRelative base cs = .ok u) :
    readAfterSlashes base.scheme (cs.dropWhile (isSlash true)) = .ok u := by
  have special := isSpecial_of_isHttp http
  rcases cs with _ | ⟨c, rest⟩
  · simp at hs
  have hc : isSlash true c := by
    by_cases hc : isSlash true c
    · exact hc
    · simp [hc] at hs
  have two : isSlash true c = true ∧ rest.head?.any (isSlash true) = true :=
    ⟨hc, (length_takeWhile_slashes hc).1 hs⟩
  simp only [readRelative, special, two, and_self, if_true] at h
  split at h
  · rename_i rest' heq
    -- The reader drops just two slashes here, but a third one leaves the site empty.
    obtain ⟨rfl, rfl⟩ := List.cons.inj heq
    have slash : isSlash true '/' := by decide
    rcases rest' with _ | ⟨d, rest'⟩
    · simpa [slash] using h
    · by_cases hd : isSlash true d
      · rw [readAfterSlashes_slash special hd] at h
        simp at h
      · simpa [slash, hd] using h
  · exact h

theorem readRelative_gives (http : isHttp base.scheme) (hp : base.path = .segments (dir ++ [[]]))
    (h : readRelative base cs = .ok u) : (Reference.behind cs).Gives base dir u := by
  by_cases hs : 2 ≤ (cs.takeWhile (isSlash true)).length
  · exact readAfterSlashes_gives http hs (readRelative_site http hs h)
  · simp only [Reference.behind, hs, if_false]
    exact readRelative_inside http hp hs h

/-- What a text reads to, relative to an address of the web. -/
theorem parse_gives {text : String} (http : isHttp base.scheme)
    (hp : base.path = .segments (dir ++ [[]])) (h : parse (some base) text = .ok u) :
    (Reference.of base.scheme (significant text)).Gives base dir u := by
  unfold parse at h
  simp only at h
  cases hsplit : splitScheme? (significant text) with
  | none =>
    simp only [hsplit, hp] at h
    simp only [Reference.of, hsplit]
    exact readRelative_gives http hp h
  | some parts =>
    obtain ⟨own, rest⟩ := parts
    simp only [hsplit] at h
    simp only [Reference.of, hsplit]
    by_cases same : own = base.scheme
    · subst same
      simp only [if_true]
      split at h
      · exact readRelative_gives http hp h
      · rename_i hslashes
        have web := isWeb_of_isHttp http
        simp only [web, true_and, Nat.not_lt] at hslashes
        simp only [readAlone, isFile_of_isHttp http, web, Bool.false_eq_true, if_false, if_true] at h
        exact readAfterSlashes_gives http hslashes h
    · simp only [same, and_false, false_and, if_false] at h ⊢
      rw [← readAlone_scheme h] at same
      exact .foreign same

end

end SecretLayers.Url
