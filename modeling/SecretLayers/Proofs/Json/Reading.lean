import SecretLayers.Json.Printer
import SecretLayers.Json.Tree
/-!
Reading what is written. A quoted text reads back as the text, whatever characters it has, and
containers with their parts on lines of their own read back part by part.
-/
namespace SecretLayers.Json
set_option autoImplicit false

/-! ## Strings -/

theorem hexValue?_escaped : ∀ n < 32,
    hexValue? ['0', '0', hexDigit (n / 16), hexDigit (n % 16)] = some n := by decide

theorem readString?_unit (c : Char) (hc : c.toNat < 0x20) (fuel : Nat) (acc rest : List Char) :
    readString? (fuel + 1) acc true
        ('\\' :: 'u' :: '0' :: '0' :: hexDigit (c.toNat / 16) :: hexDigit (c.toNat % 16) :: rest) =
      readString? fuel (c :: acc) true rest := by
  have hunit : readUnit? ('0' :: '0' :: hexDigit (c.toNat / 16) :: hexDigit (c.toNat % 16) :: rest) =
      some (c.toNat, rest) := by
    have hvalue := hexValue?_escaped c.toNat hc
    simp [readUnit?, hvalue]
  have hhigh : ¬ (0xD800 ≤ c.toNat ∧ c.toNat < 0xDC00) := by omega
  have hlow : ¬ (0xDC00 ≤ c.toNat ∧ c.toNat < 0xE000) := by omega
  simp [readString?, hunit, hhigh, hlow]

/-- Characters that are escaped by a letter. -/
def lettered : List Char := ['"', '\\', '\n', '\r', '\t', '\x08', '\x0c']

theorem readString?_escape (c : Char) (fuel : Nat) (acc rest : List Char) :
    readString? (fuel + 1) acc true (escape c ++ rest) = readString? fuel (c :: acc) true rest := by
  by_cases special : c ∈ lettered
  · simp only [lettered, List.mem_cons, List.not_mem_nil, or_false] at special
    rcases special with rfl | rfl | rfl | rfl | rfl | rfl | rfl
    all_goals simp [escape, readString?, escaped?]
  · simp only [lettered, List.mem_cons, List.not_mem_nil, or_false, not_or] at special
    obtain ⟨quote, backslash, feed, carriage, tab, back, form⟩ := special
    by_cases control : c.toNat < 0x20
    · have hescape : escape c =
          ['\\', 'u', '0', '0', hexDigit (c.toNat / 16), hexDigit (c.toNat % 16)] := by
        simp [escape, quote, backslash, feed, carriage, tab, back, form, control]
      rw [hescape]
      exact readString?_unit c control fuel acc rest
    · have hescape : escape c = [c] := by
        simp [escape, quote, backslash, feed, carriage, tab, back, form, control]
      rw [hescape, List.singleton_append, readString?.eq_def]
      simp only
      split
      · rename_i h
        cases h
      · rename_i h
        exact absurd (List.cons.inj h).1 quote
      · rename_i h
        exact absurd (List.cons.inj h).1 backslash
      · rename_i h
        exact absurd (List.cons.inj h).1 backslash
      · rename_i h
        obtain ⟨rfl, rfl⟩ := List.cons.inj h
        rw [if_neg control]

theorem readString?_flatMap_escape (cs rest acc : List Char) {fuel : Nat} (h : cs.length < fuel) :
    readString? fuel acc true (cs.flatMap escape ++ '"' :: rest) =
      some (some (String.ofList (acc.reverse ++ cs)), rest) := by
  induction cs generalizing acc fuel with
  | nil =>
    obtain ⟨n, rfl⟩ := Nat.exists_eq_add_of_lt h
    simp [readString?]
  | cons c cs ih =>
    cases fuel with
    | zero => cases h
    | succ fuel =>
      rw [List.flatMap_cons, List.append_assoc, readString?_escape, ih (c :: acc) (Nat.lt_of_succ_lt_succ h)]
      simp

/-! ## Trees -/

/-- A text that is read as a tree, whatever follows it. -/
def Reads (text : String) (tree : Tree) : Prop :=
  ∀ fuel rest, text.toList.length < fuel → readTree? fuel (text.toList ++ rest) = some (tree, rest)

theorem skipSpace_append {blanks : List Char} (h : blanks.all isSpace = true) (cs : List Char) :
    skipSpace (blanks ++ cs) = skipSpace cs := by
  induction blanks with
  | nil => rfl
  | cons c blanks ih =>
    rw [List.all_cons, Bool.and_eq_true] at h
    obtain ⟨hc, hblanks⟩ := h
    rw [List.cons_append, skipSpace, List.dropWhile_cons_of_pos hc]
    exact ih hblanks

theorem skipSpace_cons {c : Char} (h : isSpace c = false) (cs : List Char) :
    skipSpace (c :: cs) = c :: cs := by
  rw [skipSpace, List.dropWhile_cons_of_neg]
  simp [h]

theorem skipSpace_skipSpace (cs : List Char) : skipSpace (skipSpace cs) = skipSpace cs := by
  induction cs with
  | nil => rfl
  | cons c cs ih =>
    cases hc : isSpace c with
    | true =>
      have hdrop : skipSpace (c :: cs) = skipSpace cs := List.dropWhile_cons_of_pos hc
      rw [hdrop, ih]
    | false => rw [skipSpace_cons hc, skipSpace_cons hc]

theorem readTree?_congr {cs ds : List Char} (h : skipSpace cs = skipSpace ds) (fuel : Nat) :
    readTree? fuel cs = readTree? fuel ds := by
  cases fuel with
  | zero => rfl
  | succ fuel => simp only [readTree?, h]

theorem readTree?_space (fuel : Nat) (cs : List Char) : readTree? fuel (' ' :: cs) = readTree? fuel cs := by
  have hskip : skipSpace (' ' :: cs) = skipSpace cs := rfl
  exact readTree?_congr hskip fuel

theorem Reads.blanks {blanks text : String} {tree : Tree} (h : Reads text tree)
    (hblanks : blanks.toList.all isSpace = true) : Reads (blanks ++ text) tree := by
  intro fuel rest hfuel
  rw [String.toList_append, List.length_append] at hfuel
  rw [String.toList_append, List.append_assoc, readTree?_congr (skipSpace_append hblanks _)]
  exact h fuel rest (by omega)

theorem Reads.of_succ {text : String} {tree : Tree} (h : ∀ fuel rest, text.toList.length ≤ fuel →
    readTree? (fuel + 1) (text.toList ++ rest) = some (tree, rest)) : Reads text tree := by
  intro fuel rest hfuel
  cases fuel with
  | zero => cases hfuel
  | succ fuel => exact h fuel rest (Nat.le_of_lt_succ hfuel)

theorem reads_null : Reads "null" .null := .of_succ fun _ _ _ => rfl

theorem reads_bool (b : Bool) : Reads (if b then "true" else "false") (.bool b) := by
  refine .of_succ fun fuel rest _ => ?_
  cases b with
  | true => rfl
  | false => rfl

theorem length_le_flatMap_escape (cs : List Char) : cs.length ≤ (cs.flatMap escape).length := by
  induction cs with
  | nil => exact Nat.le_refl 0
  | cons c cs ih =>
    have hone : 1 ≤ (escape c).length := by
      unfold escape
      repeat' split
      all_goals simp
    rw [List.flatMap_cons, List.length_append, List.length_cons]
    omega

theorem readString?_quoted (s : String) (rest : List Char) :
    readString? ((s.toList.flatMap escape ++ '"' :: rest).length + 1) [] true
        (s.toList.flatMap escape ++ '"' :: rest) = some (some s, rest) := by
  have hlen := length_le_flatMap_escape s.toList
  rw [readString?_flatMap_escape]
  · simp
  · rw [List.length_append, List.length_cons]
    omega

theorem toList_quote (s : String) (rest : List Char) :
    (quote s).toList ++ rest = '"' :: (s.toList.flatMap escape ++ '"' :: rest) := by
  simp [quote]

theorem reads_quote (s : String) : Reads (quote s) (.string (some s)) := by
  refine .of_succ fun fuel rest _ => ?_
  have hquote : skipSpace ('"' :: (s.toList.flatMap escape ++ '"' :: rest)) =
      '"' :: (s.toList.flatMap escape ++ '"' :: rest) := skipSpace_cons (by decide) _
  rw [toList_quote]
  simp only [readTree?, hquote, readString?_quoted, Option.map_some]

/-! ## Parts in turn -/

section
variable {text name lead : String} {tree : Tree} {fuel : Nat} {tail rest : List Char}

theorem readItems?_more (h : Reads text tree) (hfuel : text.toList.length < fuel) (cs : List Char) :
    readItems? (fuel + 1) (text.toList ++ ',' :: cs) =
      (readItems? fuel cs).map fun (trees, rest) => (tree :: trees, rest) := by
  have hcomma : skipSpace (',' :: cs) = ',' :: cs := skipSpace_cons (by decide) cs
  have hread := h fuel (',' :: cs) hfuel
  simp only [readItems?, hread, Option.bind_eq_bind, Option.bind_some, hcomma]
  cases readItems? fuel cs <;> rfl

theorem readItems?_last (h : Reads text tree) (hfuel : text.toList.length < fuel)
    (htail : skipSpace tail = ']' :: rest) :
    readItems? (fuel + 1) (text.toList ++ tail) = some ([tree], rest) := by
  have hread := h fuel tail hfuel
  simp only [readItems?, hread, Option.bind_eq_bind, Option.bind_some, htail]

/-- A member as it is written, with what stands before its name. -/
def memberText (lead name text : String) : String := lead ++ quote name ++ ": " ++ text

theorem skipSpace_memberText (blank : lead.toList.all isSpace = true) (cs : List Char) :
    skipSpace ((memberText lead name text).toList ++ cs) =
      '"' :: (name.toList.flatMap escape ++ '"' :: ':' :: ' ' :: (text.toList ++ cs)) := by
  simp only [memberText, String.toList_append, List.append_assoc]
  rw [skipSpace_append blank, toList_quote]
  exact skipSpace_cons (by decide) _

theorem readMembers?_more (blank : lead.toList.all isSpace = true) (h : Reads text tree)
    (hfuel : text.toList.length < fuel) (cs : List Char) :
    readMembers? (fuel + 1) ((memberText lead name text).toList ++ ',' :: cs) =
      (readMembers? fuel cs).map fun (members, rest) => ((some name, tree) :: members, rest) := by
  have hcolon (ds : List Char) : skipSpace (':' :: ds) = ':' :: ds := skipSpace_cons (by decide) ds
  have hcomma : skipSpace (',' :: cs) = ',' :: cs := skipSpace_cons (by decide) cs
  have hread := h fuel (',' :: cs) hfuel
  have hgap : readTree? fuel (' ' :: (text.toList ++ ',' :: cs)) = some (tree, ',' :: cs) := by
    rw [readTree?_space, hread]
  simp only [readMembers?, skipSpace_memberText blank, readString?_quoted, Option.bind_eq_bind,
    Option.bind_some, hcolon, hgap, hcomma]
  cases readMembers? fuel cs <;> rfl

theorem readMembers?_last (blank : lead.toList.all isSpace = true) (h : Reads text tree)
    (hfuel : text.toList.length < fuel) (htail : skipSpace tail = '\x7d' :: rest) :
    readMembers? (fuel + 1) ((memberText lead name text).toList ++ tail) = some ([(some name, tree)], rest) := by
  have hcolon (ds : List Char) : skipSpace (':' :: ds) = ':' :: ds := skipSpace_cons (by decide) ds
  have hread := h fuel tail hfuel
  have hgap : readTree? fuel (' ' :: (text.toList ++ tail)) = some (tree, tail) := by
    rw [readTree?_space, hread]
  simp only [readMembers?, skipSpace_memberText blank, readString?_quoted, Option.bind_eq_bind,
    Option.bind_some, hcolon, hgap, htail]

end

theorem toList_intercalate_cons_cons (s t : String) (texts : List String) :
    (",".intercalate (s :: t :: texts)).toList = s.toList ++ ',' :: (",".intercalate (t :: texts)).toList := by
  rw [String.intercalate_cons_cons, String.toList_append, String.toList_append, List.append_assoc]
  rfl

theorem readItems?_joined {items : List (String × Tree)} {tail rest : List Char} (hne : items ≠ [])
    (reads : ∀ item ∈ items, Reads item.1 item.2) (htail : skipSpace tail = ']' :: rest) {fuel : Nat}
    (hfuel : (",".intercalate (items.map (·.1))).toList.length + 1 < fuel) :
    readItems? fuel ((",".intercalate (items.map (·.1))).toList ++ tail) =
      some (items.map (·.2), rest) := by
  induction items generalizing fuel with
  | nil => exact absurd rfl hne
  | cons item items ih =>
    obtain ⟨hitem, hitems⟩ := List.forall_mem_cons.1 reads
    cases fuel with
    | zero => cases hfuel
    | succ fuel =>
      cases items with
      | nil =>
        simp only [List.map_cons, List.map_nil, String.intercalate_singleton] at hfuel ⊢
        exact readItems?_last hitem (by omega) htail
      | cons next items =>
        simp only [List.map_cons, toList_intercalate_cons_cons, List.length_append, List.length_cons,
          List.append_assoc, List.cons_append] at hfuel ih ⊢
        rw [readItems?_more hitem (by omega), ih (by simp) hitems (by omega)]
        rfl

theorem readMembers?_joined {members : List (String × String × Tree)} {lead : String}
    {tail rest : List Char} (hne : members ≠ []) (blank : lead.toList.all isSpace = true)
    (reads : ∀ member ∈ members, Reads member.2.1 member.2.2) (htail : skipSpace tail = '\x7d' :: rest)
    {fuel : Nat}
    (hfuel : (",".intercalate (members.map fun m => memberText lead m.1 m.2.1)).toList.length + 1 < fuel) :
    readMembers? fuel ((",".intercalate (members.map fun m => memberText lead m.1 m.2.1)).toList ++ tail) =
      some (members.map fun m => (some m.1, m.2.2), rest) := by
  induction members generalizing fuel with
  | nil => exact absurd rfl hne
  | cons member members ih =>
    obtain ⟨hmember, hmembers⟩ := List.forall_mem_cons.1 reads
    have hlen : member.2.1.toList.length ≤ (memberText lead member.1 member.2.1).toList.length := by
      simp only [memberText, String.toList_append, List.length_append]
      omega
    cases fuel with
    | zero => cases hfuel
    | succ fuel =>
      cases members with
      | nil =>
        simp only [List.map_cons, List.map_nil, String.intercalate_singleton] at hfuel ⊢
        exact readMembers?_last blank hmember (by omega) htail
      | cons next members =>
        simp only [List.map_cons, toList_intercalate_cons_cons, List.length_append, List.length_cons,
          List.append_assoc, List.cons_append] at hfuel ih ⊢
        rw [readMembers?_more blank hmember (by omega), ih (by simp) hmembers (by omega)]
        rfl

/-! ## Containers -/

theorem readItems?_congr {cs ds : List Char} (h : skipSpace cs = skipSpace ds) (fuel : Nat) :
    readItems? fuel cs = readItems? fuel ds := by
  cases fuel with
  | zero => rfl
  | succ fuel => simp only [readItems?, readTree?_congr h]

theorem readMembers?_congr {cs ds : List Char} (h : skipSpace cs = skipSpace ds) (fuel : Nat) :
    readMembers? fuel cs = readMembers? fuel ds := by
  cases fuel with
  | zero => rfl
  | succ fuel => simp only [readMembers?, h]

theorem readItems?_closing (fuel : Nat) (cs : List Char) : readItems? fuel (']' :: cs) = none := by
  have hclosing : skipSpace (']' :: cs) = ']' :: cs := skipSpace_cons (by decide) cs
  cases fuel with
  | zero => rfl
  | succ fuel =>
    cases fuel with
    | zero => rfl
    | succ fuel => simp [readItems?, readTree?, hclosing]

theorem readMembers?_closing (fuel : Nat) (cs : List Char) : readMembers? fuel ('\x7d' :: cs) = none := by
  have hclosing : skipSpace ('\x7d' :: cs) = '\x7d' :: cs := skipSpace_cons (by decide) cs
  cases fuel with
  | zero => rfl
  | succ fuel => simp [readMembers?, hclosing]

theorem readTree?_bracket {cs rest : List Char} {trees : List Tree} {fuel : Nat}
    (h : readItems? fuel cs = some (trees, rest)) :
    readTree? (fuel + 1) ('[' :: cs) = some (.array trees, rest) := by
  have hopening : skipSpace ('[' :: cs) = '[' :: cs := skipSpace_cons (by decide) cs
  have hcs := readItems?_congr (skipSpace_skipSpace cs) fuel
  simp only [readTree?, hopening]
  split
  · rename_i tail hclosing
    rw [hclosing, readItems?_closing, h] at hcs
    cases hcs
  · rw [hcs, h]
    rfl

theorem readTree?_brace {cs rest : List Char} {members : List (Option String × Tree)} {fuel : Nat}
    (h : readMembers? fuel cs = some (members, rest)) :
    readTree? (fuel + 1) ('\x7b' :: cs) = some (.object members, rest) := by
  have hopening : skipSpace ('\x7b' :: cs) = '\x7b' :: cs := skipSpace_cons (by decide) cs
  have hcs := readMembers?_congr (skipSpace_skipSpace cs) fuel
  simp only [readTree?, hopening]
  split
  · rename_i tail hclosing
    rw [hclosing, readMembers?_closing, h] at hcs
    cases hcs
  · rw [hcs, h]
    rfl

theorem intercalate_lines (s : String) (parts : List String) :
    "\n" ++ ",\n".intercalate (s :: parts) = ",".intercalate ((s :: parts).map ("\n" ++ ·)) := by
  induction parts generalizing s with
  | nil => simp
  | cons t parts ih =>
    have hparts := ih t
    simp only [List.map_cons] at hparts ⊢
    have hseparator : ",\n" = "," ++ "\n" := by decide
    rw [String.intercalate_cons_cons, String.intercalate_cons_cons, ← hparts, hseparator]
    simp only [String.append_assoc]

theorem toList_block (opening closing margin s : String) (parts : List String) (rest : List Char) :
    (block opening closing margin (s :: parts)).toList ++ rest =
      opening.toList ++ ((",".intercalate ((s :: parts).map ("\n" ++ ·))).toList ++
        ('\n' :: (margin.toList ++ (closing.toList ++ rest)))) := by
  rw [← intercalate_lines]
  simp only [block, String.toList_append, List.append_assoc]
  rfl

section
variable {margin : String}

theorem skipSpace_closing (blank : margin.toList.all isSpace = true) {c : Char}
    (hc : isSpace c = false) (rest : List Char) :
    skipSpace ('\n' :: (margin.toList ++ ([c] ++ rest))) = c :: rest := by
  have hfeed : skipSpace ('\n' :: (margin.toList ++ ([c] ++ rest))) =
      skipSpace (margin.toList ++ ([c] ++ rest)) := rfl
  rw [hfeed, skipSpace_append blank]
  exact skipSpace_cons hc rest

theorem reads_empty : Reads "[]" (.array []) ∧ Reads "\x7b\x7d" (.object []) :=
  ⟨.of_succ fun _ _ _ => rfl, .of_succ fun _ _ _ => rfl⟩

theorem length_lines_lt (opening closing margin s : String) (parts : List String)
    (hopening : opening.toList.length = 1) (hclosing : closing.toList.length = 1) :
    (",".intercalate ((s :: parts).map ("\n" ++ ·))).toList.length + 2 <
      (block opening closing margin (s :: parts)).toList.length := by
  have htext := congrArg List.length (toList_block opening closing margin s parts [])
  simp only [List.append_nil, List.length_append, List.length_cons, hopening, hclosing] at htext
  omega

theorem reads_array (items : List (String × Tree)) (blank : margin.toList.all isSpace = true)
    (reads : ∀ item ∈ items, Reads item.1 item.2) :
    Reads (block "[" "]" margin (items.map (·.1))) (.array (items.map (·.2))) := by
  cases items with
  | nil => exact reads_empty.1
  | cons item items =>
    refine .of_succ fun fuel rest hfuel => ?_
    rw [List.map_cons] at hfuel
    have hlength := length_lines_lt "[" "]" margin item.1 (items.map (·.1)) rfl rfl
    have hshort : (",".intercalate ((item.1 :: items.map (·.1)).map ("\n" ++ ·))).toList.length + 1 < fuel := by
      omega
    have hlines : ((item :: items).map fun item => ("\n" ++ item.1, item.2)).map (·.1) =
        (item.1 :: items.map (·.1)).map ("\n" ++ ·) := by simp
    have htrees : ((item :: items).map fun item => ("\n" ++ item.1, item.2)).map (·.2) =
        (item :: items).map (·.2) := by simp
    rw [List.map_cons, toList_block]
    refine readTree?_bracket ?_
    rw [← hlines] at hshort ⊢
    rw [← htrees]
    refine readItems?_joined (by simp) ?_ (skipSpace_closing blank (by decide) rest) hshort
    intro line hline
    obtain ⟨item, hitem, rfl⟩ := List.mem_map.1 hline
    exact (reads item hitem).blanks rfl

theorem reads_object (members : List (String × String × Tree)) {lead : String}
    (blank : margin.toList.all isSpace = true) (hlead : lead.toList.all isSpace = true)
    (reads : ∀ member ∈ members, Reads member.2.1 member.2.2) :
    Reads (block "\x7b" "\x7d" margin (members.map fun m => memberText lead m.1 m.2.1))
      (.object (members.map fun m => (some m.1, m.2.2))) := by
  cases members with
  | nil => exact reads_empty.2
  | cons member members =>
    refine .of_succ fun fuel rest hfuel => ?_
    rw [List.map_cons] at hfuel
    have hlength := length_lines_lt "\x7b" "\x7d" margin (memberText lead member.1 member.2.1)
      (members.map fun m => memberText lead m.1 m.2.1) rfl rfl
    have hshort : (",".intercalate ((memberText lead member.1 member.2.1 ::
        members.map fun m => memberText lead m.1 m.2.1).map ("\n" ++ ·))).toList.length + 1 < fuel := by
      omega
    have hlines : (memberText lead member.1 member.2.1 ::
        members.map fun m => memberText lead m.1 m.2.1).map ("\n" ++ ·) =
          (member :: members).map fun m => memberText ("\n" ++ lead) m.1 m.2.1 := by
      simp [memberText, String.append_assoc]
    have hblank : ("\n" ++ lead).toList.all isSpace = true := by
      rw [String.toList_append, List.all_append, hlead]
      rfl
    rw [List.map_cons, toList_block]
    refine readTree?_brace ?_
    rw [hlines] at hshort ⊢
    exact readMembers?_joined (by simp) hblank reads (skipSpace_closing blank (by decide) rest) hshort

end

/-- A text that reads as a tree is the text of that tree. -/
theorem Reads.parse? {text : String} {tree : Tree} (h : Reads text tree) :
    Tree.parse? text = some tree := by
  have hread := h (2 * text.toList.length + 2) [] (by omega)
  rw [List.append_nil] at hread
  simp only [Tree.parse?, hread, Option.bind_eq_bind, Option.bind_some]
  rfl

end SecretLayers.Json
