import Mathlib.Data.List.Forall2
import SecretLayers.Proofs.Yaml.Blocks
import SecretLayers.Proofs.Yaml.Tokens
import SecretLayers.Yaml.Node
/-!
Lists of records, read back. Each record is a mapping from names to texts whose first member stands
behind the dash of an item, and the others below it. A text is read as it was before it was written,
and never as anything but text.
-/
namespace SecretLayers.Yaml
set_option autoImplicit false

open Cursor Scanner

/-! ## Texts as they are written -/

/-- The forms of a text, with what each takes for granted. -/
inductive Written (margin : String) (s : String) : List Char → Prop
  | plain {d : Char} {ds : List Char} (split : s.toList = d :: ds) (starts : StartsPlain d ds)
    (inner : Plain (d :: ds)) (text : meaning s = .text) (shown : ∀ e ∈ d :: ds, isShown e = true) :
    Written margin s (d :: ds ++ ['\n'])
  | single (quotable : Quotable s.toList) :
    Written margin s ('\'' :: (singleQuoted.body margin false s.toList ++ ['\'', '\n']))
  | double : Written margin s ('"' :: (s.toList.flatMap escaped ++ ['"', '\n']))
  | literal (some_chars : s.toList ≠ []) (shown : ∀ d ∈ s.toList, isShown d = true) :
    Written margin s ('|' :: ((hintOf s.toList).toList ++ ((chompOf s.toList).mark.toList ++
      '\n' :: blockLines margin.toList true s.toList)))

theorem startsPlain_of_startsMarked {d : Char} {ds : List Char} (unmarked : startsMarked (d :: ds) = false)
    (gap : isGap d = false) : StartsPlain d ds := by
  have parts : startMarks.contains d = false ∧ ((d == '?' || d == ':' || d == '-') && endsWord ds) = false := by
    rw [← Bool.or_eq_false_iff]
    unfold startsMarked at unmarked
    split at unmarked
    · cases unmarked
    · cases unmarked
    · rename_i split
      obtain ⟨rfl, rfl⟩ := List.cons.inj split
      exact unmarked
    · rename_i split
      cases split
  obtain ⟨marks, word⟩ := parts
  cases mark : isIndicator d with
  | false => exact .inl ⟨mark, gap⟩
  | true =>
    have some_mark : d ∈ ['-', '?', ':'] := by
      have all : ∀ e ∈ "-?:,[]\x7b\x7d#&*!|>'\"%@`".toList, startMarks.contains e = false → e ∈ ['-', '?', ':'] :=
        List.all_iff_forall_prop.1 (by decide)
      exact all d (List.contains_iff_mem.1 mark) marks
    refine .inr ⟨some_mark, ?_⟩
    simp only [List.mem_cons, List.not_mem_nil, or_false] at some_mark
    rcases some_mark with rfl | rfl | rfl
    · simpa using word
    · simpa using word
    · simpa using word

theorem written_plain {margin s : String} (text : readsOtherwise s = false) (plain : allowsPlain s.toList = true) :
    Written margin s (s ++ "\n").toList := by
  have meant : meaning s = .text := by
    simp only [readsOtherwise, Bool.or_eq_false_iff, bne_eq_false_iff_eq] at text
    exact text.1.1.1
  rw [String.toList_append]
  simp only [allowsPlain, Bool.and_eq_true, Bool.not_eq_true', bne_iff_ne, ne_eq, List.all_eq_true,
    List.any_eq_false] at plain
  obtain ⟨⟨⟨⟨⟨⟨some_chars, shown⟩, lines⟩, first⟩, last⟩, unmarked⟩, marks⟩ := plain
  cases split : s.toList with
  | nil =>
    rw [split] at some_chars
    cases some_chars
  | cons d ds =>
    rw [split] at shown lines first last unmarked marks
    have spaceless : d ≠ ' ' := fun same => first (by rw [same]; rfl)
    have gap := not_isGap_of_isShown (shown d List.mem_cons_self) spaceless
    have starts := startsPlain_of_startsMarked unmarked gap
    refine .plain split starts ⟨marks, ?_, ?_, last⟩ meant shown
    · intro rest own
      obtain ⟨rfl, rfl⟩ := List.cons.inj own
      rcases starts with ⟨mark, -⟩ | ⟨-, word⟩
      · cases mark
      · exact word
    · intro e he
      exact ⟨by simpa using lines e he, ne_tab_of_isShown (shown e he)⟩

theorem written_double (margin s : String) : Written margin s (doubleQuoted s ++ "\n").toList := by
  have line : (doubleQuoted s ++ "\n").toList = '"' :: (s.toList.flatMap escaped ++ ['"', '\n']) := by
    rw [doubleQuoted_eq, String.toList_append, String.toList_ofList]
    simp
  rw [line]
  exact .double

theorem written_single {margin s : String} (feedless : s.toList.contains '\n' = false)
    (quotable : allowsQuotes s.toList = true) : Written margin s (singleQuoted margin s ++ "\n").toList := by
  have line : (singleQuoted margin s ++ "\n").toList =
      '\'' :: (singleQuoted.body margin false s.toList ++ ['\'', '\n']) := by
    rw [singleQuoted, String.toList_append, String.toList_ofList]
    simp
  simp only [allowsQuotes, Bool.and_eq_true, Bool.not_eq_true', List.all_eq_true] at quotable
  obtain ⟨⟨shown, blankBreak⟩, breakBlank⟩ := quotable
  rw [line]
  refine .single ⟨fun d hd => ⟨shown d hd, ?_⟩, blankBreak, breakBlank⟩
  rintro rfl
  rw [List.contains_iff_mem.2 hd] at feedless
  cases feedless

theorem written_literal {margin s : String} (block : allowsBlock s.toList = true) :
    Written margin s (literalBlock margin s).toList := by
  have lines : (literalBlock margin s).toList = '|' :: ((hintOf s.toList).toList ++ ((chompOf s.toList).mark.toList ++
      '\n' :: blockLines margin.toList true s.toList)) := by
    rw [literalBlock_eq, chompMark_eq]
    simp only [String.toList_append, String.toList_ofList, List.append_assoc]
    rfl
  simp only [allowsBlock, Bool.and_eq_true, Bool.not_eq_true', List.isEmpty_eq_false_iff, List.all_eq_true] at block
  rw [lines]
  exact .literal block.1.1.1 block.1.1.2

theorem written_textLine (margin s : String) : Written margin s (textLine margin s).toList := by
  unfold textLine
  dsimp only
  split
  · rename_i block
    rw [isBlock, Bool.and_eq_true] at block
    exact written_literal block.2
  · split
    · exact written_double margin s
    · rename_i feed
      split
      · rename_i plain
        simp only [Bool.and_eq_true, Bool.not_eq_true'] at plain
        exact written_plain plain.1 plain.2
      · split
        · rename_i quotable
          exact written_single (Bool.not_eq_true _ ▸ feed) quotable
        · exact written_double margin s

/-! ## Texts as they are read -/

section
variable {margin s : String} {text after word : List Char} {column k : Nat} {c : Cursor}

theorem Written.isWord (written : Written margin s text) (after : List Char) : Word (text ++ after) := by
  cases written with
  | @plain d ds split starts inner text shown =>
    have mark : d ≠ '\uFEFF' := by
      rintro rfl
      cases shown _ List.mem_cons_self
    have gap : isGap d = false := by
      rcases starts with ⟨-, gap⟩ | ⟨marks, -⟩
      · exact gap
      · have all : ∀ e ∈ ['-', '?', ':'], isGap e = false := List.all_iff_forall_prop.1 (by decide)
        exact all d marks
    have comment : d ≠ '#' := by
      rintro rfl
      rcases starts with ⟨mark, -⟩ | ⟨marks, -⟩
      · cases mark
      · exact absurd marks (by decide)
    exact word_cons gap (inner.shown d List.mem_cons_self).1 comment mark _
  | single quotable => exact word_cons (by decide) (by decide) (by decide) (by decide) _
  | double => exact word_cons (by decide) (by decide) (by decide) (by decide) _
  | literal some_chars shown => exact word_cons (by decide) (by decide) (by decide) (by decide) _

theorem length_le_body (broken : Bool) (cs : List Char) :
    cs.length ≤ (singleQuoted.body margin broken cs).length := by
  induction cs generalizing broken with
  | nil => exact Nat.zero_le _
  | cons c cs ih =>
    rw [singleQuoted.body]
    split
    · exact Nat.succ_le_succ (ih true)
    · have others := ih false
      have one : 1 ≤ (if c = '\'' then ['\'', '\''] else [c]).length := by
        split
        · exact Nat.le_add_left 1 1
        · exact Nat.le_refl 1
      simp only [List.length_append, List.length_cons, beq_iff_eq]
      omega

theorem length_le_escaped (cs : List Char) : cs.length ≤ (cs.flatMap escaped).length := by
  induction cs with
  | nil => exact Nat.zero_le _
  | cons d ds ih =>
    have one : 1 ≤ (escaped d).length := by
      unfold escaped
      split
      · exact Nat.le_refl 1
      · split
        · exact Nat.le_add_left 1 1
        · exact Nat.succ_le_succ (Nat.zero_le _)
    rw [List.flatMap_cons, List.length_append, List.length_cons]
    omega

variable {ts ends : List Token} {o o' : List Int} {i' : Int}

/-- A plain text, and the way to the next word. -/
theorem addPlain?_text (ts : List Token) (o : List Int) {cs : List Char}
    (h : c.At (cs ++ '\n' :: after) k) (deep : 3 ≤ k)
    (next : Next after column word) (plain : Plain cs) :
    ∃ c', c'.At word column ∧
      (keyless c ts 2 o false).addPlain? = some (keyless c' (ts ++ [.scalar (String.ofList cs) .plain]) 2 o true) := by
  have reads : ∃ c', readPlain? false 3 (c.rest.length + 1) [] {} c = some (String.ofList cs, true, c') ∧
      c'.At word column := by
    refine readPlain?_line cs h deep (Nat.le_refl 3) next plain ?_
    rw [h.rest, List.length_append]
    omega
  obtain ⟨c', reads, at'⟩ := reads
  refine ⟨c', at', ?_⟩
  rw [addPlain?]
  simp [markKeyPlace?, keyless, inFlow, reads]

/-- A text in quotes, up to the end of its line. -/
theorem addRead?_quoted (ts : List Token) (o : List Int) {quote : Char} {cs rest : List Char} {c₁ : Cursor} {k₁ : Nat}
    (h : c.At (quote :: rest) k) (passes : Passes quote cs c.skip c₁) (closes : c₁.At (quote :: '\n' :: after) k₁)
    (inside : 0 < k₁) (mark : quote = '\'' ∨ quote = '"') (enough : cs.length ≤ rest.length) :
    (keyless c ts 2 o false).addRead? (readQuotedToken? quote) =
      some (keyless c₁.skip (ts ++ [.scalar (String.ofList cs) .guarded]) 2 o false) := by
  have reads : readQuoted? quote (c.rest.length + 1) [] c.skip = some (String.ofList cs, c₁.skip) := by
    refine passes.readQuoted? closes inside mark (by simp) ?_
    rw [h.rest, List.length_cons]
    omega
  simp [addRead?, markKeyPlace?, keyless, readQuotedToken?, reads]

/-- A literal block, and the way to the next word. -/
theorem addBlock?_literal (ts : List Token) (o : List Int) {cs : List Char}
    (h : c.At ('|' :: ((hintOf cs).toList ++ ((chompOf cs).mark.toList ++
      '\n' :: (blockLines (List.replicate 4 ' ') true cs ++ after)))) k) (some_chars : cs ≠ [])
    (shown : ∀ d ∈ cs, isShown d = true) (next : Next after column word) :
    ∃ c', c'.At word column ∧ (keyless c ts 2 o false).addBlock? false =
      some (keyless c' (ts ++ [.scalar (String.ofList cs) .literal]) 2 o true) := by
  obtain ⟨c', reads, at'⟩ := readBlock?_literal cs h.skip_one some_chars shown next
  refine ⟨c', at', ?_⟩
  rw [addBlock?]
  simp [dropKeyPlace?, keyless, reads]

theorem Next.length_le (next : Next after column word) : word.length ≤ after.length := by
  rw [next.split, List.length_append]
  omega

/-- A text that is passed with its line. -/
theorem leads_onward {ts' : List Token} {d : Char} {rest : List Char} {c' : Cursor} (h : c.At (d :: rest) k)
    (adds : (keyless c ts 2 o false).addToken? d rest = some (keyless c' ts' 2 o true)) (at' : c'.At word column)
    (next : Next after column word) (closes : Closes column 2 o i' o' ends) (shorter : after.length ≤ rest.length) :
    Leads (keyless c ts 2 o false) (keyless c' (ts' ++ ends) i' o' true) := by
  refine leads_of_token h.rest adds (prepare?_word (n := 0) at' next.toWord closes) ?_
  have left : (keyless c' (ts' ++ ends) i' o' true).cursor.rest = word := at'.rest
  rw [left]
  exact next.length_le.trans shorter

/-- A text that is passed up to the end of its line. -/
theorem leads_line {ts' : List Token} {d : Char} {rest : List Char} {c₁ : Cursor} {k₁ : Nat} (h : c.At (d :: rest) k)
    (adds : (keyless c ts 2 o false).addToken? d rest = some (keyless c₁ ts' 2 o false))
    (at₁ : c₁.At ('\n' :: after) k₁) (next : Next after column word) (closes : Closes column 2 o i' o' ends)
    (shorter : after.length ≤ rest.length) :
    ∃ c', c'.At word column ∧ Leads (keyless c ts 2 o false) (keyless c' (ts' ++ ends) i' o' true) := by
  have behind := (At.readBreak (by decide) at₁).2
  rw [next.split] at behind
  have at' := behind.skip_blanks column
  rw [Nat.zero_add] at at'
  refine ⟨_, at', leads_of_token h.rest adds (prepare?_line at₁ next closes) ?_⟩
  have left : (keyless (c₁.readBreak.2.skip column) (ts' ++ ends) i' o' true).cursor.rest = word := at'.rest
  rw [left]
  exact next.length_le.trans shorter

/-- A text is read as it was, and as nothing but text. -/
theorem Written.leads (ts : List Token) (written : Written "    " s text) (h : c.At (text ++ after) k) (deep : 3 ≤ k)
    (next : Next after column word) (closes : Closes column 2 o i' o' ends) :
    ∃ style c', (style = .plain → meaning s = .text) ∧ c'.At word column ∧
      Leads (keyless c ts 2 o false) (keyless c' (ts ++ [.scalar s style] ++ ends) i' o' true) := by
  have inside : 0 < (keyless c ts 2 o false).column := by
    have own : (keyless c ts 2 o false).column = k := h.column
    omega
  cases written with
  | @plain d ds split starts inner text shown =>
    rw [List.append_assoc, List.singleton_append] at h
    obtain ⟨c', at', adds⟩ := addPlain?_text ts o h deep next inner
    have starts' : StartsPlain d (ds ++ '\n' :: after) := by
      unfold StartsPlain at starts ⊢
      rwa [endsWord_append ds (by decide)]
    rw [← addToken?_plain inside rfl starts', ← split, String.ofList_toList] at adds
    exact ⟨.plain, c', fun _ => text, at', leads_onward h adds at' next closes (by simp; omega)⟩
  | single quotable =>
    rw [List.cons_append, List.append_assoc] at h
    obtain ⟨c₁, k₁, passes, at₁, inside₁⟩ := passes_single (n := 3) rfl s.toList h.skip_one (Nat.succ_pos k) quotable
    have long : s.toList.length ≤ (singleQuoted.body "    " false s.toList).length := length_le_body false s.toList
    have adds := addRead?_quoted ts o h passes at₁ inside₁ (.inl rfl) (by rw [List.length_append]; omega)
    rw [← addToken?_quote inside (.inl rfl), String.ofList_toList] at adds
    obtain ⟨c', at', leads⟩ := leads_line h adds at₁.skip_one next closes (by simp; omega)
    exact ⟨.guarded, c', (fun guarded => by cases guarded), at', leads⟩
  | double =>
    rw [List.cons_append, List.append_assoc] at h
    obtain ⟨c₁, k₁, passes, at₁, inside₁⟩ := passes_double s.toList h.skip_one (Nat.succ_pos k)
    have long := length_le_escaped s.toList
    have adds := addRead?_quoted ts o h passes at₁ inside₁ (.inr rfl) (by rw [List.length_append]; omega)
    rw [← addToken?_quote inside (.inr rfl), String.ofList_toList] at adds
    obtain ⟨c', at', leads⟩ := leads_line h adds at₁.skip_one next closes (by simp; omega)
    exact ⟨.guarded, c', (fun guarded => by cases guarded), at', leads⟩
  | literal some_chars shown =>
    rw [List.cons_append, List.append_assoc, List.append_assoc] at h
    obtain ⟨c', at', adds⟩ := addBlock?_literal ts o h some_chars shown next
    rw [← addToken?_block inside rfl, String.ofList_toList] at adds
    exact ⟨.literal, c', (fun plain => by cases plain), at', leads_onward h adds at' next closes (by simp; omega)⟩

end

/-! ## Records -/

/-- A name and a text, on a line that the text may continue. -/
def memberText (member : String × String) : List Char :=
  member.1.toList ++ ':' :: ' ' :: (textLine "    " member.2).toList

/-- The members of a record below its first one. -/
def othersText (members : List (String × String)) : List Char :=
  members.flatMap fun member => ' ' :: ' ' :: memberText member

/-- An item of a list: a record with some first member. -/
abbrev Item := (String × String) × List (String × String)

def itemText (item : Item) : List Char := '-' :: ' ' :: (memberText item.1 ++ othersText item.2)

/-- The names of an item can be written plain. -/
def Item.Named (item : Item) : Prop := ∀ member ∈ item.1 :: item.2, IsName member.1.toList

/-- The tokens of members, each text with the style in which it was written. -/
inductive MemberTokens : List (String × String) → List Token → Prop
  | nil : MemberTokens [] []
  | cons {name s : String} {style : Style} {members : List (String × String)} {ts : List Token}
    (text : style = .plain → meaning s = .text) (others : MemberTokens members ts) :
    MemberTokens ((name, s) :: members) (.key :: .scalar name .plain :: .value :: .scalar s style :: ts)

/-- The tokens of items. -/
inductive ItemTokens : List Item → List Token → Prop
  | nil : ItemTokens [] []
  | cons {item : Item} {items : List Item} {ts us : List Token} (members : MemberTokens (item.1 :: item.2) ts)
    (others : ItemTokens items us) :
    ItemTokens (item :: items) (.blockEntry :: .blockMapping :: (ts ++ .blockEnd :: us))

section
variable {after word : List Char} {c : Cursor} {i : Int} {o : List Int} {front : List Token}

theorem isWord_name {name : List Char} (isName : IsName name) (rest : List Char) : Word (name ++ rest) := by
  cases name with
  | nil => exact absurd rfl isName.some_chars
  | cons d ds =>
    obtain ⟨gap, line, mark, shown⟩ := isName.letters d List.mem_cons_self
    refine word_cons gap line ?_ ?_ _
    · rintro rfl
      cases mark
    · rintro rfl
      cases shown

/-- A member, from its name to the next word. -/
theorem leads_memberText {member : String × String} {i' : Int} {o' : List Int} {ends : List Token} {column : Nat}
    (ts : List Token) (isName : IsName member.1.toList) (h : c.At (memberText member ++ after) 2) (within : i ≤ 2)
    (opens : Opens .blockMapping 2 o i 2 [0, -1] front) (next : Next after column word)
    (closes : Closes column 2 [0, -1] i' o' ends) :
    ∃ style c', (style = .plain → meaning member.2 = .text) ∧ c'.At word column ∧ Leads (keyless c ts i o true)
      (keyless c' (ts ++ front ++ [.key, .scalar member.1 .plain, .value, .scalar member.2 style] ++ ends)
        i' o' true) := by
  have written := written_textLine "    " member.2
  rw [memberText, List.append_assoc, List.cons_append, List.cons_append] at h
  obtain ⟨c₁, at₁, key⟩ := leads_member ts h (by omega) within isName opens (written.isWord after)
  obtain ⟨style, c', text, at', leads⟩ :=
    written.leads (ts ++ front ++ [.key, .scalar member.1 .plain, .value]) at₁ (by omega) next closes
  refine ⟨style, c', text, at', ?_⟩
  rw [String.ofList_toList] at key
  simpa using key.trans leads

/-- The members of an item, from the name of the first to the next item. -/
theorem leads_members {member : String × String} {members : List (String × String)} (ts : List Token)
    (named : ∀ m ∈ member :: members, IsName m.1.toList)
    (h : c.At (memberText member ++ (othersText members ++ after)) 2) (within : i ≤ 2)
    (opens : Opens .blockMapping 2 o i 2 [0, -1] front) (next : Next after 0 word) :
    ∃ us c', MemberTokens (member :: members) us ∧ c'.At word 0 ∧ Leads (keyless c ts i o true)
      (keyless c' (ts ++ front ++ us ++ [.blockEnd]) 0 [-1] true) := by
  obtain ⟨isName, others⟩ := List.forall_mem_cons.1 named
  induction members generalizing member c ts i o front with
  | nil =>
    obtain ⟨style, c', text, at', leads⟩ := leads_memberText ts isName h within opens next
      (.deeper (by decide) (.within (by decide)))
    exact ⟨_, c', .cons text .nil, at', leads⟩
  | cons member' members ih =>
    obtain ⟨isName', others'⟩ := List.forall_mem_cons.1 others
    have between : Next (othersText (member' :: members) ++ after) 2
        (memberText member' ++ (othersText members ++ after)) := by
      refine ⟨?_, ?_, by decide⟩
      · rw [memberText, List.append_assoc]
        exact isWord_name isName' _
      · rw [othersText, List.flatMap_cons, List.append_assoc]
        rfl
    obtain ⟨style, c₁, text, at₁, first⟩ := leads_memberText ts isName h within opens between (.within (by decide))
    obtain ⟨us, c', tokens, at', rest⟩ := ih _ others at₁ (by decide) (.within (by decide)) isName' others'
    refine ⟨_, c', .cons text tokens, at', ?_⟩
    simpa using first.trans rest

/-- An item, from its dash to the next one. -/
theorem leads_itemText {item : Item} (ts : List Token) (named : item.Named) (h : c.At (itemText item ++ after) 0)
    (opens : Opens .blockSequence 0 o i 0 [-1] front) (next : Next after 0 word) :
    ∃ us c', MemberTokens (item.1 :: item.2) us ∧ c'.At word 0 ∧ Leads (keyless c ts i o true)
      (keyless c' (ts ++ front ++ .blockEntry :: .blockMapping :: (us ++ [.blockEnd])) 0 [-1] true) := by
  have starts : Word (memberText item.1 ++ (othersText item.2 ++ after)) := by
    rw [memberText, List.append_assoc]
    exact isWord_name (named item.1 List.mem_cons_self) _
  rw [itemText, List.cons_append, List.cons_append, List.append_assoc] at h
  have dash : Leads (keyless c ts i o true) (keyless (c.skip 2) (ts ++ front ++ [.blockEntry]) 0 [-1] true) :=
    leads_item h starts opens (by decide)
  obtain ⟨us, c', tokens, at', rest⟩ := leads_members (ts ++ front ++ [.blockEntry]) named (h.skip ['-', ' '])
    (by decide) (.deeper (by decide)) next
  refine ⟨us, c', tokens, at', ?_⟩
  simpa using dash.trans rest

theorem isWord_items (items : List Item) {closing : List Char} (ends : Word closing) :
    Word (items.flatMap itemText ++ closing) := by
  cases items with
  | nil => exact ends
  | cons item items => exact word_cons (by decide) (by decide) (by decide) (by decide) _

/-- Further items, up to what ends the document. -/
theorem leads_items {items : List Item} (ts : List Token) {closing : List Char} (named : ∀ item ∈ items, item.Named)
    (h : c.At (items.flatMap itemText ++ closing) 0) (ends : Word closing) :
    ∃ us c', ItemTokens items us ∧ c'.At closing 0 ∧
      Leads (keyless c ts 0 [-1] true) (keyless c' (ts ++ us) 0 [-1] true) := by
  induction items generalizing c ts with
  | nil =>
    refine ⟨[], c, .nil, h, ?_⟩
    rw [List.append_nil]
    exact .refl _
  | cons item items ih =>
    obtain ⟨first, others⟩ := List.forall_mem_cons.1 named
    have next : Next (items.flatMap itemText ++ closing) 0 (items.flatMap itemText ++ closing) :=
      ⟨isWord_items items ends, rfl, by decide⟩
    rw [List.flatMap_cons, List.append_assoc] at h
    obtain ⟨us, c₁, members, at₁, leads⟩ := leads_itemText ts first h (.within (by decide)) next
    obtain ⟨us', c', tokens, at', rest⟩ := ih _ others at₁
    refine ⟨_, c', .cons members tokens, at', ?_⟩
    simpa using leads.trans rest

/-- All tokens of a list, up to what ends the document. -/
theorem leads_list {item : Item} {items : List Item} {closing : List Char} (named : ∀ e ∈ item :: items, e.Named)
    (h : c.At ((item :: items).flatMap itemText ++ closing) 0) (ends : Word closing) :
    ∃ us c', ItemTokens (item :: items) us ∧ c'.At closing 0 ∧
      Leads (keyless c [] (-1) [] true) (keyless c' (.blockSequence :: us) 0 [-1] true) := by
  obtain ⟨first, others⟩ := List.forall_mem_cons.1 named
  have next : Next (items.flatMap itemText ++ closing) 0 (items.flatMap itemText ++ closing) :=
    ⟨isWord_items items ends, rfl, by decide⟩
  rw [List.flatMap_cons, List.append_assoc] at h
  obtain ⟨us, c₁, members, at₁, leads⟩ := leads_itemText [] first h (.deeper (by decide)) next
  obtain ⟨us', c', tokens, at', rest⟩ := leads_items _ others at₁ ends
  refine ⟨_, c', .cons members tokens, at', ?_⟩
  simpa using leads.trans rest

/-! ## Ends of documents -/

/-- What may end a document, and the token of it. -/
inductive Ending : List Char → List Token → Prop
  | plain : Ending [] []
  | marked : Ending ['.', '.', '.', '\n'] [.documentEnd]

theorem Ending.isWord {closing : List Char} {ends : List Token} (h : Ending closing ends) : Word closing := by
  cases h with
  | plain => exact word_nil
  | marked => exact word_cons (by decide) (by decide) (by decide) (by decide) _

theorem resume?_end {column : Nat} {ends : List Token} {i' : Int} {o' : List Int} {b : Bool} (ts : List Token)
    (h : c.At [] column) (closes : Closes (-1) i o i' o' ends) (fuel : Nat) :
    resume? fuel (keyless c ts i o b) = some (ts ++ ends) := by
  have rest : (keyless c ts i o b).cursor.rest = [] := h.rest
  rw [resume?, rest]
  dsimp only
  rw [returnTo_keyless closes]
  simp [dropKeyPlace?, keyless]

theorem addToken?_documentEnd (ts : List Token) (h : c.At ['.', '.', '.', '\n'] 0) :
    (keyless c ts 0 [-1] true).addToken? '.' ['.', '.', '\n'] =
      some (keyless (c.skip 3) (ts ++ [.blockEnd, .documentEnd]) (-1) [] false) := by
  have mark : (keyless c ts 0 [-1] true).cursor.atDocumentMark = true := by
    have rest : (keyless c ts 0 [-1] true).cursor.rest = ['.', '.', '.', '\n'] := h.rest
    have column : (keyless c ts 0 [-1] true).cursor.column = 0 := h.column
    rw [atDocumentMark, rest, column]
    rfl
  have returned : (keyless c ts 0 [-1] true).returnTo (-1) = keyless c (ts ++ [.blockEnd]) (-1) [] true :=
    returnTo_keyless (.deeper (by decide) (.within (by decide)))
  have ends : (keyless c ts 0 [-1] true).addToken? '.' ['.', '.', '\n'] =
      (keyless c ts 0 [-1] true).addDocumentMark? .documentEnd := by
    simp [addToken?, mark]
  rw [ends, addDocumentMark?, returned]
  simp [dropKeyPlace?, keyless, pushOver]

theorem resume?_ending {closing : List Char} {ends : List Token} (ending : Ending closing ends) (ts : List Token)
    (h : c.At closing 0) {fuel : Nat} (enough : closing.length ≤ fuel) :
    resume? fuel (keyless c ts 0 [-1] true) = some (ts ++ .blockEnd :: ends) := by
  cases ending with
  | plain => exact resume?_end ts h (.deeper (by decide) (.within (by decide))) fuel
  | marked =>
    obtain ⟨fuel, rfl⟩ : ∃ n, fuel = n + 1 := ⟨fuel - 1, by simp at enough; omega⟩
    have rest : (keyless c ts 0 [-1] true).cursor.rest = ['.', '.', '.', '\n'] := h.rest
    have line : (c.skip 3).At ['\n'] 3 := h.skip ['.', '.', '.']
    have behind : Next [] 0 [] := ⟨word_nil, rfl, by decide⟩
    have at_end : ((c.skip 3).readBreak.2.skip 0).At [] 0 := (At.readBreak (by decide) line).2
    rw [resume?, rest]
    dsimp only
    rw [addToken?_documentEnd ts h, Option.bind_some, run?_succ, prepare?_line line behind (.within (by decide)),
      Option.bind_some, resume?_end _ at_end (.within (by decide))]
    simp

end

/-! ## Whole lists -/

theorem isAllowed_of_isShown {d : Char} (shown : isShown d = true) : isAllowed d = true := by
  simp only [isShown, isAllowed, Bool.or_eq_true, Bool.and_eq_true, beq_iff_eq, decide_eq_true_eq] at shown ⊢
  omega

theorem isAllowed_digits (n : Nat) : ∀ e ∈ (Nat.toDigits 16 n).map Char.toUpper, isAllowed e = true := by
  have digits : ∀ k < 16, isAllowed k.digitChar.toUpper = true := by decide
  induction n using Nat.strongRecOn with
  | ind n ih =>
    rw [Nat.toDigits_eq_if (by omega)]
    split
    · rename_i small
      simpa using digits n small
    · intro e he
      rw [List.map_append, List.mem_append] at he
      rcases he with front | last
      · exact ih (n / 16) (by omega) e front
      · rw [List.map_singleton, List.mem_singleton] at last
        rw [last]
        exact digits (n % 16) (Nat.mod_lt n (by decide))

theorem isAllowed_escaped {d e : Char} (h : e ∈ escaped d) : isAllowed e = true := by
  have slash : isAllowed '\\' = true := by decide
  unfold escaped at h
  split at h
  · rename_i literal
    simp only [Bool.and_eq_true] at literal
    rw [List.mem_singleton.1 h]
    exact isAllowed_of_isShown literal.1.1.1
  · split at h
    · rename_i letter own
      have letters : ∀ entry ∈ escapeLetters, isAllowed entry.2 = true := by decide
      obtain ⟨before, behind, split, -⟩ := List.lookup_eq_some_iff.1 own
      have found := letters (d, letter) (by rw [split]; exact List.mem_append_right _ List.mem_cons_self)
      simp only [List.mem_cons, List.not_mem_nil, or_false] at h
      rcases h with rfl | rfl
      · exact slash
      · exact found
    · have zero : isAllowed '0' = true := by decide
      have widths : isAllowed 'x' = true ∧ isAllowed 'u' = true ∧ isAllowed 'U' = true := by decide
      unfold escapeCode at h
      dsimp only at h
      rw [List.mem_append, List.mem_cons, List.mem_cons, List.mem_replicate] at h
      rcases h with (rfl | rfl | ⟨-, rfl⟩) | digit
      · exact slash
      · split
        · exact widths.1
        · split
          · exact widths.2.1
          · exact widths.2.2
      · exact zero
      · exact isAllowed_digits d.toNat e digit

theorem isAllowed_body {cs : List Char} (shown : ∀ d ∈ cs, isShown d = true) (broken : Bool) :
    ∀ e ∈ singleQuoted.body "    " broken cs, isAllowed e = true := by
  have margin (b : Bool) : ∀ e ∈ (if b then "    ".toList else []), isAllowed e = true := by
    cases b <;> exact List.all_iff_forall_prop.1 (by decide)
  induction cs generalizing broken with
  | nil => exact margin broken
  | cons c cs ih =>
    obtain ⟨first, others⟩ := List.forall_mem_cons.1 shown
    have allowed := isAllowed_of_isShown first
    rw [singleQuoted.body]
    split
    · exact List.forall_mem_cons.2 ⟨allowed, ih others true⟩
    · intro e he
      rw [List.mem_append, List.mem_append] at he
      rcases he with (blank | char) | rest
      · exact margin broken e blank
      · split at char
        · have quotes : ∀ e ∈ ['\'', '\''], isAllowed e = true := List.all_iff_forall_prop.1 (by decide)
          exact quotes e char
        · rw [List.mem_singleton.1 char]
          exact allowed
      · exact ih others false e rest

theorem isAllowed_blockLines {cs : List Char} (shown : ∀ d ∈ cs, isShown d = true) (fresh : Bool) :
    ∀ e ∈ blockLines "    ".toList fresh cs, isAllowed e = true := by
  have margin (b : Bool) : ∀ e ∈ (if b then "    ".toList else []), isAllowed e = true := by
    cases b <;> exact List.all_iff_forall_prop.1 (by decide)
  induction cs generalizing fresh with
  | nil => cases fresh <;> exact List.all_iff_forall_prop.1 (by decide)
  | cons c cs ih =>
    obtain ⟨first, others⟩ := List.forall_mem_cons.1 shown
    have allowed := isAllowed_of_isShown first
    rw [blockLines]
    split
    · exact List.forall_mem_cons.2 ⟨allowed, ih others true⟩
    · intro e he
      rw [List.mem_append, List.mem_cons] at he
      rcases he with blank | rfl | rest
      · exact margin fresh e blank
      · exact allowed
      · exact ih others false e rest

theorem Written.allowed {s : String} {text : List Char} (written : Written "    " s text) :
    ∀ e ∈ text, isAllowed e = true := by
  have quote : isAllowed '\'' = true ∧ isAllowed '"' = true ∧ isAllowed '\n' = true := by decide
  cases written with
  | plain split starts inner text shown =>
    intro e he
    rcases List.mem_append.1 he with char | line
    · exact isAllowed_of_isShown (shown e char)
    · rw [List.mem_singleton.1 line]
      exact quote.2.2
  | single quotable =>
    have inner := isAllowed_body (fun d hd => (quotable.shown d hd).1) false
    simp only [List.forall_mem_cons, List.forall_mem_append, List.not_mem_nil, IsEmpty.forall_iff,
      implies_true, and_true]
    exact ⟨quote.1, inner, quote.1, quote.2.2⟩
  | double =>
    have inner : ∀ e ∈ s.toList.flatMap escaped, isAllowed e = true := by
      intro e he
      obtain ⟨d, -, own⟩ := List.mem_flatMap.1 he
      exact isAllowed_escaped own
    simp only [List.forall_mem_cons, List.forall_mem_append, List.not_mem_nil, IsEmpty.forall_iff,
      implies_true, and_true]
    exact ⟨quote.2.1, inner, quote.2.1, quote.2.2⟩
  | literal some_chars shown =>
    have hint : ∀ e ∈ (hintOf s.toList).toList, isAllowed e = true := by
      unfold hintOf
      split <;> exact List.all_iff_forall_prop.1 (by decide)
    have mark : ∀ e ∈ (chompOf s.toList).mark.toList, isAllowed e = true := by
      cases chompOf s.toList <;> exact List.all_iff_forall_prop.1 (by decide)
    simp only [List.forall_mem_cons, List.forall_mem_append]
    exact ⟨by decide, hint, mark, quote.2.2, isAllowed_blockLines shown true⟩

theorem isAllowed_memberText {member : String × String} (isName : IsName member.1.toList) :
    ∀ e ∈ memberText member, isAllowed e = true := by
  rw [memberText]
  simp only [List.forall_mem_cons, List.forall_mem_append]
  refine ⟨fun d hd => isAllowed_of_isShown (isName.letters d hd).2.2.2, by decide, by decide, ?_⟩
  exact (written_textLine "    " member.2).allowed

theorem isAllowed_itemText {item : Item} (named : item.Named) : ∀ e ∈ itemText item, isAllowed e = true := by
  obtain ⟨first, others⟩ := List.forall_mem_cons.1 named
  rw [itemText, othersText]
  simp only [List.forall_mem_cons, List.forall_mem_append, List.mem_flatMap]
  refine ⟨by decide, by decide, isAllowed_memberText first, ?_⟩
  rintro e ⟨member, own, he⟩
  simp only [List.mem_cons] at he
  rcases he with rfl | rfl | inner
  · decide
  · decide
  · exact isAllowed_memberText (others member own) e inner

/-- The tokens of a list of items. -/
theorem scan?_list {item : Item} {items : List Item} {closing : List Char} {ends : List Token}
    (named : ∀ e ∈ item :: items, e.Named) (ending : Ending closing ends) :
    ∃ us, ItemTokens (item :: items) us ∧
      Token.scan? (String.ofList ((item :: items).flatMap itemText ++ closing)) =
        some (.blockSequence :: us ++ .blockEnd :: ends) := by
  generalize hcs : (item :: items).flatMap itemText ++ closing = cs
  have start : At { rest := cs } ((item :: items).flatMap itemText ++ closing) 0 := ⟨hcs.symm, rfl⟩
  have starts : Word cs := by
    rw [← hcs]
    exact isWord_items (item :: items) ending.isWord
  obtain ⟨us, c', tokens, at', n, short, runs⟩ := leads_list named start ending.isWord
  have allowed : cs.all isAllowed = true := by
    rw [← hcs, List.all_eq_true, List.forall_mem_append]
    constructor
    · intro e he
      obtain ⟨e', own, inner⟩ := List.mem_flatMap.1 he
      exact isAllowed_itemText (named e' own) e inner
    · cases ending <;> exact List.all_iff_forall_prop.1 (by decide)
  have marked : (cs.head? == some '\uFEFF') = false := by simpa using starts.unmarked
  have ready : prepare? (keyless { rest := cs } [] (-1) [] true) = some (keyless { rest := cs } [] (-1) [] true) :=
    prepare?_word (n := 0) (k := 0) ⟨rfl, rfl⟩ starts (.within (by decide))
  have left : (keyless c' (.blockSequence :: us) 0 [-1] true).cursor.rest = closing := at'.rest
  rw [left] at short
  have whole : n + closing.length ≤ cs.length := short
  obtain ⟨fuel, hfuel⟩ : ∃ fuel, cs.length = fuel + n := ⟨cs.length - n, by omega⟩
  refine ⟨us, tokens, ?_⟩
  rw [Token.scan?, String.toList_ofList]
  simp only [marked, Bool.false_eq_true, if_false, allowed, if_true]
  have begins : ({ cursor := { rest := cs } } : Scanner) = keyless { rest := cs } [] (-1) [] true := rfl
  rw [begins, run?_succ, ready, Option.bind_some, hfuel, runs, resume?_ending ending _ at' (by omega)]

namespace Node

/-- A text that nothing but text can be read from. -/
def Says (s : String) (v : Node) : Prop := ∃ style, v = .scalar s style none ∧ (style = .plain → meaning s = .text)

/-- A member with the name and the text of another. -/
def Member (member : String × String) (read : Node × Node) : Prop :=
  read.1 = .scalar member.1 .plain none ∧ Says member.2 read.2

/-- A record with the members of an item, in their order. -/
def Record (item : Item) (v : Node) : Prop :=
  ∃ members, v = .mapping members none ∧ List.Forall₂ Member (item.1 :: item.2) members

section
variable {handles : List (String × String)} {fuel : Nat} {ts us : List Token}

theorem read?_scalar (place : Place) (text : String) (style : Style) :
    read? handles (fuel + 1) place [] (.scalar text style :: ts) = some (.scalar text style none, [], ts) := by
  simp [read?, readMarks?, remember]

theorem readValue?_scalar {members : List (Node × Node)} (k : Node) (s : String) (style : Style)
    (others : readMembers? handles (fuel + 1) [] ts = some (members, [], us)) :
    readValue? handles (fuel + 2) k [] (.value :: .scalar s style :: ts) =
      some ((k, .scalar s style none) :: members, [], us) := by
  have filled : endsMember (.scalar s style :: ts) = false := rfl
  rw [readValue?]
  simp only [filled, Bool.false_eq_true, if_false, read?_scalar, Option.bind_eq_bind, Option.bind_some, others]

theorem readMembers?_member {members : List (Node × Node)} (name s : String) (style : Style)
    (others : readMembers? handles (fuel + 1) [] ts = some (members, [], us)) :
    readMembers? handles (fuel + 3) [] (.key :: .scalar name .plain :: .value :: .scalar s style :: ts) =
      some ((.scalar name .plain none, .scalar s style none) :: members, [], us) := by
  have filled : endsMember (.scalar name .plain :: .value :: .scalar s style :: ts) = false := rfl
  rw [readMembers?]
  simp only [filled, Bool.false_eq_true, if_false, read?_scalar, Option.bind_eq_bind, Option.bind_some]
  exact readValue?_scalar _ s style others

theorem readMembers?_end (fuel : Nat) (ts : List Token) :
    readMembers? handles (fuel + 1) [] (.blockEnd :: ts) = some ([], [], ts) := by
  rw [readMembers?]
  omega

theorem readItems?_end (fuel : Nat) (ts : List Token) :
    readItems? handles (fuel + 1) [] (.blockEnd :: ts) = some ([], [], ts) := by
  rw [readItems?]
  omega

theorem readMembers?_members (handles : List (String × String)) {members : List (String × String)}
    (tokens : MemberTokens members ts) (us : List Token) :
    ∃ nodes, List.Forall₂ Member members nodes ∧ ∀ fuel, ts.length < fuel →
      readMembers? handles fuel [] (ts ++ .blockEnd :: us) = some (nodes, [], us) := by
  induction tokens with
  | nil =>
    refine ⟨[], .nil, fun fuel enough => ?_⟩
    obtain ⟨fuel, rfl⟩ := Nat.exists_eq_add_one_of_ne_zero (Nat.ne_of_gt (Nat.zero_lt_of_lt enough))
    rw [List.nil_append]
    exact readMembers?_end fuel us
  | @cons name s style members ts text others ih =>
    obtain ⟨nodes, same, reads⟩ := ih
    have first : Member (name, s) (.scalar name .plain none, .scalar s style none) := ⟨rfl, style, rfl, text⟩
    refine ⟨_, .cons first same, fun fuel enough => ?_⟩
    simp only [List.length_cons] at enough
    obtain ⟨fuel, rfl⟩ : ∃ n, fuel = n + 3 := ⟨fuel - 3, by omega⟩
    exact readMembers?_member name s style (reads (fuel + 1) (by omega))

theorem read?_mapping {members : List (Node × Node)}
    (reads : readMembers? handles fuel [] ts = some (members, [], us)) :
    read? handles (fuel + 1) .block [] (.blockMapping :: ts) = some (.mapping members none, [], us) := by
  simp [read?, readMarks?, remember, settle, reads]

theorem read?_sequence {nodes : List Node} (reads : readItems? handles fuel [] ts = some (nodes, [], us)) :
    read? handles (fuel + 1) .block [] (.blockSequence :: ts) = some (.sequence nodes none, [], us) := by
  simp [read?, readMarks?, remember, settle, reads]

theorem readItems?_item {members : List (Node × Node)} {nodes : List Node} {rest : List Token}
    (item : readMembers? handles fuel [] ts = some (members, [], rest))
    (others : readItems? handles (fuel + 1) [] rest = some (nodes, [], us)) :
    readItems? handles (fuel + 2) [] (.blockEntry :: .blockMapping :: ts) =
      some (.mapping members none :: nodes, [], us) := by
  have filled : endsEntry (.blockMapping :: ts) = false := rfl
  rw [readItems?]
  simp only [filled, Bool.false_eq_true, if_false, read?_mapping item, Option.bind_eq_bind, Option.bind_some, others]

theorem readItems?_items (handles : List (String × String)) {items : List Item} (tokens : ItemTokens items ts)
    (us : List Token) : ∃ nodes, List.Forall₂ Record items nodes ∧ ∀ fuel, ts.length < fuel →
      readItems? handles fuel [] (ts ++ .blockEnd :: us) = some (nodes, [], us) := by
  induction tokens with
  | nil =>
    refine ⟨[], .nil, fun fuel enough => ?_⟩
    obtain ⟨fuel, rfl⟩ := Nat.exists_eq_add_one_of_ne_zero (Nat.ne_of_gt (Nat.zero_lt_of_lt enough))
    rw [List.nil_append]
    exact readItems?_end fuel us
  | @cons item items ts ts' members others ih =>
    obtain ⟨nodes, same, reads⟩ := ih
    obtain ⟨inner, record, members'⟩ := readMembers?_members handles members (ts' ++ .blockEnd :: us)
    refine ⟨_, .cons ⟨inner, rfl, record⟩ same, fun fuel enough => ?_⟩
    simp only [List.length_cons, List.length_append] at enough
    obtain ⟨fuel, rfl⟩ : ∃ n, fuel = n + 2 := ⟨fuel - 2, by omega⟩
    have split : ts ++ .blockEnd :: ts' ++ .blockEnd :: us = ts ++ .blockEnd :: (ts' ++ .blockEnd :: us) := by simp
    rw [List.cons_append, List.cons_append, split]
    exact readItems?_item (members' fuel (by omega)) (reads (fuel + 1) (by omega))

/-- The node of a list. -/
theorem ofTokens?_list {items : List Item} (tokens : ItemTokens items ts) {closing : List Char} {ends : List Token}
    (ending : Ending closing ends) : ∃ nodes, List.Forall₂ Record items nodes ∧
      ofTokens? (.blockSequence :: ts ++ .blockEnd :: ends) = some (.sequence nodes none) := by
  obtain ⟨nodes, same, reads⟩ := readItems?_items [] tokens ends
  have closed : ends.all (· == .documentEnd) = true := by
    cases ending <;> rfl
  have enough : ts.length < 4 * (.blockSequence :: ts ++ .blockEnd :: ends).length + 3 := by
    rw [List.length_append, List.length_cons]
    omega
  have whole : read? [] (4 * (.blockSequence :: ts ++ .blockEnd :: ends).length + 4) .block []
      (.blockSequence :: ts ++ .blockEnd :: ends) = some (.sequence nodes none, [], ends) :=
    read?_sequence (reads _ enough)
  refine ⟨nodes, same, ?_⟩
  have content : ofTokens? (.blockSequence :: ts ++ .blockEnd :: ends) =
      readContent? [] (.blockSequence :: ts ++ .blockEnd :: ends) := rfl
  have opened : endsDocument (.blockSequence :: ts ++ .blockEnd :: ends) = false := rfl
  rw [content, readContent?]
  simp only [opened, Bool.false_eq_true, if_false, whole, Option.bind_eq_bind, Option.bind_some, closed, if_true]

end

/-- A list of items is read as the records that were written. -/
theorem parse?_list {item : Item} {items : List Item} {closing : List Char} {ends : List Token}
    (named : ∀ e ∈ item :: items, e.Named) (ending : Ending closing ends) :
    ∃ nodes, List.Forall₂ Record (item :: items) nodes ∧
      parse? (String.ofList ((item :: items).flatMap itemText ++ closing)) = some (.sequence nodes none) := by
  obtain ⟨ts, tokens, scans⟩ := scan?_list named ending
  obtain ⟨nodes, same, reads⟩ := ofTokens?_list tokens ending
  refine ⟨nodes, same, ?_⟩
  rw [parse?, scans, Option.bind_eq_bind, Option.bind_some, reads]

/-- Without an item, brackets stand for the list. -/
theorem parse?_empty : parse? "[]\n" = some (.sequence [] none) := rfl

end Node

end SecretLayers.Yaml
