import SecretLayers.Proofs.Yaml.Scalars
import SecretLayers.Yaml.Token
/-!
Tokens of a block, one after another: the dash of an item, the key of a member with its colon, and the
way from one to the next. Between tokens a scanner stands before a word, and the blocks to the right
of the word have ended.
-/
namespace SecretLayers.Yaml
set_option autoImplicit false

open Cursor

namespace Scanner

/-! ## Runs of a scanner -/

/-- A scanner outside of all brackets that remembers no place of a key. -/
def keyless (c : Cursor) (ts : List Token) (indent : Int) (outer : List Int) (keyAllowed : Bool) : Scanner :=
  { cursor := c, tokens := ts.toArray, indent, outerIndents := outer, keyAllowed }

/-- Before a token: blanks are passed, and the blocks to the right are ended. -/
def prepare? (s : Scanner) : Option Scanner :=
  (s.skipBlanks (s.cursor.rest.length + 1)).dropStale?.map fun s => s.returnTo s.column

/-- The tokens from a word on. -/
def resume? (fuel : Nat) (s : Scanner) : Option (List Token) :=
  match s.cursor.rest with
  | [] => (s.returnTo (-1)).dropKeyPlace?.map fun s => s.tokens.toList
  | d :: rest => (s.addToken? d rest).bind (run? fuel)

theorem run?_succ (fuel : Nat) (s : Scanner) : run? (fuel + 1) s = s.prepare?.bind (resume? fuel) := by
  rw [run?, prepare?]
  cases (s.skipBlanks (s.cursor.rest.length + 1)).dropStale? with
  | none => rfl
  | some s =>
    simp only [Option.bind_eq_bind, Option.bind_some, Option.map_some, resume?]
    cases hr : (s.returnTo s.column).cursor.rest with
    | nil => cases ((s.returnTo s.column).returnTo (-1)).dropKeyPlace? <;> rfl
    | cons d rest => rfl

/-- Some tokens are read, none of them without passing a character. -/
def Leads (s s' : Scanner) : Prop :=
  ∃ n, n + s'.cursor.rest.length ≤ s.cursor.rest.length ∧ ∀ fuel, resume? (fuel + n) s = resume? fuel s'

theorem Leads.refl (s : Scanner) : Leads s s := ⟨0, by omega, fun _ => rfl⟩

theorem Leads.trans {s s' s'' : Scanner} (h : Leads s s') (h' : Leads s' s'') : Leads s s'' := by
  obtain ⟨n, passed, runs⟩ := h
  obtain ⟨n', passed', runs'⟩ := h'
  refine ⟨n' + n, by omega, fun fuel => ?_⟩
  rw [← Nat.add_assoc, runs, runs']

/-- A step: the token here, and the way to the next one. -/
theorem leads_of_token {s s₁ s' : Scanner} {d : Char} {rest : List Char} (starts : s.cursor.rest = d :: rest)
    (adds : s.addToken? d rest = some s₁) (ready : s₁.prepare? = some s')
    (shorter : s'.cursor.rest.length ≤ rest.length) : Leads s s' := by
  refine ⟨1, ?_, fun fuel => ?_⟩
  · rw [starts, List.length_cons]
    omega
  · rw [resume?, starts]
    dsimp only
    rw [adds, Option.bind_some, run?_succ, ready, Option.bind_some]

/-! ## Blocks that start and end -/

/-- A token at a column may start a block. -/
inductive Opens (start : Token) (column : Nat) (o : List Int) : Int → Int → List Int → List Token → Prop
  | within {i : Int} (shallow : column ≤ i) : Opens start column o i i o []
  | deeper {i : Int} (deep : i < column) : Opens start column o i column (i :: o) [start]

/-- A word at a column ends the blocks to the right of it. -/
inductive Closes (column : Int) : Int → List Int → Int → List Int → List Token → Prop
  | within {i : Int} {o : List Int} (shallow : i ≤ column) : Closes column i o i o []
  | deeper {i outer i' : Int} {o o' : List Int} {ends : List Token} (deep : column < i)
    (others : Closes column outer o i' o' ends) : Closes column i (outer :: o) i' o' (.blockEnd :: ends)

section
variable {c : Cursor} {ts front ends : List Token} {i i' : Int} {o o' : List Int} {b : Bool}

theorem openBlock_keyless {start : Token} {column : Nat} (opens : Opens start column o i i' o' front) :
    (keyless c ts i o b).openBlock column ts.length start = keyless c (ts ++ front) i' o' b := by
  cases opens with
  | within shallow => simp [openBlock, keyless, shallow]
  | deeper deep =>
    have outside : ¬ (column : Int) ≤ i := by omega
    simp [openBlock, keyless, inFlow, outside, insertAt]

theorem closeBlocks_eq {column : Int} (closes : Closes column i o i' o' ends) (ts : List Token) :
    closeBlocks column i o ts.toArray = (i', o', (ts ++ ends).toArray) := by
  induction closes generalizing ts with
  | @within i o shallow =>
    rw [List.append_nil]
    cases o with
    | nil => rfl
    | cons outer rest => rw [closeBlocks, if_neg (by omega)]
  | @deeper i outer i' o o' ends deep others ih =>
    have next := ih (ts ++ [.blockEnd])
    rw [List.append_assoc, List.singleton_append] at next
    rw [closeBlocks, if_pos deep, ← next]
    simp

theorem returnTo_keyless {column : Int} (closes : Closes column i o i' o' ends) :
    (keyless c ts i o b).returnTo column = keyless c (ts ++ ends) i' o' b := by
  rw [returnTo]
  simp only [keyless, inFlow, List.isEmpty_nil, Bool.not_true, Bool.false_eq_true, if_false]
  rw [closeBlocks_eq closes]

end

/-! ## Between tokens -/

section
variable {c : Cursor} {ts ends : List Token} {i i' : Int} {o o' : List Int} {b : Bool} {k n column : Nat}
  {word after : List Char}

theorem span_blanks (h : c.At (List.replicate n ' ' ++ word) k) (settled : Settled word) (tabs : Bool) :
    c.span (fun d => d == ' ' || (tabs && d == '\t')) = (List.replicate n ' ', c.skip n) := by
  have blanks : ∀ d ∈ List.replicate n ' ', ((d == ' ' || (tabs && d == '\t')) && !isBreak d) = true := by
    intro d hd
    rw [List.eq_of_mem_replicate hd]
    rfl
  have ends : word.takeWhile (fun d => (d == ' ' || (tabs && d == '\t')) && !isBreak d) = [] := by
    cases word with
    | nil => rfl
    | cons d ds =>
      have gap := (settled d ds rfl).1
      rw [isGap, Bool.or_eq_false_iff] at gap
      simp [gap.1, gap.2]
  have taken : c.rest.takeWhile (fun d => (d == ' ' || (tabs && d == '\t')) && !isBreak d) = List.replicate n ' ' := by
    rw [h.rest, List.takeWhile_append_of_pos blanks, ends, List.append_nil]
  rw [Cursor.span, taken, List.length_replicate]

/-- Blanks are passed up to a word. -/
theorem skipBlanks_word {s : Scanner} {fuel : Nat} (h : s.cursor.At (List.replicate n ' ' ++ word) k)
    (starts : Word word) : skipBlanks (fuel + 1) s = { s with cursor := s.cursor.skip n } := by
  have marked : (s.cursor.rest.head? == some '\uFEFF') = false := by
    rw [h.rest]
    cases n with
    | zero => simpa using starts.unmarked
    | succ n => rfl
  have behind := h.skip_blanks n
  have comment : ((s.cursor.skip n).rest.head? == some '#') = false := by
    rw [behind.rest]
    simpa using starts.uncommented
  have line : (s.cursor.skip n).atBreak = false := by
    rw [atBreak, behind.rest]
    cases word with
    | nil => rfl
    | cons d ds => exact (starts.settled d ds rfl).2
  rw [skipBlanks]
  simp only [marked, Bool.and_false, Bool.false_eq_true, if_false, span_blanks h starts.settled, comment, line]

/-- The end of a line is passed, too, and a key may begin behind it. -/
theorem skipBlanks_line {fuel : Nat} (h : c.At ('\n' :: after) k) (next : Next after column word) :
    skipBlanks (fuel + 2) (keyless c ts i o b) = keyless (c.readBreak.2.skip column) ts i o true := by
  have behind := (At.readBreak (by decide) h).2
  rw [next.split] at behind
  have span (p : Char → Bool) : (c.span p).2 = c := by
    have line : isBreak '\n' = true := by decide
    rw [Cursor.span, h.rest, List.takeWhile_cons_of_neg (by simp [line])]
    rfl
  have marked : (c.rest.head? == some '\uFEFF') = false := by
    rw [h.rest]
    rfl
  have comment : (c.rest.head? == some '#') = false := by
    rw [h.rest]
    rfl
  have line : c.atBreak = true := by
    rw [atBreak, h.rest]
    rfl
  have onward : skipBlanks (fuel + 1) (keyless c.readBreak.2 ts i o true) =
      keyless (c.readBreak.2.skip column) ts i o true := skipBlanks_word behind next.toWord
  rw [← onward, skipBlanks]
  simp only [keyless, marked, Bool.and_false, Bool.false_eq_true, if_false, span, comment, line, if_true]
  rfl

/-- The word behind some blanks. -/
theorem prepare?_word (h : c.At (List.replicate n ' ' ++ word) k) (starts : Word word)
    (closes : Closes ((k + n : Nat) : Int) i o i' o' ends) :
    prepare? (keyless c ts i o b) = some (keyless (c.skip n) (ts ++ ends) i' o' b) := by
  have blanks : skipBlanks ((keyless c ts i o b).cursor.rest.length + 1) (keyless c ts i o b) =
      keyless (c.skip n) ts i o b := skipBlanks_word h starts
  have column : (keyless (c.skip n) ts i o b).column = k + n := (h.skip_blanks n).column
  have fresh : (keyless (c.skip n) ts i o b).dropStale? = some (keyless (c.skip n) ts i o b) := rfl
  rw [prepare?, blanks, fresh, Option.map_some, column, returnTo_keyless closes]

/-- The word on the next line. -/
theorem prepare?_line (h : c.At ('\n' :: after) k) (next : Next after column word)
    (closes : Closes (column : Int) i o i' o' ends) :
    prepare? (keyless c ts i o b) = some (keyless (c.readBreak.2.skip column) (ts ++ ends) i' o' true) := by
  have behind := (At.readBreak (by decide) h).2
  rw [next.split] at behind
  have own := (behind.skip_blanks column).column
  rw [Nat.zero_add] at own
  have length : (keyless c ts i o b).cursor.rest.length + 1 = after.length + 2 := by
    have rest : (keyless c ts i o b).cursor.rest = '\n' :: after := h.rest
    rw [rest, List.length_cons]
  have column' : (keyless (c.readBreak.2.skip column) ts i o true).column = column := own
  have fresh : (keyless (c.readBreak.2.skip column) ts i o true).dropStale? =
      some (keyless (c.readBreak.2.skip column) ts i o true) := rfl
  rw [prepare?, length, skipBlanks_line h next, fresh, Option.map_some, column', returnTo_keyless closes]

end

/-! ## Items and keys -/

section
variable {c : Cursor} {ts : List Token} {i : Int} {o : List Int} {b : Bool} {k : Nat} {d : Char}
  {rest after : List Char}

/-- No mark stands first. -/
def StartsPlain (d : Char) (rest : List Char) : Prop :=
  (isIndicator d = false ∧ isGap d = false) ∨ (d ∈ ['-', '?', ':'] ∧ endsWord rest = false)

theorem not_endOr_isGap {rest : List Char} (h : endsWord rest = false) : endOr isGap rest = false := by
  cases rest with
  | nil => cases h
  | cons d ds =>
    simp only [endsWord, endOr, Bool.or_eq_false_iff] at h ⊢
    exact h.1

theorem marks_inside {s : Scanner} (inside : 0 < s.column) :
    (s.column == 0) = false ∧ s.cursor.atDocumentMark = false := by
  have column : (s.column == 0) = false := by
    rw [beq_eq_false_iff_ne]
    omega
  refine ⟨column, ?_⟩
  unfold Scanner.column at column
  rw [atDocumentMark, column, Bool.false_and]

theorem addToken?_plain {s : Scanner} (inside : 0 < s.column) (outside : s.inFlow = false)
    (plain : StartsPlain d rest) : s.addToken? d rest = s.addPlain? := by
  obtain ⟨column, mark⟩ := marks_inside inside
  rcases plain with ⟨unmarked, gap⟩ | ⟨marks, ends⟩
  · have self : isIndicator d = false := unmarked
    simp only [isIndicator, String.reduceToList, List.contains_cons, List.contains_nil, Bool.or_false,
      Bool.or_eq_false_iff] at unmarked
    simp only [addToken?, column, mark, outside, unmarked, self, gap, Bool.false_and, Bool.false_eq_true, if_false,
      Bool.or_self, Bool.not_false, Bool.and_self, Bool.true_or, if_true]
  · have gap := not_endOr_isGap ends
    simp only [List.mem_cons, List.not_mem_nil, or_false] at marks
    rcases marks with rfl | rfl | rfl
    · simp [addToken?, column, mark, outside, ends, gap]
    · simp [addToken?, column, mark, outside, ends, gap]
    · simp [addToken?, column, mark, outside, ends, gap]

theorem addToken?_quote {s : Scanner} (inside : 0 < s.column) (quote : d = '\'' ∨ d = '"') :
    s.addToken? d rest = s.addRead? (readQuotedToken? d) := by
  obtain ⟨column, mark⟩ := marks_inside inside
  rcases quote with rfl | rfl
  · simp [addToken?, column, mark]
  · simp [addToken?, column, mark]

theorem addToken?_block {s : Scanner} (inside : 0 < s.column) (outside : s.inFlow = false) :
    s.addToken? '|' rest = s.addBlock? false := by
  obtain ⟨column, mark⟩ := marks_inside inside
  simp [addToken?, column, mark, outside]

theorem addToken?_value {s : Scanner} (inside : 0 < s.column) (ends : endsWord rest = true) :
    s.addToken? ':' rest = s.addValue? := by
  obtain ⟨column, mark⟩ := marks_inside inside
  simp [addToken?, column, mark, ends]

/-- The dash of an item. -/
theorem leads_item {word : List Char} {o' : List Int} {i' : Int} {front : List Token}
    (h : c.At ('-' :: ' ' :: word) 0) (starts : Word word) (opens : Opens .blockSequence 0 o i i' o' front)
    (within : i' ≤ 2) :
    Leads (keyless c ts i o true) (keyless (c.skip 2) (ts ++ front ++ [.blockEntry]) i' o' true) := by
  have column : (keyless c ts i o true).column = 0 := h.column
  have mark : (keyless c ts i o true).cursor.atDocumentMark = false := by
    have rest : (keyless c ts i o true).cursor.rest = '-' :: ' ' :: word := h.rest
    rw [atDocumentMark, rest, Bool.and_eq_false_iff]
    exact .inr rfl
  have adds : (keyless c ts i o true).addToken? '-' (' ' :: word) =
      some (keyless c.skip (ts ++ front ++ [.blockEntry]) i' o' true) := by
    have ends : endsWord (' ' :: word) = true := rfl
    have opened : (keyless c ts i o true).openBlock 0 (keyless c ts i o true).tokens.size .blockSequence =
        keyless c (ts ++ front) i' o' true := openBlock_keyless opens
    have item : (keyless c ts i o true).addToken? '-' (' ' :: word) = (keyless c ts i o true).addBlockItem? := by
      simp [addToken?, mark, ends]
    rw [item, addBlockItem?]
    rw [column, opened]
    simp [keyless, dropKeyPlace?, pushOver]
  have behind : c.skip.At (List.replicate 1 ' ' ++ word) 1 := h.skip_one
  have ready : prepare? (keyless c.skip (ts ++ front ++ [.blockEntry]) i' o' true) =
      some (keyless (c.skip 2) (ts ++ front ++ [.blockEntry]) i' o' true) := by
    rw [prepare?_word behind starts (.within within), skip_skip, List.append_nil]
  refine leads_of_token h.rest adds ready ?_
  have rest : (keyless (c.skip 2) (ts ++ front ++ [.blockEntry]) i' o' true).cursor.rest = word :=
    (h.skip ['-', ' ']).rest
  rw [rest, List.length_cons]
  omega

/-- A name that is written plain. -/
structure IsName (name : List Char) : Prop where
  some_chars : name ≠ []
  short : name.length ≤ 1024
  letters : ∀ d ∈ name, isGap d = false ∧ isBreak d = false ∧ isIndicator d = false ∧ isShown d = true

/-- A key that has been read, before its colon. -/
def keyed (c₀ c : Cursor) (ts : List Token) (name : List Char) (i : Int) (o : List Int) : Scanner :=
  { keyless c (ts ++ [.scalar (String.ofList name) .plain]) i o false with
    keyPlace := some
      { required := i == c₀.column
        index := ts.length
        position := c₀.position
        line := c₀.line
        column := c₀.column } }

theorem addPlain?_key {name : List Char} (h : c.At (name ++ ':' :: ' ' :: rest) k) (isName : IsName name) :
    (keyless c ts i o true).addPlain? = some (keyed c (c.skip name.length) ts name i o) := by
  have letters : ∀ d ∈ name, isGap d = false ∧ isBreak d = false ∧ d ≠ ':' := by
    intro d hd
    obtain ⟨gap, line, mark, -⟩ := isName.letters d hd
    refine ⟨gap, line, ?_⟩
    rintro rfl
    cases mark
  have reads : readPlain? false (i + 1).toNat (c.rest.length + 1) [] {} c =
      some (String.ofList name, false, c.skip name.length) := by
    refine readPlain?_key name h letters ?_
    rw [h.rest, List.length_append]
    omega
  rw [addPlain?]
  simp [markKeyPlace?, dropKeyPlace?, keyless, keyed, inFlow, reads, Scanner.column]

/-- Nothing is between a key and its colon, which stands near enough. -/
theorem prepare?_keyed {name : List Char} (h : c.At (name ++ ':' :: ' ' :: rest) k) (within : i ≤ k)
    (isName : IsName name) :
    prepare? (keyed c (c.skip name.length) ts name i o) = some (keyed c (c.skip name.length) ts name i o) := by
  have behind : (keyed c (c.skip name.length) ts name i o).cursor.At
      (List.replicate 0 ' ' ++ ':' :: ' ' :: rest) (k + name.length) := h.skip name
  have word : Word (':' :: ' ' :: rest) := word_cons (by decide) (by decide) (by decide) (by decide) _
  have blanks (fuel : Nat) : skipBlanks (fuel + 1) (keyed c (c.skip name.length) ts name i o) =
      keyed c (c.skip name.length) ts name i o := skipBlanks_word behind word
  have short := isName.short
  have near : ¬ c.position + 1024 < c.position + name.length := by omega
  have fresh : (keyed c (c.skip name.length) ts name i o).dropStale? =
      some (keyed c (c.skip name.length) ts name i o) := by
    simp [dropStale?, keyed, keyless, freshen?, KeyPlace.isStale, Cursor.skip, near]
  have column : (keyed c (c.skip name.length) ts name i o).column = k + name.length := behind.column
  have returned : (keyed c (c.skip name.length) ts name i o).returnTo (k + name.length : Nat) =
      keyed c (c.skip name.length) ts name i o := by
    have stays := closeBlocks_eq (.within (by omega) : Closes (k + name.length : Nat) i o i o [])
      (ts ++ [.scalar (String.ofList name) .plain])
    rw [List.append_nil] at stays
    simp only [returnTo, keyed, keyless, inFlow, List.isEmpty_nil, Bool.not_true, Bool.false_eq_true, if_false, stays]
  rw [prepare?, blanks, fresh, Option.map_some, column, returned]

/-- The token of a key, as far as its colon. -/
theorem leads_key {name : List Char} (h : c.At (name ++ ':' :: ' ' :: rest) k) (inside : 0 < k) (within : i ≤ k)
    (isName : IsName name) :
    Leads (keyless c ts i o true) (keyed c (c.skip name.length) ts name i o) := by
  have ready : prepare? (keyed c (c.skip name.length) ts name i o) = some (keyed c (c.skip name.length) ts name i o) :=
    prepare?_keyed h within isName
  have adds : (keyless c ts i o true).addPlain? = some (keyed c (c.skip name.length) ts name i o) :=
    addPlain?_key h isName
  cases name with
  | nil => exact absurd rfl isName.some_chars
  | cons d ds =>
    obtain ⟨gap, -, mark, -⟩ := isName.letters d List.mem_cons_self
    have column : 0 < (keyless c ts i o true).column := by
      have own : (keyless c ts i o true).column = k := h.column
      rw [own]
      exact inside
    refine leads_of_token h.rest ?_ ready ?_
    · rw [addToken?_plain column rfl (.inl ⟨mark, gap⟩)]
      exact adds
    · have behind : (keyed c (c.skip (d :: ds).length) ts (d :: ds) i o).cursor.rest = ':' :: ' ' :: rest :=
        (h.skip (d :: ds)).rest
      have passed : (ds ++ ':' :: ' ' :: rest).length = ds.length + (':' :: ' ' :: rest).length := List.length_append
      rw [behind]
      exact Nat.le.intro ((Nat.add_comm _ _).trans passed.symm)

/-- A token is put in front of those from an index on. -/
theorem insertIdx_front (ts us : List Token) (t : Token) :
    (ts ++ us).insertIdx ts.length t = ts ++ t :: us := by
  induction ts with
  | nil => rfl
  | cons u ts ih => rw [List.cons_append, List.length_cons, List.insertIdx_succ_cons, ih, List.cons_append]

/-- The colon of a key, and the marks in front of the key. -/
theorem addValue?_keyed {name : List Char} {c₀ : Cursor} {o' : List Int} {i' : Int} {front : List Token}
    (opens : Opens .blockMapping c₀.column o i i' o' front) :
    (keyed c₀ c ts name i o).addValue? =
      some (keyless c.skip (ts ++ front ++ [.key, .scalar (String.ofList name) .plain, .value]) i' o' false) := by
  cases opens with
  | within shallow =>
    simp [addValue?, keyed, keyless, insertAt, openBlock, inFlow, shallow, insertIdx_front, pushOver]
  | deeper deep =>
    have outside : ¬ (c₀.column : Int) ≤ i := by omega
    simp [addValue?, keyed, keyless, insertAt, openBlock, inFlow, outside, insertIdx_front, pushOver]

/-- A key with its colon, as far as the text of the member. -/
theorem leads_member (ts : List Token) {name word : List Char} {o' : List Int} {i' : Int} {front : List Token}
    (h : c.At (name ++ ':' :: ' ' :: word) k) (inside : 0 < k) (within : i ≤ k) (isName : IsName name)
    (opens : Opens .blockMapping k o i i' o' front) (starts : Word word) :
    ∃ c', c'.At word (k + name.length + 2) ∧ Leads (keyless c ts i o true)
      (keyless c' (ts ++ front ++ [.key, .scalar (String.ofList name) .plain, .value]) i' o' false) := by
  have key : Leads (keyless c ts i o true) (keyed c (c.skip name.length) ts name i o) :=
    leads_key h inside within isName
  have colon := h.skip name
  have adds : (keyed c (c.skip name.length) ts name i o).addToken? ':' (' ' :: word) =
      some (keyless (c.skip name.length).skip
        (ts ++ front ++ [.key, .scalar (String.ofList name) .plain, .value]) i' o' false) := by
    have column : 0 < (keyed c (c.skip name.length) ts name i o).column := by
      have own : (keyed c (c.skip name.length) ts name i o).column = k + name.length := colon.column
      omega
    rw [addToken?_value column rfl]
    rw [← h.column] at opens
    exact addValue?_keyed opens
  have low : i' ≤ ((k + name.length + 1 + 1 : Nat) : Int) := by
    cases opens with
    | within shallow => omega
    | deeper deep => omega
  have blank : (c.skip name.length).skip.At (List.replicate 1 ' ' ++ word) (k + name.length + 1) := colon.skip_one
  have behind := colon.skip [':', ' ']
  have two : (c.skip name.length).skip.skip 1 = (c.skip name.length).skip [':', ' '].length := skip_skip _ 1 1
  refine ⟨_, behind, key.trans (leads_of_token colon.rest adds ?_ ?_)⟩
  · rw [prepare?_word blank starts (.within low), two, List.append_nil]
  · have rest : (keyless ((c.skip name.length).skip [':', ' '].length)
        (ts ++ front ++ [.key, .scalar (String.ofList name) .plain, .value]) i' o' false).cursor.rest = word :=
      behind.rest
    rw [rest, List.length_cons]
    omega

end

end Scanner
end SecretLayers.Yaml
