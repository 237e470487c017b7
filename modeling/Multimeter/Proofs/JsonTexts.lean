import Multimeter.Json.Parser
import Multimeter.Json.Printer
import Multimeter.Proofs.Spellings

/-!
# The texts of JSON values

A value has one list of tokens and many texts: those that spell its tokens. The reader gets the
value back from every one of them. Both printed forms of a value that has only texts and naturals
in it are among its texts, so that they are read as the value they were printed from.

## Main definitions

* `tokensOf`: the tokens of a value.
* `IsPlain`: every string and key is a text, and every number a natural one.

## Main results

* `ofSymbols?_of_renders`: any spelling of the tokens of a value is read as the value.
* `ofText?_compact`, `ofText?_pretty`: the printed forms of a plain value are read as the value.
-/

namespace Multimeter.Json

open Text (Symbol)

/-- What passes from the items and the members of a container to the container holds of every
value. -/
@[elab_as_elim]
theorem induction {motive : Json → Prop} (null : motive .null) (bool : ∀ b, motive (.bool b))
    (num : ∀ n, motive (.num n)) (str : ∀ s, motive (.str s))
    (arr : ∀ items, (∀ j ∈ items, motive j) → motive (.arr items))
    (obj : ∀ members, (∀ m ∈ members, motive m.2) → motive (.obj members)) : ∀ j, motive j
  | .null => null
  | .bool b => bool b
  | .num n => num n
  | .str s => str s
  | .arr items => arr items fun j _ => induction null bool num str arr obj j
  | .obj members => obj members fun m _ => induction null bool num str arr obj m.2
termination_by j => sizeOf j
decreasing_by
  · have := List.sizeOf_lt_of_mem ‹j ∈ items›
    simp only [Json.arr.sizeOf_spec]
    omega
  · have := List.sizeOf_lt_of_mem ‹m ∈ members›
    have : sizeOf m = 1 + sizeOf m.1 + sizeOf m.2 := by cases m; rfl
    simp only [Json.obj.sizeOf_spec]
    omega

/-! ## The tokens of a value -/

mutual

def tokensOf : Json → List Token
  | .null => [.null]
  | .bool b => [.bool b]
  | .num n => [.num n]
  | .str s => [.str s]
  | .arr items => .openBracket :: (itemTokens items ++ [.closeBracket])
  | .obj members => .openBrace :: (memberTokens members ++ [.closeBrace])

def itemTokens : List Json → List Token
  | [] => []
  | [j] => tokensOf j
  | j :: j' :: js => tokensOf j ++ .comma :: itemTokens (j' :: js)

def memberTokens : List (Option String × Json) → List Token
  | [] => []
  | [(k, j)] => .str k :: .colon :: tokensOf j
  | (k, j) :: m :: ms => .str k :: .colon :: (tokensOf j ++ .comma :: memberTokens (m :: ms))

end

/-- A value does not begin with the end of an array. -/
theorem tokensOf_head (j : Json) : ∃ t ts, tokensOf j = t :: ts ∧ t ≠ .closeBracket := by
  cases j <;> exact ⟨_, _, tokensOf.eq_def _, by simp⟩

/-! ## Reading them -/

namespace Reading

/-- Take the tokens one at a time. -/
def run (ts : List Token) (r : Reading) : Option Reading := ts.foldlM step r

theorem run_cons (t : Token) (ts : List Token) (r : Reading) :
    run (t :: ts) r = (r.step t).bind (run ts) := rfl

theorem step_item {t : Token} (stack : List Frame) (h : t ≠ .closeBracket) :
    step (.item stack) t = step (.value (.arr [] :: stack)) t := by
  cases t <;> first | rfl | exact absurd rfl h

/-- The value is read from its tokens, whatever is open around it and comes after it. -/
def Finds (j : Json) : Prop :=
  ∀ ts stack, run (tokensOf j ++ ts) (.value stack) = run ts (.after j stack)

theorem run_items {j : Json} {js : List Json} (h : ∀ j' ∈ j :: js, Finds j') (ts : List Token)
    (done : List Json) (stack : List Frame) :
    run (itemTokens (j :: js) ++ .closeBracket :: ts) (.value (.arr done :: stack)) =
      run ts (.after (.arr (done.reverse ++ j :: js)) stack) := by
  obtain ⟨first, others⟩ := List.forall_mem_cons.1 h
  induction js generalizing j done with
  | nil =>
    rw [itemTokens, first, run_cons]
    simp [step]
  | cons j' js ih =>
    have next := ih others (j :: done) (others j' (by simp)) (List.forall_mem_cons.1 others).2
    rw [itemTokens, List.append_assoc, first, List.cons_append, run_cons]
    simpa [step] using next

theorem run_members {m : Option String × Json} {ms : List (Option String × Json)}
    (h : ∀ m' ∈ m :: ms, Finds m'.2) (ts : List Token) (done : List (Option String × Json))
    (stack : List Frame) :
    run (memberTokens (m :: ms) ++ .closeBrace :: ts) (.key done stack) =
      run ts (.after (.obj (done.reverse ++ m :: ms)) stack) := by
  induction ms generalizing m done with
  | nil =>
    obtain ⟨k, j⟩ := m
    have value := h (k, j) (by simp) (.closeBrace :: ts) (.obj done k :: stack)
    simpa [memberTokens, run_cons, step] using value
  | cons m' ms ih =>
    obtain ⟨k, j⟩ := m
    obtain ⟨first, others⟩ := List.forall_mem_cons.1 h
    have value := first (.comma :: (memberTokens (m' :: ms) ++ .closeBrace :: ts))
      (.obj done k :: stack)
    have next := ih others ((k, j) :: done)
    simpa [memberTokens, run_cons, step, value] using next

/-- A first item is read like a value, unless the array ends before it. -/
theorem run_item (j : Json) (js : List Json) (ts : List Token) (stack : List Frame) :
    run (itemTokens (j :: js) ++ ts) (.item stack) =
      run (itemTokens (j :: js) ++ ts) (.value (.arr [] :: stack)) := by
  obtain ⟨more, hmore⟩ : ∃ more, itemTokens (j :: js) = tokensOf j ++ more := by
    cases js with
    | nil => exact ⟨[], (List.append_nil _).symm⟩
    | cons j' js => exact ⟨.comma :: itemTokens (j' :: js), rfl⟩
  obtain ⟨t, ts', htokens, ne⟩ := tokensOf_head j
  simp only [hmore, htokens, List.cons_append, run_cons, step_item stack ne]

/-- A first key is read like a further one. -/
theorem run_member (m : Option String × Json) (ms : List (Option String × Json)) (ts : List Token)
    (stack : List Frame) :
    run (memberTokens (m :: ms) ++ ts) (.member stack) =
      run (memberTokens (m :: ms) ++ ts) (.key [] stack) := by
  cases ms <;> rfl

theorem finds (j : Json) : Finds j := by
  induction j using Json.induction with
  | null | bool | num | str => exact fun _ _ => rfl
  | arr items ih =>
    intro ts stack
    cases items with
    | nil => rfl
    | cons j js =>
      have inside := run_items ih ts [] stack
      rw [tokensOf, List.cons_append, List.append_assoc, run_cons]
      exact (run_item j js _ stack).trans inside
  | obj members ih =>
    intro ts stack
    cases members with
    | nil => rfl
    | cons m ms =>
      have inside := run_members ih ts [] stack
      rw [tokensOf, List.cons_append, List.append_assoc, run_cons]
      exact (run_member m ms _ stack).trans inside

end Reading

/-- Any spelling of the tokens of a value is read as the value. -/
theorem ofSymbols?_of_renders {j : Json} {input : List Symbol} (h : Renders (tokensOf j) input) :
    ofSymbols? input = some j := by
  have read : (tokensOf j).foldlM Reading.step (.value []) = some (.after j []) := by
    have := Reading.finds j [] []
    rwa [List.append_nil] at this
  simp [ofSymbols?, h.tokens_eq, read, Reading.result?]

/-! ## Printed words -/

theorem hexValue?_hexDigit {n : Nat} (h : n < 16) :
    Text.hexValue? (Text.hexDigit n) = some n := by
  have all : ∀ n < 16, Text.hexValue? (Text.hexDigit n) = some n := by decide
  exact all n h

theorem unit?_hexWord {n : Nat} (h : n < 65536) :
    unit? (Text.hexDigit (n / 4096 % 16)) (Text.hexDigit (n / 256 % 16))
      (Text.hexDigit (n / 16 % 16)) (Text.hexDigit (n % 16)) = some n := by
  have digit (k : Nat) := hexValue?_hexDigit (Nat.mod_lt k (show 0 < 16 by decide))
  simp only [unit?, digit, Option.some.injEq]
  omega

/-- An escaped character stands for itself. -/
theorem Piece.Spells.escape {ps : List Piece} {input : List Symbol} (c : Char)
    (rest : Piece.Spells ps input) :
    Piece.Spells (.char c :: ps) ((escape c).map .char ++ input) := by
  unfold Json.escape
  iterate 7
    split
    · subst c
      exact .escaped rfl rest
  split
  case isTrue control =>
    have unit : Piece.ofUnit c.toNat = .char c := by
      rw [Piece.ofUnit, if_neg (by omega), Char.ofNat_toNat]
    have word := Piece.Spells.unit (unit?_hexWord (n := c.toNat) (by omega)) rest
    simpa [Text.hexWord, unit] using word
  case isFalse visible => exact .raw ‹_› ‹_› (Nat.not_lt.1 visible) rest

theorem spells_flatMap_escape (cs : List Char) :
    Piece.Spells (cs.map .char) ((cs.flatMap escape).map .char) := by
  induction cs with
  | nil => exact .nil
  | cons c cs ih => simpa using ih.escape c

theorem charsOfPieces?_map (acc cs : List Char) :
    charsOfPieces? acc (cs.map .char) = some (acc.reverse ++ cs) := by
  induction cs generalizing acc with
  | nil => simp [charsOfPieces?]
  | cons c cs ih => simp [charsOfPieces?, ih]

theorem spells_quoted (s : String) : Token.Spells (.str (some s)) ((quoted s).map .char) := by
  have word := Token.Spells.str (spells_flatMap_escape s.toList)
  simpa [textOfPieces?, charsOfPieces?_map, quoted] using word

theorem head?_toDigits_ne_zero {n : Nat} (h : 0 < n) :
    (Nat.toDigits 10 n).head? ≠ some '0' := by
  induction n using Nat.strongRecOn with
  | ind n ih =>
    rw [Nat.toDigits_eq_if (by decide)]
    split
    · have digits : ∀ d < 10, 0 < d → d.digitChar ≠ '0' := by decide
      simpa using digits n ‹_› h
    · have front := ih (n / 10) (by omega) (by omega)
      rwa [List.head?_append, Option.or_of_isSome (by simp [Nat.toDigits_ne_nil])]

theorem isWhole_toDigits (n : Nat) : IsWhole ((Nat.toDigits 10 n).map .char) where
  ne_nil := by simp [Nat.toDigits_ne_nil]
  all := by
    intro s hs
    obtain ⟨c, hc, rfl⟩ := List.mem_map.1 hs
    have digit := Nat.isDigit_of_mem_toDigits (by decide) (by decide) hc
    simpa [isDigit, Char.isDigit, UInt32.le_iff_toNat_le] using digit
  no_leading_zero := by
    intro zero
    rcases Nat.eq_zero_or_pos n with rfl | pos
    · rfl
    · refine absurd ?_ (head?_toDigits_ne_zero pos)
      simpa using zero

theorem valueOf_toDigits (n : Nat) : valueOf ((Nat.toDigits 10 n).map .char) = n := by
  have digits := Nat.ofDigitChars_ten_toDigits (n := n)
  rw [Nat.ofDigitChars_eq_foldl] at digits
  simpa [valueOf, List.foldl_map, Nat.mul_comm] using digits

theorem spells_natural (n : Nat) :
    Token.Spells (.num (.natural n)) ((toString n).toList.map .char) := by
  have word := Token.Spells.num (.natural (isWhole_toDigits n))
  rw [valueOf_toDigits] at word
  simpa using word

/-! ## Printed values -/

/-- Every string and key is a text, and every number a natural one. -/
inductive IsPlain : Json → Prop
  | null : IsPlain .null
  | bool (b : Bool) : IsPlain (.bool b)
  | natural (n : Nat) : IsPlain (ofNat n)
  | text (s : String) : IsPlain (ofString s)
  | arr {items : List Json} (each : ∀ j ∈ items, IsPlain j) : IsPlain (.arr items)
  | obj {members : List (Option String × Json)} (keys : ∀ m ∈ members, m.1.isSome)
      (each : ∀ m ∈ members, IsPlain m.2) : IsPlain (.obj members)

/-- The characters spell the tokens in front of every text that no number goes on with. -/
structure Prints (ts : List Token) (cs : List Char) : Prop where
  renders : ∀ {after : List Token} {rest : List Symbol}, Renders after rest → StopsNumber rest →
    Renders (ts ++ after) (cs.map .char ++ rest)

namespace Prints

variable {ts ts' : List Token} {cs cs' : List Char}

theorem nil : Prints [] [] := ⟨fun h _ => h⟩

theorem word {t : Token} (h : t.Spells (cs.map .char)) : Prints [t] cs :=
  ⟨fun after stop => .cons h (fun _ => stop) after⟩

theorem mark {t : Token} {c : Char} (h : t.Spells [.char c]) (mark : t.isNumber = false)
    (rest : Prints ts cs) : Prints (t :: ts) (c :: cs) := by
  refine ⟨fun after stop => ?_⟩
  have := Renders.cons h (by simp [mark]) (rest.renders after stop)
  exact this

theorem space {c : Char} (h : isSpace c = true) (rest : Prints ts cs) : Prints ts (c :: cs) :=
  ⟨fun after stop => .space h (rest.renders after stop)⟩

theorem append {c : Char} (h : Prints ts cs) (stop : continuesNumber (.char c) = false)
    (rest : Prints ts' (c :: cs')) : Prints (ts ++ ts') (cs ++ c :: cs') := by
  refine ⟨fun after stops => ?_⟩
  have := h.renders (rest.renders after stops) (stopsNumber_cons.2 stop)
  simpa using this

theorem newline (depth : Nat) (rest : Prints ts cs) : Prints ts (newline depth ++ cs) := by
  have indented : ∀ n, Prints ts (List.replicate n ' ' ++ cs) := by
    intro n
    induction n with
    | zero => exact rest
    | succ n ih => exact ih.space rfl
  exact (indented _).space rfl

theorem append_newline (depth : Nat) (h : Prints ts cs) (rest : Prints ts' cs') :
    Prints (ts ++ ts') (cs ++ (Json.newline depth ++ cs')) :=
  h.append rfl (rest.newline depth)

theorem quoted (s : String) : Prints [.str (some s)] (quoted s) := .word (spells_quoted s)

/-- A key and its value with what is between them. -/
theorem keyed (s : String) (rest : Prints ts (':' :: cs)) :
    Prints (.str (some s) :: ts) (Json.quoted s ++ ':' :: cs) :=
  (Prints.quoted s).append rfl rest

end Prints

/-! The printers differ in the space that leads in an item or a member and in that after a colon. -/

section layout

variable (print : Json → List Char) (lead gap : List Char)

theorem prints_items {items : List Json → List Char}
    (leads : ∀ {ts cs}, Prints ts cs → Prints ts (lead ++ cs))
    (empty : items [] = []) (one : ∀ j, items [j] = lead ++ print j)
    (more : ∀ j j' js, items (j :: j' :: js) = lead ++ (print j ++ ',' :: items (j' :: js)))
    {js : List Json} (h : ∀ j ∈ js, Prints (tokensOf j) (print j)) :
    Prints (itemTokens js) (items js) := by
  induction js with
  | nil =>
    rw [empty]
    exact .nil
  | cons j js ih =>
    obtain ⟨first, others⟩ := List.forall_mem_cons.1 h
    cases js with
    | nil =>
      rw [one]
      exact leads first
    | cons j' js =>
      rw [more]
      exact leads (first.append rfl (.mark .comma rfl (ih others)))

theorem prints_members {members : List (Option String × Json) → List Char}
    (leads : ∀ {ts cs}, Prints ts cs → Prints ts (lead ++ cs))
    (gaps : ∀ {ts cs}, Prints ts cs → Prints ts (gap ++ cs))
    (empty : members [] = [])
    (one : ∀ k j, members [(some k, j)] = lead ++ (quoted k ++ ':' :: (gap ++ print j)))
    (more : ∀ k j m ms, members ((some k, j) :: m :: ms) =
      lead ++ (quoted k ++ ':' :: (gap ++ (print j ++ ',' :: members (m :: ms)))))
    {ms : List (Option String × Json)} (keys : ∀ m ∈ ms, m.1.isSome)
    (h : ∀ m ∈ ms, Prints (tokensOf m.2) (print m.2)) :
    Prints (memberTokens ms) (members ms) := by
  induction ms with
  | nil =>
    rw [empty]
    exact .nil
  | cons m ms ih =>
    obtain ⟨first, others⟩ := List.forall_mem_cons.1 h
    obtain ⟨key, others'⟩ := List.forall_mem_cons.1 keys
    obtain ⟨k | k, j⟩ := m
    · cases key
    cases ms with
    | nil =>
      rw [one]
      exact leads (.keyed k (.mark .colon rfl (gaps first)))
    | cons m' ms =>
      have value := first.append rfl (.mark .comma rfl (ih others' others))
      rw [more]
      exact leads (.keyed k (.mark .colon rfl (gaps value)))

end layout

theorem IsPlain.prints_compact {j : Json} (h : j.IsPlain) :
    Prints (tokensOf j) (compactChars j) := by
  induction h with
  | null => exact .word .null
  | bool b => cases b <;> exact .word (by constructor)
  | natural n => exact .word (spells_natural n)
  | text s => exact .quoted s
  | @arr items _ ih =>
    have inside : Prints _ (compactItems items) :=
      prints_items compactChars [] id rfl (fun _ => rfl) (fun _ _ _ => rfl) ih
    rw [tokensOf, compactChars, List.cons_append]
    exact .mark .openBracket rfl (inside.append rfl (.mark .closeBracket rfl .nil))
  | @obj members keys _ ih =>
    have inside : Prints _ (compactMembers members) :=
      prints_members compactChars [] [] id id rfl (fun _ _ => by simp [compactMembers])
        (fun _ _ _ _ => by simp [compactMembers]) keys ih
    rw [tokensOf, compactChars, List.cons_append]
    exact .mark .openBrace rfl (inside.append rfl (.mark .closeBrace rfl .nil))

theorem IsPlain.prints_pretty {j : Json} (h : j.IsPlain) (depth : Nat) :
    Prints (tokensOf j) (prettyChars depth j) := by
  induction h generalizing depth with
  | null => exact .word .null
  | bool b => cases b <;> exact .word (by constructor)
  | natural n => exact .word (spells_natural n)
  | text s => exact .quoted s
  | @arr items _ ih =>
    have inside : Prints _ (prettyItems (depth + 1) items) := prints_items _ _
      (.newline (depth + 1)) rfl (fun _ => rfl) (fun _ _ _ => List.append_assoc ..)
      fun j hj => ih j hj (depth + 1)
    cases items with
    | nil => exact .mark .openBracket rfl (.mark .closeBracket rfl .nil)
    | cons j js =>
      rw [tokensOf, prettyChars, List.cons_append, List.cons_append, List.append_assoc]
      exact .mark .openBracket rfl
        (inside.append_newline depth (.mark .closeBracket rfl .nil))
  | @obj members keys _ ih =>
    have inside : Prints _ (prettyMembers (depth + 1) members) := prints_members _ _ [' ']
      (.newline (depth + 1)) (.space rfl) rfl (fun _ _ => by simp [prettyMembers])
      (fun _ _ _ _ => by simp [prettyMembers]) keys fun m hm => ih m hm (depth + 1)
    cases members with
    | nil => exact .mark .openBrace rfl (.mark .closeBrace rfl .nil)
    | cons m ms =>
      rw [tokensOf, prettyChars, List.cons_append, List.cons_append, List.append_assoc]
      exact .mark .openBrace rfl (inside.append_newline depth (.mark .closeBrace rfl .nil))

theorem Prints.renders_text {ts : List Token} {cs : List Char} (h : Prints ts cs) :
    Renders ts (Symbol.ofString (String.ofList cs)) := by
  simpa [Symbol.ofString] using h.renders .nil stopsNumber_nil

/-- The compact form of a plain value is read as the value. -/
theorem IsPlain.ofText?_compact {j : Json} (h : j.IsPlain) : ofText? j.compact = some j :=
  ofSymbols?_of_renders h.prints_compact.renders_text

/-- The pretty form of a plain value is read as the value. -/
theorem IsPlain.ofText?_pretty {j : Json} (h : j.IsPlain) : ofText? j.pretty = some j :=
  ofSymbols?_of_renders (h.prints_pretty 0).renders_text

/-- A record of plain values is plain. -/
theorem isPlain_record {members : List (String × Json)} (h : ∀ m ∈ members, m.2.IsPlain) :
    (record members).IsPlain :=
  .obj (List.forall_mem_map.2 fun _ _ => rfl) (List.forall_mem_map.2 h)

end Multimeter.Json
