import Multimeter.Json.Basic
import Multimeter.Text.Hex
import Multimeter.Text.Utf8

/-!
# JSON tokens

`tokens` cuts a text into tokens and drops the white space between them. A string is read as
pieces first; `textOfPieces?` puts the halves of surrogate pairs together, and fails on a half
that stands alone.
-/

namespace Multimeter.Json

open Text (Symbol)

inductive Token
  | openBrace
  | closeBrace
  | openBracket
  | closeBracket
  | colon
  | comma
  | null
  | bool (b : Bool)
  | num (n : Number)
  | str (text : Option String)
deriving DecidableEq, Repr

inductive Piece
  | char (c : Char)
  /-- Half of a surrogate pair. -/
  | half (unit : Nat)
  | stray
deriving DecidableEq, Repr

def Piece.ofUnit (n : Nat) : Piece :=
  if 0xd800 ≤ n ∧ n < 0xe000 then .half n else .char (Char.ofNat n)

/-- The character of a leading and a trailing half. -/
def joinHalves? (a b : Nat) : Option Char :=
  if a < 0xdc00 ∧ 0xdc00 ≤ b then
    some (Char.ofNat (0x10000 + (a - 0xd800) * 0x400 + (b - 0xdc00)))
  else none

/-- The characters of the pieces, after those in `acc`, which come last first. -/
def charsOfPieces? (acc : List Char) : List Piece → Option (List Char)
  | [] => some acc.reverse
  | .char c :: ps => charsOfPieces? (c :: acc) ps
  | .half a :: .half b :: ps =>
    match joinHalves? a b with
    | some c => charsOfPieces? (c :: acc) ps
    | none => none
  | .half _ :: _ => none
  | .stray :: _ => none

def textOfPieces? (pieces : List Piece) : Option String :=
  (charsOfPieces? [] pieces).map String.ofList

/-- What a backslash before this character stands for. -/
def unescape? (c : Char) : Option Char :=
  if c = '\x22' ∨ c = '\x5c' ∨ c = '/' then some c
  else if c = 'b' then some '\x08'
  else if c = 'f' then some '\x0c'
  else if c = 'n' then some '\n'
  else if c = 'r' then some '\r'
  else if c = 't' then some '\t'
  else none

def unit? (a b c d : Char) : Option Nat :=
  match Text.hexValue? a, Text.hexValue? b, Text.hexValue? c, Text.hexValue? d with
  | some a, some b, some c, some d => some (((a * 16 + b) * 16 + c) * 16 + d)
  | _, _, _, _ => none

/-- Read a string after its opening quote. `acc` holds the pieces so far, last first. -/
def readString (acc : List Piece) : List Symbol → Option (List Piece × List Symbol)
  | [] => none
  | .stray _ :: rest => readString (.stray :: acc) rest
  | .char c :: rest =>
    if c = '\x22' then some (acc.reverse, rest)
    else if c = '\x5c' then
      match rest with
      | .char e :: rest =>
        if e = 'u' then
          match rest with
          | .char a :: .char b :: .char c :: .char d :: rest =>
            match unit? a b c d with
            | some n => readString (.ofUnit n :: acc) rest
            | none => none
          | _ => none
        else
          match unescape? e with
          | some c => readString (.char c :: acc) rest
          | none => none
      | _ => none
    else if c.toNat < 0x20 then none
    else readString (.char c :: acc) rest

def isDigit (s : Symbol) : Bool :=
  match s with
  | .char c => 48 ≤ c.toNat && c.toNat ≤ 57
  | .stray _ => false

/-- The value of a run of digits. -/
def valueOf (digits : List Symbol) : Nat :=
  digits.foldl (fun n s => match s with
    | .char c => n * 10 + (c.toNat - 48)
    | .stray _ => n) 0

def charsOf (symbols : List Symbol) : List Char :=
  symbols.filterMap fun
    | .char c => some c
    | .stray _ => none

/-- One or more digits and what follows them. -/
def digits? (input : List Symbol) : Option (List Symbol × List Symbol) :=
  match input.takeWhile isDigit with
  | [] => none
  | d :: ds => some (d :: ds, input.dropWhile isDigit)

/-- One or more digits, the first of several being no zero. -/
def whole? (input : List Symbol) : Option (List Symbol × List Symbol) :=
  match digits? input with
  | some (d :: ds, rest) =>
    if d = .char '0' ∧ ds ≠ [] then none else some (d :: ds, rest)
  | _ => none

/-- The fraction, if a point comes next. -/
def fraction? : List Symbol → Option (List Symbol × List Symbol)
  | .char c :: rest =>
    if c = '.' then (digits? rest).map fun (ds, rest) => (.char '.' :: ds, rest)
    else some ([], .char c :: rest)
  | input => some ([], input)

/-- The sign, if one comes next. -/
def sign : List Symbol → List Symbol × List Symbol
  | .char c :: rest => if c = '+' ∨ c = '-' then ([.char c], rest) else ([], .char c :: rest)
  | input => ([], input)

/-- The exponent, if an `e` comes next. -/
def exponent? : List Symbol → Option (List Symbol × List Symbol)
  | .char c :: rest =>
    if c = 'e' ∨ c = 'E' then
      (digits? (sign rest).2).map fun (ds, after) => (.char c :: ((sign rest).1 ++ ds), after)
    else some ([], .char c :: rest)
  | input => some ([], input)

def minus : List Symbol → List Symbol × List Symbol
  | .char c :: rest => if c = '-' then ([.char c], rest) else ([], .char c :: rest)
  | input => ([], input)

def readNumber (input : List Symbol) : Option (Number × List Symbol) :=
  let (negative, rest) := minus input
  match whole? rest with
  | none => none
  | some (whole, rest) =>
    match fraction? rest with
    | none => none
    | some (frac, rest) =>
      match exponent? rest with
      | none => none
      | some (exp, rest) =>
        if negative ++ frac ++ exp = [] then some (.natural (valueOf whole), rest)
        else some (.other (charsOf (negative ++ whole ++ frac ++ exp)), rest)

/-- Drop a word if the input begins with it. -/
def readWord? : List Char → List Symbol → Option (List Symbol)
  | [], input => some input
  | c :: cs, .char d :: rest => if c = d then readWord? cs rest else none
  | _ :: _, _ => none

def isSpace (c : Char) : Bool := c == ' ' || c == '\n' || c == '\t' || c == '\r'

/-- Read the token that the character `c` begins; `rest` follows it. -/
def readToken (c : Char) (rest : List Symbol) : Option (Token × List Symbol) :=
  if c = '\x7b' then some (.openBrace, rest)
  else if c = '\x7d' then some (.closeBrace, rest)
  else if c = '[' then some (.openBracket, rest)
  else if c = ']' then some (.closeBracket, rest)
  else if c = ':' then some (.colon, rest)
  else if c = ',' then some (.comma, rest)
  else if c = '\x22' then
    (readString [] rest).map fun (pieces, rest) => (.str (textOfPieces? pieces), rest)
  else if c = 'n' then (readWord? ['u', 'l', 'l'] rest).map (.null, ·)
  else if c = 't' then (readWord? ['r', 'u', 'e'] rest).map (.bool true, ·)
  else if c = 'f' then (readWord? ['a', 'l', 's', 'e'] rest).map (.bool false, ·)
  else (readNumber (.char c :: rest)).map fun (n, rest) => (.num n, rest)

/-! ## What is left is shorter -/

theorem readString_length {acc ps : List Piece} {input rest : List Symbol}
    (h : readString acc input = some (ps, rest)) : rest.length < input.length := by
  fun_induction readString acc input <;> simp_all <;> omega

theorem digits?_length {input ds rest : List Symbol}
    (h : digits? input = some (ds, rest)) : rest.length < input.length := by
  unfold digits? at h
  split at h
  · cases h
  · rename_i d ds' hd
    cases h
    have := congrArg List.length (List.takeWhile_append_dropWhile (p := isDigit) (l := input))
    rw [hd] at this
    simp only [List.length_append, List.length_cons] at this
    omega

theorem whole?_length {input ds rest : List Symbol}
    (h : whole? input = some (ds, rest)) : rest.length < input.length := by
  unfold whole? at h
  split at h
  · rename_i d ds' rest' hd
    split at h
    · cases h
    · cases h
      exact digits?_length hd
  · cases h

theorem fraction?_length {input ds rest : List Symbol}
    (h : fraction? input = some (ds, rest)) : rest.length ≤ input.length := by
  unfold fraction? at h
  split at h
  · split at h
    · obtain ⟨⟨a, b⟩, hd, he⟩ := Option.map_eq_some_iff.1 h
      cases he
      have := digits?_length hd
      simp only [List.length_cons]
      omega
    · cases h
      exact Nat.le_refl _
  · cases h
    exact Nat.le_refl _

theorem sign_length (input : List Symbol) : (sign input).2.length ≤ input.length := by
  unfold sign
  split
  · split <;> simp
  · exact Nat.le_refl _

theorem exponent?_length {input ds rest : List Symbol}
    (h : exponent? input = some (ds, rest)) : rest.length ≤ input.length := by
  unfold exponent? at h
  split at h
  · rename_i c rest'
    split at h
    · obtain ⟨⟨a, b⟩, hd, he⟩ := Option.map_eq_some_iff.1 h
      cases he
      have := digits?_length hd
      have := sign_length rest'
      simp only [List.length_cons]
      omega
    · cases h
      exact Nat.le_refl _
  · cases h
    exact Nat.le_refl _

theorem minus_length (input : List Symbol) : (minus input).2.length ≤ input.length := by
  unfold minus
  split
  · split <;> simp
  · exact Nat.le_refl _

theorem readNumber_length {input rest : List Symbol} {n : Number}
    (h : readNumber input = some (n, rest)) : rest.length < input.length := by
  unfold readNumber at h
  simp only at h
  have hm := minus_length input
  split at h
  · cases h
  · rename_i whole r₁ hw
    have hw := whole?_length hw
    split at h
    · cases h
    · rename_i frac r₂ hf
      have hf := fraction?_length hf
      split at h
      · cases h
      · rename_i exp r₃ he
        have he := exponent?_length he
        split at h <;> cases h <;> omega

theorem readWord?_length {word : List Char} {input rest : List Symbol}
    (h : readWord? word input = some rest) : rest.length ≤ input.length := by
  fun_induction readWord? word input <;> grind

theorem readToken_length {c : Char} {rest rest' : List Symbol} {t : Token}
    (h : readToken c rest = some (t, rest')) : rest'.length ≤ rest.length := by
  unfold readToken at h
  iterate 6
    split at h
    · cases h
      exact Nat.le_refl _
  split at h
  · obtain ⟨⟨ps, r⟩, hs, he⟩ := Option.map_eq_some_iff.1 h
    cases he
    exact Nat.le_of_lt (readString_length hs)
  iterate 3
    split at h
    · obtain ⟨r, hw, he⟩ := Option.map_eq_some_iff.1 h
      cases he
      exact readWord?_length hw
  obtain ⟨⟨n, r⟩, hn, he⟩ := Option.map_eq_some_iff.1 h
  cases he
  have := readNumber_length hn
  simp only [List.length_cons] at this
  omega

/-! ## The tokens of a text -/

/-- The tokens of the input after those in `acc`, which come last first. -/
def tokensAfter (acc : List Token) (input : List Symbol) : Option (List Token) :=
  match input with
  | [] => some acc.reverse
  | .stray _ :: _ => none
  | .char c :: rest =>
    if isSpace c then tokensAfter acc rest
    else
      match _h : readToken c rest with
      | some (t, rest') => tokensAfter (t :: acc) rest'
      | none => none
termination_by input.length
decreasing_by
  · simp
  · have := readToken_length _h
    simp only [List.length_cons]
    omega

def tokens (input : List Symbol) : Option (List Token) := tokensAfter [] input

end Multimeter.Json
