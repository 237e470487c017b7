import Multimeter.Json.Lexer

/-!
# The spellings of JSON tokens

A grammar of the texts that tokens are cut from, apart from the reader: what each token may be
spelled like, and the texts that spell tokens one after the other with white space between them. A
token has many spellings, and the reader finds the token in each of them.

## Main definitions

* `Piece.Spells`, `Number.Spells`, `Token.Spells`: the spellings of the pieces of a string, of a
  number and of a token.
* `Renders`: the texts of a list of tokens.

## Main results

* `readToken_spells`: a spelled token is read, up to its end.
* `Renders.tokens_eq`: a text is cut into the tokens it spells.
-/

namespace Multimeter.Json

open Text (Symbol)

/-! ## Strings -/

/-- What is between the quotes of a string that holds the pieces. -/
inductive Piece.Spells : List Piece → List Symbol → Prop
  | nil : Spells [] []
  | raw {c : Char} {ps : List Piece} {input : List Symbol} (quote : c ≠ '\x22')
      (backslash : c ≠ '\x5c') (control : 0x20 ≤ c.toNat) (rest : Spells ps input) :
      Spells (.char c :: ps) (.char c :: input)
  | escaped {e c : Char} {ps : List Piece} {input : List Symbol} (named : unescape? e = some c)
      (rest : Spells ps input) : Spells (.char c :: ps) (.char '\x5c' :: .char e :: input)
  | unit {a b c d : Char} {n : Nat} {ps : List Piece} {input : List Symbol}
      (digits : unit? a b c d = some n) (rest : Spells ps input) :
      Spells (.ofUnit n :: ps)
        (.char '\x5c' :: .char 'u' :: .char a :: .char b :: .char c :: .char d :: input)
  | stray {bytes : List UInt8} {ps : List Piece} {input : List Symbol} (rest : Spells ps input) :
      Spells (.stray :: ps) (.stray bytes :: input)

section reading

variable {acc : List Piece} {rest : List Symbol}

theorem readString_quote : readString acc (.char '\x22' :: rest) = some (acc.reverse, rest) := by
  rw [readString.eq_def]
  simp

theorem readString_raw {c : Char} (quote : c ≠ '\x22') (backslash : c ≠ '\x5c')
    (control : 0x20 ≤ c.toNat) :
    readString acc (.char c :: rest) = readString (.char c :: acc) rest := by
  rw [readString.eq_def]
  simp [quote, backslash, Nat.not_lt.2 control]

theorem readString_escaped {e c : Char} (named : unescape? e = some c) :
    readString acc (.char '\x5c' :: .char e :: rest) = readString (.char c :: acc) rest := by
  have notUnit : e ≠ 'u' := by
    rintro rfl
    simp [unescape?] at named
  rw [readString.eq_def]
  simp [notUnit, named]

theorem readString_unit {a b c d : Char} {n : Nat} (digits : unit? a b c d = some n) :
    readString acc (.char '\x5c' :: .char 'u' :: .char a :: .char b :: .char c :: .char d :: rest) =
      readString (.ofUnit n :: acc) rest := by
  rw [readString.eq_def]
  simp [digits]

theorem readString_spells {ps : List Piece} {input : List Symbol} (h : Piece.Spells ps input)
    (acc : List Piece) (rest : List Symbol) :
    readString acc (input ++ .char '\x22' :: rest) = some (acc.reverse ++ ps, rest) := by
  induction h generalizing acc with
  | nil => simp [readString_quote]
  | raw quote backslash control _ ih => simp [readString_raw quote backslash control, ih]
  | escaped named _ ih => simp [readString_escaped named, ih]
  | unit digits _ ih => simp [readString_unit digits, ih]
  | stray _ ih => simp [readString, ih]

end reading

/-! ## Numbers -/

/-- One or more digits. -/
structure IsDigits (ds : List Symbol) : Prop where
  ne_nil : ds ≠ []
  all : ∀ s ∈ ds, isDigit s = true

/-- One or more digits without a zero in front of others. -/
structure IsWhole (ds : List Symbol) : Prop extends IsDigits ds where
  no_leading_zero : ds.head? = some (.char '0') → ds = [.char '0']

inductive IsFraction : List Symbol → Prop
  | absent : IsFraction []
  | present {ds : List Symbol} (digits : IsDigits ds) : IsFraction (.char '.' :: ds)

inductive IsExponent : List Symbol → Prop
  | absent : IsExponent []
  | present {e : Char} {signs ds : List Symbol} (letter : e = 'e' ∨ e = 'E')
      (signed : signs = [] ∨ signs = [.char '+'] ∨ signs = [.char '-']) (digits : IsDigits ds) :
      IsExponent (.char e :: (signs ++ ds))

inductive Number.Spells : Number → List Symbol → Prop
  | natural {ds : List Symbol} (whole : IsWhole ds) : Spells (.natural (valueOf ds)) ds
  | other {negative ds frac exp : List Symbol}
      (negated : negative = [] ∨ negative = [.char '-']) (whole : IsWhole ds)
      (fraction : IsFraction frac) (exponent : IsExponent exp)
      (unnatural : negative ++ frac ++ exp ≠ []) :
      Spells (.other (charsOf (negative ++ ds ++ frac ++ exp))) (negative ++ ds ++ frac ++ exp)

/-- Whether a symbol after digits belongs to the same number. -/
def continuesNumber (s : Symbol) : Bool :=
  isDigit s || s == .char '.' || s == .char 'e' || s == .char 'E'

/-- No number goes on with this input. -/
def StopsNumber (input : List Symbol) : Prop := ∀ s ∈ input.head?, continuesNumber s = false

theorem stopsNumber_nil : StopsNumber [] := by simp [StopsNumber]

theorem stopsNumber_cons {s : Symbol} {rest : List Symbol} :
    StopsNumber (s :: rest) ↔ continuesNumber s = false := by
  simp [StopsNumber]

/-- No digit comes next. -/
def NoDigit (input : List Symbol) : Prop := ∀ s ∈ input.head?, isDigit s = false

theorem StopsNumber.noDigit {input : List Symbol} (h : StopsNumber input) : NoDigit input := by
  intro s hs
  have := h s hs
  simp only [continuesNumber, Bool.or_eq_false_iff] at this
  exact this.1.1.1

theorem noDigit_append {xs rest : List Symbol} (hx : xs ≠ [] → NoDigit xs) (hr : NoDigit rest) :
    NoDigit (xs ++ rest) := by
  cases xs with
  | nil => exact hr
  | cons x xs => exact fun s hs => hx (by simp) s hs

theorem digits?_append {ds rest : List Symbol} (h : IsDigits ds) (stop : NoDigit rest) :
    digits? (ds ++ rest) = some (ds, rest) := by
  have left : rest.takeWhile isDigit = [] := by
    cases rest with
    | nil => rfl
    | cons s rest => simp [stop s rfl]
  have dropped : rest.dropWhile isDigit = rest := by
    cases rest with
    | nil => rfl
    | cons s rest => simp [stop s rfl]
  have taken : (ds ++ rest).takeWhile isDigit = ds := by
    rw [List.takeWhile_append_of_pos h.all, left, List.append_nil]
  obtain ⟨d, ds', rfl⟩ := List.exists_cons_of_ne_nil h.ne_nil
  rw [digits?, taken, List.dropWhile_append_of_pos h.all, dropped]

theorem whole?_append {ds rest : List Symbol} (h : IsWhole ds) (stop : NoDigit rest) :
    whole? (ds ++ rest) = some (ds, rest) := by
  obtain ⟨d, ds', rfl⟩ := List.exists_cons_of_ne_nil h.ne_nil
  have single : ¬(d = .char '0' ∧ ds' ≠ []) := by
    rintro ⟨rfl, several⟩
    exact several (List.cons.inj (h.no_leading_zero rfl)).2
  simp only [whole?, digits?_append h.toIsDigits stop, if_neg single]

theorem sign_append {signs ds rest : List Symbol} (h : IsDigits ds)
    (signed : signs = [] ∨ signs = [.char '+'] ∨ signs = [.char '-']) :
    sign (signs ++ (ds ++ rest)) = (signs, ds ++ rest) := by
  obtain ⟨d, ds', rfl⟩ := List.exists_cons_of_ne_nil h.ne_nil
  have digit := h.all d (by simp)
  rcases signed with rfl | rfl | rfl
  · cases d with
    | stray => rfl
    | char c =>
      have unsigned : ¬(c = '+' ∨ c = '-') := by
        rintro (rfl | rfl) <;> revert digit <;> decide
      simp [sign, unsigned]
  · rfl
  · rfl

theorem minus_append {negative ds rest : List Symbol} (h : IsDigits ds)
    (negated : negative = [] ∨ negative = [.char '-']) :
    minus (negative ++ (ds ++ rest)) = (negative, ds ++ rest) := by
  obtain ⟨d, ds', rfl⟩ := List.exists_cons_of_ne_nil h.ne_nil
  have digit := h.all d (by simp)
  rcases negated with rfl | rfl
  · cases d with
    | stray => rfl
    | char c =>
      have unsigned : c ≠ '-' := by
        rintro rfl
        revert digit
        decide
      simp [minus, unsigned]
  · rfl

theorem exponent?_append {exp rest : List Symbol} (h : IsExponent exp) (stop : StopsNumber rest) :
    exponent? (exp ++ rest) = some (exp, rest) := by
  cases h with
  | absent =>
    cases rest with
    | nil => rfl
    | cons s rest =>
      cases s with
      | stray => rfl
      | char c =>
        have plain := stopsNumber_cons.1 stop
        have letter : ¬(c = 'e' ∨ c = 'E') := by
          rintro (rfl | rfl) <;> revert plain <;> decide
        simp [exponent?, letter]
  | @present e signs ds letter signed digits =>
    simp [exponent?, letter, sign_append digits signed, digits?_append digits stop.noDigit]

theorem fraction?_append {frac rest : List Symbol} (h : IsFraction frac) (stop : NoDigit rest)
    (point : rest.head? ≠ some (.char '.')) : fraction? (frac ++ rest) = some (frac, rest) := by
  cases h with
  | absent =>
    cases rest with
    | nil => rfl
    | cons s rest =>
      cases s with
      | stray => rfl
      | char c =>
        have other : c ≠ '.' := by
          rintro rfl
          exact point rfl
        simp [fraction?, other]
  | present digits => simp [fraction?, digits?_append digits stop]

theorem IsFraction.noDigit {frac : List Symbol} (h : IsFraction frac) (ne : frac ≠ []) :
    NoDigit frac := by
  cases h with
  | absent => exact absurd rfl ne
  | present => simp [NoDigit, isDigit]

theorem IsExponent.noDigit {exp : List Symbol} (h : IsExponent exp) (ne : exp ≠ []) :
    NoDigit exp := by
  cases h with
  | absent => exact absurd rfl ne
  | present letter => rcases letter with rfl | rfl <;> simp [NoDigit, isDigit]

theorem IsExponent.head?_append_ne_point {exp rest : List Symbol} (h : IsExponent exp)
    (stop : StopsNumber rest) : (exp ++ rest).head? ≠ some (.char '.') := by
  cases h with
  | absent =>
    intro point
    have := stop _ point
    revert this
    decide
  | present letter => rcases letter with rfl | rfl <;> simp

theorem readNumber_spells {n : Number} {word rest : List Symbol} (h : n.Spells word)
    (stop : StopsNumber rest) : readNumber (word ++ rest) = some (n, rest) := by
  -- both ways to spell a number are read part by part, in the order the parts stand in
  have parts : ∀ {negative ds frac exp : List Symbol},
      negative = [] ∨ negative = [.char '-'] → IsWhole ds → IsFraction frac → IsExponent exp →
      readNumber (negative ++ ds ++ frac ++ exp ++ rest) =
        if negative ++ frac ++ exp = [] then some (.natural (valueOf ds), rest)
        else some (.other (charsOf (negative ++ ds ++ frac ++ exp)), rest) := by
    intro negative ds frac exp negated whole fraction exponent
    have afterFraction := noDigit_append exponent.noDigit stop.noDigit
    have afterWhole := noDigit_append fraction.noDigit afterFraction
    simp only [readNumber, List.append_assoc, minus_append whole.toIsDigits negated,
      whole?_append whole afterWhole,
      fraction?_append fraction afterFraction (exponent.head?_append_ne_point stop),
      exponent?_append exponent stop]
  cases h with
  | natural whole => simpa using parts (.inl rfl) whole .absent .absent
  | other negated whole fraction exponent unnatural =>
    rw [parts negated whole fraction exponent, if_neg unnatural]

/-! ## Tokens -/

inductive Token.Spells : Token → List Symbol → Prop
  | openBrace : Spells .openBrace [.char '\x7b']
  | closeBrace : Spells .closeBrace [.char '\x7d']
  | openBracket : Spells .openBracket [.char '[']
  | closeBracket : Spells .closeBracket [.char ']']
  | colon : Spells .colon [.char ':']
  | comma : Spells .comma [.char ',']
  | null : Spells .null [.char 'n', .char 'u', .char 'l', .char 'l']
  | true : Spells (.bool true) [.char 't', .char 'r', .char 'u', .char 'e']
  | false : Spells (.bool false) [.char 'f', .char 'a', .char 'l', .char 's', .char 'e']
  | num {n : Number} {word : List Symbol} (number : n.Spells word) : Spells (.num n) word
  | str {ps : List Piece} {input : List Symbol} (pieces : Piece.Spells ps input) :
      Spells (.str (textOfPieces? ps)) (.char '\x22' :: (input ++ [.char '\x22']))

/-- Whether the token has to be followed by something that does not continue it. -/
def Token.isNumber : Token → Bool
  | .num _ => true
  | _ => false

theorem IsWhole.head {ds : List Symbol} (h : IsWhole ds) :
    ∃ c cs, ds = .char c :: cs ∧ isDigit (.char c) = true := by
  obtain ⟨d, ds', rfl⟩ := List.exists_cons_of_ne_nil h.ne_nil
  have digit := h.all d (by simp)
  cases d with
  | stray => cases digit
  | char c => exact ⟨c, ds', rfl, digit⟩

theorem Number.Spells.head {n : Number} {word : List Symbol} (h : n.Spells word) :
    ∃ c cs, word = .char c :: cs ∧ (c = '-' ∨ isDigit (.char c) = true) := by
  cases h with
  | natural whole =>
    obtain ⟨c, cs, rfl, digit⟩ := whole.head
    exact ⟨c, cs, rfl, .inr digit⟩
  | other negated whole =>
    rcases negated with rfl | rfl
    · obtain ⟨c, cs, rfl, digit⟩ := whole.head
      exact ⟨c, _, rfl, .inr digit⟩
    · exact ⟨'-', _, rfl, .inl rfl⟩

theorem readToken_number {c : Char} {rest : List Symbol} (h : c = '-' ∨ isDigit (.char c) = true) :
    readToken c rest = (readNumber (.char c :: rest)).map fun (n, rest) => (.num n, rest) := by
  have plain : ∀ d : Char, d ≠ '-' → isDigit (.char d) = false → c ≠ d := by
    rintro d sign digit rfl
    rcases h with rfl | h
    · exact sign rfl
    · rw [digit] at h
      cases h
  simp [readToken, plain '\x7b', plain '\x7d', plain '[', plain ']', plain ':', plain ',',
    plain '\x22', plain 'n', plain 't', plain 'f', isDigit]

theorem isSpace_number {c : Char} (h : c = '-' ∨ isDigit (.char c) = true) : isSpace c = false := by
  rcases h with rfl | h
  · rfl
  · refine Bool.eq_false_iff.2 fun space => ?_
    simp only [isSpace, Bool.or_eq_true, beq_iff_eq] at space
    rcases space with ((rfl | rfl) | rfl) | rfl <;> cases h

theorem readToken_spells {t : Token} {word rest : List Symbol} (h : t.Spells word)
    (stop : t.isNumber = true → StopsNumber rest) :
    ∃ c cs, word = .char c :: cs ∧ isSpace c = false ∧
      readToken c (cs ++ rest) = some (t, rest) := by
  cases h with
  | num number =>
    obtain ⟨c, cs, rfl, hc⟩ := number.head
    have := readNumber_spells number (stop rfl)
    refine ⟨c, cs, rfl, isSpace_number hc, ?_⟩
    rw [readToken_number hc, ← List.cons_append, this]
    rfl
  | @str ps input pieces =>
    refine ⟨'\x22', input ++ [.char '\x22'], rfl, rfl, ?_⟩
    have := readString_spells pieces [] rest
    simp [readToken, this]
  | _ => exact ⟨_, _, rfl, rfl, rfl⟩

/-! ## Texts -/

/-- The texts that spell the tokens one after the other, with white space between them. -/
inductive Renders : List Token → List Symbol → Prop
  | nil : Renders [] []
  | space {c : Char} {ts : List Token} {input : List Symbol} (space : isSpace c = true)
      (rest : Renders ts input) : Renders ts (.char c :: input)
  | cons {t : Token} {ts : List Token} {word input : List Symbol} (spelled : t.Spells word)
      (apart : t.isNumber = true → StopsNumber input) (rest : Renders ts input) :
      Renders (t :: ts) (word ++ input)

theorem tokensAfter_space {acc : List Token} {c : Char} {rest : List Symbol}
    (h : isSpace c = true) : tokensAfter acc (.char c :: rest) = tokensAfter acc rest := by
  rw [tokensAfter.eq_def]
  simp [h]

theorem tokensAfter_token {acc : List Token} {t : Token} {c : Char} {rest rest' : List Symbol}
    (visible : isSpace c = false) (h : readToken c rest = some (t, rest')) :
    tokensAfter acc (.char c :: rest) = tokensAfter (t :: acc) rest' := by
  rw [tokensAfter.eq_def]
  simp only [visible, Bool.false_eq_true, if_false]
  split <;> simp_all

theorem Renders.tokensAfter_eq {ts : List Token} {input : List Symbol} (h : Renders ts input)
    (acc : List Token) : tokensAfter acc input = some (acc.reverse ++ ts) := by
  induction h generalizing acc with
  | nil => simp [tokensAfter]
  | space space _ ih => rw [tokensAfter_space space, ih]
  | cons spelled apart _ ih =>
    obtain ⟨c, cs, rfl, visible, taken⟩ := readToken_spells spelled apart
    rw [List.cons_append, tokensAfter_token visible taken, ih]
    simp

/-- A text is cut into the tokens it spells. -/
theorem Renders.tokens_eq {ts : List Token} {input : List Symbol} (h : Renders ts input) :
    tokens input = some ts :=
  h.tokensAfter_eq []

end Multimeter.Json
