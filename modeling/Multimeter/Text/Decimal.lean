/-!
# Decimal text of bounded naturals

`readUnsigned` reads a number no greater than a given bound. Digits are taken from left to
right and the first fault decides: a character that is no digit is reported only if the digits
before it still fit.
-/

namespace Multimeter.Text

inductive DecimalError
  | empty
  | invalidDigit
  | tooLarge
deriving DecidableEq, Repr

def DecimalError.message : DecimalError → String
  | .empty => "cannot parse integer from empty string"
  | .invalidDigit => "invalid digit found in string"
  | .tooLarge => "number too large to fit in target type"

/-- The value of an ASCII digit. -/
def digit? (c : Char) : Option Nat :=
  if 48 ≤ c.toNat ∧ c.toNat ≤ 57 then some (c.toNat - 48) else none

/-- Continue reading digits after a beginning of value `acc`. -/
def readDigits (bound acc : Nat) : List Char → Except DecimalError Nat
  | [] => .ok acc
  | c :: cs =>
    match digit? c with
    | none => .error .invalidDigit
    | some d =>
      if acc * 10 + d ≤ bound then readDigits bound (acc * 10 + d) cs else .error .tooLarge

/-- One optional `+`, then digits. A sign with nothing after it is no number. -/
def readUnsigned (bound : Nat) : List Char → Except DecimalError Nat
  | [] => .error .empty
  | ['+'] => .error .invalidDigit
  | '+' :: c :: cs => readDigits bound 0 (c :: cs)
  | cs => readDigits bound 0 cs

/-- Decimal digits with zeros in front up to the given width. -/
def padded (width n : Nat) : String :=
  let digits := toString n
  String.ofList (List.replicate (width - digits.length) '0') ++ digits

end Multimeter.Text
