/-!
# Hexadecimal digits
-/

namespace Multimeter.Text

def hexDigit (n : Nat) : Char :=
  if n < 10 then Char.ofNat (48 + n) else Char.ofNat (87 + n)

/-- The value of a hexadecimal digit in either case. -/
def hexValue? (c : Char) : Option Nat :=
  let n := c.toNat
  if 48 ≤ n ∧ n ≤ 57 then some (n - 48)
  else if 97 ≤ n ∧ n ≤ 102 then some (n - 87)
  else if 65 ≤ n ∧ n ≤ 70 then some (n - 55)
  else none

/-- Two lower-case digits. -/
def hexByte (b : UInt8) : String :=
  String.ofList [hexDigit (b.toNat / 16), hexDigit (b.toNat % 16)]

/-- Four lower-case digits: the low sixteen bits. -/
def hexWord (n : Nat) : String :=
  String.ofList
    [hexDigit (n / 4096 % 16), hexDigit (n / 256 % 16), hexDigit (n / 16 % 16), hexDigit (n % 16)]

/-- The bytes that pairs of digits stand for. Anything else counts as zero, and half a pair is
dropped. -/
def hexBytes : List Char → List UInt8
  | a :: b :: cs =>
    ((hexValue? a).getD 0 * 16 + (hexValue? b).getD 0).toUInt8 :: hexBytes cs
  | _ => []

end Multimeter.Text
