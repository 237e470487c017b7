/-!
# Text with undecodable parts

A file may hold bytes that are not UTF-8. `Symbol.ofBytes` reads it as characters, and keeps
every maximal ill-formed part as one `stray` symbol, so that a reader can go past it.
-/

namespace Multimeter.Text

inductive Symbol
  | char (c : Char)
  | stray (bytes : List UInt8)
deriving DecidableEq, Repr

namespace Symbol

def ofString (s : String) : List Symbol := s.toList.map .char

/-- The number of bytes that a lead byte announces after it, the bounds of the first of them,
and the bits the lead byte gives to the code point. -/
def lead? (b : Nat) : Option (Nat × Nat × Nat × Nat) :=
  if 0xc2 ≤ b ∧ b ≤ 0xdf then some (1, 0x80, 0xbf, b - 0xc0)
  else if b = 0xe0 then some (2, 0xa0, 0xbf, 0)
  else if b = 0xed then some (2, 0x80, 0x9f, 0xd)
  else if 0xe1 ≤ b ∧ b ≤ 0xef then some (2, 0x80, 0xbf, b - 0xe0)
  else if b = 0xf0 then some (3, 0x90, 0xbf, 0)
  else if 0xf1 ≤ b ∧ b ≤ 0xf3 then some (3, 0x80, 0xbf, b - 0xf0)
  else if b = 0xf4 then some (3, 0x80, 0x8f, 4)
  else none

/-- A character part way through: its bytes so far, how many are to come, the bounds of the
next one, and the code point's bits so far. -/
structure Partial where
  bytes : List UInt8
  missing : Nat
  low : Nat
  high : Nat
  bits : Nat

/-- Read the byte at the start of a character. -/
def begin (b : UInt8) : List Symbol × Option Partial :=
  if b.toNat < 0x80 then ([.char (Char.ofNat b.toNat)], none)
  else
    match lead? b.toNat with
    | some (missing, low, high, bits) => ([], some ⟨[b], missing, low, high, bits⟩)
    | none => ([.stray [b]], none)

/-- Read one more byte. A byte that cannot continue the character begins the next one. -/
def step (p : Option Partial) (b : UInt8) : List Symbol × Option Partial :=
  match p with
  | none => begin b
  | some p =>
    if p.low ≤ b.toNat ∧ b.toNat ≤ p.high then
      let bits := p.bits * 64 + (b.toNat - 0x80)
      if p.missing ≤ 1 then ([.char (Char.ofNat bits)], none)
      else ([], some ⟨p.bytes ++ [b], p.missing - 1, 0x80, 0xbf, bits⟩)
    else
      let (symbols, next) := begin b
      (.stray p.bytes :: symbols, next)

/-- The symbols of the remaining bytes, where `p` is the character part way through. -/
def scan (p : Option Partial) : List UInt8 → List Symbol
  | [] => match p with
    | none => []
    | some p => [.stray p.bytes]
  | b :: bs =>
    let (symbols, next) := step p b
    symbols ++ scan next bs

def ofBytes (bytes : ByteArray) : List Symbol :=
  match String.fromUTF8? bytes with
  | some s => ofString s
  | none => scan none bytes.toList

end Symbol

/-- The text with the replacement character in place of each undecodable part. -/
def lossy (symbols : List Symbol) : String :=
  String.ofList (symbols.map fun
    | .char c => c
    | .stray _ => Char.ofNat 0xfffd)

end Multimeter.Text
