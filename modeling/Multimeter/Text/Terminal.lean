/-!
# What a terminal shows

Some characters are commands to a terminal: control characters, and the sequences that an escape
begins. `plain` is the text without them. Tabs and line ends are kept.

A sequence ends with its final character, and an escape always begins a new one. A string is ended
by a terminator; one that is never ended takes all the text up to the next escape. A string for the
device has a head of its own, in which there is no terminator yet.
-/

namespace Multimeter.Text

inductive Mode
  | text
  /-- After an escape. -/
  | escape
  /-- After an escape and characters that announce another. -/
  | announced
  /-- In a sequence that ends with its first letter. -/
  | parameters
  /-- In a sequence that ends with a bell. -/
  | command
  /-- Where a string for the device begins. -/
  | head
  /-- In the parameters of such a string. -/
  | headParameters
  /-- In its head, after characters that announce another. -/
  | headAnnounced
  /-- In a sequence that only a terminator ends. -/
  | string
deriving DecidableEq, Repr

/-- The byte that ends a string, as part of a character or alone. -/
def terminator : UInt8 := 0x9c

namespace Mode

/-- A character that announces another. -/
def announces (c : Char) : Bool := 0x20 ≤ c.toNat && c.toNat ≤ 0x2f

/-- A final character of a short sequence. -/
def isFinal (c : Char) : Bool := 0x30 ≤ c.toNat && c.toNat ≤ 0x7e

def isDigitOrSeparator (c : Char) : Bool := 0x30 ≤ c.toNat && c.toNat ≤ 0x3b

/-- A mark of private parameters, which comes before them. -/
def isPrivate (c : Char) : Bool := 0x3c ≤ c.toNat && c.toNat ≤ 0x3f

/-- Where a sequence goes on after an escape and this character. -/
def begin (c : Char) : Mode :=
  if c = '[' then .parameters
  else if c = ']' then .command
  else if c = 'P' then .head
  else if c = 'X' || c = '^' || c = '_' then .string
  else if isFinal c then .text
  else if announces c then .announced
  else .escape

/-- Where a head goes on after this character. A mark of private parameters in the wrong place
spoils the string, but that is a string too. -/
def stepHead (m : Mode) (c : Char) : Mode :=
  if announces c then .headAnnounced
  else if isDigitOrSeparator c || (m = .head && isPrivate c) then .headParameters
  else if isFinal c then .string
  else m

def step (m : Mode) (c : Char) : Mode :=
  if c = '\x1b' then .escape
  else if c = '\x18' || c = '\x1a' then .text
  else
    match m with
    | .text => .text
    | .escape => begin c
    | .announced => if isFinal c then .text else .announced
    | .parameters => if isFinal c && 0x40 ≤ c.toNat then .text else .parameters
    | .command => if c = '\x07' then .text else .command
    | .head | .headParameters => m.stepHead c
    | .headAnnounced => if isFinal c then .string else .headAnnounced
    | .string => if c.toString.toUTF8.toList.contains terminator then .text else .string

/-- Tabs and line ends are shown even inside short sequences. -/
def isLayout (c : Char) : Bool := c = '\t' || c = '\n' || c = '\x0c' || c = '\r'

def shows (m : Mode) (c : Char) : Bool :=
  match m with
  | .text => isLayout c || (0x20 ≤ c.toNat && c != '\x7f')
  | .escape | .announced | .parameters => isLayout c
  | .command | .head | .headParameters | .headAnnounced | .string => false

end Mode

/-- The characters that are shown, where `m` says what came before them. -/
def plainFrom (m : Mode) : List Char → List Char
  | [] => []
  | c :: cs => if m.shows c then c :: plainFrom (m.step c) cs else plainFrom (m.step c) cs

def plain (s : String) : String := String.ofList (plainFrom .text s.toList)

/-- A text in bold type. -/
def bold (s : String) : String := "\x1b[1m" ++ s ++ "\x1b[0m"

end Multimeter.Text
