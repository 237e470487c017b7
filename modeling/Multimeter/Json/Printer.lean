import Multimeter.Json.Basic
import Multimeter.Text.Hex

/-!
# Writing JSON

The compact form has no white space. The pretty form has a line for each item and member, two
spaces deeper than its container. In strings a quote, a backslash and the control characters below
a space are escaped, and nothing else. A string that is no text is written as an empty one.
-/

namespace Multimeter.Json

def escape (c : Char) : List Char :=
  if c = '\x22' then ['\x5c', '\x22']
  else if c = '\x5c' then ['\x5c', '\x5c']
  else if c = '\x08' then ['\x5c', 'b']
  else if c = '\t' then ['\x5c', 't']
  else if c = '\n' then ['\x5c', 'n']
  else if c = '\x0c' then ['\x5c', 'f']
  else if c = '\r' then ['\x5c', 'r']
  else if c.toNat < 0x20 then '\x5c' :: 'u' :: (Text.hexWord c.toNat).toList
  else [c]

def quoted (s : String) : List Char := '\x22' :: s.toList.flatMap escape ++ ['\x22']

def Number.chars : Number → List Char
  | .natural n => (toString n).toList
  | .other literal => literal

mutual

def compactChars : Json → List Char
  | .null => "null".toList
  | .bool b => if b then "true".toList else "false".toList
  | .num n => n.chars
  | .str s => quoted (s.getD "")
  | .arr items => '[' :: compactItems items ++ [']']
  | .obj members => '\x7b' :: compactMembers members ++ ['\x7d']

def compactItems : List Json → List Char
  | [] => []
  | [j] => compactChars j
  | j :: j' :: js => compactChars j ++ ',' :: compactItems (j' :: js)

def compactMembers : List (Option String × Json) → List Char
  | [] => []
  | [(k, j)] => quoted (k.getD "") ++ ':' :: compactChars j
  | (k, j) :: m :: ms =>
    quoted (k.getD "") ++ ':' :: compactChars j ++ ',' :: compactMembers (m :: ms)

end

/-- A new line with the given depth of indentation. -/
def newline (depth : Nat) : List Char := '\n' :: List.replicate (2 * depth) ' '

mutual

def prettyChars (depth : Nat) : Json → List Char
  | .null => "null".toList
  | .bool b => if b then "true".toList else "false".toList
  | .num n => n.chars
  | .str s => quoted (s.getD "")
  | .arr [] => ['[', ']']
  | .arr (j :: js) => '[' :: prettyItems (depth + 1) (j :: js) ++ newline depth ++ [']']
  | .obj [] => ['\x7b', '\x7d']
  | .obj (m :: ms) =>
    '\x7b' :: prettyMembers (depth + 1) (m :: ms) ++ newline depth ++ ['\x7d']

def prettyItems (depth : Nat) : List Json → List Char
  | [] => []
  | [j] => newline depth ++ prettyChars depth j
  | j :: j' :: js => newline depth ++ prettyChars depth j ++ ',' :: prettyItems depth (j' :: js)

def prettyMembers (depth : Nat) : List (Option String × Json) → List Char
  | [] => []
  | [(k, j)] => newline depth ++ quoted (k.getD "") ++ ':' :: ' ' :: prettyChars depth j
  | (k, j) :: m :: ms =>
    newline depth ++ quoted (k.getD "") ++ ':' :: ' ' :: prettyChars depth j ++
      ',' :: prettyMembers depth (m :: ms)

end

def compact (j : Json) : String := String.ofList (compactChars j)

def pretty (j : Json) : String := String.ofList (prettyChars 0 j)

end Multimeter.Json
