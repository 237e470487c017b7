/-!
# JSON values

A value keeps what a reader of settings can tell apart. A number is its natural value, or its
literal if that has a sign, a fraction or an exponent. A string is `none` if it holds half of a
surrogate pair or undecodable bytes: it is well formed, but it is no text. Members stay in order,
repeated keys included.
-/

namespace Multimeter

inductive Json.Number
  | natural (n : Nat)
  | other (literal : List Char)
deriving DecidableEq, Repr

inductive Json
  | null
  | bool (b : Bool)
  | num (n : Json.Number)
  | str (text : Option String)
  | arr (items : List Json)
  | obj (members : List (Option String × Json))
deriving Repr, Inhabited

namespace Json

def ofNat (n : Nat) : Json := .num (.natural n)

def ofString (s : String) : Json := .str (some s)

def ofOption {α : Type} (f : α → Json) : Option α → Json
  | none => .null
  | some a => f a

/-- An object with the given keys. -/
def record (members : List (String × Json)) : Json :=
  .obj (members.map fun (k, v) => (some k, v))

end Json

end Multimeter
