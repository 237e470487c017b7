import Multimeter.Json.Lexer

/-!
# Reading JSON

Tokens are taken one at a time. The containers that are still open are kept in a list, innermost
first, so that nesting is bounded by nothing but the text.
-/

namespace Multimeter.Json

/-- A container that is still open: what it holds so far, last first, and in an object the key
whose value comes next. -/
inductive Frame
  | arr (done : List Json)
  | obj (done : List (Option String × Json)) (key : Option String)

/-- What may come next. -/
inductive Reading
  /-- A value. -/
  | value (stack : List Frame)
  /-- The first item of an array, or its end. -/
  | item (stack : List Frame)
  /-- The first key of an object, or its end. -/
  | member (stack : List Frame)
  /-- A further key, after these members. -/
  | key (done : List (Option String × Json)) (stack : List Frame)
  /-- The colon after a key. -/
  | colon (done : List (Option String × Json)) (key : Option String) (stack : List Frame)
  /-- A comma or an end, after this value. -/
  | after (v : Json) (stack : List Frame)

namespace Reading

/-- Read the first token of a value. -/
def begin (stack : List Frame) : Token → Option Reading
  | .null => some (.after .null stack)
  | .bool b => some (.after (.bool b) stack)
  | .num n => some (.after (.num n) stack)
  | .str s => some (.after (.str s) stack)
  | .openBracket => some (.item stack)
  | .openBrace => some (.member stack)
  | _ => none

def step : Reading → Token → Option Reading
  | .value stack, t => begin stack t
  | .item stack, .closeBracket => some (.after (.arr []) stack)
  | .item stack, t => begin (.arr [] :: stack) t
  | .member stack, .closeBrace => some (.after (.obj []) stack)
  | .member stack, .str k => some (.colon [] k stack)
  | .member _, _ => none
  | .key done stack, .str k => some (.colon done k stack)
  | .key _ _, _ => none
  | .colon done k stack, .colon => some (.value (.obj done k :: stack))
  | .colon _ _ _, _ => none
  | .after v (.arr done :: stack), .comma => some (.value (.arr (v :: done) :: stack))
  | .after v (.arr done :: stack), .closeBracket =>
    some (.after (.arr (v :: done).reverse) stack)
  | .after v (.obj done k :: stack), .comma => some (.key ((k, v) :: done) stack)
  | .after v (.obj done k :: stack), .closeBrace =>
    some (.after (.obj ((k, v) :: done).reverse) stack)
  | .after _ _, _ => none

/-- The value, if it is complete. -/
def result? : Reading → Option Json
  | .after v [] => some v
  | _ => none

end Reading

/-- Exactly one value, with white space around it. -/
def ofSymbols? (input : List Text.Symbol) : Option Json := do
  let ts ← tokens input
  let r ← ts.foldlM Reading.step (.value [])
  r.result?

def ofText? (text : String) : Option Json := ofSymbols? (Text.Symbol.ofString text)

end Multimeter.Json
