/-!
# Paths

A path is a text whose names are separated by slashes. Empty names and `.` between slashes name
nothing of their own; only a `.` that begins a relative path counts as a name.
-/

namespace Multimeter

structure Path where
  text : String
deriving DecidableEq, Repr, Inhabited

namespace Path

/-- The pieces between slashes, of which there is always one. -/
def split : List Char → List (List Char)
  | [] => [[]]
  | c :: cs =>
    match split cs with
    | [] => [[c]]
    | piece :: pieces => if c = '/' then [] :: piece :: pieces else (c :: piece) :: pieces

def unsplit : List (List Char) → List Char
  | [] => []
  | [piece] => piece
  | piece :: next :: pieces => piece ++ '/' :: unsplit (next :: pieces)

def isAbsolute (p : Path) : Bool := p.text.toList.head? == some '/'

/-- Whether the path can only name a directory. -/
def endsInSlash (p : Path) : Bool := p.text.toList.getLast? == some '/'

/-- All names, with those that say to stay or to go up. -/
def names (p : Path) : List String :=
  ((split p.text.toList).filter (!·.isEmpty)).map String.ofList

/-- Whether a piece counts as a name where `first` says if the path begins with it. -/
def isName (first : Bool) (piece : List Char) : Bool :=
  !piece.isEmpty && (first || piece != ['.'])

/-- Drop pieces at the end that are no names. The pieces come in reverse. -/
def dropTrailing : List (List Char) → List (List Char)
  | [] => []
  | piece :: before =>
    if isName before.isEmpty piece then piece :: before else dropTrailing before

/-- The path without its last name. There is none if it has no name. -/
def parent? (p : Path) : Option Path :=
  match dropTrailing (split p.text.toList).reverse with
  | [] => none
  | _ :: before =>
    match dropTrailing before with
    | [] => some ⟨if p.isAbsolute then "/" else ""⟩
    | rest => some ⟨String.ofList (unsplit rest.reverse)⟩

/-- A relative path is taken from the base, an absolute one as it is. -/
def join (base p : Path) : Path :=
  if p.isAbsolute then p
  else if base.text.isEmpty || base.endsInSlash then ⟨base.text ++ p.text⟩
  else ⟨base.text ++ "/" ++ p.text⟩

end Path

end Multimeter
