import UniversalModule.Text.Basic

/-!
Paths as text. Repeated and trailing separators and inner `.` do not count as components; a
leading `.` and every `..` do.
-/

namespace UniversalModule

structure Path where
  text : Text
deriving DecidableEq

inductive Component where
  | root
  | current
  | parent
  | name (name : Text)
deriving DecidableEq

namespace Path

def isEmpty (path : Path) : Bool := path.text.isEmpty

/-- The piece before the first separator, and the pieces after it. -/
def pieces (path : Path) : Text × List Text :=
  match Text.splitAt '/' path.text with
  | [] => ([], [])
  | first :: rest => (first, rest)

def isRooted (path : Path) : Bool := path.text.head? == some '/'

/-- A piece that makes no component after a separator. -/
def isSkipped (piece : Text) : Bool := piece.isEmpty || piece == ['.']

def componentOf (piece : Text) : Component :=
  if piece = ['.', '.'] then .parent else .name piece

def components (path : Path) : List Component :=
  let (first, rest) := path.pieces
  let start :=
    if path.isRooted then [.root]
    else if first.isEmpty then []
    else if first = ['.'] then [.current]
    else [componentOf first]
  start ++ (rest.filter fun piece => !isSkipped piece).map componentOf

def dropSkipped (pieces : List Text) : List Text := (pieces.reverse.dropWhile isSkipped).reverse

/-- The pieces up to the last one that makes a component. -/
def significant (path : Path) : Text × List Text :=
  let (first, rest) := path.pieces
  (first, dropSkipped rest)

/-- The path without its last component, when there is one besides the root. -/
def parent? (path : Path) : Option Path :=
  let (first, rest) := path.significant
  if rest.isEmpty then
    if first.isEmpty then none else some ⟨[]⟩
  else
    let kept := dropSkipped rest.dropLast
    if first.isEmpty ∧ kept.isEmpty then some ⟨['/']⟩
    else some ⟨Text.joinWith ['/'] (first :: kept)⟩

def fileName? (path : Path) : Option Text :=
  match path.components.getLast? with
  | some (.name name) => some name
  | _ => none

end Path

end UniversalModule
