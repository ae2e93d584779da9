import UniversalModule.Host.CharacterSet
import UniversalModule.Host.Files
import UniversalModule.Host.Shell.Script

/-!
Patterns for texts and for the paths of files. What is quoted in a pattern means itself.
-/

namespace UniversalModule.Host.Shell

/-- The characters of a word, with those that are quoted. -/
abbrev Marked := List (Char × Bool)

def Marked.text (marked : Marked) : Text := marked.map Prod.fst

inductive Item where
  | any
  | one (set : CharacterSet)

/-- The text up to a colon and a bracket, and what follows them. -/
def upToClass? : Marked → Option (Text × Marked)
  | [] => none
  | (':', _) :: (']', _) :: rest => some ([], rest)
  | (c, _) :: rest => (upToClass? rest).map fun (name, rest) => (c :: name, rest)

/-- Reads the ranges of a bracket, whose first character may be the closing one. -/
def readRanges : Nat → Bool → Marked → Option (List (Char × Char) × Marked)
  | 0, _, _ => none
  | _ + 1, _, [] => none
  | fuel + 1, isFirst, (c, quoted) :: rest =>
      let named : Option (List (Char × Char) × Marked) :=
        match quoted, c, rest with
        | false, '[', (':', _) :: inside => do
            let (name, rest) ← upToClass? inside
            some (← CharacterSet.class? name, rest)
        | _, _, _ => none
      match named with
      | some (ranges, rest) =>
          (readRanges fuel false rest).map fun (others, rest) => (ranges ++ others, rest)
      | none =>
          if c = ']' ∧ quoted = false ∧ isFirst = false then some ([], rest)
          else
            match rest with
            | ('-', false) :: (last, lastQuoted) :: after =>
                if last = ']' ∧ lastQuoted = false then
                  (readRanges fuel false rest).map fun (ranges, rest) => ((c, c) :: ranges, rest)
                else (readRanges fuel false after).map fun (ranges, rest) => ((c, last) :: ranges, rest)
            | rest => (readRanges fuel false rest).map fun (ranges, rest) => ((c, c) :: ranges, rest)

/-- Whether the ranges of a bracket are those that do not fit, and what follows that sign. -/
def isComplement (variety : Variety) : Marked → Bool × Marked
  | ('!', false) :: inside => (true, inside)
  | ('^', false) :: inside => if variety = .bash then (true, inside) else (false, ('^', false) :: inside)
  | inside => (false, inside)

def itemsOf (variety : Variety) : Nat → Marked → List Item
  | 0, _ => []
  | _ + 1, [] => []
  | fuel + 1, (c, quoted) :: rest =>
      let literal := Item.one (.only c)
      if quoted then literal :: itemsOf variety fuel rest
      else if c = '*' then .any :: itemsOf variety fuel rest
      else if c = '?' then .one .every :: itemsOf variety fuel rest
      else if c = '[' then
        let (isOther, inside) := isComplement variety rest
        match readRanges (inside.length + 1) true inside with
        | some (ranges, rest) => .one ⟨!isOther, ranges⟩ :: itemsOf variety fuel rest
        | none => literal :: itemsOf variety fuel rest
      else literal :: itemsOf variety fuel rest

def suffixes : Text → List Text
  | [] => [[]]
  | c :: rest => (c :: rest) :: suffixes rest

def fitsItems : List Item → Text → Bool
  | [], text => text.isEmpty
  | .any :: items, text => (suffixes text).any (fitsItems items)
  | .one _ :: _, [] => false
  | .one set :: items, c :: text => set.has c && fitsItems items text

def fits (variety : Variety) (pattern : Marked) (text : Text) : Bool :=
  fitsItems (itemsOf variety pattern.length pattern) text

/-- The length of the shortest or longest beginning of a text that fits a pattern. -/
def fittingStart? (variety : Variety) (pattern : Marked) (longest : Bool) (text : Text) :
    Option Nat :=
  let lengths := List.range (text.length + 1)
  (if longest then lengths.reverse else lengths).find? fun length => fits variety pattern (text.take length)

/-- The length of what stands before the shortest or longest end of a text that fits a pattern. -/
def fittingEnd? (variety : Variety) (pattern : Marked) (longest : Bool) (text : Text) : Option Nat :=
  let lengths := List.range (text.length + 1)
  (if longest then lengths else lengths.reverse).find? fun length => fits variety pattern (text.drop length)

def isPattern (marked : Marked) : Bool :=
  marked.any fun (c, quoted) => !quoted && (c == '*' || c == '?' || c == '[')

def pieces (pattern : Marked) : List Marked :=
  pattern.foldr (fun (c, quoted) pieces =>
    if c = '/' then [] :: pieces
    else
      match pieces with
      | [] => [[(c, quoted)]]
      | piece :: others => ((c, quoted) :: piece) :: others) [[]]

/-- A text with another one in place of what fits a pattern, from the left, the longest fit at each
place. -/
def replaceFits (variety : Variety) (place : Where) (pattern : Marked) (other : Text) (text : Text) : Text :=
  let longest (text : Text) : Option Nat := fittingStart? variety pattern true text
  match place with
  | .atStart =>
      match longest text with
      | some length => other ++ text.drop length
      | none => text
  | .atEnd =>
      match fittingEnd? variety pattern true text with
      | some length => text.take length ++ other
      | none => text
  | _ => replaceFrom (place == .everywhere) longest text.length text
where
  replaceFrom (everywhere : Bool) (longest : Text → Option Nat) : Nat → Text → Text
    | 0, text => text
    | _, [] => []
    | fuel + 1, c :: rest =>
        match longest (c :: rest) with
        | some (length + 1) =>
            let rest := rest.drop length
            other ++ (if everywhere then replaceFrom everywhere longest fuel rest else rest)
        | _ => c :: replaceFrom everywhere longest fuel rest

variable {m : Type → Type} [Monad m]

/-- The paths that fit pieces of a pattern behind a path. -/
def pathsBehind (variety : Variety) (files : Files m) (folder : Path) : Text → List Marked → m (List Text)
  | _, [] => return []
  | before, piece :: rest => do
      let place : Path := if before.isEmpty then ⟨['.']⟩ else ⟨before⟩
      let names ←
        if isPattern piece then do
          let names ← files.names (pathFrom folder place)
          let names := match variety with
            | .dash => ['.'] :: ['.', '.'] :: names
            | .bash => names
          let shown := names.filter fun name =>
            fits variety piece name && (name.head? != some '.' || piece.head?.map Prod.fst == some '.')
          pure (shown.mergeSort notAfter)
        else pure [piece.text]
      match rest with
      | [] =>
          let paths := names.map (before ++ ·)
          if isPattern piece then return paths
          else paths.filterM fun path => files.isThere (pathFrom folder ⟨path⟩)
      | _ =>
          return (← names.mapM fun name =>
            pathsBehind variety files folder (before ++ name ++ ['/']) rest).flatten

/-- What a word becomes: the paths that fit it, or its own text when it is no pattern or none
fits. -/
def pathsOf (variety : Variety) (files : Files m) (folder : Path) (marked : Marked) : m (List Text) := do
  if isPattern marked = false then return [marked.text]
  else
    let paths ← pathsBehind variety files folder [] (pieces marked)
    return if paths.isEmpty then [marked.text] else paths

end UniversalModule.Host.Shell
