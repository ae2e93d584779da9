import UniversalModule.Host.Shell.Pattern
import UniversalModule.Host.Utility.Naming

/-!
A program that goes down folders and does something with what it finds.
-/

namespace UniversalModule.Host.Utility

inductive Quality where
  | always (truth : Bool)
  | name (pattern : Text) (ignoresCase : Bool)
  | path (pattern : Text) (ignoresCase : Bool)
  | kind (letters : Text)
  | empty
  | size (sign : Option Char) (count : Nat) (unit : Nat)
  | executable
  | tell (ending : Char)
  | run (words : List Text)
  /-- A program that is run once with all paths. -/
  | runForAll (words : List Text)
  | delete
  | prune
  | negated (inner : Quality)
  | both (first second : Quality)
  | either (first second : Quality)

structure Depths where
  least : Nat
  most : Nat
  /-- Whether a folder comes after what is in it. -/
  foldersLast : Bool

inductive QualityFault where
  | unknown (word : Text)
  | valueMissing (word : Text)
  | misplaced (word : Text)
  | unbalanced

def QualityFault.message : QualityFault → Text
  | .unknown word => "unknown predicate \x60" ++ word ++ ['\'']
  | .valueMissing word => "missing argument to \x60" ++ word ++ ['\'']
  | .misplaced word => "paths must precede expression: \x60" ++ word ++ ['\'']
  | .unbalanced => "invalid expression; you have used a binary operator '-o' with nothing before it."

abbrev QualityReader := List Text → Except QualityFault (Quality × List Text)

def readSize (word : Text) : Quality :=
  let sign := word.head?.filter fun c => c == '+' || c == '-'
  let rest := if sign.isSome then word.tail else word
  let number := rest.takeWhile Char.isDigit
  let unit := match (rest.drop number.length).head? with
    | some 'c' => 1
    | some 'w' => 2
    | some 'k' => 1024
    | some 'M' => 1048576
    | _ => 512
  .size sign ((digits? number).getD 0) unit

def readQuality (nested : QualityReader) : QualityReader := fun words => do
  match words with
  | [] => .error .unbalanced
  | word :: rest =>
      let value (make : Text → Quality) : Except QualityFault (Quality × List Text) :=
        match rest with
        | value :: rest => .ok (make value, rest)
        | [] => .error (.valueMissing word)
      match String.ofList word with
      | "(" => do
          let (quality, rest) ← nested rest
          match rest with
          | [')'] :: rest => .ok (quality, rest)
          | _ => .error .unbalanced
      | "-true" => .ok (.always true, rest)
      | "-false" => .ok (.always false, rest)
      | "-name" => value (.name · false)
      | "-iname" => value (.name · true)
      | "-path" => value (.path · false)
      | "-wholename" => value (.path · false)
      | "-ipath" => value (.path · true)
      | "-type" => value .kind
      | "-size" => value readSize
      | "-empty" => .ok (.empty, rest)
      | "-executable" => .ok (.executable, rest)
      | "-readable" => .ok (.always true, rest)
      | "-writable" => .ok (.always true, rest)
      | "-print" => .ok (.tell '\n', rest)
      | "-print0" => .ok (.tell '\x00', rest)
      | "-delete" => .ok (.delete, rest)
      | "-prune" => .ok (.prune, rest)
      | "-depth" => .ok (.always true, rest)
      | "-maxdepth" => value fun _ => .always true
      | "-mindepth" => value fun _ => .always true
      | "-exec" =>
          let program := rest.takeWhile fun word => word != [';'] && word != ['+']
          match rest.drop program.length with
          | [';'] :: rest => .ok (.run program, rest)
          | ['+'] :: rest => .ok (.runForAll program.dropLast, rest)
          | _ => .error (.valueMissing word)
      | _ => if word.head? = some '-' then .error (.unknown word) else .error (.misplaced word)

def readRefused (one : QualityReader) : Nat → QualityReader
  | 0, words => one words
  | fuel + 1, words =>
      if words.head? = some ['!'] ∨ words.head? = some "-not".toList then do
        let (quality, rest) ← readRefused one fuel words.tail
        .ok (.negated quality, rest)
      else one words

def readTogether (one : QualityReader) : Nat → QualityReader
  | 0, words => one words
  | fuel + 1, words => do
      let (first, rest) ← one words
      let rest := if rest.head? = some "-a".toList ∨ rest.head? = some "-and".toList then rest.tail else rest
      let ends := rest.isEmpty ∨ rest.head? = some "-o".toList ∨ rest.head? = some "-or".toList ∨
        rest.head? = some [')']
      if ends then .ok (first, rest)
      else
        let (others, rest) ← readTogether one fuel rest
        .ok (.both first others, rest)

/-- Reads qualities of which one suffices, as deep as the fuel allows. -/
def readQualities : Nat → QualityReader
  | 0, _ => .error .unbalanced
  | fuel + 1, words => do
      let one := readRefused (readQuality (readQualities fuel)) words.length
      let (first, rest) ← readTogether one words.length words
      if rest.head? = some "-o".toList ∨ rest.head? = some "-or".toList then
        let (others, rest) ← readQualities fuel rest.tail
        .ok (.either first others, rest)
      else .ok (first, rest)

/-- Whether a quality does something, so that paths need not be told. -/
def Quality.acts : Quality → Bool
  | .tell _ => true
  | .run _ => true
  | .runForAll _ => true
  | .delete => true
  | .negated inner => inner.acts
  | .both first second => first.acts || second.acts
  | .either first second => first.acts || second.acts
  | _ => false

/-- What was found out about a path: whether it has a quality, whether one goes on below it, and
the programs that are to be run with it at the end. -/
structure Finding where
  isThere : Bool
  isPruned : Bool
  later : List (List Text × Text)

def Finding.of (isThere : Bool) : Finding := ⟨isThere, false, []⟩

variable {m : Type → Type} [Monad m] (call : Call m)

def fitsName (ignoresCase : Bool) (pattern name : Text) : Bool :=
  let change (text : Text) : Text := if ignoresCase then text.map Char.toLower else text
  Shell.fits .bash ((change pattern).map fun c => (c, false)) (change name)

def kindLetter : Entry → Char
  | .folder => 'd'
  | .link _ => 'l'
  | .device _ => 'c'
  | _ => 'f'

def withPath (path : Text) : Text → Text
  | '\x7b' :: '\x7d' :: rest => path ++ withPath path rest
  | c :: rest => c :: withPath path rest
  | [] => []

def runFor (words : List Text) : Work m Bool := do
  match words with
  | [] => return false
  | program :: arguments =>
      match ← call.start program arguments call.environment with
      | .ok ending => return ending == .status 0
      | .error fault => do
          printError (call.name ++ ": " ++ escaped program ++ ": " ++ fault.reason ++ ['\n'])
          return false

def Quality.holds (path : Text) (entry : Entry) : Quality → Work m Finding
  | .always truth => return .of truth
  | .name pattern ignoresCase => return .of (fitsName ignoresCase pattern (baseName path))
  | .path pattern ignoresCase => return .of (fitsName ignoresCase pattern path)
  | .kind letters => return .of (letters.contains (kindLetter entry))
  | .executable =>
      return .of (match entry with
        | .file file => file.isExecutable
        | _ => true)
  | .empty => do
      match entry with
      | .file file => return .of file.content.isEmpty
      | .folder => return .of (← ask (call.files.names (call.place path))).isEmpty
      | _ => return .of false
  | .size sign count unit =>
      let bytes := match entry with
        | .file file => file.content.length
        | _ => 4096
      let units := (bytes + unit - 1) / unit
      return .of (match sign with
        | some '+' => count < units
        | some _ => units < count
        | none => units == count)
  | .tell ending => do
      printText (path ++ [ending])
      return .of true
  | .run words => return .of (← runFor call (words.map (withPath path)))
  | .runForAll words => return ⟨true, false, [(words, path)]⟩
  | .delete => do
      let place := call.place path
      match ← ask (if entry = .folder then call.files.removeFolder place else call.files.remove place) with
      | .ok () => return .of true
      | .error fault => do
          call.complain 1 ("cannot delete " ++ escaped path ++ ": " ++ fault.reason)
          return .of false
  | .prune => return ⟨true, true, []⟩
  | .negated inner => do
      let found ← inner.holds path entry
      return { found with isThere := !found.isThere }
  | .both first second => do
      let found ← first.holds path entry
      if found.isThere then
        let next ← second.holds path entry
        return ⟨next.isThere, found.isPruned || next.isPruned, found.later ++ next.later⟩
      else return found
  | .either first second => do
      let found ← first.holds path entry
      if found.isThere then return found
      else
        let next ← second.holds path entry
        return ⟨next.isThere, found.isPruned || next.isPruned, found.later ++ next.later⟩

/-- Goes down from a path, as deep as the fuel allows; gives what is to be run at the end. -/
def findBelow (quality : Quality) (depths : Depths) : Nat → Nat → Text → Work m (List (List Text × Text))
  | 0, _, _ => return []
  | fuel + 1, depth, path => do
      match ← call.findUnfollowed path with
      | .error fault => do
          call.complain 1 (escaped path ++ ": " ++ fault.reason)
          return []
      | .ok entry => do
          let look : Work m Finding :=
            if depth < depths.least then return .of false else quality.holds call path entry
          let goDown : Work m (List (List Text × Text)) := do
            if entry = .folder ∧ depth < depths.most then
              let names ← ask (call.files.names (call.place path))
              let found ← names.mapM fun name => findBelow quality depths fuel (depth + 1) (inFolder path name)
              return found.flatten
            else return []
          if depths.foldersLast then
            let below ← goDown
            let found ← look
            return below ++ found.later
          else
            let found ← look
            if found.isPruned then return found.later
            else return found.later ++ (← goDown)

def depthAfter? (name : Text) : List Text → Option Nat
  | word :: value :: rest => if word = name then digits? value else depthAfter? name (value :: rest)
  | _ => none

def find : Work m Unit := do
  let arguments := call.arguments.dropWhile fun word => (["-H", "-L", "-P"] : List Text).contains word
  let isPath (word : Text) : Bool :=
    word.head? != some '-' && word != ['('] && word != ['!'] && word != [')']
  let paths := arguments.takeWhile isPath
  let words := arguments.drop paths.length
  let depths : Depths := {
    least := (depthAfter? "-mindepth" words).getD 0
    most := (depthAfter? "-maxdepth" words).getD 100
    foldersLast := words.contains "-depth".toList || words.contains "-delete".toList }
  let quality ←
    if words.isEmpty then pure (.tell '\n')
    else
      match readQualities (words.length + 1) words with
      | .ok (quality, []) =>
          pure (if quality.acts then quality else .both quality (.tell '\n'))
      | .ok (_, word :: _) => call.fail 1 (QualityFault.message (.misplaced word))
      | .error fault => call.fail 1 fault.message
  let later ← (if paths.isEmpty then [['.']] else paths).mapM (findBelow call quality depths 200 0)
  let programs := (later.flatten.map Prod.fst).eraseDups
  programs.forM fun words => do
    let paths := (later.flatten.filter fun entry => entry.1 == words).map Prod.snd
    let isDone ← runFor call (words ++ paths)
    if isDone = false then giveStatus 1

end UniversalModule.Host.Utility
