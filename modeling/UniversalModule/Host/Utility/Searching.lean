import UniversalModule.Host.Regex.Reader
import UniversalModule.Host.Utility.Naming
import UniversalModule.Host.Shell.Pattern

/-!
A program that looks for lines in which an expression fits.
-/

namespace UniversalModule.Host.Utility

variable {m : Type → Type} [Monad m] (call : Call m)

structure Quest where
  expressions : List Regex
  ignoresCase : Bool
  wholeWords : Bool
  wholeLines : Bool

namespace Quest

def subject (quest : Quest) (line : Text) : Regex.Subject := ⟨line.toArray, quest.ignoresCase, false⟩

def accepts (quest : Quest) (subject : Regex.Subject) (start finish : Nat) : Bool :=
  if quest.wholeLines then start == 0 && finish == subject.text.size
  else if quest.wholeWords then
    !(0 < start && subject.isWordAt (start - 1)) && !subject.isWordAt finish
  else true

def finishAt? (quest : Quest) (subject : Regex.Subject) (start : Nat) : Option Nat :=
  let ends := quest.expressions.flatMap fun regex =>
    (Regex.reaches subject regex ⟨start, []⟩).map Regex.Reached.position
  (ends.filter (quest.accepts subject start)).foldl (fun best finish =>
    some (best.elim finish (max finish))) none

def fitFrom? (quest : Quest) (subject : Regex.Subject) (start : Nat) : Option (Nat × Nat) :=
  (List.range (subject.text.size + 1 - start)).findSome? fun further =>
    (quest.finishAt? subject (start + further)).map fun finish => (start + further, finish)

def isIn (quest : Quest) (line : Text) : Bool := (quest.fitFrom? (quest.subject line) 0).isSome

/-- The parts of a line that fit and are not empty, with the places at which they begin. -/
def partsOf (quest : Quest) (subject : Regex.Subject) : Nat → Nat → List (Nat × Text)
  | 0, _ => []
  | fuel + 1, start =>
      match quest.fitFrom? subject start with
      | none => []
      | some (first, last) =>
          if first = last then
            if subject.text.size ≤ last then [] else quest.partsOf subject fuel (last + 1)
          else (first, subject.between first last) :: quest.partsOf subject fuel last

end Quest

/-- A line, with its number and the place at which it begins. -/
structure FoundLine where
  number : Nat
  offset : Nat
  text : Text
  isFound : Bool

structure Search where
  given : List Given
  quest : Quest
  before : Nat
  after : Nat
  most : Option Nat
  isNamed : Bool

namespace Search

def has (search : Search) (letter : Char) : Bool := isGiven search.given [letter]

/-- The lines of a text, with whether each of them is found. -/
def lines (search : Search) (text : Text) : List FoundLine :=
  let ending := if search.has 'z' then '\x00' else '\n'
  let (found, _, _) := (linesOf ending text).foldl (fun (found, number, offset) line =>
    let isFound := search.quest.isIn line != search.has 'v'
    (⟨number, offset, line, isFound⟩ :: found, number + 1, offset + line.length + 1)) ([], 1, 0)
  found.reverse

/-- The lines up to the last one that may be found, and no more found than are allowed. -/
def limited (search : Search) (lines : List FoundLine) : List FoundLine :=
  match search.most with
  | none => lines
  | some most =>
      (lines.foldl (fun (kept : List FoundLine × Nat) line =>
        if line.isFound then
          if kept.2 < most then (line :: kept.1, kept.2 + 1) else ({ line with isFound := false } :: kept.1, kept.2)
        else (line :: kept.1, kept.2)) ([], 0)).1.reverse

def head (search : Search) (name : Text) (sign : Char) (number offset : Nat) : Text :=
  (if search.isNamed then octetsOf name ++ [if search.has 'Z' then '\x00' else sign] else []) ++
    (if search.has 'n' then Text.ofNat number ++ [sign] else []) ++
    (if search.has 'b' then Text.ofNat offset ++ [sign] else [])

def isNear (search : Search) (found : List Nat) (number : Nat) : Bool :=
  found.any fun other => number ≤ other + search.after && other ≤ number + search.before

def shown (search : Search) (name : Text) (lines : List FoundLine) : Text :=
  let ending := if search.has 'z' then '\x00' else '\n'
  if search.has 'o' then
    if search.has 'v' then []
    else
      (lines.filter FoundLine.isFound).flatMap fun line =>
        (search.quest.partsOf (search.quest.subject line.text) (line.text.length + 1) 0).flatMap
          fun (start, part) => search.head name ':' line.number (line.offset + start) ++ part ++ [ending]
  else if search.before = 0 ∧ search.after = 0 then
    (lines.filter FoundLine.isFound).flatMap fun line =>
      search.head name ':' line.number line.offset ++ line.text ++ [ending]
  else
    let numbers := (lines.filter FoundLine.isFound).map FoundLine.number
    let kept := lines.filter fun line => search.isNear numbers line.number
    (kept.foldl (fun (told, last) line =>
      let gap : Text := if last ≠ 0 ∧ last + 1 ≠ line.number then "--\n" else []
      let sign := if line.isFound then ':' else '-'
      (told ++ gap ++ search.head name sign line.number line.offset ++ line.text ++ [ending], line.number))
      (([] : Text), 0)).1

/-- Tells of the lines of one file; gives whether any is found. -/
def tell (search : Search) (name : Text) (text : Text) : Work m Bool := do
  let lines := search.limited (search.lines text)
  let count := lines.countP FoundLine.isFound
  let isFound := count != 0
  if search.has 'q' then
    if isFound then stop 0
  else if search.has 'l' then
    if isFound then printLine name
  else if search.has 'L' then
    if !isFound then printLine name
  else if search.has 'c' then
    printText ((if search.isNamed then name ++ [':'] else []) ++ Text.ofNat count ++ ['\n'])
  else printOctets (search.shown name lines)
  return if search.has 'L' then !isFound else isFound

end Search

/-- The files below a folder, as deep as the fuel allows. -/
def Call.filesBelow : Nat → Text → Work m (List Text)
  | 0, _ => return []
  | fuel + 1, folder => do
      let names ← ask (call.files.names (call.place folder))
      let found ← names.mapM fun name => do
        let path := if folder = ['.'] then name else inFolder folder name
        match ← call.findUnfollowed path with
        | .ok .folder => Call.filesBelow fuel path
        | .ok (.file _) => return [path]
        | _ => return []
      return found.flatten

/-- Arguments with a number behind a sign alone in its usual form. -/
def withContext (arguments : List Text) : List Text :=
  arguments.flatMap fun argument =>
    match argument with
    | '-' :: c :: rest =>
        if c.isDigit ∧ rest.all Char.isDigit then ["-C".toList, c :: rest] else [argument]
    | _ => [argument]

def usageOf (name : Text) : Text :=
  "Usage: " ++ name ++ " [OPTION]... PATTERNS [FILE]...\nTry '" ++ name ++ " --help' for more information.\n"

/-- An expression in the richest form, with the classes that have letters written out. -/
def spelledOut : Text → Text
  | '\\' :: 'd' :: rest => "[0-9]".toList ++ spelledOut rest
  | '\\' :: 'D' :: rest => "[^0-9]".toList ++ spelledOut rest
  | '\\' :: c :: rest => '\\' :: c :: spelledOut rest
  | '(' :: '?' :: ':' :: rest => '(' :: spelledOut rest
  | c :: rest => c :: spelledOut rest
  | [] => []

def kindOf (given : List Given) : Text :=
  ((given.filter fun option => (["E", "F", "G", "P"] : List Text).contains option.name).getLast?.map
    Given.name).getD ['G']

/-- The expressions of a search from its options and its first operand. -/
def readQuest (given : List Given) (texts : List Text) : Except Text Quest :=
  let is (letter : Char) := isGiven given [letter]
  let kind := kindOf given
  let readOne (text : Text) : Except Text Regex :=
    let text := octetsOf text
    if kind = ['F'] then .ok (Regex.literal text)
    else if kind = ['E'] then Regex.read .searching text
    else if kind = ['P'] then Regex.read .searching (spelledOut text)
    else Regex.read .looking text
  (texts.flatMap (Text.splitAt '\n')).mapM readOne |>.map fun expressions =>
    ⟨expressions, is 'i', is 'w', is 'x'⟩

def searchIn (search : Search) (paths : List Text) (recurses : Bool) : Work m Unit := do
  let refuse (path : Text) (fault : IoFault) : Work m Unit := do
    if search.has 's' then giveStatus 2 else call.complain 2 (path ++ ": " ++ fault.reason)
  let mut isFound := false
  for path in paths do
    let isFolder := path ≠ ['-'] ∧ (← call.isFolder path)
    if isFolder ∧ recurses then
      for inner in ← call.filesBelow 100 path do
        match ← call.read inner with
        | .ok content => do
            let found ← search.tell inner (octets content)
            isFound := isFound || found
        | .error fault => refuse inner fault
    else
      match ← call.read path with
      | .ok content => do
          let name : Text := if path = ['-'] then "(standard input)" else path
          let found ← search.tell name (octets content)
          isFound := isFound || found
      | .error fault => refuse path fault
  if isFound = false then giveStatus 1

def grep (extra : List Text) : Work m Unit := do
  let name := baseName call.name
  let known : Text :=
    "E,extended-regexp F,fixed-strings G,basic-regexp P,perl-regexp e,regexp= f,file= i,y,ignore-case " ++
      "no-ignore-case w,word-regexp x,line-regexp z,null-data s,no-messages v,invert-match m,max-count= " ++
      "b,byte-offset n,line-number line-buffered H,with-filename h,no-filename label= o,only-matching " ++
      "q,quiet,silent binary-files= a,text I d,directories= D,devices= r,recursive R,dereference-recursive " ++
      "include= exclude= exclude-dir= L,files-without-match l,files-with-matches c,count T,initial-tab Z,null " ++
      "B,before-context= A,after-context= C,context= color,colour? U,binary"
  let arguments := extra ++ withContext call.arguments
  match readOptions (knownOptions known) true (arguments.flatten.length + arguments.length + 1) arguments with
  | .error fault => do
      printError (name ++ ": " ++ fault.message ++ '\n' :: usageOf name)
      stop 2
  | .ok (given, operands) => do
      let named := (given.filter fun option => option.name == ['e']).map Given.value
      let listed ← (given.filter fun option => option.name == ['f']).mapM fun option => do
        match ← call.read option.value with
        | .ok content => return linesOf '\n' (Text.ofUtf8Lossy content)
        | .error fault => call.fail 2 (option.value ++ ": " ++ fault.reason)
      let hasOwn := given.any fun option => option.name == ['e'] || option.name == ['f']
      match hasOwn, operands with
      | false, [] => do
          printError (usageOf name)
          stop 2
      | _, operands => do
          let texts := if hasOwn then named ++ listed.flatten else operands.take 1
          let operands := if hasOwn then operands else operands.tail
          match readQuest given texts with
          | .error message => do
              printError (name ++ ": " ++ message ++ ['\n'])
              stop 2
          | .ok quest => do
              if kindOf given = ['E'] then
                for sign in texts.flatMap (Regex.strayRepetitions .searching) do
                  printError (name ++ ": warning: " ++ sign ++ " at start of expression\n")
              let number (letter : Char) : Option Nat := (valueGiven? given [letter]).bind digits?
              let around := (number 'C').getD 0
              let recurses := isGiven given ['r'] || isGiven given ['R']
              let paths := if operands.isEmpty then [if recurses then ['.'] else ['-']] else operands
              let search : Search := {
                given, quest
                before := (number 'B').getD around
                after := (number 'A').getD around
                most := number 'm'
                isNamed := !isGiven given ['h'] &&
                  (isGiven given ['H'] || 1 < operands.length || recurses) }
              searchIn { call with name } search paths recurses

end UniversalModule.Host.Utility
