import UniversalModule.Host.Editor.Substituting
import UniversalModule.Host.Regex.Reader
import UniversalModule.Host.Utility.Naming

/-!
How far an editor has come: the lines that wait, the line that is worked on, and what was printed.
-/

namespace UniversalModule.Host.Editor

open Utility (Call Work)

structure Mode where
  isQuiet : Bool
  /-- Whether every file is a text of its own. -/
  isSeparate : Bool
  /-- Whether files take what is printed, and what is put behind the name of the old file. -/
  inPlace : Option Text
  form : Regex.Form
  /-- What ends a line. -/
  ending : Char
  width : Nat

structure Line where
  text : Text
  hasEnd : Bool
  path : Text
  /-- Whether it is the first one of its file. -/
  isFirst : Bool
  /-- Whether it is the last one of its file. -/
  isLast : Bool

inductive Reach where
  /-- Up to the line of a number. -/
  | upTo (number : Nat)
  /-- Up to a line that an address selects. -/
  | upToAddress (address : Address)
  /-- The range is over. -/
  | over

inductive Waiting where
  | text (text : Text)
  | file (path : Text)
  | line (line : Text)

/-- A text that is printed line by line, the latest pieces first; the end of its last line may be
owed. -/
structure Sheet where
  pieces : List Text
  isOwed : Bool

namespace Sheet

def blank : Sheet := ⟨[], false⟩

def text (sheet : Sheet) : Text := sheet.pieces.reverse.flatten

def add (sheet : Sheet) (ending : Char) (text : Text) : Sheet :=
  let due : Text := if sheet.isOwed then [ending] else []
  ⟨(due ++ text) :: sheet.pieces, false⟩

def addLine (sheet : Sheet) (ending : Char) (line : Text) (hasEnd : Bool) : Sheet :=
  let sheet := sheet.add ending line
  if hasEnd then sheet.add ending [ending] else { sheet with isOwed := true }

end Sheet

structure Session where
  mode : Mode
  script : Script
  waiting : List Line
  /-- The line that was read last. -/
  current : Line
  number : Nat
  space : Text
  hold : Text
  /-- Where instructions are in their ranges, by their places. -/
  reaches : Keyed Nat Reach
  /-- Whether something was replaced since the last line was read. -/
  hasReplaced : Bool
  lastRegex : Option Regex
  queue : List Waiting
  printed : Sheet
  written : Keyed Text Sheet
  /-- The lines of files that are read one by one. -/
  sources : Keyed Text (List Text)

abbrev Editing (m : Type → Type) := StateT Session (Work m)

variable {m : Type → Type} [Monad m] (call : Call m)

def linesOfFile (ending : Char) (path content : Text) : List Line :=
  let texts := Utility.linesOf ending content
  let count := texts.length
  let isWhole := content.getLast? == some ending
  texts.mapIdx fun index text =>
    let isLast := index + 1 == count
    ⟨text, !isLast || isWhole, path, index == 0, isLast⟩

def startReaches (script : Script) : Keyed Nat Reach :=
  script.toList.mapIdx (fun place instruction => (place, instruction.selection)) |>.filterMap
    fun (place, selection) =>
      match selection with
      | .fromStart finish => some (place, .upToAddress finish)
      | _ => none

def Session.isLast (session : Session) : Bool :=
  session.waiting.isEmpty || (session.mode.isSeparate && session.current.isLast)

def change (action : Session → Session) : Editing m Unit := modify action

def put (text : Text) : Editing m Unit :=
  change fun session => { session with printed := session.printed.add session.mode.ending text }

def putLine (line : Text) (hasEnd : Bool) : Editing m Unit :=
  change fun session => { session with printed := session.printed.addLine session.mode.ending line hasEnd }

def putSpace : Editing m Unit := do
  let session ← get
  putLine session.space session.current.hasEnd

def putTo (path line : Text) (hasEnd : Bool) : Editing m Unit := do
  let session ← get
  let ending := session.mode.ending
  if path = "/dev/stdout".toList ∨ path = "/dev/stderr".toList then
    if path = "/dev/stdout".toList ∧ session.mode.inPlace.isNone then putLine line hasEnd
    else
      let line := line ++ if hasEnd then [ending] else []
      let _ ← call.write path (Utility.bytesOf line)
  else
    let sheet := ((session.written.get? path).getD Sheet.blank).addLine ending line hasEnd
    set { session with written := session.written.put path sheet }

def writeFiles : Editing m Unit := do
  for (path, sheet) in (← get).written do
    let _ ← call.write path (Utility.bytesOf sheet.text)

def flush : Editing m Unit := do
  let session ← get
  set { session with queue := [] }
  for waiting in session.queue do
    match waiting with
    | .text text => put text
    | .line line => putLine line true
    | .file path =>
        writeFiles call
        match ← call.read path with
        | .ok content => put (Utility.octets content)
        | .error _ => pure ()

/-- Puts what was printed in the place of a file, and keeps the old one if that is asked for. -/
def replaceFile (path suffix printed : Text) : Work m Unit := do
  let isExecutable :=
    match ← call.find path with
    | .ok (.file file) => file.isExecutable
    | _ => false
  if suffix.isEmpty then
    let _ ← Utility.ask (call.files.remove (call.place path))
  else
    let kept := if suffix.contains '*' then
        Text.joinWith (Utility.baseName path) (Text.splitAt '*' suffix)
      else path ++ suffix
    let _ ← Utility.ask (call.files.rename (call.place path) (call.place kept))
  let _ ← call.write path (Utility.bytesOf printed)
  let _ ← Utility.ask (call.files.setExecutable (call.place path) isExecutable)

def handOver : Editing m Unit := do
  let session ← get
  match session.mode.inPlace with
  | none => Utility.printOctets (m := m) session.printed.text
  | some suffix =>
      if !session.current.path.isEmpty then
        replaceFile call session.current.path suffix session.printed.text
  set { session with printed := Sheet.blank }

def nextLine : Editing m (Option Line) := do
  flush call
  let session ← get
  match session.waiting with
  | [] => return none
  | line :: waiting => do
      if session.mode.isSeparate ∧ line.isFirst then
        if session.mode.inPlace.isSome then handOver call
        change fun session => { session with number := 0, reaches := startReaches session.script }
      change fun session => { session with
        waiting, current := line, number := session.number + 1, hasReplaced := false }
      return some line

/-- The expression of a pattern, or the one that was used last. -/
def regexOf (pattern : Pattern) : Editing m Regex := do
  let session ← get
  match pattern.regex <|> session.lastRegex with
  | some regex => do
      set { session with lastRegex := some regex }
      return regex
  | none => call.fail 1 "-e expression #1, char 0: no previous regular expression"

def subjectOf (pattern : Pattern) (text : Text) : Regex.Subject :=
  ⟨text.toArray, pattern.ignoresCase, pattern.hasLines⟩

/-- Whether an address selects the line that is worked on. -/
def isSelectedBy : Address → Editing m Bool
  | .line number => return (← get).number == number
  | .last => return (← get).isLast
  | .every first step => do
      let number := (← get).number
      return if step = 0 then number == first else first ≤ number && (number - first) % step == 0
  | .fits pattern => do
      let regex ← regexOf call pattern
      return Regex.isIn (subjectOf pattern (← get).space) regex

/-- Whether a range begins at the line that is worked on, or goes on with its number. -/
def beginsAt (place : Nat) (start : Address) : Editing m Bool := do
  match start with
  | .line first =>
      let session ← get
      let isOver := match session.reaches.get? place with
        | some .over => true
        | _ => false
      return !isOver && first ≤ session.number
  | start => isSelectedBy call start

def setReach (place : Nat) (reach : Reach) : Editing m Unit :=
  change fun session => { session with reaches := session.reaches.put place reach }

/-- Opens a range that ends at the line of a number, and tells whether the line that is worked on is
in it. -/
def openUpTo (place : Nat) (start : Address) (last : Nat) : Editing m Bool := do
  let number := (← get).number
  if last ≤ number then
    setReach place .over
    match start with
    | .line first => return number ≤ last || number == first
    | _ => return true
  else
    setReach place (.upTo last)
    return true

def isInRange (place : Nat) (start : Address) (finish : RangeEnd) : Editing m Bool := do
  let number := (← get).number
  match (← get).reaches.get? place with
  | some (.upTo last) => do
      if last ≤ number then setReach place .over
      return number ≤ last
  | some (.upToAddress address) => do
      if ← isSelectedBy call address then setReach place .over
      return true
  | _ =>
      if ← beginsAt call place start then
        match finish with
        | .address (.line last) => openUpTo place start last
        | .further count => openUpTo place start (number + count)
        | .multiple factor =>
            openUpTo place start (if factor = 0 then number else (number + factor - 1) / factor * factor)
        | .address address => do
            setReach place (.upToAddress address)
            return true
      else return false

/-- Whether the instruction at a place applies to the line that is worked on, before it is negated. -/
def isSelected (place : Nat) : Selection → Editing m Bool
  | .all => return true
  | .one address => isSelectedBy call address
  | .range start finish => isInRange call place start finish
  | .fromStart finish => isInRange call place (.line 0) (.address finish)

/-- Whether the instruction at a place is in the middle of its range. -/
def isInMiddle (place : Nat) : Editing m Bool := do
  match (← get).reaches.get? place with
  | some (.upTo _) => return true
  | some (.upToAddress _) => return true
  | _ => return false

end UniversalModule.Host.Editor
