import UniversalModule.Host.Records.Format
import UniversalModule.Host.Regex.Reader

/-!
How far a script that works on records has come: its variables, the record that it works on, what it
reads and what it prints.
-/

namespace UniversalModule.Host.Records

open Utility (Call Work octets bytesOf)

inductive Slot where
  | value (value : Value)
  /-- An array, by its number. -/
  | array (number : Nat)
  /-- Not decided; as an array it would have a number. -/
  | undecided (number : Nat)

abbrev Entries := Keyed Text Value

structure Intake where
  /-- What is left of the file that is open. -/
  left : Option Text
  /-- The number of the next argument. -/
  next : Nat
  hasOpened : Bool

structure Session where
  script : Script
  globals : Keyed Text Slot
  locals : Keyed Text Slot
  arrays : Keyed Nat Entries
  record : Text
  fields : List Text
  intake : Intake
  /-- What is left of the files and commands from which lines are read. -/
  sources : Keyed Text Text
  written : Keyed Text Text
  /-- What goes to commands, the latest one first. -/
  pipes : Keyed Text Text
  /-- What was printed and not handed over yet. -/
  buffer : Text
  status : Nat
  /-- The rules whose ranges are open. -/
  openRules : List Nat
  seed : Nat

inductive Leave where
  | next
  | nextFile
  | exit
  /-- The script is broken off. -/
  | failed

abbrev Acting (m : Type → Type) := ExceptT Leave (StateT Session (Work m))

variable {m : Type → Type} [Monad m] (call : Call m)

def change (action : Session → Session) : Acting m Unit := modify action

def work {α : Type} (action : Work m α) : Acting m α := ExceptT.lift (StateT.lift action)

namespace Session

def slot? (session : Session) (name : Text) : Option Slot :=
  match session.locals.get? name with
  | some slot => some slot
  | none => session.globals.get? name

def setSlot (session : Session) (name : Text) (slot : Slot) : Session :=
  if (session.locals.get? name).isSome then { session with locals := session.locals.put name slot }
  else { session with globals := session.globals.put name slot }

/-- The value of a name that every part of the script shares. -/
def shared (session : Session) (name : Text) : Value :=
  match session.globals.get? name with
  | some (.value value) => value
  | _ => .unset

def setShared (session : Session) (name : Text) (value : Value) : Session :=
  { session with globals := session.globals.put name (.value value) }

def form (session : Session) : Text := (session.shared "CONVFMT".toList).toText []

def textOf (session : Session) (name : Text) : Text := (session.shared name).toText session.form

def entries (session : Session) (number : Nat) : Entries := (session.arrays.get? number).getD []

def setEntries (session : Session) (number : Nat) (entries : Entries) : Session :=
  { session with arrays := session.arrays.put number entries }

def freshNumber (session : Session) : Nat :=
  (session.arrays.foldl (fun most entry => max most (entry.1 + 1)) 0)

end Session

/-- The text of a file name in a complaint of what happened at run time. -/
def placeText (session : Session) : Text :=
  "\tFILENAME=\"" ++ session.textOf "FILENAME".toList ++ "\" FNR=" ++ session.textOf "FNR".toList ++
    " NR=" ++ session.textOf "NR".toList

def fail {α : Type} (message : Text) : Acting m α := do
  let session ← get
  work (call.complain 2 ("run time error: " ++ message ++ '\n' :: placeText session))
  throw .failed

/-- Breaks the script off because a file cannot be opened. -/
def failToOpen {α : Type} (path ending : Text) (fault : IoFault) : Acting m α := do
  work (call.complain 2 ("cannot open \"" ++ path ++ ['"'] ++ ending ++ " (" ++ fault.reason ++ [')']))
  throw .failed

/-- The pieces of a text between what fits an expression. -/
def piecesBetween (regex : Regex) (text : Text) : List Text :=
  let subject : Regex.Subject := ⟨text.toArray, false, false⟩
  let fits := (Regex.allFits subject regex).filter fun fit => fit.start != fit.finish
  let rec go (position : Nat) : List Regex.Fit → List Text
    | [] => [subject.between position subject.text.size]
    | fit :: fits => subject.between position fit.start :: go fit.finish fits
  go 0 fits

def wordsOf (text : Text) : List Text :=
  let isGap (c : Char) : Bool := c == ' ' || c == '\t' || c == '\n'
  (Text.splitAt ' ' (text.map fun c => if isGap c then ' ' else c)).filter (!List.isEmpty ·)

def regexOfText (source : Text) : Acting m Regex :=
  match Regex.read .records source with
  | .ok regex => return regex
  | .error message => fail call (regexProblem message source)

def splitFields (separator text : Text) : Acting m (List Text) := do
  if text.isEmpty then return []
  match separator with
  | [' '] => return wordsOf text
  | [] => return text.map fun c => [c]
  | [c] => return Text.splitAt c text
  | separator => do
      let regex ← regexOfText call separator
      return piecesBetween regex text

def setRecord (record : Text) : Acting m Unit := do
  let session ← get
  let fields ← splitFields call (session.textOf "FS".toList) record
  change fun session => { session with record, fields }.setShared "NF".toList (.ofNat fields.length)

def joinFields (fields : List Text) : Acting m Unit :=
  change fun session =>
    { session with
      fields, record := Text.joinWith (session.textOf "OFS".toList) fields }.setShared "NF".toList
        (.ofNat fields.length)

def resized (count : Nat) (fields : List Text) : List Text :=
  (fields ++ List.replicate (count - fields.length) []).take count

def fieldAt (number : Int) : Acting m Value := do
  if number < 0 then fail call ("negative field index $" ++ '-' :: Text.ofNat number.natAbs)
  else
    let session ← get
    if number = 0 then return .input session.record
    else
      match session.fields[number.toNat - 1]? with
      | some field => return .input field
      | none => return .unset

def setField (number : Int) (text : Text) : Acting m Unit := do
  if number < 0 then fail call ("negative field index $" ++ '-' :: Text.ofNat number.natAbs)
  else if number = 0 then setRecord call text
  else
    let fields := (← get).fields
    joinFields ((resized (max number.toNat fields.length) fields).set (number.toNat - 1) text)

def setVariable (name : Text) (value : Value) : Acting m Unit := do
  change fun session => session.setSlot name (.value value)
  if name = "NF".toList ∧ ((← get).locals.get? name).isNone then
    joinFields (resized (integerOf value.toNumber).toNat (← get).fields)

def arrayOf (name : Text) : Acting m Nat := do
  let session ← get
  match session.slot? name with
  | some (.array number) => return number
  | some (.undecided number) => do
      set (session.setSlot name (.array number))
      return number
  | _ => do
      let number := session.freshNumber
      set ((session.setEntries number []).setSlot name (.array number))
      return number

/-- What a name is when it is given to a function: what stands for nothing yet may become an array
there. -/
def handedOver (name : Text) : Acting m Slot := do
  let session ← get
  match session.slot? name with
  | some slot => return slot
  | none => do
      let number := session.freshNumber
      set ((session.setEntries number []).setSlot name (.undecided number))
      return .undecided number

/-- The order in which the keys of an array are told: by a number that is made of their bytes. -/
def keyRank (key : Text) : Nat :=
  (key.foldl (fun rank c => Nat.xor rank c.toNat * 16777619 % 4294967296) 2166136261) % 64

def keysInOrder (entries : Entries) : List Text :=
  entries.keys.reverse.mergeSort fun first second => keyRank first ≤ keyRank second

def flush : Acting m Unit := do
  let session ← get
  set { session with buffer := [] }
  work (Utility.printOctets session.buffer)

/-- Runs a command with an input, and gives its status. -/
def runCommand (command input : Text) : Acting m Nat := work do
  let progress ← get
  set { progress with input := bytesOf input }
  let ended ← call.start "/bin/sh" ["-c".toList, Text.ofUtf8Lossy (bytesOf command)] call.environment
  modify fun after => { after with input := progress.input }
  match ended with
  | .ok ending => return ending.code
  | .error _ => return 127

def outputOf (command : Text) : Acting m Text := work do
  let progress ← get
  set { progress with printed := [] }
  let _ ← call.start "/bin/sh" ["-c".toList, Text.ofUtf8Lossy (bytesOf command)] call.environment
  let after ← get
  let isOutput (entry : Channel × Bytes) : Bool := entry.1 == .output
  let output := (after.printed.reverse.filter isOutput).flatMap Prod.snd
  set { after with printed := after.printed.filter (fun entry => !isOutput entry) ++ progress.printed }
  return octets output

def printTo (direction : Direction) (name text : Text) : Acting m Unit := do
  match direction with
  | .command => do
      if ((← get).pipes.get? name).isNone then flush
      change fun session =>
        { session with pipes := session.pipes.put name ((session.pipes.get? name).getD [] ++ text) }
  | direction => do
      if name = "/dev/stdout".toList ∨ name = ['-'] then
        change fun session => { session with buffer := session.buffer ++ text }
      else if name = "/dev/stderr".toList then
        let _ ← work (call.write name (bytesOf text))
      else
        let before ← match (← get).written.get? name with
          | some before => pure before
          | none =>
              if direction = .behind then
                match ← work (call.read name) with
                | .ok content => pure (octets content)
                | .error _ => pure []
              else pure []
        change fun session => { session with written := session.written.put name (before ++ text) }
        match ← work (call.write name (bytesOf (before ++ text))) with
        | .ok _ => pure ()
        | .error fault => failToOpen call name " for output" fault

def close (name : Text) : Acting m Int := do
  let session ← get
  match session.pipes.get? name with
  | some input => do
      set { session with pipes := session.pipes.filter fun entry => entry.1 != name }
      return (← runCommand call name input : Nat)
  | none =>
      let isKnown := (session.written.get? name).isSome || (session.sources.get? name).isSome
      set { session with
        written := session.written.filter fun entry => entry.1 != name
        sources := session.sources.filter fun entry => entry.1 != name }
      return if isKnown then 0 else -1

/-- Lets the commands run that still wait for their input, and hands over what is left. -/
def finish : Acting m Unit := do
  for (name, input) in (← get).pipes.reverse do
    let _ ← runCommand call name input
  change fun session => { session with pipes := [] }
  flush

def takeRecord (separator text : Text) : Acting m (Option (Text × Text)) := do
  match separator with
  | [c] =>
      if text.isEmpty then return none
      else return some (text.takeWhile (· != c), (text.dropWhile (· != c)).tail)
  | [] => do
      let text := text.dropWhile (· == '\n')
      if text.isEmpty then return none
      let rec paragraph : Text → Text × Text
        | '\n' :: '\n' :: rest => ([], rest)
        | ['\n'] => ([], [])
        | c :: rest => let (record, rest) := paragraph rest; (c :: record, rest)
        | [] => ([], [])
      return some (paragraph text)
  | separator => do
      if text.isEmpty then return none
      let regex ← regexOfText call separator
      let subject : Regex.Subject := ⟨text.toArray, false, false⟩
      match (Regex.allFits subject regex).find? fun fit => fit.start != fit.finish with
      | some fit => return some (text.take fit.start, text.drop fit.finish)
      | none => return some (if text.getLast? = some '\n' then text.dropLast else text, [])

def givenBy? (argument : Text) : Option (Text × Text) :=
  let name := argument.takeWhile (· != '=')
  match argument.drop name.length with
  | '=' :: value =>
      if (name.head?.any fun c => c.isAlpha || c == '_') ∧ name.all fun c => c.isAlphanum || c == '_' then
        some (name, value)
      else none
  | _ => none

def openFile (path : Text) : Acting m Unit := do
  let pathText := Text.ofUtf8Lossy (bytesOf path)
  let isFolder ← work (call.isFolder pathText)
  if isFolder then
    work (call.complain 2 "read error (Is a directory)")
    throw .failed
  match ← work (call.read pathText) with
  | .ok content =>
      change fun session =>
        { session with
          intake := { session.intake with left := some (octets content), hasOpened := true } }.setShared
            "FNR".toList (.ofNat 0) |>.setShared "FILENAME".toList (.text path)
  | .error fault => failToOpen call path [] fault

def sharedEntries (session : Session) (name : Text) : Entries :=
  match session.globals.get? name with
  | some (.array number) => session.entries number
  | _ => []

/-- The next record of the files that the arguments name. `unescape` tells what the value of an
argument means. -/
def nextRecord (unescape : Text → Text) : Nat → Acting m (Option Text)
  | 0 => return none
  | fuel + 1 => do
      let session ← get
      match session.intake.left with
      | some left =>
          match ← takeRecord call (session.textOf "RS".toList) left with
          | some (record, left) => do
              let count (name : Text) (session : Session) : Session :=
                session.setShared name (.number ((session.shared name).toNumber + 1))
              change fun session =>
                count "NR".toList (count "FNR".toList
                  { session with intake := { session.intake with left := some left } })
              return some record
          | none => do
              set { session with intake := { session.intake with left := none } }
              nextRecord unescape fuel
      | none =>
          let next := session.intake.next
          if (session.shared "ARGC".toList).toNumber ≤ Float.ofNat next then
            if session.intake.hasOpened then return none
            else
              openFile call ['-']
              nextRecord unescape fuel
          else
            let arguments := sharedEntries session "ARGV".toList
            let argument := ((arguments.get? (Text.ofNat next)).getD .unset).toText session.form
            set { session with intake := { session.intake with next := next + 1 } }
            match argument, givenBy? argument with
            | [], _ => nextRecord unescape fuel
            | _, some (name, value) => do
                setVariable name (.input (unescape value))
                nextRecord unescape fuel
            | path, none => do
                openFile call path
                nextRecord unescape fuel

end UniversalModule.Host.Records
