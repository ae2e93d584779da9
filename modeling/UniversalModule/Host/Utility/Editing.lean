import UniversalModule.Host.Editor.Reader
import UniversalModule.Host.Editor.Run

/-!
The program that edits lines by a script.
-/

namespace UniversalModule.Host.Utility

variable {m : Type → Type} [Monad m] (call : Call m)

/-- A part of an editor script, with the file in which it stands. -/
structure ScriptPart where
  path : Option Text
  text : Text

def editorUsage : Text :=
  "Usage: sed [OPTION]... \x7bscript-only-if-no-other-script\x7d [input-file]...

  -n, --quiet, --silent
                 suppress automatic printing of pattern space
      --debug
                 annotate program execution
  -e script, --expression=script
                 add the script to the commands to be executed
  -f script-file, --file=script-file
                 add the contents of script-file to the commands to be executed
  --follow-symlinks
                 follow symlinks when processing in place
  -i[SUFFIX], --in-place[=SUFFIX]
                 edit files in place (makes backup if SUFFIX supplied)
  -l N, --line-length=N
                 specify the desired line-wrap length for the \x60l' command
  --posix
                 disable all GNU extensions.
  -E, -r, --regexp-extended
                 use extended regular expressions in the script
                 (for portability use POSIX -E).
  -s, --separate
                 consider files as separate rather than as a single,
                 continuous long stream.
      --sandbox
                 operate in sandbox mode (disable e/r/w commands).
  -u, --unbuffered
                 load minimal amounts of data from the input files and flush
                 the output buffers more often
  -z, --null-data
                 separate lines by NUL characters
      --help     display this help and exit
      --version  output version information and exit

If no -e, --expression, -f, or --file option is given, then the first
non-option argument is taken as the sed script to interpret.  All
remaining arguments are names of input files; if no input files are
specified, then the standard input is read.

GNU sed home page: <https://www.gnu.org/software/sed/>.
General help using GNU software: <https://www.gnu.org/gethelp/>.
"

/-- The part of a script in which a fault is, by how many characters were read: its number among the
parts of its kind, and how much of it was read. -/
def partWithFault : Nat → Nat → List ScriptPart → Option (Nat × ScriptPart × Nat)
  | _, _, [] => none
  | number, taken, [part] => some (number, part, taken)
  | number, taken, part :: parts =>
      if taken ≤ part.text.length then some (number, part, taken)
      else partWithFault (if part.path.isNone then number + 1 else number) (taken - part.text.length - 1) parts

def scriptFault (parts : List ScriptPart) (length : Nat) (fault : Editor.Fault) : Text :=
  let taken := fault.left.elim length (length - ·)
  match partWithFault 1 taken parts with
  | none => fault.message
  | some (_, ⟨some path, text⟩, taken) =>
      let line := if fault.left.isNone then 0 else ((text.take (taken - 1)).filter (· == '\n')).length + 1
      "file " ++ path ++ " line " ++ Text.ofNat line ++ ": " ++ fault.message
  | some (number, ⟨none, _⟩, taken) =>
      "-e expression #" ++ Text.ofNat number ++ ", char " ++
        Text.ofNat (if fault.left.isNone then 0 else taken) ++ ": " ++ fault.message

def readScript (form : Regex.Form) (parts : List ScriptPart) : Work m Editor.Script := do
  let text := Text.joinWith ['\n'] (parts.map ScriptPart.text)
  match Editor.readInstructions form (2 * text.length + 2) 0 [] text with
  | .error fault => call.fail 1 (scriptFault parts text.length fault)
  | .ok (instructions, _) =>
      match Editor.missingLabel? instructions with
      | some label => call.fail 4 ("can't find label for jump to \x60" ++ label ++ ['\''])
      | none => return instructions.toArray

def linesToEdit (ending : Char) (paths : List Text) (inPlace : Bool) : Work m (List Editor.Line) := do
  let mut found := []
  for path in paths do
    if path ≠ ['-'] ∧ (← call.isFolder path) then
      if inPlace then call.complain 4 ("couldn't edit " ++ path ++ ": not a regular file")
      else call.fail 4 ("read error on " ++ path ++ ": Is a directory")
    else
      match ← call.read path with
      | .ok content => found := Editor.linesOfFile ending path (octets content) :: found
      | .error fault => call.complain 2 ("can't read " ++ path ++ ": " ++ fault.reason)
  return found.reverse.flatten

def scriptParts (given : List Given) : Work m (List ScriptPart) := do
  let parts ← given.mapM fun option => do
    if option.name = ['e'] then return some ⟨none, octetsOf option.value⟩
    else if option.name = ['f'] then
      match ← call.read option.value with
      | .ok content => do
          let text := octets content
          return some ⟨some option.value, if text.getLast? = some '\n' then text.dropLast else text⟩
      | .error fault => call.fail 1 ("couldn't open file " ++ option.value ++ ": " ++ fault.reason)
    else return none
  return parts.filterMap id

def sed : Work m Unit := do
  let known : Text :=
    "n,quiet,silent e,expression= f,file= E,r,regexp-extended i,in-place? s,separate u,unbuffered " ++
      "z,null-data b,binary l,line-length= posix debug follow-symlinks sandbox help version"
  let arguments := call.arguments
  match readOptions (knownOptions known) true (arguments.flatten.length + arguments.length + 1) arguments with
  | .error fault => do
      printError (call.name ++ ": " ++ fault.message ++ '\n' :: editorUsage)
      stop 1
  | .ok (given, operands) => do
      if isGiven given "help" then
        printText (editorUsage ++ "E-mail bug reports to: <bug-sed@gnu.org>.\n")
        stop 0
      if isGiven given "version" then
        printText "sed (GNU sed) 4.9\n"
        stop 0
      let named ← scriptParts call given
      match named, operands with
      | [], [] => do
          printError editorUsage
          stop 1
      | named, operands => do
          let parts := if named.isEmpty then (operands.take 1).map fun text => ⟨none, octetsOf text⟩ else named
          let operands := if named.isEmpty then operands.tail else operands
          let form : Regex.Form := if isGiven given ['E'] then .extended else .basic
          let startsQuiet := (parts.head?.map ScriptPart.text).any fun text =>
            text == "#n".toList || "#n\n".toList.isPrefixOf text
          let script ← readScript call form parts
          let inPlace := valueGiven? given ['i']
          let mode : Editor.Mode := {
            isQuiet := isGiven given ['n'] || startsQuiet
            isSeparate := isGiven given ['s'] || inPlace.isSome
            inPlace, form
            ending := if isGiven given ['z'] then '\x00' else '\n'
            width := ((valueGiven? given ['l']).bind digits?).getD 70 }
          for instruction in script do
            match instruction.action with
            | .write path => let _ ← call.write path []
            | .writeLine path => let _ ← call.write path []
            | .substitute ⟨_, _, _, _, _, some path⟩ => let _ ← call.write path []
            | _ => pure ()
          let paths := if operands.isEmpty then [['-']] else operands
          let lines ← linesToEdit call mode.ending paths inPlace.isSome
          let (status, unread) ← Editor.edit call mode script lines
          if paths = [['-']] then
            call.putBack (unread.flatMap fun line =>
              bytesOf (line.text ++ if line.hasEnd then [mode.ending] else []))
          if status ≠ 0 then stop status

end UniversalModule.Host.Utility
