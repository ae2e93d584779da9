import UniversalModule.Host.Exit
import UniversalModule.Host.Files
import UniversalModule.Host.Shell.Flags
import UniversalModule.Host.Shell.Script

/-!
What a shell knows while it runs a script, and where what is printed goes.
-/

namespace UniversalModule.Host.Shell

/-- The names of the habits of the second shell, which a script can change beside its flags. -/
def habitNames : List Text :=
  Text.splitAt ' ' <| String.toList <|
    "autocd assoc_expand_once cdable_vars cdspell checkhash checkjobs checkwinsize cmdhist compat31 compat32 " ++
      "compat40 compat41 compat42 compat43 compat44 complete_fullquote direxpand dirspell dotglob execfail " ++
      "expand_aliases extdebug extglob extquote failglob force_fignore globasciiranges globskipdots globstar " ++
      "gnu_errfmt histappend histreedit histverify hostcomplete huponexit inherit_errexit interactive_comments " ++
      "lastpipe lithist localvar_inherit localvar_unset login_shell mailwarn no_empty_cmd_completion nocaseglob " ++
      "nocasematch noexpand_translation nullglob patsub_replacement progcomp progcomp_alias promptvars " ++
      "restricted_shell shift_verbose sourcepath varredir_close xpg_echo"

def initialHabits : Variety → List Text
  | .dash => []
  | .bash =>
      Text.splitAt ' ' <| String.toList <|
        "checkwinsize cmdhist complete_fullquote extquote force_fignore globasciiranges globskipdots " ++
          "hostcomplete interactive_comments patsub_replacement progcomp promptvars sourcepath"

structure Setting (m : Type → Type) where
  variety : Variety
  /-- What the script is called. -/
  script : Text
  files : Files m
  launch : Launcher m

inductive Sink where
  | channel (channel : Channel)
  /-- Into what is put in for a script, or read by the next command. -/
  | caught
  | nowhere
  /-- Where nothing can be printed. -/
  | refusing (fault : IoFault)
  | file (path : Path)
deriving DecidableEq

/-- Whether commands go on, and if not, how far they are left. -/
inductive Flow where
  | going
  | ended
  /-- Ended by a fault, of which a command that is not special is the last to hear. -/
  | failed
  | killed (signal : Nat)
  | leaving (loops : Nat)
  | repeating (loops : Nat)
  | returning
  /-- The rest of the line is given up. -/
  | discarding
deriving DecidableEq

/-- A list under one name. The keys are numbers in order, unless they are names. -/
structure Row where
  isNamed : Bool
  items : Keyed Text Text

def valueOfDecimal (digits : Text) : Nat :=
  digits.foldl (fun value c => 10 * value + (c.toNat - '0'.toNat)) 0

/-- Puts an item into items whose keys are numbers, in order. -/
def insertNumbered (key : Nat) (value : Text) : Keyed Text Text → Keyed Text Text
  | [] => [(Text.ofNat key, value)]
  | (other, old) :: rest =>
      if key < valueOfDecimal other then (Text.ofNat key, value) :: (other, old) :: rest
      else if key = valueOfDecimal other then (other, value) :: rest
      else (other, old) :: insertNumbered key value rest

def Row.put (row : Row) (key value : Text) : Row :=
  { row with
    items :=
      if row.isNamed then row.items.put key value
      else insertNumbered (valueOfDecimal key) value row.items }

/-- What a name stood for before a function had it for itself. -/
structure Shadow where
  name : Text
  value : Option Text
  row : Option Row

structure State where
  folder : Path
  values : Keyed Text Text
  rows : Keyed Text Row
  /-- The names that programs find. -/
  exported : List Text
  /-- The names whose values stay. -/
  fixed : List Text
  /-- What the names stood for that a function has for itself; none outside functions. -/
  shadowed : Option (List Shadow)
  functions : Keyed Text Command
  /-- What stands for a word at the beginning of a command. -/
  aliases : Keyed Text Text
  /-- The names of programs that were looked for and found. -/
  looked : List Text
  arguments : List Text
  flags : Flags
  /-- The further habits that are switched on, by their names. -/
  habits : List Text
  /-- The rights that new files are not given. -/
  mask : Nat
  /-- How the last command ended. -/
  status : Nat
  /-- How the last script ended whose output was put in. -/
  putInStatus : Nat
  line : Nat
  loops : Nat
  input : Bytes
  /-- Whether the input is a file, in which a program can go back. -/
  inputIsFile : Bool
  /-- What can be read from the channels from 3 on. -/
  sources : Keyed Nat Bytes
  /-- The channel from 3 on from which the input comes, if it does. -/
  inputFrom : Option Nat
  sinks : Keyed Nat Sink
  /-- What was caught, the latest first. -/
  caught : List Bytes
  /-- What was printed, the latest first. -/
  printed : List (Channel × Bytes)
  /-- Why the command that runs could not print, if it could not. -/
  outputFault : Option IoFault
  /-- What is to be run when a signal comes, and under 0 what is to be run at the end. -/
  traps : Keyed Nat Text
  /-- The signals that have come and whose traps are still to be run. -/
  pending : List Nat
  /-- How the script had ended before what is run at a trap. -/
  trapStatus : Option Nat
  /-- Whether this is a part of a script that runs apart from it. -/
  isApart : Bool
  /-- The signals that such a part has sent to the script. -/
  toMain : List Nat
  /-- How deep scripts stand in one another whose output is put in. -/
  depth : Nat
  /-- The number of the next file with what a script prints. -/
  nextFile : Nat
  /-- The script that is being read in, as complaints call it. -/
  source : Text
  /-- How the commands ended that ran in the background. -/
  jobs : List Nat
  /-- How far the options in one argument have been taken, if they have. -/
  optionOffset : Option Nat
  flow : Flow

/-- The number by which a script knows its own process. -/
def ownNumber : Nat := 4711

/-- The name of the number of the line, in the shells that know it. -/
def lineNumberName : Text := "LINENO"

namespace State

/-- What a shell knows when it starts; `own` are the values that it gives itself. -/
def start (own : Keyed Text Text) (source : Text) (launch : Launch) (arguments : List Text)
    (flags : Flags) : State where
  folder := launch.folder
  values := Keyed.ofList (launch.environment ++
    ([("IFS", " \t\n"), ("PWD", launch.folder.text), ("OPTIND", "1")] : List (Text × Text)) ++ own)
  rows := []
  exported := ("PWD".toList :: launch.environment.keys).eraseDups
  fixed := []
  shadowed := none
  functions := []
  aliases := []
  looked := []
  arguments := arguments
  flags := flags
  habits := initialHabits flags.variety
  mask := 0o022
  status := 0
  putInStatus := 0
  line := 1
  loops := 0
  input := launch.input
  inputIsFile := launch.inputIsFile
  sources := []
  inputFrom := none
  sinks :=
    match launch.outputFault with
    | none => [(1, .channel .output), (2, .channel .errors)]
    | some .notOpen => [(2, .channel .errors)]
    | some fault => [(1, .refusing fault), (2, .channel .errors)]
  caught := []
  printed := []
  outputFault := none
  traps := []
  pending := []
  trapStatus := none
  isApart := false
  toMain := []
  depth := 1
  nextFile := 63
  source := source
  jobs := []
  optionOffset := none
  flow := .going

def isGoing (state : State) : Bool := state.flow == .going

def hasHabit (state : State) (name : Text) : Bool := state.habits.contains name

def withStatus (state : State) (status : Nat) : State := { state with status }

def exportName (state : State) (name : Text) : State :=
  if state.exported.contains name then state else { state with exported := state.exported ++ [name] }

/-- Gives a value to a name; of a list, the first item gets it. -/
def setVariable (state : State) (name value : Text) : State :=
  let state := if name = "OPTIND".toList then { state with optionOffset := none } else state
  let state := if state.flags.exportsAll then state.exportName name else state
  match state.rows.get? name with
  | some row => { state with rows := state.rows.put name (Row.put row ['0'] value) }
  | none => { state with values := state.values.put name value }

/-- Gives a value to an item of a list, which begins with the value of the name. -/
def setItem (state : State) (name key value : Text) : State :=
  let row : Row :=
    match state.rows.get? name with
    | some row => row
    | none => ⟨false, (state.values.get? name).toList.map fun value => (['0'], value)⟩
  { state with rows := state.rows.put name (Row.put row key value) }

def setRow (state : State) (name : Text) (row : Row) : State :=
  { state with rows := state.rows.put name row }

def unset (state : State) (name : Text) : State :=
  { state with
    values := state.values.filter fun entry => entry.1 != name
    rows := state.rows.filter fun entry => entry.1 != name
    exported := state.exported.filter (· != name) }

def caughtBytes (state : State) : Bytes := state.caught.reverse.flatten

def unsetItem (state : State) (name key : Text) : State :=
  match state.rows.get? name with
  | none => state
  | some row => state.setRow name { row with items := row.items.filter fun item => item.1 != key }

def isFixed (state : State) (name : Text) : Bool := state.fixed.contains name

def placeOf (name : Text) : Nat :=
  let bytes := Text.utf8 name
  (bytes.foldl (fun sum byte => sum + byte.toNat) (16 * (bytes.headD 0).toNat)) % 39

def environment (variety : Variety) (state : State) : Environment :=
  let found := state.values.filter fun entry => state.exported.contains entry.1
  match variety with
  | .dash => found.mergeSort fun first second => placeOf first.1 ≤ placeOf second.1
  | .bash => found

/-- Remembers what a name stands for, until the function ends. -/
def shadow (state : State) (name : Text) : State :=
  match state.shadowed with
  | none => state
  | some shadows =>
      { state with shadowed := some (⟨name, state.values.get? name, state.rows.get? name⟩ :: shadows) }

def restore (state : State) (shadow : Shadow) : State :=
  let bare := { state with
    values := state.values.filter fun entry => entry.1 != shadow.name
    rows := state.rows.filter fun entry => entry.1 != shadow.name }
  let valued := match shadow.value with
    | some value => { bare with values := bare.values.put shadow.name value }
    | none => bare
  match shadow.row with
  | some row => valued.setRow shadow.name row
  | none => valued

def exit (state : State) : Exit where
  ending :=
    match state.flow with
    | .killed signal => .signal signal
    | _ => .status state.status
  printed := state.printed.reverse
  unread := state.input

/-- The value of a parameter, but for all arguments at once. -/
def value? (state : State) (script : Text) (name : Text) : Option Text :=
  match name with
  | ['#'] => some (Text.ofNat state.arguments.length)
  | ['?'] => some (Text.ofNat state.status)
  | ['$'] => some (Text.ofNat ownNumber)
  | ['-'] => some state.flags.letters
  | ['!'] => if state.jobs.isEmpty then none else some (Text.ofNat (ownNumber + state.jobs.length))
  | c :: _ =>
      if c.isDigit then
        match valueOfDecimal name with
        | 0 => some script
        | number + 1 => state.arguments[number]?
      else
        match state.rows.get? name, state.values.get? name with
        | some row, _ => row.items.get? ['0']
        | none, some value => some (if name = lineNumberName then Text.ofNat state.line else value)
        | none, none => none
  | [] => none

def items (state : State) (name : Text) : Keyed Text Text :=
  match state.rows.get? name with
  | some row => row.items
  | none => (state.values.get? name).toList.map fun value => (['0'], value)

def separators (state : State) : Text := (state.values.get? "IFS".toList).getD " \t\n"

def folders (variety : Variety) (state : State) : List Text :=
  let listed := Text.splitAt ':' ((state.values.get? "PATH".toList).getD [])
  match variety, listed with
  | .dash, listed => listed
  | .bash, [folder] => [folder]
  | .bash, listed => listed.map fun folder => if folder.isEmpty then ['.'] else folder

end State

variable {m : Type → Type} [Monad m]

namespace Setting

variable (setting : Setting m)

def append (path : Path) (bytes : Bytes) : m Unit := do
  let before :=
    match ← setting.files.read path with
    | .ok content => content
    | .error _ => []
  let _ ← setting.files.write path (before ++ bytes)

def emit (channel : Nat) (bytes : Bytes) (state : State) : m State := do
  let refused (fault : IoFault) : State :=
    if channel = 1 ∧ bytes.isEmpty = false then { state with outputFault := some fault } else state
  match state.sinks.get? channel with
  | none => return refused .notOpen
  | some (.refusing fault) => return refused fault
  | some (.channel channel) => return { state with printed := (channel, bytes) :: state.printed }
  | some .caught => return { state with caught := bytes :: state.caught }
  | some .nowhere => return state
  | some (.file path) => do
      setting.append path bytes
      return state

def emitText (text : Text) (state : State) : m State := setting.emit 1 text.utf8 state

def emitAll (printed : List (Channel × Bytes)) (state : State) : m State :=
  printed.foldlM (fun state (channel, bytes) =>
    setting.emit (match channel with | .output => 1 | .errors => 2) bytes state) state

def placeText (state : State) : Text :=
  let line := Text.ofNat state.line
  match setting.variety with
  | .dash =>
      let within : Text := if state.source.isEmpty then [] else state.source ++ ": "
      setting.script ++ ": " ++ line ++ ": " ++ within
  | .bash => state.source ++ ": line " ++ line ++ ": "

def complain (message : Text) (status : Nat) (state : State) : m State := do
  let state ← setting.emit 2 (Text.utf8 (setting.placeText state ++ message ++ ['\n'])) state
  return state.withStatus status

def tellUsage (usage : Text) (state : State) : m State :=
  return (← setting.emit 2 (Text.utf8 (usage ++ ['\n'])) state).withStatus 2

def finish (message : Text) (state : State) : m State := do
  match setting.variety with
  | .dash => return { ← setting.complain message 2 state with flow := .failed }
  | .bash => return { ← setting.complain message 1 state with flow := .ended }

/-- Complains of a letter that a command does not know. -/
def refuseLetter (command : Text) (letter : Char) (usage : Text) (state : State) : m State := do
  match setting.variety with
  | .dash => setting.finish (command ++ ": Illegal option -" ++ [letter]) state
  | .bash => do
      setting.tellUsage usage (← setting.complain (command ++ ": -" ++ letter :: ": invalid option") 2 state)

/-- Complains and ends the script, or gives up the rest of the line in a shell that goes on. -/
def abandon (message : Text) (state : State) : m State := do
  match setting.variety with
  | .dash => setting.finish message state
  | .bash => return { ← setting.complain message 1 state with flow := .discarding }

/-- Complains and ends the script, or goes on in a shell that does. -/
def object (message : Text) (state : State) : m State := do
  match setting.variety with
  | .dash => setting.finish message state
  | .bash => setting.complain message 1 state

/-- Gives a value to a name, as a command does. A shell that looks at the place of the next option at
once wants a number there. -/
def give (command name value : Text) (state : State) : m State :=
  let isNumber := value.isEmpty = false ∧ value.all Char.isDigit ∧ valueOfDecimal value < 2147483648
  if setting.variety = .dash ∧ name = "OPTIND".toList ∧ isNumber = false then
    setting.finish (command ++ "Illegal number: " ++ value) state
  else return state.setVariable name value

def refuse (command name : Text) (state : State) : m State :=
  match setting.variety with
  | .dash => setting.finish (command ++ name ++ ": is read only") state
  | .bash => setting.complain (name ++ ": readonly variable") 1 state

end Setting

end UniversalModule.Host.Shell
