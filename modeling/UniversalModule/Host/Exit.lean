import UniversalModule.Failure
import UniversalModule.Keyed
import UniversalModule.Text.Utf8

/-!
What programs are started with, how they end and what they print.
-/

namespace UniversalModule.Host

/-- The names of the signals from 1 on, without the three letters that they share. -/
def signalNames : List Text :=
  Text.splitAt ' ' <| String.toList <|
    "HUP INT QUIT ILL TRAP ABRT BUS FPE KILL USR1 SEGV USR2 PIPE ALRM TERM STKFLT " ++
      "CHLD CONT STOP TSTP TTIN TTOU URG XCPU XFSZ VTALRM PROF WINCH IO PWR SYS"

def signalName? (number : Nat) : Option Text := if number = 0 then none else signalNames[number - 1]?

/-- Whether a command that has not asked for a signal goes on when it comes. -/
def isHarmlessSignal (number : Nat) : Bool :=
  number == 0 || number == 17 || number == 18 || number == 23 || number == 28

inductive Ending where
  | status (status : Nat)
  | signal (number : Nat)
deriving DecidableEq

namespace Ending

/-- The status under which a shell knows an ending. -/
def code : Ending → Nat
  | .status number => number
  | .signal number => 128 + number

def message : Ending → Text
  | .status number => "exit status: " ++ Text.ofNat number
  | .signal number =>
      "signal: " ++ Text.ofNat number ++
        match signalName? number with
        | some name => " (SIG" ++ name ++ [')']
        | none => []

end Ending

inductive Channel where
  | output
  | errors
deriving DecidableEq

/-- The names with values that a program finds. -/
abbrev Environment := Keyed Text Text

/-- The folders in which programs are looked for when nothing else is said. -/
def usualFolders : Text := "/usr/local/sbin:/usr/local/bin:/usr/sbin:/usr/bin:/sbin:/bin"

/-- The folders in which an environment lets programs be looked for. -/
def foldersOf (environment : Environment) : List Text :=
  Text.splitAt ':' ((environment.get? "PATH".toList).getD usualFolders)

structure Launch where
  folder : Path
  /-- A path, or a name that is looked for. -/
  program : Text
  /-- The folders in which a name is looked for. -/
  folders : List Text
  arguments : List Text
  input : Bytes
  /-- Whether the input is a file, in which a program can go back. -/
  inputIsFile : Bool
  environment : Environment
  /-- Why the program cannot print, if it cannot. -/
  outputFault : Option IoFault

/-- What a command leaves behind. What it printed is in the order in which it did. -/
structure Exit where
  ending : Ending
  printed : List (Channel × Bytes)
  /-- What the command has left of its input. -/
  unread : Bytes
deriving DecidableEq

abbrev Launcher (m : Type → Type) := Launch → m (Except IoFault Exit)

namespace Exit

def on (exit : Exit) (channel : Channel) : Bytes :=
  exit.printed.flatMap fun (other, bytes) => if other = channel then bytes else []

def failure (status : Nat) (message : Text) (unread : Bytes) : Exit :=
  ⟨.status status, [(.errors, message.utf8)], unread⟩

end Exit

end UniversalModule.Host
