import UniversalModule.Host.Records.Reader
import UniversalModule.Host.Records.Run

/-!
The program that works on records by a script.
-/

namespace UniversalModule.Host.Utility

variable {m : Type → Type} [Monad m] (call : Call m)

structure ReportOptions where
  separator : Option Text
  /-- Variables with the values that they are given. -/
  given : List Text
  scriptFiles : List Text
  operands : List Text

/-- An option whose value is behind its letter or in the next argument. -/
def reportValue (letter : Char) (behind : Text) (rest : List Text) : Except Text (Text × List Text) :=
  match behind, rest with
  | [], value :: rest => .ok (value, rest)
  | [], [] => .error ("option -" ++ letter :: " lacks argument".toList)
  | behind, rest => .ok (behind, rest)

def readReportOptions : Nat → ReportOptions → List Text → Except Text ReportOptions
  | 0, options, _ => .ok options
  | fuel + 1, options, arguments =>
      match arguments with
      | ['-', '-'] :: rest => .ok { options with operands := rest }
      | ('-' :: 'F' :: behind) :: rest => do
          let (value, rest) ← reportValue 'F' behind rest
          readReportOptions fuel { options with separator := some value } rest
      | ('-' :: 'v' :: behind) :: rest => do
          let (value, rest) ← reportValue 'v' behind rest
          readReportOptions fuel { options with given := options.given ++ [value] } rest
      | ('-' :: 'f' :: behind) :: rest => do
          let (value, rest) ← reportValue 'f' behind rest
          readReportOptions fuel { options with scriptFiles := options.scriptFiles ++ [value] } rest
      | ('-' :: letter :: _) :: _ => .error ("not an option: -" ++ [letter])
      | operands => .ok { options with operands }

def reportUsage : Text :=
  "Usage: mawk [Options] [Program] [file ...]

Program:
    The -f option value is the name of a file containing program text.
    If no -f option is given, a \"--\" ends option processing; the following
    parameters are the program text.

Options:
    -f program-file  Program  text is read from file instead of from the
                     command-line.  Multiple -f options are accepted.
    -F value         sets the field separator, FS, to value.
    -v var=value     assigns value to program variable var.
    --               unambiguous end of options.

    Implementation-specific options are prefixed with \"-W\".  They can be
    abbreviated:

    -W version       show version information and exit.
    -W dump          show assembler-like listing of program and exit.
    -W help          show this message and exit.
    -W interactive   set unbuffered output, line-buffered input.
    -W exec file     use file as program as well as last option.
    -W posix         stricter POSIX checking.
    -W random=number set initial random seed.
    -W sprintf=number adjust size of sprintf buffer.
    -W usage         show this message and exit.
"

def undefinedFunction? (script : Records.Script) (tokens : List Records.Located) : Option Text :=
  tokens.findSome? fun located =>
    match located.token with
    | .caller name => if (script.functions.get? name).isNone then some name else none
    | _ => none

def reportScript (text : Text) : Except Records.Fault Records.Script := do
  let tokens ← Records.tokens (text.length + 1) 1 none text
  let lastLine := (text.filter (· == '\n')).length + 2
  let context : Records.Context := ⟨true, true, lastLine, 0, 0, false, false, true⟩
  let script ← Records.readScript context (20 * tokens.length + 100) ⟨[], []⟩ tokens
  match undefinedFunction? script tokens with
  | some name => .error (Records.faultAt lastLine ("function " ++ name ++ " never defined"))
  | none => .ok script

def reportVariables (separator : Text) (count : Nat) : Keyed Text Records.Slot :=
  let texts : List (Text × Text) :=
    [("FS", separator), ("OFS", [' ']), ("ORS", ['\n']), ("RS", ['\n']), ("SUBSEP", ['\x1c']),
      ("CONVFMT", "%.6g"), ("OFMT", "%.6g"), ("FILENAME", [])]
  let numbers : List (Text × Float) :=
    [("NR", 0), ("NF", 0), ("FNR", 0), ("RSTART", 0), ("RLENGTH", -1), ("ARGC", Float.ofNat count)]
  texts.map (fun (name, text) => (name, .value (.text text))) ++
    numbers.map (fun (name, number) => (name, .value (.number number))) ++
    [("ARGV".toList, .array 0), ("ENVIRON".toList, .array 1)]

def reportSession (script : Records.Script) (options : ReportOptions) : Records.Session :=
  let arguments := call.name :: options.operands
  let listed : Records.Entries :=
    arguments.mapIdx fun index argument => (Text.ofNat index, .input (octetsOf argument))
  let environment : Records.Entries :=
    call.environment.map fun (name, value) => (octetsOf name, .input (octetsOf value))
  let separator := (options.separator.map octetsOf).getD [' ']
  { script
    globals := reportVariables (Records.unescapeValue separator) arguments.length
    locals := []
    arrays := [(0, listed), (1, environment)]
    record := []
    fields := []
    intake := ⟨none, 1, false⟩
    sources := []
    written := []
    pipes := []
    buffer := []
    status := 0
    openRules := []
    seed := 1 }

def report (script : Records.Script) (options : ReportOptions) : Work m Unit := do
  let session ← options.given.foldlM (fun (session : Records.Session) given => do
    match Records.givenBy? (octetsOf given) with
    | some (name, value) => return session.setShared name (.input (Records.unescapeValue value))
    | none => call.fail 2 ("improper assignment: -v " ++ given)) (reportSession call script options)
  let (_, ended) ← (Records.runScript call script).run.run session
  if ended.status ≠ 0 then giveStatus ended.status

def awk : Work m Unit := do
  match readReportOptions (call.arguments.length + 1) ⟨none, [], [], []⟩ call.arguments with
  | .error message => call.fail 2 message
  | .ok options => do
      let texts ← options.scriptFiles.mapM fun path => do
        match ← call.read path with
        | .ok content => return octets content
        | .error fault => call.fail 2 ("cannot open \"" ++ path ++ "\" (" ++ fault.reason ++ [')'])
      let texts := if texts.isEmpty then options.operands.take 1 |>.map octetsOf else texts
      let operands := if options.scriptFiles.isEmpty then options.operands.tail else options.operands
      match texts with
      | [] => do
          printError reportUsage
          stop 0
      | texts =>
          match reportScript (Text.joinWith ['\n'] texts) with
          | .ok script => report call script { options with operands }
          | .error fault => do
              for complaint in fault.complaints do call.complain 2 complaint
              stop 2

end UniversalModule.Host.Utility
