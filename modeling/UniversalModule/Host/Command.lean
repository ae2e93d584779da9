import UniversalModule.Host.Bundler
import UniversalModule.Host.Program
import UniversalModule.Host.Shell.Run

/-!
Commands that are run in a folder: the installed ones, and scripts that begin with `#!`.
-/

namespace UniversalModule.Host

namespace Command

variable {m : Type → Type} [Monad m]

/-- The length of the beginning of a script in which its interpreter has to be named. -/
def headLength : Nat := 256

/-- The words behind `#!` at the beginning of a script: a path and at most one argument. -/
def interpreter? (content : Bytes) : Except IoFault (Text × List Text) :=
  let isBlank (byte : UInt8) : Bool := byte == 0x20 || byte == 0x09
  match content with
  | 0x23 :: 0x21 :: rest =>
      let line := (rest.take (headLength - 2)).takeWhile (· != 0x0A)
      let isCut := line.length = headLength - 2
      let words := ((line.reverse.dropWhile isBlank).reverse).dropWhile isBlank
      let path := words.takeWhile (!isBlank ·)
      let argument := (words.dropWhile (!isBlank ·)).dropWhile isBlank
      if (words.isEmpty ∧ (rest.contains 0x0A ∨ isCut)) ∨ (isCut ∧ line.dropWhile isBlank = path) then
        .error .notProgram
      else if path.isEmpty then .error .notFound
      else
        .ok (Text.ofUtf8Lossy path, if argument.isEmpty then [] else [Text.ofUtf8Lossy argument])
  | _ => .error .notProgram

/-- An installed program with the name by which it is called and its arguments. -/
structure Resolved where
  program : Text
  name : Text
  arguments : List Text

/-- How many scripts may name one another for what runs them. -/
def chainLimit : Nat := 5

/-- The installed program that a path leads to, through scripts that name what runs them. -/
def resolve (files : Files m) (folder : Path) :
    Nat → Text → Text → List Text → m (Except IoFault Resolved)
  | limit, path, name, arguments => do
      match ← files.find (pathFrom folder ⟨path⟩), limit with
      | .error fault, _ => return .error fault
      | .ok .folder, _ => return .error .permissionDenied
      | .ok (.device _), _ => return .error .permissionDenied
      | .ok (.link _), _ => return .error .notFound
      | .ok (.program program), _ => return .ok ⟨program, name, arguments⟩
      | .ok (.file file), limit =>
          if file.isExecutable = false then return .error .permissionDenied
          else
            match interpreter? file.content, limit with
            | .error fault, _ => return .error fault
            | .ok _, 0 => return .error .tooManyLinks
            | .ok (interpreter, options), limit + 1 =>
                resolve files folder limit interpreter interpreter (options ++ path :: arguments)

structure Invocation where
  flags : Shell.Flags
  /-- Whether the first operand is a script itself. -/
  isText : Bool
  /-- Whether the script is read from the input although operands follow. -/
  readsInput : Bool
  operands : List Text

/-- The options of a shell that are no flags. -/
def optionLetters : Shell.Variety → Text
  | .dash => "csi"
  | .bash => "csilr"

/-- Reads the options of a shell, up to the first operand. -/
def readOptions (variety : Shell.Variety) : List Text → Invocation → Except Text Invocation
  | [], invocation => .ok invocation
  | word :: words, invocation =>
      match word with
      | ['-', '-'] => .ok { invocation with operands := words }
      | ['-', 'o'] =>
          match words with
          | name :: words =>
              match invocation.flags.putNamed true name with
              | some flags => readOptions variety words { invocation with flags }
              | none => .error ("-o " ++ name)
          | [] => .ok invocation
      | '-' :: c :: letters =>
          let letters := c :: letters
          let flagLetters := letters.filter fun letter => !(optionLetters variety).contains letter
          match invocation.flags.putAll true flagLetters with
          | .error letter => .error ['-', letter]
          | .ok flags =>
              let isText := invocation.isText || letters.contains 'c'
              let readsInput := invocation.readsInput || letters.contains 's'
              readOptions variety words { invocation with flags, isText, readsInput }
      | _ => .ok { invocation with operands := word :: words }

def ownValues : Shell.Variety → Keyed Text Text
  | .dash => [("PS1", "# "), ("PS2", "> "), ("PS4", "+ ")]
  | .bash =>
      [("PS4", "+ "), ("BASH", "/bin/bash"), ("BASH_VERSION", "5.2.21(1)-release"), ("EUID", ['0']), ("LINENO", ['0']),
        ("OSTYPE", "linux-gnu"), ("SHLVL", ['1']), ("UID", ['0'])]

/-- Runs a shell that is called by a name: with a script, with the file of one, or with one as its
input. -/
def runShell (files : Files m) (launch : Launcher m) (variety : Shell.Variety) (name : Text)
    (given : Launch) : m Exit := do
  let complaint (status : Nat) (message : Text) : Exit :=
    let place : Text := match variety with
      | .dash => "0: "
      | .bash => []
    .failure status (name ++ ": " ++ place ++ message ++ ['\n']) given.input
  match readOptions variety given.arguments ⟨Shell.Flags.initial variety, false, false, []⟩ with
  | .error option => return complaint 2 ("Illegal option " ++ option)
  | .ok invocation =>
      let run (label script called : Text) (arguments : List Text) (input : Bytes) : m Exit :=
        let source := match variety with
          | .dash => []
          | .bash => called
        Shell.runScript ⟨variety, called, files, launch⟩ label (!invocation.isText) script
          (Shell.State.start (ownValues variety) source { given with input } arguments invocation.flags)
      match invocation.isText, invocation.readsInput, invocation.operands with
      | true, _, [] => return complaint 2 "-c requires an argument"
      | true, _, script :: rest =>
          let label := match variety with
            | .dash => []
            | .bash => "-c: "
          run label script (rest.headD name) rest.tail given.input
      | false, true, operands => run [] (Text.ofUtf8Lossy given.input) name operands []
      | false, false, [] => run [] (Text.ofUtf8Lossy given.input) name [] []
      | false, false, path :: arguments => do
          match ← files.read (pathFrom given.folder ⟨path⟩) with
          | .ok script => run [] (Text.ofUtf8Lossy script) path arguments given.input
          | .error .isDirectory => return ⟨.status 0, [], given.input⟩
          | .error fault =>
              return match variety with
                | .dash => complaint 2 ("cannot open " ++ path ++ ": No such file")
                | .bash => complaint 127 (path ++ ": " ++ fault.reason)

def runInstalled (files : Files m) (launch : Launcher m) (resolved : Resolved) (given : Launch) :
    m Exit :=
  let given := { given with arguments := resolved.arguments }
  match Program.shell? resolved.program with
  | some variety => runShell files launch variety resolved.name given
  | none =>
      let call : Utility.Call m :=
        ⟨resolved.name, given.folder, given.arguments, given.inputIsFile, given.environment, given.outputFault,
          files, launch⟩
      match Program.ofName? call resolved.program with
      | some work =>
          return Utility.withoutOutput given.outputFault resolved.program resolved.name
            (← Utility.exitOf work given.input)
      | none => return ⟨.status 1, [], given.input⟩

/-- The path of a program: a path leads to it itself, a name is looked for. -/
def pathOf (files : Files m) (given : Launch) : m (Except IoFault Text) := do
  if given.program.contains '/' then return .ok given.program
  else if given.program.isEmpty then return .error .notFound
  else if given.program = ['.'] ∨ given.program = ['.', '.'] then return .error .permissionDenied
  else files.search given.folder given.program given.folders

/-- Longer arguments are refused, and longer values in an environment. -/
def argumentLimit : Nat := 131071

/-- All arguments and the environment together must not be longer. Each of them takes room for its
end and for its place. -/
def argumentsLimit : Nat := 2097152

/-- Refuses more than a program can be started with. -/
def checkLength (environment : Environment) (words : List Text) : Except IoFault Unit :=
  let values := environment.map fun (name, value) => name.utf8.length + 1 + value.utf8.length
  let lengths : List Nat := words.map (·.utf8.length) ++ values
  if lengths.any (argumentLimit < ·) ∨ argumentsLimit < lengths.foldl (fun total length => total + length + 9) 0 then
    .error .argumentsTooLong
  else .ok ()

/-- Runs a program. The fuel bounds how many programs run one another. -/
def runAt (files : Files m) : Nat → Launcher m
  | 0, _ => return .error .tooManyLinks
  | fuel + 1, given => do
      match ← pathOf files given with
      | .error fault => return .error fault
      | .ok path =>
          match ← resolve files given.folder chainLimit path given.program given.arguments with
          | .error fault => return .error fault
          | .ok resolved =>
              match checkLength given.environment (given.program :: resolved.arguments) with
              | .error fault => return .error fault
              | .ok () => return .ok (← runInstalled files (runAt files fuel) resolved given)

def depthLimit : Nat := 40

/-- The folders in which programs are installed. -/
def programFolders : List Location := [["bin"], ["usr".toList, "bin".toList]]

/-- The folders of a system beside those of its users. -/
def systemFolders : List Location :=
  (["bin", "boot", "dev", "dev/fd", "dev/pts", "dev/shm", "etc", "home", "lib", "lib64", "media",
    "mnt", "opt", "proc", "proc/self", "proc/self/fd", "root", "run", "sbin", "srv", "sys", "tmp",
    "usr", "usr/bin", "usr/sbin", "var"] : List Text).map fun path => Name.ofPath path.utf8

/-- The files that every system has, with what they hold at least. -/
def systemFiles : List (Location × Text) :=
  [(["etc", "group"], "root:x:0:\n"), (["etc", "hosts"], "127.0.0.1\tlocalhost\n"),
    (["etc", "passwd"], "root:x:0:0:root:/root:/bin/bash\n")]

def devices : List (Text × Device) :=
  [("full", .full), ("null", .nothing), ("random", .zeros), ("stderr", .nothing), ("tty", .terminal),
    ("urandom", .zeros), ("zero", .zeros)]

/-- The folders in which a system shows itself, and which take nothing new. -/
def seals : Keyed Location Seal :=
  let unknown : Seal := ⟨.notFound, .notFound⟩
  let fixed : Seal := ⟨.permissionDenied, .notPermitted⟩
  [(["proc"], unknown), (["proc", "self"], unknown), (["proc", "self", "fd"], unknown),
    (["dev", "pts"], fixed), (["sys"], fixed)]

/-- A tree with the folders of a system and the installed programs in it, in which a program runs
in a folder. -/
def install (current : Location) (tree : Tree) : Tree :=
  let withFolders := systemFolders.foldl (fun (tree : Tree) place => tree.put place .folder) tree
  let withDevices := devices.foldl (fun (tree : Tree) (name, device) =>
    tree.put ["dev".toList, name] (.device device)) withFolders
  let withPrograms := programFolders.foldl (fun tree folder =>
    Program.names.foldl (fun tree name => tree.put (folder ++ [.ofText name]) (.program name)) tree) withDevices
  let withFiles := systemFiles.foldl (fun (tree : Tree) (place, content) =>
    tree.addFile place ⟨content.utf8, false⟩) withPrograms
  let withLinks := withFiles.put ["proc", "self", "cwd"] (.link (Location.bytes current))
  { withLinks.put ["proc", "self", "root"] (.link [Name.separator]) with seals }

def usualEnvironment : Environment := [("PATH", usualFolders), ("HOME", "/root")]

def launch (current : Location) (folder : Path) (program : Text) (arguments : List Text) :
    StateM Tree (Except IoFault Exit) := do
  if (program :: folder.text :: arguments).any (·.contains '\x00') then return .error .nulInArgument
  else
    let tree ← get
    match tree.locate current folder with
    | .error fault => return .error fault
    | .ok place =>
        if tree.isFolder place = false then return .error .notDirectory
        else
          runAt treeFiles depthLimit
            ⟨Tree.pathOf place, program, foldersOf usualEnvironment, arguments, [], false, usualEnvironment, none⟩

/-- The bundle that a command prints when it is run in a folder of a tree. -/
def bundle (current : Location) (program : Text) (folder : Path) (packages : List Text) :
    StateM Tree (Except BundleError Text) :=
  return bundleOf program (← launch current folder program (bundlerArguments packages))

end Command

end UniversalModule.Host
