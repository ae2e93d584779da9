import UniversalModule.CommandLine.Run
import UniversalModule.Host.Command

/-!
The program. Bundler commands are those of `Host.Command`: the installed ones and small scripts.
-/

namespace UniversalModule

open CommandLine (Failure Machine)

/-- The failure that an error of the file system tells of. -/
def faultOf : IO.Error → IoFault
  | .noFileOrDirectory _ _ _ => .notFound
  | .permissionDenied _ _ _ => .permissionDenied
  | .alreadyExists _ _ _ => .alreadyExists
  | .inappropriateType _ code _ => if code = 21 then .isDirectory else .notDirectory
  | .invalidArgument _ code details =>
      if code = 36 then .nameTooLong else if code = 22 then .invalidArgument else .reported details.toList
  | .unsatisfiedConstraints code details => if code = 39 then .notEmpty else .reported details.toList
  | error => .reported error.toString.toList

def attempt {α : Type} (action : IO α) : IO (Except IoFault α) := do
  match ← action.toBaseIO with
  | .ok value => return .ok value
  | .error error => return .error (faultOf error)

def pathString (path : Path) : String := String.ofList path.text

def readBytes (path : Path) : IO (Except IoFault Bytes) := do
  match ← attempt (IO.FS.readBinFile (pathString path)) with
  | .error fault => return .error fault
  | .ok bytes => return .ok bytes.toList

def readText (path : Path) : IO (Except IoFault Text) := do
  match ← readBytes path with
  | .error fault => return .error fault
  | .ok bytes =>
      match Text.ofUtf8? bytes with
      | none => return .error .notText
      | some text => return .ok text

def canonicalPath (path : Path) : IO (Except IoFault Path) := do
  match ← attempt (IO.FS.realPath (pathString path)) with
  | .error fault => return .error fault
  | .ok found => return .ok ⟨found.toString.toList⟩

def locationOf (path : Path) : Host.Location :=
  (Host.Name.ofPath path.text.utf8).filter fun name => !name.isSkipped

def namesIn (folder : Path) : IO (Except IoFault (List Text)) :=
  attempt do
    let entries ← (← IO.FS.realPath (pathString folder)).readDir
    return entries.toList.map fun item => item.fileName.toList

/-- The bytes with which programs begin that no shell reads. -/
def programMark : Bytes := [0x7F, 0x45, 0x4C, 0x46]

/-- What a path denotes. A file that no shell reads is taken for the program of its name. -/
def findAt (path : Path) : IO (Except IoFault Host.Entry) := do
  match ← readBytes path with
  | .ok content =>
      if content.take 4 = programMark then return .ok (.program ((Path.fileName? path).getD []))
      else return .ok (.file ⟨content, true⟩)
  | .error .isDirectory => return .ok .folder
  | .error fault => return .error fault

def writeBytes (path : Path) (content : Bytes) : IO (Except IoFault Unit) :=
  attempt (IO.FS.writeBinFile (pathString path) ⟨content.toArray⟩)

/-- The rights of a file that may be run, or may not. -/
def rightsFor (isExecutable : Bool) : IO.FileRight :=
  let others : IO.AccessRight := { read := true, execution := isExecutable }
  { user := { others with write := true }, group := others, other := others }

def systemFiles : Host.Files IO where
  find := findAt
  findUnfollowed := findAt
  canonical := canonicalPath
  names path := return (← namesIn path).toOption.getD []
  write := writeBytes
  makeFolder path := attempt (IO.FS.createDir (pathString path))
  makeLink _ _ := return .error (.reported "links that point along paths cannot be made")
  addName path new := attempt (IO.FS.hardLink (pathString path) (pathString new))
  remove path := attempt (IO.FS.removeFile (pathString path))
  removeFolder path := attempt (IO.FS.removeDir (pathString path))
  rename path new := attempt (IO.FS.rename (pathString path) (pathString new))
  setExecutable path value := attempt (IO.setAccessRights (pathString path) (rightsFor value))

def launchIn (folder : Path) (program : Text) (arguments : List Text) :
    IO (Except IoFault Host.Exit) := do
  match ← canonicalPath folder with
  | .error fault => return .error fault
  | .ok folder =>
      let folders := ((← IO.getEnv "PATH").getD "").toList
      let environment := Keyed.put "PATH".toList folders Host.Command.usualEnvironment
      Host.Command.runAt systemFiles Host.Command.depthLimit
        ⟨folder, program, Host.foldersOf environment, arguments, [], false, environment, none⟩

def systemMachine : Machine IO where
  read := readText
  isThere path := return (← canonicalPath path).isOk
  canonical? path := return (← canonicalPath path).toOption.map locationOf
  bundle program folder packages :=
    return Host.Command.bundleOf program
      (← launchIn folder program (Host.Command.bundlerArguments packages))
  isFolder path := return (← namesIn path).isOk
  makeFolder path := attempt (IO.FS.createDir (pathString path))
  write path content := writeBytes path content.utf8

def usage : String :=
  "Usage: umdsmith [OPTIONS] [FILE]...\n\n" ++
    "  -p, --project <FILE>       Path to umdsmith.yaml configuration file\n" ++
    "  -o, --out-file <FILE>      Output file\n" ++
    "      --out-dir <DIR>        Output directory; bundled packages are resolved from here\n" ++
    "      --core <FILE>          Core runtime library\n" ++
    "      --export-name <NAME>   Canonical export name\n" ++
    "      --alias <NAME>         Additional export name (repeatable)\n" ++
    "      --no-scope             Do not wrap each template in its own scope\n" ++
    "      --inline-source-map    Append an inline source map to the output\n" ++
    "      --core-options <JSON>  JSON passed to the runtime's setOptions\n" ++
    "      --bundler <CMD>        Bundler command used for CommonJS dependencies\n" ++
    "      --init                 Write a starter umdsmith.yaml\n" ++
    "  -h, --help                 Print help\n" ++
    "  -V, --version              Print version"

def versionText : String := "umdsmith 0.1.0"

def report (failure : Failure) : IO UInt32 := do
  match failure with
  | .refused .help => do
      IO.println usage
      return 0
  | .refused .version => do
      IO.println versionText
      return 0
  | failure => do
      IO.eprintln ("Error: " ++ String.ofList failure.message)
      for cause in failure.causes do
        IO.eprintln ("Caused by: " ++ String.ofList cause)
      return match failure with
        | .refused _ => 2
        | _ => 1

end UniversalModule

open UniversalModule in
def main (arguments : List String) : IO UInt32 := do
  match ← systemMachine.run (arguments.map String.toList) with
  | .ok () => return 0
  | .error failure => report failure
