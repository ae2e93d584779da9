import UniversalModule.CommandLine.Failure
import UniversalModule.CommandLine.Machine
import UniversalModule.Json.Reader
import UniversalModule.Project.Override
import UniversalModule.Project.Reading

/-!
A call of the program on a machine. The project file and the arguments give the options; the
templates are read and labelled by their places under the directory in which packages are
bundled; the module is written last, so that a call that fails before writes nothing.
-/

namespace UniversalModule.CommandLine

/-- The names that lead on from a base, as texts with separators between them. -/
def relativeTo (base place : Host.Location) : Option Text :=
  (List.isPrefixOf? base place).map fun rest => Text.joinWith ['/'] (rest.map Host.Name.text)

def Arguments.toOverride (arguments : Arguments) (coreOptions : Option Json.Value) : Override where
  filename := arguments.value? .outFile
  dirname := arguments.value? .outDir
  coreFilename := arguments.value? .core
  exportName := arguments.value? .exportName
  exportAliases := if arguments.aliases.isEmpty then none else some arguments.aliases
  scopeTemplates := if arguments.has .noScope then some false else none
  sourceMap := if arguments.has .inlineSourceMap then some true else none
  coreOptions := coreOptions
  bundler := arguments.value? .bundler

def Arguments.coreOptions? (arguments : Arguments) : Except Failure (Option Json.Value) :=
  match arguments.value? .coreOptions with
  | none => .ok none
  | some text =>
      match Json.Value.ofText? text with
      | none => .error .coreOptionsNotJson
      | some value => .ok (some value)

variable {m : Type → Type} [Monad m] (machine : Machine m)

namespace Machine

def project (path : Path) : m (Except ProjectError Project) := do
  match ← machine.read path with
  | .error fault => return .error (.io fault)
  | .ok text =>
      match Project.ofText? text with
      | none => return .error .parse
      | some project => return .ok project

/-- The project of the file that is named, or of the usual one if it is there. -/
def baseProject (arguments : Arguments) : ExceptT Failure m Project := do
  match arguments.value? .project with
  | some named => ExceptT.adapt (Failure.loadProject ⟨named⟩) (ExceptT.mk (machine.project ⟨named⟩))
  | none =>
      if ← machine.isThere projectFile then
        ExceptT.adapt (Failure.loadProject projectFile) (ExceptT.mk (machine.project projectFile))
      else return Project.default

/-- The project with what the arguments say in place of it. -/
def effectiveProject (arguments : Arguments) : ExceptT Failure m Project := do
  let project ← machine.baseProject arguments
  let coreOptions ← (arguments.coreOptions? : Except Failure (Option Json.Value))
  return project.merge (arguments.toOverride coreOptions)

/-- Where a template is under a directory, if both are there. -/
def labelOf (base path : Path) : m (Option Text) := do
  match ← machine.canonical? path with
  | none => return none
  | some place =>
      match ← machine.canonical? base with
      | none => return none
      | some base => return relativeTo base place

def fragment (base path : Path) : ExceptT Failure m Fragment := do
  let content ← ExceptT.adapt (Failure.read path) (ExceptT.mk (machine.read path))
  let relative ← (machine.labelOf base path : m (Option Text))
  return { path, relative, content := unwrapTemplate content }

def supplies (bundler : Text) : Supplies m where
  read := machine.read
  bundle := machine.bundle bundler

/-- Writes the module, after the folder in which it is to be. -/
def writeOutput (path : Path) (code : Text) : ExceptT Failure m Unit := do
  match path.parent? with
  | none => pure ()
  | some parent =>
      if parent.isEmpty then pure ()
      else ExceptT.adapt (Failure.create parent) (ExceptT.mk (machine.makeFolders parent))
  ExceptT.adapt (Failure.write path) (ExceptT.mk (machine.write path code))

/-- Compiles templates and writes the module. -/
def build (project : Project) (files : List Path) : ExceptT Failure m Unit := do
  let options ← ExceptT.adapt Failure.compile (ExceptT.mk (pure project.toOptions))
  let outputFile ← ExceptT.adapt Failure.compile (ExceptT.mk (pure options.validate))
  let fragments ← files.mapM (machine.fragment options.bundleDir)
  let output ←
    ExceptT.adapt Failure.compile
      (ExceptT.mk (project.compile (machine.supplies project.bundler) .coreFirst fragments))
  machine.writeOutput outputFile output.code

/-- Writes a project file where there is none. -/
def initialise : ExceptT Failure m Unit := do
  if ← machine.isThere projectFile then throw .projectFileExists
  else ExceptT.adapt (Failure.write projectFile) (ExceptT.mk (machine.write projectFile starterText))

def act (arguments : Arguments) : ExceptT Failure m Unit := do
  if arguments.has .init then machine.initialise
  else
    let project ← machine.effectiveProject arguments
    if arguments.files.isEmpty then throw .noInput
    else machine.build project arguments.files

/-- A call of the program with the texts of its arguments. -/
def run (texts : List Text) : m (Except Failure Unit) :=
  match Arguments.ofTexts texts with
  | .error refusal => pure (.error (.refused refusal))
  | .ok arguments => (machine.act arguments).run

end Machine

end UniversalModule.CommandLine
