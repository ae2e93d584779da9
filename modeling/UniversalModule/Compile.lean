import UniversalModule.Emission.Module
import UniversalModule.Fragment

/-!
A compilation takes two things from outside, each at most once: the core's text, and the bundle
when a package is needed. Options are checked before either. Both are always asked for, in either
order, and the failure of the core is told before that of the bundle.
-/

namespace UniversalModule

structure Output where
  code : Text
  sourceMap : Option SourceMap
deriving DecidableEq

/-- The module with its source map, if one is wanted. The map is also the module's last line. -/
def emit (options : Options) (outputFile : Path) (core : Source) (fragments : List Fragment)
    (bundle : Option Text) : Output :=
  let sources := fragments.map fun fragment => ⟨fragment.label, fragment.content⟩
  let steps := Emission.moduleSteps options core sources bundle
  let code := Emission.render 0 steps
  if options.sourceMap then
    let builder := { SourceMap.Builder.empty with file := outputFile.fileName? }
    let map := (Emission.track 0 builder steps).build
    ⟨code ++ map.comment ++ ['\n'], some map⟩
  else ⟨code, none⟩

structure Supplies (m : Type → Type) where
  read : Path → m (Except IoFault Text)
  bundle : Path → List Text → m (Except BundleError Text)

inductive Schedule where
  | coreFirst
  | bundleFirst
deriving DecidableEq

namespace Compile

variable {m : Type → Type} [Monad m]

/-- The bundle of the packages, when there are any. -/
def obtainBundle (supplies : Supplies m) (options : Options) :
    m (Except BundleError (Option Text)) :=
  match Resolution.bundledPackages options.requires with
  | [] => pure (.ok none)
  | packages => do
      let answer ← supplies.bundle options.bundleDir packages
      return answer.map some

/-- The core's text and the bundle, asked for in the given order. -/
def obtain (supplies : Supplies m) (schedule : Schedule) (options : Options) :
    m (Except IoFault Text × Except BundleError (Option Text)) :=
  match schedule with
  | .coreFirst => do
      let core ← supplies.read options.coreFilename
      let bundle ← obtainBundle supplies options
      return (core, bundle)
  | .bundleFirst => do
      let bundle ← obtainBundle supplies options
      let core ← supplies.read options.coreFilename
      return (core, bundle)

/-- The module of what was obtained; the core's failure comes first. -/
def finish (options : Options) (outputFile : Path) (fragments : List Fragment)
    (core : Except IoFault Text) (bundle : Except BundleError (Option Text)) :
    Except CompileError Output :=
  match core, bundle with
  | .error fault, _ => .error (.coreLoad options.coreFilename fault)
  | .ok _, .error error => .error (.bundle error)
  | .ok content, .ok bundle =>
      .ok (emit options outputFile ⟨options.coreFilename.text, content⟩ fragments bundle)

end Compile

/-- Merges the core and the fragments into one module. -/
def compile {m : Type → Type} [Monad m] (supplies : Supplies m) (schedule : Schedule)
    (options : Options) (fragments : List Fragment) : m (Except CompileError Output) :=
  match options.validate with
  | .error error => pure (.error error)
  | .ok outputFile => do
      let (core, bundle) ← Compile.obtain supplies schedule options
      return Compile.finish options outputFile fragments core bundle

end UniversalModule
