import UniversalModule.Compile
import UniversalModule.Dependencies
import UniversalModule.Host.Bundler
import UniversalModule.Json.Writer

/-!
Projects: what a project file says about a compilation. Names and paths are taken as they are
written; only the dependency entries are checked when options are made of a project.
-/

namespace UniversalModule

structure Project where
  filename : Option Text
  dirname : Option Text
  coreFilename : Option Text
  exportName : Text
  runtimeVar : Text
  exportAliases : List Text
  scopeTemplates : Bool
  sourceMap : Bool
  coreOptions : Json.Value
  requires : Dependencies
  /-- The command that bundles packages. -/
  bundler : Text

namespace Project

def default : Project where
  filename := none
  dirname := none
  coreFilename := none
  exportName := defaultExportName
  runtimeVar := defaultRuntimeVar
  exportAliases := []
  scopeTemplates := true
  sourceMap := false
  coreOptions := .emptyObject
  requires := .empty
  bundler := Host.Command.defaultBundler

def toOptions (project : Project) : Except CompileError Options := do
  let requires ← project.requires.requirements
  return {
    filename := project.filename.map Path.mk
    dirname := project.dirname.map Path.mk
    coreFilename := ⟨project.coreFilename.getD []⟩
    exportName := project.exportName
    runtimeVar := project.runtimeVar
    exportAliases := project.exportAliases
    scopeTemplates := project.scopeTemplates
    sourceMap := project.sourceMap
    coreOptions := project.coreOptions
    requires }

/-- Compiles fragments with the options of a project. -/
def compile {m : Type → Type} [Monad m] (supplies : Supplies m) (schedule : Schedule)
    (project : Project) (fragments : List Fragment) : m (Except CompileError Output) :=
  match project.toOptions with
  | .error error => pure (.error error)
  | .ok options => UniversalModule.compile supplies schedule options fragments

end Project

namespace ProjectKey

def options : Text := "compilerOptions"

def filename : Text := "filename"

def dirname : Text := "dirname"

def coreFilename : Text := "coreFilename"

def exportName : Text := "exportName"

def runtimeVar : Text := "runtimeVar"

def exportAliases : Text := "exportAliases"

def scopeTemplates : Text := "scopeTemplates"

def sourceMap : Text := "sourceMap"

def coreOptions : Text := "coreOptions"

def requires : Text := "requires"

def bundler : Text := "bundler"

def globals : Text := "globals"

def commonJs : Text := "commonJS"

def ym : Text := "ym"

def known : List Text :=
  [filename, dirname, coreFilename, exportName, runtimeVar, exportAliases, scopeTemplates,
    sourceMap, coreOptions, requires, bundler]

/-- The keys of a dependency entry; it may have no others. -/
def ofEntry : List Text := [globals, commonJs, ym]

end ProjectKey

open Json (Value)

def optionalText : Option Text → Value
  | none => .null
  | some text => .string text

namespace DependencyEntry

/-- The members of an entry; what is not set is left out. -/
def toJson (entry : DependencyEntry) : Value :=
  let member (key : Text) (text : Option Text) : List (Text × Value) :=
    text.toList.map fun text => (key, .string text)
  .object (member ProjectKey.globals entry.globals ++ member ProjectKey.commonJs entry.commonJs ++
    member ProjectKey.ym entry.ym)

end DependencyEntry

namespace Project

def optionsJson (project : Project) : Value :=
  .object [
    (ProjectKey.filename, optionalText project.filename),
    (ProjectKey.dirname, optionalText project.dirname),
    (ProjectKey.coreFilename, optionalText project.coreFilename),
    (ProjectKey.exportName, .string project.exportName),
    (ProjectKey.runtimeVar, .string project.runtimeVar),
    (ProjectKey.exportAliases, .array (project.exportAliases.map .string)),
    (ProjectKey.scopeTemplates, .boolean project.scopeTemplates),
    (ProjectKey.sourceMap, .boolean project.sourceMap),
    (ProjectKey.coreOptions, project.coreOptions),
    (ProjectKey.requires,
      .object (project.requires.entries.map fun (name, entry) => (name, entry.toJson))),
    (ProjectKey.bundler, .string project.bundler)]

/-- A project as the keys and values of its file. -/
def toJson (project : Project) : Value := .object [(ProjectKey.options, project.optionsJson)]

end Project

end UniversalModule
