import UniversalModule.Emission.Step
import UniversalModule.Options
import UniversalModule.Resolution

/-!
The steps of an emitted module: the core, the runtime's set-up, the routine that runs the
fragments, and the three branches that hand the runtime to a named-module system, to CommonJS or
to the ambient object.
-/

namespace UniversalModule.Emission

/-- A label on a single line, whatever takes a character for a line end. -/
def flatLabel (label : Text) : Text :=
  label.map fun c => if c = '\n' ∨ c = '\r' ∨ c = '\u2028' ∨ c = '\u2029' then ' ' else c

def beginStart : Text := "// begin: "

def endStart : Text := "// end: "

/-- A source between its two markers, with the given steps around it. -/
def marked (label : Text) (steps : List Step) : List Step :=
  .line (beginStart ++ flatLabel label) :: (steps ++ [.line (endStart ++ flatLabel label)])

def coreBlock (core : Source) : List Step := marked core.label [.embed core]

def setup (options : Options) : List Step :=
  let runtime := options.runtimeVar
  [.line ("var " ++ runtime ++ " = new " ++ options.exportName ++ "();"),
    .line (runtime ++ ".setOptions(" ++ options.coreOptions.literal ++ ");"),
    .line (runtime ++ ".lib = " ++ runtime ++ ".lib || \x7b\x7d;")]

def fragmentBlock (isolated : Bool) (fragment : Source) : List Step :=
  marked fragment.label
    (if isolated then [.line "(function () \x7b", .embed fragment, .line "\x7d)();"]
      else [.embed fragment])

def initRoutine (isolated : Bool) (fragments : List Source) : List Step :=
  .line ("var " ++ initName ++ " = function () \x7b") ::
    (fragments.flatMap (fragmentBlock isolated) ++ [.line "\x7d;"])

def assignmentLines (options : Options) (branch : Branch) : List Step :=
  (Resolution.assignments options.requires branch).map fun assignment =>
    .line (assignment.render options.runtimeVar)

def callInit : Step := .line (initName ++ "();")

def lowerFlag : Step := .line (flagName ++ " = false;")

/-- The definition of a named module: its name, what it depends on and its handler. -/
def definition (name : Text) (modules parameters : List Text) (handler : List Step) : List Step :=
  .line ("modules.define(" ++ Json.stringLiteral name ++ ", [" ++
      Text.joinWith ", " (modules.map Json.stringLiteral) ++ "], function (" ++
      Text.joinWith ", " (provideName :: parameters) ++ ") \x7b") ::
    .indent :: (handler ++ [.outdent, .line "\x7d);"])

def parameterNames (count : Nat) : List Text := (List.range count).map parameterName

def namedModuleBranch (options : Options) : List Step :=
  let modules := (Resolution.namedModules options.requires).map Prod.snd
  [.line "if (typeof modules === \"object\") \x7b", .indent] ++
    definition options.exportName modules (parameterNames modules.length)
      (assignmentLines options .namedModule ++
        [callInit, .line (provideName ++ "(" ++ options.runtimeVar ++ ");")]) ++
    options.effectiveAliases.flatMap (fun name =>
      definition name [options.exportName] ["runtime"] [.line (provideName ++ "(runtime);")]) ++
    [lowerFlag, .outdent]

def commonJsBranch (options : Options) : List Step :=
  let runtime := options.runtimeVar
  [.line "\x7d else if (typeof exports === \"object\") \x7b", .indent] ++
    assignmentLines options .commonJs ++ [callInit] ++
    options.effectiveAliases.map (fun name =>
      .line (subscriptChain runtime [name] ++ " = " ++ runtime ++ ";")) ++
    [.line ("module.exports = " ++ runtime ++ ";"), lowerFlag, .outdent, .line "\x7d"]

def plainBranch (options : Options) : List Step :=
  [.line ("if (" ++ flagName ++ ") \x7b"), .indent] ++ assignmentLines options .plain ++ [callInit] ++
    (options.exportName :: options.effectiveAliases).map (fun name =>
      .line (subscriptChain globalName [name] ++ " = " ++ options.runtimeVar ++ ";")) ++
    [.outdent, .line "\x7d"]

/-- The branches, after the bundle that two of them share. -/
def exportsPart (options : Options) (bundle : Option Text) : List Step :=
  [.line ("var " ++ flagName ++ " = true;")] ++
    (match bundle with
      | none => []
      | some bundle => [.splice (wrapBundle bundle)]) ++
    namedModuleBranch options ++ commonJsBranch options ++ plainBranch options

def moduleSteps (options : Options) (core : Source) (fragments : List Source)
    (bundle : Option Text) : List Step :=
  [.line "(function (global) \x7b"] ++ coreBlock core ++ setup options ++
    initRoutine options.scopeTemplates fragments ++ exportsPart options bundle ++
    [.line "\x7d)(typeof window !== \"undefined\" ? window : global);"]

end UniversalModule.Emission
