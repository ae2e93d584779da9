import UniversalModule.Proofs.Compile.Requests
import UniversalModule.Proofs.Emission.Parts
import UniversalModule.Proofs.Resolution.Bundling
import UniversalModule.Proofs.Resolution.Providers
import UniversalModule.Proofs.Resolution.Statements

/-!
The bundle and its users. Statements of the CommonJS branch and of a plain script take packages
from the bundle; all these packages are asked of the bundler, and the bundle stands in the module,
before the branches, exactly when there are such statements.
-/

namespace UniversalModule

open Emission (Step assignmentLines moduleSteps render)

section Statements

open Resolution

variable {options : Options} {branch : Branch} {package : Text}

end Statements

namespace Emission

def beforeBundle (options : Options) (core : Source) (fragments : List Source) : List Step :=
  [.line "(function (global) \x7b"] ++ coreBlock core ++ setup options ++
    initRoutine options.scopeTemplates fragments ++ [.line ("var " ++ flagName ++ " = true;")]

def afterBundle (options : Options) : List Step :=
  namedModuleBranch options ++ commonJsBranch options ++ plainBranch options ++
    [.line "\x7d)(typeof window !== \"undefined\" ? window : global);"]

theorem moduleSteps_eq_around (options : Options) (core : Source) (fragments : List Source)
    (bundle : Option Text) :
    moduleSteps options core fragments bundle =
      beforeBundle options core fragments ++ bundlePart bundle ++ afterBundle options := by
  simp only [moduleSteps, exportsPart_eq, beforeBundle, afterBundle, List.append_assoc]

end Emission

namespace Surroundings

variable {surroundings : Surroundings} {options : Options} {asked : List Request}

end Surroundings

def Surroundings.ofTexts (core bundle : Text) : Surroundings where
  read _ _ := .ok core
  bundle _ _ _ := .ok bundle

end UniversalModule
