import UniversalModule.Json.Writer
import UniversalModule.Requirement
import UniversalModule.Text.Lines
import UniversalModule.WrapperNames

/-!
Where the value of each requirement comes from in a branch, and the statements that put it under
the requirement's name into the runtime's library. Statements stand in the order in which the
requirements are declared.
-/

namespace UniversalModule

inductive Access where
  | global (segments : List Text)
  | bundled (package : Text)
  | parameter (index : Nat)
deriving DecidableEq

/-- An expression followed by a subscript for each segment. -/
def subscriptChain (root : Text) (segments : List Text) : Text :=
  root ++ segments.flatMap fun segment => '[' :: (Json.stringLiteral segment ++ [']'])

def Access.render : Access → Text
  | .global segments => subscriptChain globalName segments
  | .bundled package => requireName ++ '(' :: (Json.stringLiteral package ++ [')'])
  | .parameter index => parameterName index

/-- A value that is put into the runtime's library. -/
structure Assignment where
  name : Text
  value : Access
deriving DecidableEq

/-- The statement of an assignment, on a single line. -/
def Assignment.render (runtime : Text) (assignment : Assignment) : Text :=
  runtime ++ ".lib[" ++ Json.stringLiteral assignment.name ++ "] = " ++ assignment.value.render ++ ";"

namespace Resolution

/-- The requirements that come as named modules, with these modules. -/
def namedModules (requires : List Requirement) : List (Text × Text) :=
  requires.filterMap fun requirement =>
    match Branch.namedModule.select requirement.providers with
    | some (.named module) => some (requirement.name, module)
    | _ => none

/-- The index of the parameter that carries the named module of a requirement. -/
def parameterIndex? (requires : List Requirement) (name : Text) : Option Nat :=
  (namedModules requires).findIdx? (·.1 == name)

/-- Where a branch gets the value of a requirement. -/
def access? (requires : List Requirement) (branch : Branch) (requirement : Requirement) :
    Option Access :=
  match branch.select requirement.providers with
  | some (.global segments) => some (.global segments)
  | some (.bundled package) => some (.bundled package)
  | some (.named _) => (parameterIndex? requires requirement.name).map .parameter
  | none => none

/-- One assignment for each requirement that has a provider in the branch. -/
def assignments (requires : List Requirement) (branch : Branch) : List Assignment :=
  requires.filterMap fun requirement =>
    (access? requires branch requirement).map (Assignment.mk requirement.name)

/-- The packages that are bundled, in the order in which they are first needed. -/
def bundledPackages (requires : List Requirement) : List Text :=
  (requires.filterMap fun requirement =>
    match Branch.commonJs.select requirement.providers with
    | some (.bundled package) => some package
    | _ => none).eraseDups

end Resolution

/-- A bundle in a scope of its own, which gives back the function that hands out its packages. -/
def wrapBundle (bundle : Text) : Text :=
  "var " ++ requireName ++ " = (function () \x7b\n" ++ "var require;\n" ++ bundle.closed ++
    "return require;\n" ++ "\x7d)();\n"

end UniversalModule
