import UniversalModule.Text.Blank

/-!
Ways of getting a dependency at run time, and the ways that a module takes when it is loaded as a
named module, as a CommonJS module or as a plain script.
-/

namespace UniversalModule

inductive Provider where
  /-- A package that is bundled with the module. -/
  | bundled (package : Text)
  /-- A module of the named-module system. -/
  | named (module : Text)
  /-- A value at a path on the ambient object. -/
  | global (segments : List Text)
deriving DecidableEq

namespace Provider

inductive Kind where
  | bundled
  | named
  | global
deriving DecidableEq

/-- The key under which a project file gives the kind. -/
def Kind.key : Kind → Text
  | .bundled => "commonJS"
  | .named => "ym"
  | .global => "globals"

def kind : Provider → Kind
  | .bundled _ => .bundled
  | .named _ => .named
  | .global _ => .global

/-- A blank name, or a path without segments or with an empty one. -/
def isVoid : Provider → Bool
  | .bundled package => package.allBlank
  | .named module => module.allBlank
  | .global segments => segments.isEmpty || segments.any (·.isEmpty)

end Provider

inductive Branch where
  | namedModule
  | commonJs
  | plain
deriving DecidableEq

namespace Branch

/-- The kinds that are looked for in a branch, the preferred one first. A module system prefers
its own kind, a plain script the ambient object. -/
def preference : Branch → List Provider.Kind
  | .namedModule => [.named, .global]
  | .commonJs => [.bundled, .global]
  | .plain => [.global, .bundled]

def select (branch : Branch) (providers : List Provider) : Option Provider :=
  branch.preference.findSome? fun wanted => providers.find? (·.kind == wanted)

end Branch

end UniversalModule
