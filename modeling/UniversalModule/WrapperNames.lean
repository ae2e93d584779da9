import UniversalModule.Text.Basic

/-!
The names that an emitted module binds around the embedded texts or takes from its surroundings.
-/

namespace UniversalModule

def globalName : Text := "global"

/-- The function that hands out bundled packages. -/
def requireName : Text := "__umdRequire"

def initName : Text := "__umdInit"

/-- The flag that is taken down once a module system has the runtime. -/
def flagName : Text := "__umdDefineAsGlobal"

/-- The first parameter of a named module's handler. -/
def provideName : Text := "provide"

def wrapperNames : List Text :=
  [globalName, requireName, initName, flagName, "modules", "module", "exports", "require",
    provideName]

def parameterStart : Text := "__dep"

/-- The parameter that carries the value of the named module with the given index. -/
def parameterName (index : Nat) : Text := parameterStart ++ Text.ofNat index

/-- The shape of a parameter's name: digits after the common start, with zeros in front or not. -/
def isParameterName (name : Text) : Bool :=
  match Text.after? parameterStart name with
  | none => false
  | some digits => !digits.isEmpty && digits.all Char.isDigit

end UniversalModule
