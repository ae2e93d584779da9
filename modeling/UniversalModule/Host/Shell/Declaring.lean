import UniversalModule.Host.Shell.Format
import UniversalModule.Host.Shell.Redirecting

/-!
Names that are exported, fixed, kept inside a function or taken away.
-/

namespace UniversalModule.Host.Shell

variable {m : Type → Type} [Monad m] (setting : Setting m)

structure Declaring where
  command : Text
  exports : Bool
  fixes : Bool
  /-- Whether the names are those of the function alone. -/
  shadows : Bool
  isRow : Bool
  isNamedRow : Bool
  integer : Bool

/-- Treats one name, with the value that may follow it. -/
def declareName (declaring : Declaring) (word : Text) (state : State) : m State := do
  let name := word.takeWhile (· != '=')
  let (appends, name) :=
    if setting.variety = .bash ∧ name.getLast? = some '+' ∧ word ≠ name then (true, name.dropLast)
    else (false, name)
  if isName name = false then
    match setting.variety with
    | .dash => setting.finish (declaring.command ++ ": " ++ name ++ ": bad variable name") state
    | .bash =>
        setting.complain (declaring.command ++ ": \x60" ++ word ++ "': not a valid identifier") 1 state
  else if state.isFixed name ∧ word.contains '=' then setting.refuse (declaring.command ++ ": ") name state
  else
    let state := if declaring.shadows then state.shadow name else state
    let state ←
      match word.dropWhile (· != '=') with
      | [] =>
          if declaring.isRow ∧ (state.rows.get? name).isNone then
            pure (state.setRow name ⟨declaring.isNamedRow, state.items name⟩)
          else if declaring.shadows ∧ setting.variety = .bash then
            pure { state with values := state.values.filter fun entry => entry.1 != name }
          else pure state
      | _ :: value =>
          if declaring.integer then do
            let (number, state) ← evaluateNumber setting value state
            pure (state.setVariable name (Arithmetic.textOf (number.getD 0)))
          else if appends then
            setting.give [] name ((state.value? [] name).getD [] ++ value) state
          else setting.give (declaring.command ++ ": ") name value state
    let state := if declaring.exports then state.exportName name else state
    return if declaring.fixes ∧ state.isFixed name = false then
        { state with fixed := state.fixed ++ [name] }
      else state

/-- Tells the names that a command has treated, with their values. -/
def tellNames (command : Text) (names : List Text) (state : State) : m State := do
  let lines := (names.mergeSort notAfter).map fun name =>
    let value := state.values.get? name
    match setting.variety with
    | .dash => command ++ ' ' :: name ++ (value.map fun value => '=' :: toldValue value).getD []
    | .bash =>
        "declare -" ++ (if command = "export".toList then ['x'] else ['r']) ++ ' ' :: name ++
          (value.map fun value => "=\"" ++ value ++ ['"']).getD []
  return (← setting.emitText (lines.flatMap (· ++ ['\n'])) state).withStatus 0

def runDeclare (command : Text) (words : List Text) (state : State) : m State := do
  let isOption (word : Text) : Bool :=
    (word.head? == some '-' || (word.head? == some '+' && setting.variety == .bash)) && word.length != 1
  let letters := (words.takeWhile isOption).flatten
  let names := (words.dropWhile isOption).filter (· != ['-'])
  let is (text : Text) : Bool := command == text
  let declares := is "declare" || is "typeset"
  let declaring : Declaring := {
    command
    exports := is "export" || (declares && letters.contains 'x')
    fixes := is "readonly" || letters.contains 'r'
    shadows := is "local" || (declares && !letters.contains 'g')
    isRow := letters.contains 'a' || letters.contains 'A'
    isNamedRow := letters.contains 'A'
    integer := letters.contains 'i' }
  let known : Text := match setting.variety with
    | .dash => if is "export" ∨ is "readonly" then "-p" else []
    | .bash => if is "export" then "-fnp" else if is "readonly" then "-aAfp" else "-+aAfFgiIlnprtux"
  let unknown := if setting.variety = .dash ∧ is "local" then none
    else letters.find? fun letter => !known.contains letter
  if let some letter := unknown then
    let usage : Text :=
      if is "export" then "export: usage: export [-fn] [name[=value] ...] or export -p"
      else if is "readonly" then "readonly: usage: readonly [-aAf] [name[=value] ...] or readonly -p"
      else command ++ ": usage: " ++ command ++ " [-aAfFgiIlnrtux] [name[=value] ...]"
    setting.refuseLetter command letter usage state
  else if is "local" ∧ state.shadowed.isNone then
    match setting.variety with
    | .dash => setting.finish "local: not in a function" state
    | .bash => setting.complain "local: can only be used in a function" 1 state
  else if names.isEmpty then
    if is "export" then tellNames setting command state.exported state
    else if is "readonly" then tellNames setting command state.fixed state
    else return state.withStatus 0
  else names.foldlM (fun state name => declareName setting declaring name state) (state.withStatus 0)

def unsetName (state : State) (name : Text) : m State := do
  match setting.variety, name.dropWhile (· != '[') with
  | .bash, _ :: inside =>
      let name := name.takeWhile (· != '[')
      let index := inside.takeWhile (· != ']')
      match state.rows.get? name with
      | some ⟨true, _⟩ => return state.unsetItem name index
      | _ => do
          let (value, state) ← evaluateNumber setting index state
          return state.unsetItem name (Arithmetic.textOf (value.getD 0))
  | variety, _ =>
      if state.isFixed name then
        match variety with
        | .dash => setting.finish ("unset: " ++ name ++ ": is read only") state
        | .bash => setting.complain ("unset: " ++ name ++ ": cannot unset: readonly variable") 1 state
      else if isName name = false then
        match variety with
        | .dash => setting.finish ("unset: " ++ name ++ ": bad variable name") state
        | .bash => setting.complain ("unset: \x60" ++ name ++ "': not a valid identifier") 1 state
      else if (state.value? [] name).isNone ∧ (state.functions.get? name).isSome ∧ variety = .bash then
        return { state with functions := state.functions.filter fun entry => entry.1 != name }
      else return (← setting.give "unset: " name [] state).unset name

def runUnset (words : List Text) (state : State) : m State := do
  match words with
  | ['-', 'f'] :: names =>
      return { state with
        functions := state.functions.filter fun entry => !names.contains entry.1
        status := 0 }
  | ['-', 'v'] :: names => names.foldlM (unsetName setting) (state.withStatus 0)
  | names => names.foldlM (unsetName setting) (state.withStatus 0)

end UniversalModule.Host.Shell
