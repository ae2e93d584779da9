import UniversalModule.Host.Shell.Format
import UniversalModule.Host.Shell.Redirecting

/-!
The flags and arguments that a script sets for itself.
-/

namespace UniversalModule.Host.Shell

variable {m : Type → Type} [Monad m] (setting : Setting m)

/-- How the value of a name is told where all names are. -/
def toldSetting (variety : Variety) (name value : Text) : Text :=
  name ++ '=' :: (match variety with
    | .dash => toldValue value
    | .bash => if value.isEmpty then [] else quotedText .program value) ++ ['\n']

def tellValues (state : State) : m State := do
  let values := state.values.mergeSort fun first second => notAfter first.1 second.1
  let text := values.flatMap fun (name, value) => toldSetting setting.variety name value
  return (← setting.emitText text state).withStatus 0

/-- Complains of a terminal that is asked for and is not there. -/
def missTerminal (old : Flags) (state : State) : m State := do
  match setting.variety, state.flags.has "monitor" && !old.has "monitor" with
  | .dash, true => do
      let state ← setting.complain "set: can't access tty; job control turned off" 0 state
      return { state with flags := old }
  | _, _ => return state

/-- Sets flags and arguments, as words say of which some came before. -/
def setFrom : List Text → State → m State
  | [], state => return state.withStatus 0
  | word :: words, state => do
      let refuse (dashText bashText : Text) : m State :=
        match setting.variety with
        | .dash => setting.finish ("set: Illegal option " ++ dashText) state
        | .bash => setting.complain ("set: " ++ bashText) 2 state
      match word with
      | ['-', '-'] => return { state with arguments := words, status := 0 }
      | ['-'] =>
          return { state with
            arguments := if words.isEmpty then state.arguments else words
            flags := (state.flags.put false 'x').getD state.flags
            status := 0 }
      | sign :: letters =>
          let refuseLetter (letter : Char) : m State := do
            let refused ← refuse [sign, letter] ([sign, letter] ++ ": invalid option")
            match setting.variety with
            | .dash => return refused
            | .bash =>
                setting.tellUsage "set: usage: set [-abefhkmnptuvxBCEHPT] [-o option-name] [--] [-] [arg ...]" refused
          if (sign = '-' ∨ sign = '+') ∧ letters.isEmpty = false then
            let value := sign == '-'
            if letters.getLast? = some 'o' then
              match words, state.flags.putAll value letters.dropLast with
              | _, .error letter => refuseLetter letter
              | [], .ok flags =>
                  return (← setting.emitText (flags.told (!value)) { state with flags }).withStatus 0
              | name :: rest, .ok flags =>
                  match flags.putNamed value name with
                  | some flags => setFrom rest { state with flags }
                  | none => refuse ("-o " ++ name) (name ++ ": invalid option name")
            else
              match state.flags.putAll value letters with
              | .ok flags => setFrom words { state with flags }
              | .error letter => refuseLetter letter
          else return { state with arguments := word :: words, status := 0 }
      | [] => return { state with arguments := word :: words, status := 0 }

structure HabitChange where
  /-- Whether habits are taken on or given up; without either, they are told. -/
  value : Option Bool
  isQuiet : Bool
  /-- Whether they are told as commands. -/
  asCommands : Bool
  /-- Whether flags are meant instead. -/
  onFlags : Bool

def habitChange (letters : Text) : Except Char HabitChange :=
  letters.foldlM (fun change letter =>
    match letter with
    | 's' => .ok { change with value := some true }
    | 'u' => .ok { change with value := some false }
    | 'q' => .ok { change with isQuiet := true }
    | 'p' => .ok { change with asCommands := true }
    | 'o' => .ok { change with onFlags := true }
    | letter => .error letter) ⟨none, false, false, false⟩

/-- Whether a state has a habit or a flag, if there is one of that name. -/
def habit? (change : HabitChange) (state : State) (name : Text) : Option Bool :=
  if change.onFlags then (state.flags.putNamed true name).map fun _ => state.flags.has name
  else if habitNames.contains name then some (state.hasHabit name)
  else none

def putHabit (change : HabitChange) (value : Bool) (state : State) (name : Text) : State :=
  if change.onFlags then { state with flags := (state.flags.putNamed value name).getD state.flags }
  else
    let others := state.habits.filter (· != name)
    { state with habits := if value then name :: others else others }

def habitLine (change : HabitChange) (name : Text) (has : Bool) : Text :=
  if change.asCommands then
    let start : Text := if change.onFlags then (if has then "set -o " else "set +o ")
      else (if has then "shopt -s " else "shopt -u ")
    start ++ name ++ ['\n']
  else
    let state : Text := if has then "on\n" else "off\n"
    name ++ List.replicate (15 - name.length) ' ' ++ '\t' :: state

def runHabits (words : List Text) (state : State) : m State := do
  let isOption (word : Text) : Bool := word.head? == some '-' && 1 < word.length
  let names := words.dropWhile isOption
  match habitChange ((words.takeWhile isOption).flatMap List.tail) with
  | .error letter =>
      setting.refuseLetter "shopt" letter "shopt: usage: shopt [-pqsu] [-o] [optname ...]" state
  | .ok change =>
      if names.isEmpty then
        let all := if change.onFlags then (flagTable setting.variety).map Prod.fst else habitNames
        let told := all.flatMap fun name =>
          let has := (habit? change state name).getD false
          if change.value.all (· == has) then habitLine change name has else []
        return (← setting.emitText told state).withStatus 0
      else
        names.foldlM (fun state name => do
          match habit? change state name, change.value with
          | none, _ =>
              let kind : Text := if change.onFlags then ": invalid option name" else ": invalid shell option name"
              setting.complain ("shopt: " ++ name ++ kind) 1 state
          | some _, some value => return putHabit change value state name
          | some has, none =>
              let told ← if change.isQuiet then pure state else setting.emitText (habitLine change name has) state
              return if has then told else told.withStatus 1) (state.withStatus 0)

def runSet (words : List Text) (state : State) : m State := do
  if words.isEmpty then tellValues setting state
  else missTerminal setting state.flags (← setFrom setting words state)

end UniversalModule.Host.Shell
