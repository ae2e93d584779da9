import UniversalModule.Host.Shell.Format
import UniversalModule.Host.Shell.Reader
import UniversalModule.Host.Shell.Redirecting

/-!
Words that stand for others at the beginning of a command. A line is read with those that were set
before it; none of them stands for itself inside what it stands for.
-/

namespace UniversalModule.Host.Shell

structure Position where
  /-- Whether a command may begin. -/
  atCommand : Bool
  /-- Whether the target of a redirection comes next. -/
  atTarget : Bool

namespace Position

def after (position : Position) : Token → Position
  | .newline => ⟨true, false⟩
  | .operator _ => ⟨true, false⟩
  | .redirect _ _ => { position with atTarget := true }
  | .document _ => position
  | .word word =>
      if position.atTarget then { position with atTarget := false }
      else
        let opens := (plain? word).any Scan.openingWords.contains || (assignment? .dash word).isSome
        ⟨position.atCommand && opens, false⟩
  | _ => ⟨false, false⟩

end Position

/-- What a word stands for at a position: its name, and the tokens in place of it. -/
def replacement? (variety : Variety) (aliases : Keyed Text Text) (position : Position) (placed : Placed) :
    Option (Text × Text × List Placed) := do
  guard (position.atCommand && !position.atTarget)
  let .word word := placed.token | none
  let name ← plain? word
  guard (!(reservedWords variety).contains name)
  let text ← aliases.get? name
  let tokens := (tokensFrom variety placed.line text).dropLast
  guard (tokens.all fun inner =>
    match inner.token with
    | .fault _ => false
    | .newline => false
    | _ => true)
  some (name, text, tokens)

/-- Tokens with what they stand for in place of them, as deep as is allowed, and the position behind
them. -/
def expandAliases (variety : Variety) :
    Nat → Keyed Text Text → Position → List Placed → List Placed × Position
  | _, _, position, [] => ([], position)
  | depth, aliases, position, placed :: rest =>
      match depth, replacement? variety aliases position placed with
      | depth + 1, some (name, text, tokens) =>
          let others := aliases.filter fun entry => entry.1 != name
          let (inner, reached) := expandAliases variety depth others position tokens
          let goesOn := text.getLast? == some ' ' || text.getLast? == some '\t'
          let (behind, last) :=
            expandAliases variety (depth + 1) aliases { reached with atCommand := goesOn || reached.atCommand } rest
          (inner ++ behind, last)
      | depth, _ =>
          let (behind, last) := expandAliases variety depth aliases (position.after placed.token) rest
          (placed :: behind, last)
  termination_by depth _ _ tokens => (depth, tokens.length)

def behindLines : Nat → List Placed → List Placed
  | 0, tokens => tokens
  | _ + 1, [] => []
  | lines + 1, placed :: rest => behindLines (if placed.token = .newline then lines else lines + 1) rest

def lineEnds (tokens : List Placed) : Nat := (tokens.filter fun placed => placed.token == .newline).length

/-- The next command line of a script in which words stand for others, or none at its end. -/
def nextAliasedLine (variety : Variety) (aliases : Keyed Text Text) (tokens : List Placed) :
    Except ReadFault (Option (Command × List Placed)) := do
  if aliases.isEmpty then nextLine variety tokens
  else
    let (shown, _) := expandAliases variety aliases.length aliases ⟨true, false⟩ tokens
    match ← nextLine variety shown with
    | none => return none
    | some (command, rest) =>
        return some (command, if atFinish rest then rest else behindLines (lineEnds tokens - lineEnds rest) tokens)

variable {m : Type → Type} [Monad m] (setting : Setting m)

def expandsAliases (variety : Variety) (state : State) : Bool :=
  match variety with
  | .dash => true
  | .bash => state.hasHabit "expand_aliases"

def aliasText (variety : Variety) (name text : Text) : Text :=
  match variety with
  | .dash => name ++ '=' :: toldValue text
  | .bash => "alias " ++ name ++ '=' :: toldValue text

def tellAliases (state : State) : m State := do
  let isBefore (first second : Text × Text) : Bool :=
    match setting.variety with
    | .dash => State.placeOf first.1 ≤ State.placeOf second.1
    | .bash => notAfter first.1 second.1
  let lines := (state.aliases.mergeSort isBefore).flatMap fun (name, text) =>
    aliasText setting.variety name text ++ ['\n']
  return (← setting.emitText lines state).withStatus 0

def missAlias (command name : Text) (state : State) : m State := do
  match setting.variety with
  | .dash => return (← setting.emit 2 (Text.utf8 (command ++ ": " ++ name ++ " not found\n")) state).withStatus 1
  | .bash => setting.complain (command ++ ": " ++ name ++ ": not found") 1 state

/-- Lets words stand for others, or tells what they stand for. -/
def runAlias (words : List Text) (state : State) : m State := do
  match words, setting.variety with
  | [], _ => tellAliases setting state
  | ['-', 'p'] :: _, .bash => tellAliases setting state
  | words, _ =>
      words.foldlM (fun state word => do
        let name := word.take 1 ++ word.tail.takeWhile (· != '=')
        match word.drop name.length, state.aliases.get? name with
        | _ :: text, _ => return { state with aliases := state.aliases.put name text }
        | [], some text => do
            let told := aliasText setting.variety name text ++ ['\n']
            return (← setting.emitText told state).withStatus state.status
        | [], none => missAlias setting "alias" name state) (state.withStatus 0)

def runUnalias (words : List Text) (state : State) : m State := do
  match words, setting.variety with
  | [], .bash => setting.tellUsage "unalias: usage: unalias [-a] name [name ...]" state
  | ['-', 'a'] :: _, _ => return { state with aliases := [], status := 0 }
  | ('-' :: letter :: _) :: _, _ =>
      setting.refuseLetter "unalias" letter "unalias: usage: unalias [-a] name [name ...]" state
  | words, _ =>
      words.foldlM (fun state name => do
        if (state.aliases.get? name).isNone then missAlias setting "unalias" name state
        else return { state with aliases := state.aliases.filter fun entry => entry.1 != name })
        (state.withStatus 0)

end UniversalModule.Host.Shell
