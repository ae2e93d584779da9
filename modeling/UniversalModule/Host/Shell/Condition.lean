import UniversalModule.Host.Regex.Reader
import UniversalModule.Host.Shell.Expansion
import UniversalModule.Host.Shell.Test

/-!
Conditions in double brackets. Their words are not split, and operators are known by how they are
written, so that what is put in is never taken for one.
-/

namespace UniversalModule.Host.Shell.Condition

variable {m : Type → Type} [Monad m]

/-- A condition that was read: whether it holds, the words behind it and the state; no truth when
the words are none. -/
abbrev Outcome := Option Bool × List Word × State

abbrev Reader (m : Type → Type) := List Word → State → m Outcome

/-- An expression in which what is quoted stands for itself. -/
def expressionOf (pattern : Marked) : Text :=
  pattern.flatMap fun (c, quoted) =>
    if quoted && "\\.*[]^$+?()\x7b\x7d|".toList.contains c then ['\\', c] else [c]

/-- Whether an expression fits a text, and the groups of the fit. -/
def fitsExpression (text expression : Text) : Option (Option (List Text)) :=
  match Regex.read .extended expression with
  | .error _ => none
  | .ok regex =>
      let subject : Regex.Subject := ⟨text.toArray, false, false⟩
      some <| (regex.fitFrom? subject 0).map fun fit =>
        let last := fit.groups.foldl (fun last entry => max last entry.1) 0
        (List.range (last + 1)).map (fit.group subject)

def setTexts (state : State) (name : Text) (texts : List Text) : State :=
  state.setRow name ⟨false, texts.zipIdx.map fun (text, index) => (Text.ofNat index, text)⟩

def compare (setting : Setting m) (putIn : PutIn m) (operator : Text) (left : Text) (right : Word)
    (state : State) : m (Option Bool × State) := do
  let (pattern, state) ← expandPattern setting putIn right state
  let site : Test.Site m := ⟨setting.variety, setting.files, state.folder⟩
  if operator = "==".toList ∨ operator = ['='] then return (some (fits setting.variety pattern left), state)
  else if operator = "!=".toList then return (some (!fits setting.variety pattern left), state)
  else if operator = "=~".toList then
    match fitsExpression left (expressionOf pattern) with
    | none => return (none, state)
    | some none => return (some false, setTexts state "BASH_REMATCH" [])
    | some (some groups) => return (some true, setTexts state "BASH_REMATCH" groups)
  else if Test.numberOperators.contains operator then
    let (first, state) ← evaluateNumber setting left state
    let (second, state) ← evaluateNumber setting pattern.text state
    return (some (Test.compareNumbers operator (first.getD 0) (second.getD 0)), state)
  else if Test.fileOperators.contains operator then
    return (some (← Test.comparePaths site operator left pattern.text), state)
  else return ((Test.compare operator left pattern.text).toOption, state)

def operators : List Text :=
  ["==", "=", "!=", "=~", "<", ">", "-eq", "-ne", "-lt", "-le", "-gt", "-ge", "-nt", "-ot", "-ef"]

/-- Reads a condition that is joined to no other; `nested` reads what stands in brackets. -/
def readPrimary (setting : Setting m) (putIn : PutIn m) (nested : Reader m) : Reader m :=
  fun words state => do
    match words with
    | [] => return (none, [], state)
    | first :: rest =>
        if plain? first = some ['('] then
          let (truth, rest, state) ← nested rest state
          if (rest.head?.bind plain?) = some [')'] then return (truth, rest.tail, state)
          else return (none, rest, state)
        else
          match rest with
          | operator :: right :: others =>
              if (plain? operator).any operators.contains then
                let (left, state) ← expandText setting putIn first state
                let (truth, state) ← compare setting putIn ((plain? operator).getD []) left right state
                return (truth, others, state)
              else unaryOrText first rest state
          | _ => unaryOrText first rest state
where
  unaryOrText (first : Word) (rest : List Word) (state : State) : m Outcome := do
    match plain? first, rest with
    | some operator, operand :: others =>
        if operator = "-v".toList then
          let (name, state) ← expandText setting putIn operand state
          return (some (state.value? setting.script name).isSome, others, state)
        else if Test.unaryOperators.contains operator then
          let (text, state) ← expandText setting putIn operand state
          let site : Test.Site m := ⟨setting.variety, setting.files, state.folder⟩
          return (some (← Test.readUnary site operator text), others, state)
        else
          let (text, state) ← expandText setting putIn first state
          return (some (!text.isEmpty), rest, state)
    | _, _ =>
        let (text, state) ← expandText setting putIn first state
        return (some (!text.isEmpty), rest, state)

def readNegated (one : Reader m) : Nat → Reader m
  | 0, words, state => one words state
  | fuel + 1, words, state => do
      if (words.head?.bind plain?) = some ['!'] then
        let (truth, rest, state) ← readNegated one fuel words.tail state
        return (truth.map (!·), rest, state)
      else one words state

/-- Passes over the words of a condition whose outcome does not count. -/
def passOver : Nat → List Word → List Word
  | _, [] => []
  | depth, word :: words =>
      let text := (plain? word).getD []
      if text = ['('] then passOver (depth + 1) words
      else if text = [')'] then if depth = 0 then word :: words else passOver (depth - 1) words
      else if depth = 0 ∧ (text = "&&".toList ∨ text = "||".toList) then word :: words
      else passOver depth words

/-- Reads conditions between operators; one whose outcome would not count is passed over. -/
def readJoined (operator : Text) (decides : Bool) (one : Reader m) : Nat → Reader m
  | 0, words, state => one words state
  | fuel + 1, words, state => do
      let (truth, rest, state) ← one words state
      if (rest.head?.bind plain?) = some operator then
        match truth with
        | none => return (none, rest, state)
        | some truth =>
            if truth = decides then
              let (_, rest, state) ← skip fuel rest.tail state
              return (some truth, rest, state)
            else readJoined operator decides one fuel rest.tail state
      else return (truth, rest, state)
where
  skip : Nat → List Word → State → m Outcome
    | 0, words, state => return (none, words, state)
    | fuel + 1, words, state => do
        let rest := passOver 0 words
        let goesOn := (rest.head?.bind plain?) = some "&&".toList ∨
          (decides ∧ (rest.head?.bind plain?) = some "||".toList)
        if goesOn then skip fuel rest.tail state else return (none, rest, state)

def read (setting : Setting m) (putIn : PutIn m) : Nat → Reader m
  | 0, words, state => return (none, words, state)
  | fuel + 1, words, state =>
      let one := readNegated (readPrimary setting putIn (read setting putIn fuel)) words.length
      readJoined "||" true (readJoined "&&" false one words.length) words.length words state

def run (setting : Setting m) (putIn : PutIn m) (words : List Word) (state : State) : m State := do
  let (truth, _, state) ← read setting putIn (words.length + 1) words state
  if state.isGoing = false then return state
  else
    return state.withStatus
      (match truth with
        | some true => 0
        | some false => 1
        | none => 2)

end UniversalModule.Host.Shell.Condition
