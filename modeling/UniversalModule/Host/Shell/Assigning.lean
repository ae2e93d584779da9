import UniversalModule.Host.Shell.Expansion
import UniversalModule.Host.Shell.Format
import UniversalModule.Host.Shell.Reader

/-!
How names, items of lists and whole lists are given values in front of commands or without one.
-/

namespace UniversalModule.Host.Shell

variable {m : Type → Type} [Monad m] (setting : Setting m) (putIn : PutIn m)

/-- The key that a word between brackets denotes: a name, or the value of an expression, which is
counted from the end when it is negative. -/
def keyOfWord (isNamed : Bool) (items : Keyed Text Text) (word : Word) (state : State) :
    m (Option Text × State) := do
  let (text, state) ← expandText setting putIn word state
  if isNamed then return (some text, state)
  else
    let (value, state) ← evaluateNumber setting text state
    let next : Int := (items.getLast?.map fun item => (valueOfDecimal item.1 : Int) + 1).getD 0
    return (value.map fun value => Arithmetic.textOf (if value < 0 then next + value else value), state)

def itemOf? (variety : Variety) : Word → Option (Word × Word)
  | ⟨.text ('[' :: inside), false⟩ :: parts => do
      let (index, rest) ← indexOf? (parts.length + 2) [] (⟨.text inside, false⟩ :: parts)
      let (_, value) ← assignedBy? variety rest
      some (index, value)
  | _ => none

/-- Puts the words of a list into a row, from a number on. -/
def fillRow (row : Row) (next : Nat) : List Word → State → m (Row × State)
  | [], state => return (row, state)
  | word :: words, state => do
      match itemOf? setting.variety word with
      | some (index, value) => do
          let (key, state) ← keyOfWord setting putIn row.isNamed row.items index state
          let (value, state) ← expandText setting putIn value state
          let key := key.getD ['0']
          fillRow (Row.put row key value) (valueOfDecimal key + 1) words state
      | none => do
          let (texts, state) ← expandWords setting putIn [word] state
          let filled := texts.zipIdx next |>.foldl
            (fun row (text, number) => Row.put row (Text.ofNat number) text) row
          fillRow filled (next + texts.length) words state

def assignList (name : Text) (appends : Bool) (words : List Word) (state : State) : m State := do
  let isNamed := (state.rows.get? name).any Row.isNamed
  let old := if appends then state.items name else []
  let next := (old.getLast?.map fun item => valueOfDecimal item.1 + 1).getD 0
  let (row, state) ← fillRow setting putIn ⟨isNamed, old⟩ next words state
  return state.setRow name row

def assign (assignment : Assignment) (state : State) : m (Text × State) := do
  let name := assignment.name
  let sign : Text := if assignment.appends then ['+', '='] else ['=']
  match assignment.value, assignment.index with
  | .list words, _ => do
      let state ← assignList setting putIn name assignment.appends words state
      return (name ++ sign ++ "()".toList, state)
  | .word word, none => do
      let (text, state) ← expandAssigned setting putIn word state
      let old := if assignment.appends then (state.value? [] name).getD [] else []
      let told := match setting.variety with
        | .dash => text
        | .bash => if text.isEmpty then [] else quotedText .program text
      return (name ++ sign ++ told, ← setting.give [] name (old ++ text) state)
  | .word word, some index => do
      let isNamed := (state.rows.get? name).any Row.isNamed
      let (key, state) ← keyOfWord setting putIn isNamed (state.items name) index state
      let (text, state) ← expandText setting putIn word state
      match key with
      | none => return ([], state)
      | some key =>
          let old := if assignment.appends then ((state.items name).get? key).getD [] else []
          return (name ++ '[' :: key ++ ']' :: sign ++ text, state.setItem name key (old ++ text))

/-- The commands whose arguments are not split where they give values to names. -/
def declaringCommands : Variety → List Text
  | .dash => ["export", "local", "readonly"]
  | .bash => declarations

/-- An argument that gives a value to a name, as it stands in front of a command. -/
def givenArgument? (variety : Variety) (word : Word) : Option (Text × Word) :=
  match assignment? variety word with
  | some ⟨name, none, appends, .word value⟩ => some (name ++ if appends then ['+', '='] else ['='], value)
  | _ => none

def expandCommand (words : List Word) (state : State) : m (List Text × State) := do
  let declares := (words.head?.bind plain?).any (declaringCommands setting.variety).contains
  let home? := homeOf? setting.variety state
  words.foldlM (fun (texts, state) word => do
    let expanded ←
      match givenArgument? setting.variety word, declares, setting.variety with
      | some (start, value), true, _ => do
          let (text, state) ← expandAssigned setting putIn value state
          pure ([start ++ text], state)
      | some (start, value), false, .bash =>
          expandWords setting putIn [⟨.text start, false⟩ :: withHomes home? true value] state
      | _, _, _ => expandWords setting putIn [word] state
    return (texts ++ expanded.1, expanded.2)) ([], state)

/-- Makes assignments; with `isAlone`, no command follows them. -/
def assignAll (isAlone : Bool) : List Assignment → State → m (List Text × State)
  | [], state => return ([], state)
  | assignment :: others, state => do
      if state.isFixed assignment.name then
        let refused ← setting.refuse [] assignment.name state
        match setting.variety with
        | .dash => return ([], refused)
        | .bash =>
            if isAlone then return ([], { refused with flow := .discarding })
            else assignAll isAlone others refused
      else
        let (told, state) ← assign setting putIn assignment state
        if state.isGoing = false then return ([], state)
        else
          let (others, state) ← assignAll isAlone others state
          return (told :: others, state)

def State.withValuesOf (ended before : State) (names : List Text) : State :=
  let restored := names.foldl (fun (state : State) name =>
    state.restore ⟨name, before.values.get? name, before.rows.get? name⟩) ended
  { restored with exported := ended.exported.filter fun name =>
      !names.contains name || before.exported.contains name }

end UniversalModule.Host.Shell
