import UniversalModule.Host.Shell.Redirecting

/-!
Lines of the input that a script takes into names.
-/

namespace UniversalModule.Host.Shell

variable {m : Type → Type} [Monad m] (setting : Setting m)

/-- Takes a line of the input, with the bytes that a backslash protects, and what follows the line
if it has an end. A backslash in front of a line end continues the line. -/
def takeLine (isRaw : Bool) (ending : UInt8) : Bytes → List (UInt8 × Bool) × Option Bytes
  | [] => ([], none)
  | 0x5C :: byte :: rest =>
      if isRaw then
        let (line, after) := takeLine isRaw ending (byte :: rest)
        ((0x5C, false) :: line, after)
      else
        let (line, after) := takeLine isRaw ending rest
        if byte = 0x0A then (line, after) else ((byte, byte < 0x80) :: line, after)
  | byte :: rest =>
      if byte = ending then ([], some rest)
      else
        let (line, after) := takeLine isRaw ending rest
        if byte = 0x5C ∧ isRaw = false then (line, after) else ((byte, false) :: line, after)

/-- The characters of bytes, some of which are protected. -/
def markedOf (bytes : List (UInt8 × Bool)) : Marked :=
  (bytes.splitBy fun first second => first.2 == second.2).flatMap fun run =>
    (Text.ofUtf8Lossy (run.map Prod.fst)).map fun c => (c, (run.head?.map Prod.snd).getD false)

def isBlankAt (separators : Text) (c : Char × Bool) : Bool :=
  !c.2 && separators.contains c.1 && isBlank c.1

def isSeparatorAt (separators : Text) (c : Char × Bool) : Bool := !c.2 && separators.contains c.1

/-- Takes the first word of a line, and what follows the separators behind it. -/
def takeField (separators : Text) (line : Marked) : Marked × Marked :=
  let line := line.dropWhile (isBlankAt separators)
  let field := line.takeWhile (!isSeparatorAt separators ·)
  let rest := (line.drop field.length).dropWhile (isBlankAt separators)
  match rest with
  | c :: after =>
      if isSeparatorAt separators c then (field, after.dropWhile (isBlankAt separators)) else (field, rest)
  | [] => (field, [])

/-- What the last name gets: what is left of a line, without blanks around it and without a single
separator that ends its only word. -/
def lastField (separators : Text) (line : Marked) : Marked :=
  let trimmed := ((line.dropWhile (isBlankAt separators)).reverse.dropWhile (isBlankAt separators)).reverse
  match takeField separators trimmed with
  | (field, []) => field
  | _ => trimmed

/-- Gives words of a line to names; the last name gets what is left. -/
def assignFields (separators : Text) : List Text → Marked → State → m State
  | [], _, state => return state
  | [name], line, state =>
      if state.isFixed name then setting.refuse "read: " name state
      else setting.give "read: " name (lastField separators line).text state
  | name :: names, line, state => do
      if state.isFixed name then setting.refuse "read: " name state
      else
        let (field, rest) := takeField separators line
        let state ← setting.give "read: " name field.text state
        if state.isGoing then assignFields separators names rest state else return state

def fieldsOf (separators : Text) : Nat → Marked → List Text
  | 0, _ => []
  | fuel + 1, line =>
      let line := line.dropWhile (isBlankAt separators)
      if line.isEmpty then []
      else
        let (field, rest) := takeField separators line
        field.text :: fieldsOf separators fuel rest

structure LineReading where
  isRaw : Bool
  ending : UInt8
  most : Option Nat
  row : Option Text
  names : List Text

/-- Reads the options of `read`; gives the letter of one that is not known. -/
def lineReading (variety : Variety) : Nat → List Text → LineReading → Except Char LineReading
  | fuel + 1, ('-' :: letter :: letters) :: words, reading =>
      let (value, others) := if letters.isEmpty then (words.headD [], words.tail) else (letters, words)
      match letter, variety with
      | 'r', _ =>
          lineReading variety fuel (if letters.isEmpty then words else ('-' :: letters) :: words)
            { reading with isRaw := true }
      | 'p', _ => lineReading variety fuel others reading
      | '-', _ => .ok { reading with names := words }
      | 's', .bash => lineReading variety fuel (if letters.isEmpty then words else ('-' :: letters) :: words) reading
      | 't', .bash => lineReading variety fuel others reading
      | 'u', .bash => lineReading variety fuel others reading
      | 'd', .bash => lineReading variety fuel others { reading with ending := (Text.utf8 value).headD 0 }
      | 'n', .bash => lineReading variety fuel others { reading with most := digits? value }
      | 'a', .bash => lineReading variety fuel others { reading with row := some value }
      | letter, _ => .error letter
  | _, words, reading => .ok { reading with names := words }

def rowOf (texts : List Text) : Row :=
  ⟨false, texts.zipIdx.map fun (text, index) => (Text.ofNat index, text)⟩

def runRead (words : List Text) (state : State) : m State := do
  match lineReading setting.variety (words.flatten.length + words.length + 1) words ⟨false, 0x0A, none, none, []⟩ with
  | .error letter =>
      match setting.variety with
      | .dash => setting.complain ("read: Illegal option -" ++ [letter]) 2 state
      | .bash =>
          setting.tellUsage
            ("read: usage: read [-ers] [-a array] [-d delim] [-i text] [-n nchars] [-N nchars] " ++
              "[-p prompt] [-t timeout] [-u fd] [name ...]")
            (← setting.complain ("read: -" ++ letter :: ": invalid option") 2 state)
  | .ok reading =>
      let refused := reading.names.find? fun name => !isName name
      match setting.variety, reading.names, refused with
      | .dash, [], _ => setting.complain "read: arg count" 2 state
      | .dash, _, some name => setting.complain ("read: " ++ name ++ ": bad variable name") 2 state
      | .bash, _, some name =>
          setting.complain ("read: \x60" ++ name ++ "': not a valid identifier") 1 state
      | _, names, none => do
          let (line, rest) :=
            match reading.most with
            | none => takeLine reading.isRaw reading.ending state.input
            | some count =>
                let (line, rest) := takeLine reading.isRaw reading.ending (state.input.take count)
                (line, some (rest.getD [] ++ state.input.drop count))
          let marked := markedOf (line.filter (·.1 != 0))
          let separators := state.separators
          let state := { state with input := rest.getD [] }
          let status := if rest.isNone then 1 else 0
          match reading.row, names with
          | some row, _ =>
              return (state.setRow row (rowOf (fieldsOf separators (marked.length + 1) marked))).withStatus status
          | none, [] => return (state.setVariable "REPLY" marked.text).withStatus status
          | none, names => do
              let state ← assignFields setting separators names marked (state.withStatus 0)
              return if state.status = 0 then state.withStatus status else state

def runReadAll (words : List Text) (state : State) : m State := do
  let keepsEnds := !words.contains "-t".toList
  let name := (words.find? fun word => word.head? != some '-').getD "MAPFILE"
  let lines := Text.splitAt '\n' (Text.ofUtf8Lossy state.input)
  let lines := if lines.getLast? = some [] then lines.dropLast else lines
  let lines := if keepsEnds then lines.map (· ++ ['\n']) else lines
  return ({ state with input := [] }.setRow name (rowOf lines)).withStatus 0

end UniversalModule.Host.Shell
