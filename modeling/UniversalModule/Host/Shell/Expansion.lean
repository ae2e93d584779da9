import UniversalModule.Host.Shell.Braces
import UniversalModule.Host.Shell.Pattern
import UniversalModule.Host.Shell.State
import UniversalModule.Host.Shell.Word

/-!
What words become when they are used. What is put in outside quotes is split at blanks, and the
results are patterns for the paths of files.
-/

namespace UniversalModule.Host.Shell

/-- A character that a word becomes, or something that divides it. -/
inductive Mark where
  | char (c : Char) (quoted : Bool)
  /-- A character at which the word may be split. -/
  | splittable (c : Char)
  /-- A quote, which makes a word even of nothing. -/
  | quote
  | boundary
deriving DecidableEq

/-- How far splitting has come. The words and the characters of the last one are held in
reverse. -/
structure Splitting where
  done : List Marked
  current : Option Marked
  /-- Whether a blank has ended the last word. -/
  isBlankEnd : Bool

namespace Splitting

def begin (splitting : Splitting) : Splitting :=
  { splitting with current := some (splitting.current.getD []), isBlankEnd := false }

def add (splitting : Splitting) (c : Char) (quoted : Bool) : Splitting :=
  { splitting with
    current := some ((c, quoted) :: splitting.current.getD []), isBlankEnd := false }

def flush (splitting : Splitting) (isBlankEnd : Bool) : Splitting :=
  match splitting.current with
  | none => { splitting with isBlankEnd := splitting.isBlankEnd && isBlankEnd }
  | some word => ⟨word.reverse :: splitting.done, none, isBlankEnd⟩

def step (separators : Text) (splitting : Splitting) : Mark → Splitting
  | .char c quoted => splitting.add c quoted
  | .quote => splitting.begin
  | .boundary => splitting.flush false
  | .splittable c =>
      if separators.contains c then
        if c = ' ' ∨ c = '\t' ∨ c = '\n' then splitting.flush true
        else if splitting.current.isNone ∧ splitting.isBlankEnd = false then
          splitting.begin.flush false
        else splitting.flush false
      else splitting.add c false

end Splitting

def wordsOfMarks (separators : Text) (marks : List Mark) : List Marked :=
  ((marks.foldl (Splitting.step separators) ⟨[], none, false⟩).flush false).done.reverse

def charactersOfMarks (marks : List Mark) : Marked :=
  marks.flatMap fun
    | .char c quoted => [(c, quoted)]
    | .splittable c => [(c, false)]
    | .quote => []
    | .boundary => [(' ', true)]

def marksOf (quoted : Bool) (text : Text) : List Mark :=
  if quoted then .quote :: text.map fun c => .char c true else text.map .splittable

/-- The marks of all arguments, each of which is a word of its own. -/
def marksOfArguments (quoted : Bool) (arguments : List Text) : List Mark :=
  (arguments.map (marksOf quoted)).intersperse [.boundary] |>.flatten

variable {m : Type → Type} [Monad m]

abbrev PutIn (m : Type → Type) := Text → State → m (Bytes × State)

/-- The text that is put in for what a script prints, without the line ends behind it. -/
def textPutIn (bytes : Bytes) : Text :=
  let bytes := (bytes.reverse.dropWhile (· == 0x0A)).reverse
  Text.ofUtf8Lossy (bytes.filter (· != 0))

/-- Puts what a script prints into a file; gives the path of the file. -/
def Setting.filePutIn (setting : Setting m) (putIn : PutIn m) (script : Text) (state : State) :
    m (Text × State) := do
  let (bytes, state) ← putIn script state
  let path : Text := "/dev/fd/" ++ Text.ofNat state.nextFile
  let _ ← setting.files.write ⟨path⟩ bytes
  return (path, { state with nextFile := state.nextFile - 1 })

def isBlank (c : Char) : Bool := c == ' ' || c == '\t' || c == '\n'

def trimBlanks (text : Text) : Text :=
  ((text.dropWhile isBlank).reverse.dropWhile isBlank).reverse

/-- The value of a name in an expression. In the second shell a value that is no number is an
expression in its turn, as deep as the fuel allows. -/
def numberOf (variety : Variety) (script : Text) :
    Nat → State → Text → Option Int → Except Arithmetic.Fault Int
  | fuel, state, name, index =>
      let text :=
        match index with
        | none => state.value? script name
        | some index => (state.items name).get? (Arithmetic.textOf index)
      let trimmed := trimBlanks (text.getD [])
      match Arithmetic.signed? trimmed, variety, fuel with
      | some value, _, _ => .ok (Arithmetic.wrap value)
      | none, .dash, _ => if trimmed.isEmpty then .ok 0 else .error (.notNumber (text.getD []))
      | none, .bash, 0 => .ok 0
      | none, .bash, fuel + 1 =>
          let memory : Arithmetic.Memory State :=
            ⟨numberOf variety script fuel, fun state _ _ _ => state⟩
          (Arithmetic.evaluate variety memory trimmed state).map Prod.fst

def setNumber (state : State) (name : Text) (index : Option Int) (value : Int) : State :=
  match index with
  | none => state.setVariable name (Arithmetic.textOf value)
  | some index => state.setItem name (Arithmetic.textOf index) (Arithmetic.textOf value)

def Setting.memory (setting : Setting m) : Arithmetic.Memory State :=
  ⟨numberOf setting.variety setting.script 16, setNumber⟩

def faultMessage (variety : Variety) (expression : Text) (fault : Arithmetic.Fault) : Text :=
  let within (reason source : Text) : Text :=
    expression ++ ": " ++ reason ++ " (error token is " ++ '"' :: (source ++ "\")")
  match variety, fault with
  | .dash, .notNumber value => "Illegal number: " ++ value
  | .dash, .expecting name _ =>
      "arithmetic expression: expecting " ++ name ++ ": " ++ '"' :: (expression ++ ['"'])
  | .dash, .divisionByZero _ =>
      "arithmetic expression: division by zero: " ++ '"' :: (expression ++ ['"'])
  | .bash, .divisionByZero source => within "division by 0" source
  | .bash, .expecting name source =>
      if name = "EOF".toList then within "syntax error in expression" source
      else within "syntax error: operand expected" source
  | .bash, .notNumber value => within "syntax error: operand expected" value

/-- Works an expression out; of one that is refused, nothing is known. -/
def evaluateNumber (setting : Setting m) (expression : Text) (state : State) : m (Option Int × State) := do
  match Arithmetic.evaluate setting.variety setting.memory expression state with
  | .ok (value, state) => return (some value, state)
  | .error fault =>
      return (none, ← setting.abandon (faultMessage setting.variety expression fault) state)

def expandNumber (setting : Setting m) (quoted : Bool) (expression : Text) (state : State) :
    m (List Mark × State) := do
  match ← evaluateNumber setting expression state with
  | (some value, state) => return (marksOf quoted (Arithmetic.textOf value), state)
  | (none, state) => return ([], state)

inductive Meant where
  | one (value : Option Text)
  /-- All arguments or items, each for itself or joined. -/
  | all (values : List Text) (isJoined : Bool)

def Meant.value? (separators : Text) : Meant → Option Text
  | .one value => value
  | .all values _ => if values.isEmpty then none else some (Text.joinWith (separators.take 1) values)

def Meant.marks (separators : Text) (quoted : Bool) : Meant → List Mark
  | .one value => marksOf quoted (value.getD [])
  | .all values isJoined =>
      if quoted ∧ isJoined then marksOf quoted (Text.joinWith (separators.take 1) values)
      else marksOfArguments quoted values

/-- The values of a parameter with a change made to each of them. -/
def Meant.map (change : Text → Text) : Meant → Meant
  | .one value => .one (value.map change)
  | .all values isJoined => .all (values.map change) isJoined

/-- How operands are expanded, with whether they stand in quotes. -/
abbrev Operands (m : Type → Type) := Bool → Text → State → m (List Mark × State)

/-- The key of an item, from the text between the brackets. -/
def keyOf (setting : Setting m) (expand : Operands m) (name index : Text) (state : State) :
    m (Option Text × State) := do
  let (marks, state) ← expand false index state
  let text := (charactersOfMarks marks).text
  match state.rows.get? name with
  | some ⟨true, _⟩ => return (some text, state)
  | _ => do
      let (value, state) ← evaluateNumber setting text state
      match value with
      | none => return (none, state)
      | some value =>
          let last := ((state.items name).getLast?.map fun item => valueOfDecimal item.1).getD 0
          let index := if value < 0 then (last : Int) + 1 + value else value
          return (some (Arithmetic.textOf index), state)

/-- What a parameter stands for, with the brackets behind it. -/
def meantBy (setting : Setting m) (expand : Operands m) (name : Text) (index : Option Text)
    (state : State) : m (Meant × State) := do
  match index with
  | none =>
      if name = ['@'] ∨ name = ['*'] then return (.all state.arguments (name == ['*']), state)
      else return (.one (state.value? setting.script name), state)
  | some index =>
      if index = ['@'] ∨ index = ['*'] then
        return (.all ((state.items name).map Prod.snd) (index == ['*']), state)
      else
        let (key, state) ← keyOf setting expand name index state
        return (.one (key.bind fun key => (state.items name).get? key), state)

/-- The texts before and behind the first of some characters outside quotes and brackets. -/
def splitOperand (separator : Char) : Nat → Text → Text → Text × Option Text
  | 0, read, text => (read ++ text, none)
  | _, read, [] => (read, none)
  | fuel + 1, read, '\\' :: c :: rest => splitOperand separator fuel (read ++ ['\\', c]) rest
  | fuel + 1, read, '$' :: '\x7b' :: rest =>
      match inside? (.braces true) rest with
      | some (inner, rest) => splitOperand separator fuel (read ++ "$\x7b" ++ inner ++ ['\x7d']) rest
      | none => splitOperand separator fuel (read ++ "$\x7b") rest
  | fuel + 1, read, '\'' :: rest =>
      match upTo? '\'' rest with
      | some (quoted, rest) => splitOperand separator fuel (read ++ '\'' :: quoted ++ ['\'']) rest
      | none => splitOperand separator fuel (read ++ ['\'']) rest
  | fuel + 1, read, c :: rest =>
      if c = separator then (read, some rest) else splitOperand separator fuel (read ++ [c]) rest

/-- A part of what a parameter stands for: characters of a value, or some of all values. -/
def sliceOf (offset : Int) (length : Option Int) (meant : Meant) : Meant :=
  let cut {α : Type} (items : List α) : List α :=
    let start := if offset < 0 then (items.length : Int) + offset else offset
    let rest := if start < 0 then [] else items.drop start.toNat
    match length with
    | none => rest
    | some length => if length < 0 then rest.take (rest.length - length.natAbs) else rest.take length.toNat
  match meant with
  | .one value => .one (value.map cut)
  | .all values isJoined => .all (cut values) isJoined

/-- A part of what a parameter stands for, as an operand says. -/
def expandSlice (setting : Setting m) (expand : Operands m) (isArguments : Bool) (operand : Text)
    (meant : Meant) (state : State) : m (Option Meant × State) := do
  let (offsetText, lengthText) := splitOperand ':' (operand.length + 1) [] operand
  let number (text : Text) (state : State) : m (Option Int × State) := do
    let (marks, state) ← expand true text state
    evaluateNumber setting (charactersOfMarks marks).text state
  let (offset, state) ← number offsetText state
  let (length, state) ←
    match lengthText with
    | none => pure (none, state)
    | some text => number text state
  match offset with
  | none => return (none, state)
  | some offset =>
      let whole :=
        match meant with
        | .all values isJoined =>
            if isArguments then Meant.all (setting.script :: values) isJoined else meant
        | meant => meant
      let start := if isArguments ∧ offset = 0 ∧ length.isNone then 0 else offset
      return (some (sliceOf start length whole), state)

/-- Puts in a parameter; operands are expanded by the given function. -/
def expandParameter (setting : Setting m) (expand : Operands m) (quoted : Bool) (name : Text)
    (index : Option Text) (use : Use) (orEmpty : Bool) (operand : Text) (state : State) :
    m (List Mark × State) := do
  let (meant, state) ← meantBy setting expand name index state
  if state.isGoing = false then return ([], state)
  let isAll := match meant with
    | .all _ _ => true
    | .one _ => false
  let value := meant.value? state.separators
  let present := value.any fun value => !(orEmpty && value.isEmpty)
  let shown (meant : Meant) : List Mark := meant.marks state.separators quoted
  let refused := state.flags.refusesUnset ∧ value = none ∧ isAll = false
  let refuse : m (List Mark × State) := do
    let reason : Text := match setting.variety with
      | .dash => ": parameter not set"
      | .bash => ": unbound variable"
    return ([], ← setting.finish (name ++ reason) state)
  let instead : m (List Mark × State) := do
    let (marks, state) ← expand quoted operand state
    return (if quoted then .quote :: marks else marks, state)
  let dropped (cut : Marked → Text → Text) : m (List Mark × State) := do
    let (marks, state) ← expand false operand state
    return (shown (meant.map (cut (charactersOfMarks marks))), state)
  let needsValue : Bool :=
    match use with
    | .value => true
    | .length => !isAll
    | .dropStart _ => true
    | .dropEnd _ => true
    | .slice => true
    | .replace _ => true
    | .inCase _ _ => true
    | _ => false
  if refused ∧ needsValue then refuse
  else match use with
  | .unknown =>
      match setting.variety with
      | .dash => return ([], ← setting.abandon "Bad substitution" state)
      | .bash => return ([], ← setting.abandon ("$\x7b" ++ operand ++ "\x7d: bad substitution") state)
  | .value => return (shown meant, state)
  | .length =>
      match meant with
      | .all values _ =>
          match setting.variety with
          | .dash =>
              let joined := Text.joinWith (state.separators.take 1) values
              return (marksOf quoted (Text.ofNat joined.utf8.length), state)
          | .bash => return (marksOf quoted (Text.ofNat values.length), state)
      | .one value => return (marksOf quoted (Text.ofNat (Text.utf8 (value.getD [])).length), state)
  | .orElse => if present then return (shown meant, state) else instead
  | .instead => if present then instead else return (marksOf quoted [], state)
  | .assign =>
      if present then return (shown meant, state)
      else
        let (marks, state) ← expand quoted operand state
        let value := (charactersOfMarks marks).text
        return (marksOf quoted value, state.setVariable name value)
  | .orFail =>
      if present then return (shown meant, state)
      else
        let (marks, state) ← expand false operand state
        let message : Text :=
          if operand.isEmpty then
            match setting.variety with
            | .dash => "parameter not set" ++ (if orEmpty then " or null" else "")
            | .bash => "parameter " ++ (if orEmpty then "null or " else "") ++ "not set"
          else (charactersOfMarks marks).text
        return ([], ← setting.finish (name ++ ": " ++ message) state)
  | .dropStart longest =>
      dropped fun pattern value =>
        value.drop ((fittingStart? setting.variety pattern longest value).getD 0)
  | .dropEnd longest =>
      dropped fun pattern value =>
        value.take ((fittingEnd? setting.variety pattern longest value).getD value.length)
  | .slice => do
      let isArguments := isAll ∧ index.isNone
      let (meant, state) ← expandSlice setting expand isArguments operand meant state
      return ((meant.map shown).getD [], state)
  | .replace place => do
      let (patternText, otherText) := splitOperand '/' (operand.length + 1) [] operand
      let (pattern, state) ← expand false patternText state
      let (other, state) ← expand false (otherText.getD []) state
      let change := replaceFits setting.variety place (charactersOfMarks pattern) (charactersOfMarks other).text
      return (shown (meant.map change), state)
  | .inCase isUpper isWhole =>
      let change (c : Char) : Char := if isUpper then c.toUpper else c.toLower
      return (shown (meant.map fun value =>
        if isWhole then value.map change
        else (value.take 1).map change ++ value.drop 1), state)
  | .indirect =>
      match value with
      | none => return (marksOf quoted [], state)
      | some other => do
          let (meant, state) ← meantBy setting expand (takeName other).1 (takeIndex .bash (takeName other).2).1 state
          return (meant.marks state.separators quoted, state)
  | .keys =>
      return ((Meant.all ((state.items name).map Prod.fst) (index == some ['*'])).marks
        state.separators quoted, state)

def homeOfUser? (name : Text) : Option Text :=
  match String.ofList name with
  | "_apt" => some "/nonexistent"
  | "backup" => some "/var/backups"
  | "bin" => some "/bin"
  | "daemon" => some "/usr/sbin"
  | "games" => some "/usr/games"
  | "irc" => some "/run/ircd"
  | "list" => some "/var/list"
  | "lp" => some "/var/spool/lpd"
  | "mail" => some "/var/mail"
  | "man" => some "/var/cache/man"
  | "news" => some "/var/spool/news"
  | "nobody" => some "/nonexistent"
  | "proxy" => some "/bin"
  | "root" => some "/root"
  | "sync" => some "/bin"
  | "sys" => some "/dev"
  | "uucp" => some "/var/spool/uucp"
  | "www-data" => some "/var/www"
  | _ => none

/-- The folder for which a tilde with a name behind it stands. -/
def homeOf? (variety : Variety) (state : State) (name : Text) : Option Text :=
  match name, variety with
  | [], .dash => state.values.get? "HOME".toList
  | [], .bash => some ((state.values.get? "HOME".toList).getD "/root")
  | ['+'], .bash => state.values.get? "PWD".toList
  | ['-'], .bash => state.values.get? "OLDPWD".toList
  | name, _ => homeOfUser? name

/-- Atoms with home folders in place of tildes: of one at the beginning, if a word begins there, and
of those behind colons, if a list of paths is given. -/
def homesIn (home? : Text → Option Text) (isList : Bool) : Nat → Bool → List Atom → List Atom
  | 0, _, atoms => atoms
  | _, _, [] => []
  | fuel + 1, isStart, atom :: rest =>
      let isEnd (atom : Atom) : Bool := atom == .char '/' || (isList && atom == .char ':')
      let name := rest.takeWhile (!isEnd ·)
      match isStart && atom == .char '~', (Atom.text? name).bind home? with
      | true, some home =>
          .part ⟨.text home, true⟩ :: homesIn home? isList fuel false (rest.drop name.length)
      | _, _ => atom :: homesIn home? isList fuel (isList && atom == .char ':') rest

def withHomes (home? : Text → Option Text) (isList : Bool) (word : Word) : Word :=
  let atoms := Atom.ofWord word
  if atoms.contains (.char '~') then Atom.toWord (homesIn home? isList (atoms.length + 1) true atoms) else word

/-- The marks that the parts of a word become; operands stand in words in their turn, as deep as
the fuel allows. -/
def expandParts (setting : Setting m) (putIn : PutIn m) :
    Nat → Bool → List Mark → Word → State → m (List Mark × State)
  | 0, _, marks, _, state => return (marks, state)
  | _ + 1, _, marks, [], state => return (marks, state)
  | fuel + 1, splitsText, marks, part :: parts, state => do
      if state.isGoing = false then return (marks, state)
      let inner (place : Place) (line : Nat) (text : Text) (state : State) : m (List Mark × State) := do
        match readWord setting.variety place line text with
        | .error message => return ([], ← setting.abandon (syntaxText setting.variety message) state)
        | .ok (word, _) =>
            let word :=
              if place.isQuoted then word else withHomes (homeOf? setting.variety state) false word
            expandParts setting putIn fuel (!place.isQuoted) [] word state
      let operand (line : Nat) (quoted : Bool) : Text → State → m (List Mark × State) :=
        inner (if quoted then .inner else .operand) line
      let (found, state) ←
        match part.piece with
        | .text text =>
            if part.quoted then pure (marksOf true text, state)
            else if splitsText then pure (marksOf false text, state)
            else pure (text.map fun c => .char c false, state)
        | .output script isBack line => do
            let line := match setting.variety with
              | .dash => if isBack then 1 else line
              | .bash => state.line
            let (bytes, after) ← putIn script { state with line }
            pure (marksOf part.quoted (textPutIn bytes), { after with line := state.line })
        | .path script => do
            let (path, state) ← setting.filePutIn putIn script state
            pure (marksOf true path, state)
        | .number expression => do
            let place := match setting.variety with
              | .dash => Place.document
              | .bash => .inner
            let (marks, state) ← inner place state.line expression state
            if state.isGoing then
              expandNumber setting part.quoted (charactersOfMarks marks).text state
            else pure ([], state)
        | .parameter name index use orEmpty text line =>
            expandParameter setting (operand line) part.quoted name index use orEmpty text state
      expandParts setting putIn fuel splitsText (marks ++ found) parts state

def sizeOfPiece : Piece → Nat
  | .text _ => 1
  | .parameter _ index _ _ operand _ => (index.getD []).length + operand.length + 3
  | .output script _ _ => script.length + 2
  | .path script => script.length + 2
  | .number expression => expression.length + 2

/-- The marks that a word becomes; with `isList`, tildes stand for home folders behind colons too. -/
def expandMarks (setting : Setting m) (putIn : PutIn m) (isList : Bool) (word : Word) (state : State) :
    m (List Mark × State) :=
  let size := word.foldl (fun size part => size + sizeOfPiece part.piece) 2
  let home? := homeOf? setting.variety state
  let found := withHomes home? isList word
  expandParts setting putIn (size + 2 * (found.length - word.length)) false [] found state

/-- The text that a word becomes where it is not split. -/
def expandText (setting : Setting m) (putIn : PutIn m) (word : Word) (state : State) :
    m (Text × State) := do
  let (marks, state) ← expandMarks setting putIn false word state
  return ((charactersOfMarks marks).text, state)

/-- The text that a word becomes which is given to a name. -/
def expandAssigned (setting : Setting m) (putIn : PutIn m) (word : Word) (state : State) :
    m (Text × State) := do
  let (marks, state) ← expandMarks setting putIn true word state
  return ((charactersOfMarks marks).text, state)

def expandPattern (setting : Setting m) (putIn : PutIn m) (word : Word) (state : State) :
    m (Marked × State) := do
  let (marks, state) ← expandMarks setting putIn false word state
  return (charactersOfMarks marks, state)

def expandWord (setting : Setting m) (putIn : PutIn m) (word : Word) (state : State) :
    m (List Text × State) := do
  let (marks, state) ← expandMarks setting putIn false word state
  let found := wordsOfMarks state.separators marks
  if state.flags.keepsPatterns then return (found.map Marked.text, state)
  else
    return ((← found.mapM (pathsOf setting.variety setting.files state.folder)).flatten, state)

def expandWords (setting : Setting m) (putIn : PutIn m) (words : List Word) (state : State) :
    m (List Text × State) := do
  let words := match setting.variety with
    | .dash => words
    | .bash => words.flatMap wordsOfBraces
  words.foldlM (fun (texts, state) word => do
    let (found, state) ← expandWord setting putIn word state
    return (texts ++ found, state)) ([], state)

end UniversalModule.Host.Shell
