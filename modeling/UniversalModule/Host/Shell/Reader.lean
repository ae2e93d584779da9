import UniversalModule.Host.Shell.Token

/-!
The commands of a script. A line is read as a whole before any of it is run.
-/

namespace UniversalModule.Host.Shell

/-- Why commands cannot be read: what is wrong, the token that was not expected, if it is one, and
the line. -/
structure ReadFault where
  message : Text
  near : Option Token
  line : Nat

abbrev Reader (α : Type) := List Placed → Except ReadFault (α × List Placed)

def inQuotes (text : Text) : Text := '"' :: (text ++ ['"'])

def sharedWords : List Text :=
  ["!", "case", "do", "done", "elif", "else", "esac", "fi", "for", "if", "in", "then", "until", "while",
    "\x7b", "\x7d"]

def reservedWords : Variety → List Text
  | .dash => sharedWords
  | .bash => "[[".toList :: "function".toList :: "time".toList :: sharedWords

/-- The commands whose failure ends a script, and in front of which values are given that stay. -/
def specialCommands : List Text :=
  [":", ".", "break", "continue", "eval", "exec", "exit", "export", "local", "readonly", "return", "set", "shift",
    "times", "trap", "unset"]

def isSpecial (name : Text) : Bool := specialCommands.contains name

def nameOf : Token → Text
  | .word word =>
      match plain? word with
      | some text => if sharedWords.contains text then inQuotes text else "word"
      | none => "word"
  | .newline => "newline"
  | .operator text => inQuotes text
  | .redirect _ _ => "redirection"
  | .document _ => "redirection"
  | .number _ => inQuotes ['(']
  | .fault message => message
  | .finish => "end of file"

def sourceOf : Token → Text
  | .word word => (plain? word).getD "word"
  | .newline => "newline"
  | .operator text => text
  | .redirect _ operator => operator
  | .document _ => "<<"
  | .number _ => "(("
  | .fault message => message
  | .finish => []

def unexpected (expected : Option Text) : List Placed → ReadFault
  | [] => ⟨"end of file unexpected", none, 0⟩
  | ⟨.fault message, line⟩ :: _ => ⟨message, none, line⟩
  | ⟨token, line⟩ :: _ =>
      let wanted : Text :=
        match expected with
        | some name => " (expecting " ++ name ++ [')']
        | none => []
      ⟨nameOf token ++ " unexpected" ++ wanted, some token, if token = .newline then line + 1 else line⟩

def skipNewlines : List Placed → List Placed
  | ⟨.newline, _⟩ :: rest => skipNewlines rest
  | tokens => tokens

def startsWith (word : Text) : List Placed → Bool
  | ⟨.word found, _⟩ :: _ => plain? found == some word
  | _ => false

def startsWithOperator (operator : Text) : List Placed → Bool
  | ⟨.operator found, _⟩ :: _ => found == operator
  | _ => false

def startsWithNewline : List Placed → Bool
  | ⟨.newline, _⟩ :: _ => true
  | _ => false

def expect (word : Text) (tokens : List Placed) : Except ReadFault (List Placed) :=
  if startsWith word tokens then .ok tokens.tail else .error (unexpected (some (inQuotes word)) tokens)

def expectOperator (operator : Text) (tokens : List Placed) : Except ReadFault (List Placed) :=
  if startsWithOperator operator tokens then .ok tokens.tail
  else .error (unexpected (some (inQuotes operator)) tokens)

def readRedirection : List Placed → Except ReadFault (Option Redirection × List Placed)
  | ⟨.document body, _⟩ :: rest => .ok (some (.document body), rest)
  | ⟨.redirect channel operator, _⟩ :: rest =>
      match rest with
      | ⟨.word target, _⟩ :: rest =>
          let redirection : Redirection :=
            if operator = ['<'] then .input (channel.getD 0) target
            else if operator = "<>".toList then .input (channel.getD 0) target
            else if operator = "<<<".toList then .line target
            else if operator = "&>".toList ∨ operator = "&>>".toList then
              .both (if operator = "&>>".toList then .behind else .anew) target
            else if operator = "<&".toList then .copy (channel.getD 0) target
            else if operator = ">&".toList then .copy (channel.getD 1) target
            else if operator = ">>".toList then .output (channel.getD 1) .behind target
            else if operator = ">|".toList then .output (channel.getD 1) .over target
            else .output (channel.getD 1) .anew target
          .ok (some redirection, rest)
      | rest => .error (unexpected none rest)
  | tokens => .ok (none, tokens)

def readRedirections : Nat → Reader (List Redirection)
  | 0, tokens => .ok ([], tokens)
  | fuel + 1, tokens => do
      match ← readRedirection tokens with
      | (none, tokens) => .ok ([], tokens)
      | (some redirection, tokens) =>
          let (others, tokens) ← readRedirections fuel tokens
          .ok (redirection :: others, tokens)

def redirect (redirections : List Redirection) (command : Command) : Command :=
  if redirections.isEmpty then command else .redirected redirections command

structure Simple where
  assignments : List Assignment
  words : List Word
  redirections : List Redirection
  /-- The lists that are given to names behind the word of a command that declares them. -/
  lists : List Assignment

def readItems : Nat → Reader (List Word)
  | fuel + 1, ⟨.newline, _⟩ :: rest => readItems fuel rest
  | fuel + 1, ⟨.word word, _⟩ :: rest => do
      let (words, rest) ← readItems fuel rest
      .ok (word :: words, rest)
  | _, tokens => do .ok ([], ← expectOperator [')'] tokens)

/-- Reads the list that an assignment gives, if one comes next. -/
def readList? (variety : Variety) (assignment : Assignment) (tokens : List Placed) :
    Except ReadFault (Option (Assignment × List Placed)) :=
  match variety, assignment.value, startsWithOperator ['('] tokens with
  | .bash, .word [], true => do
      let (words, rest) ← readItems tokens.length tokens.tail
      .ok (some ({ assignment with value := .list words }, rest))
  | _, _, _ => .ok none

/-- The commands that give values to the names behind them. -/
def declarations : List Text := ["declare", "export", "local", "readonly", "typeset"]

def isDeclaration : List Word → Bool
  | word :: _ => (plain? word).any declarations.contains
  | [] => false

/-- Reads the words and redirections of a simple command. Values are given before the first word
that gives none. -/
def readSimple (variety : Variety) : Nat → Simple → Reader Simple
  | 0, simple, tokens => .ok (simple, tokens)
  | fuel + 1, simple, tokens => do
      match ← readRedirection tokens with
      | (some redirection, tokens) =>
          readSimple variety fuel { simple with redirections := simple.redirections ++ [redirection] } tokens
      | (none, ⟨.word word, _⟩ :: rest) =>
          let addWord := { simple with words := simple.words ++ [word] }
          match assignment? variety word with
          | none => readSimple variety fuel addWord rest
          | some assignment =>
              match ← readList? variety assignment rest, simple.words.isEmpty with
              | some (assignment, rest), true =>
                  readSimple variety fuel { simple with assignments := simple.assignments ++ [assignment] } rest
              | none, true =>
                  readSimple variety fuel { simple with assignments := simple.assignments ++ [assignment] } rest
              | some (assignment, rest'), false =>
                  if isDeclaration simple.words then
                    let name : Word := [⟨.text assignment.name, false⟩]
                    readSimple variety fuel
                      { simple with
                        words := simple.words ++ [name]
                        lists := simple.lists ++ [assignment] } rest'
                  else readSimple variety fuel addWord rest
              | none, false => readSimple variety fuel addWord rest
      | (none, tokens) => .ok (simple, tokens)

/-- The command that a simple command is, with the lists that it declares. -/
def Simple.command (simple : Simple) (line : Nat) : Command :=
  let command := redirect simple.redirections (.simple line simple.assignments simple.words)
  if simple.lists.isEmpty then command else .inOrder command (.simple line simple.lists [])

/-- Reads commands that stand between operators for output that is read. -/
def readPipes (command : Reader Command) : Nat → Reader Command
  | 0, tokens => .error (unexpected none tokens)
  | fuel + 1, tokens => do
      let (first, tokens) ← command tokens
      if startsWithOperator ['|'] tokens then
        let (second, tokens) ← readPipes command fuel (skipNewlines tokens.tail)
        .ok (.pipe first second, tokens)
      else if startsWithOperator "|&" tokens then
        let (second, tokens) ← readPipes command fuel (skipNewlines tokens.tail)
        .ok (.pipe (.redirected [.copy 2 [⟨.text ['1'], false⟩]] first) second, tokens)
      else .ok (first, tokens)

def readNegated (command : Reader Command) : Nat → Reader Command
  | 0, tokens => .error (unexpected none tokens)
  | fuel + 1, tokens =>
      if startsWith ['!'] tokens then do
        let (found, tokens) ← readNegated command fuel tokens.tail
        .ok (.negated found, tokens)
      else readPipes command (fuel + 1) tokens

/-- Goes on after a command with those that depend on how it ends. -/
def readDepending (command : Reader Command) : Nat → Command → Reader Command
  | 0, before, tokens => .ok (before, tokens)
  | fuel + 1, before, tokens =>
      if startsWithOperator "&&" tokens then do
        let (next, tokens) ← readNegated command (fuel + 1) (skipNewlines tokens.tail)
        readDepending command fuel (.afterSuccess before next) tokens
      else if startsWithOperator "||" tokens then do
        let (next, tokens) ← readNegated command (fuel + 1) (skipNewlines tokens.tail)
        readDepending command fuel (.afterFailure before next) tokens
      else .ok (before, tokens)

def readJoined (command : Reader Command) (fuel : Nat) : Reader Command := fun tokens => do
  let (first, tokens) ← readNegated command fuel tokens
  readDepending command fuel first tokens

def atFinish : List Placed → Bool
  | ⟨.finish, _⟩ :: _ => true
  | _ => false

/-- The words and operators that end the commands inside a larger one. -/
def endsList : List Placed → Bool
  | ⟨.word word, _⟩ :: _ =>
      match plain? word with
      | some text =>
          (["do", "done", "elif", "else", "esac", "fi", "then", "\x7d"] : List Text).contains text
      | none => false
  | ⟨.operator text, _⟩ :: _ => ([")", ";;", ";&", ";;&"] : List Text).contains text
  | tokens => atFinish tokens

/-- Reads the commands inside a larger one, at least one of them unless the script ends. -/
def readList (command : Reader Command) : Nat → Reader Command
  | 0, tokens => .error (unexpected none tokens)
  | fuel + 1, tokens => do
      if atFinish (skipNewlines tokens) then return (.nothing, skipNewlines tokens)
      let (first, tokens) ← readJoined command (fuel + 1) (skipNewlines tokens)
      let isSeparated := startsWithOperator [';'] tokens || startsWithOperator ['&'] tokens
      let first := if startsWithOperator ['&'] tokens then .background first else first
      let rest := skipNewlines (if isSeparated then tokens.tail else tokens)
      if isSeparated = false ∧ startsWithNewline tokens = false then .ok (first, tokens)
      else if endsList rest then .ok (first, rest)
      else
        let (others, rest) ← readList command fuel rest
        .ok (.inOrder first others, rest)

def readBranches (list : Reader Command) : Nat → Reader Command
  | 0, tokens => .error (unexpected none tokens)
  | fuel + 1, tokens => do
      let (condition, tokens) ← list tokens
      let (first, tokens) ← list (← expect "then" tokens)
      if startsWith "elif" tokens then
        let (others, tokens) ← readBranches list fuel tokens.tail
        .ok (.branch condition first others, tokens)
      else if startsWith "else" tokens then
        let (second, tokens) ← list tokens.tail
        .ok (.branch condition first second, ← expect "fi" tokens)
      else .ok (.branch condition first .nothing, ← expect "fi" tokens)

def readBody (list : Reader Command) : Reader Command := fun tokens => do
  let (body, tokens) ← list (← expect "do" tokens)
  .ok (body, ← expect "done" tokens)

def readWords : Nat → Reader (List Word)
  | fuel + 1, ⟨.word word, _⟩ :: rest => do
      let (words, rest) ← readWords fuel rest
      .ok (word :: words, rest)
  | _, tokens => .ok ([], tokens)

/-- The name to which a loop gives values. The second shell looks at it when the loop is run. -/
def loopName? (variety : Variety) (word : Word) : Option Text :=
  (plain? word).filter fun name => variety == .bash || isName name

def readEach (variety : Variety) (list : Reader Command) (line : Nat) : Reader Command := fun tokens => do
  match tokens with
  | ⟨.word word, place⟩ :: rest =>
      match loopName? variety word with
      | none => .error ⟨"Bad for loop variable", none, place⟩
      | some name =>
          let rest := skipNewlines rest
          if startsWith "in" rest then
            let (words, rest) ← readWords rest.length rest.tail
            let rest ←
              if startsWithNewline rest then .ok rest
              else if startsWithOperator [';'] rest then .ok rest.tail
              else .error (unexpected none rest)
            let (body, rest) ← readBody list (skipNewlines rest)
            .ok (.each line name (some words) body, rest)
          else
            let rest := if startsWithOperator [';'] rest then skipNewlines rest.tail else rest
            let (body, rest) ← readBody list rest
            .ok (.each line name none body, rest)
  | ⟨.number expression, _⟩ :: rest =>
      match Text.splitAt ';' expression with
      | [start, condition, step] => do
          let rest := if startsWithOperator [';'] rest then rest.tail else rest
          let (body, rest) ← readBody list (skipNewlines rest)
          .ok (.count line start condition step body, rest)
      | _ => .error ⟨"Bad for loop variable", none, line⟩
  | tokens =>
      match variety with
      | .dash => .error ⟨"Bad for loop variable", none, line⟩
      | .bash => .error (unexpected none tokens)

def readPatterns : Nat → Reader (List Word)
  | 0, tokens => .error (unexpected none tokens)
  | fuel + 1, tokens =>
      match tokens with
      | ⟨.word word, _⟩ :: rest =>
          if startsWithOperator ['|'] rest then do
            let (others, rest) ← readPatterns fuel rest.tail
            .ok (word :: others, rest)
          else do .ok ([word], ← expectOperator [')'] rest)
      | tokens =>
          .error (unexpected (if atFinish tokens then some (inQuotes [')']) else none) tokens)

def readCases (list : Reader Command) : Nat → Reader (List (List Word × AfterCase × Command))
  | 0, tokens => .error (unexpected none tokens)
  | fuel + 1, tokens => do
      let tokens := skipNewlines tokens
      if startsWith "esac" tokens then .ok ([], tokens.tail)
      else
        let tokens := if startsWithOperator ['('] tokens then tokens.tail else tokens
        let (patterns, tokens) ← readPatterns tokens.length tokens
        let tokens := skipNewlines tokens
        let (body, tokens) ←
          if endsList tokens then .ok (Command.nothing, tokens) else list tokens
        let after? : Option AfterCase :=
          if startsWithOperator ";;" tokens then some .nothing
          else if startsWithOperator ";&" tokens then some .next
          else if startsWithOperator ";;&" tokens then some .others
          else none
        match after? with
        | some after => do
            let (others, tokens) ← readCases list fuel tokens.tail
            .ok ((patterns, after, body) :: others, tokens)
        | none =>
            if startsWith "esac" tokens then .ok ([(patterns, .nothing, body)], tokens.tail)
            else .error (unexpected (some (inQuotes ";;")) tokens)

def readSelect (list : Reader Command) (line : Nat) : Reader Command := fun tokens => do
  match tokens with
  | ⟨.word word, _⟩ :: rest =>
      let rest ← expect "in" (skipNewlines rest)
      let (cases, rest) ← readCases list rest.length rest
      .ok (.select line word cases, rest)
  | tokens => .error (unexpected (some "word") tokens)

/-- Reads the words of a condition up to its brackets. Operators stand for themselves. -/
def readCondition : Nat → Reader (List Word)
  | 0, tokens => .error (unexpected none tokens)
  | fuel + 1, tokens =>
      let goOn (word : Word) (rest : List Placed) : Except ReadFault (List Word × List Placed) := do
        let (words, rest) ← readCondition fuel rest
        .ok (word :: words, rest)
      match tokens with
      | ⟨.word word, _⟩ :: rest =>
          if plain? word = some "]]".toList then .ok ([], rest) else goOn word rest
      | ⟨.operator text, _⟩ :: rest => goOn [⟨.text text, false⟩] rest
      | ⟨.redirect none operator, _⟩ :: rest => goOn [⟨.text operator, false⟩] rest
      | ⟨.newline, _⟩ :: rest => readCondition fuel rest
      | tokens => .error (unexpected none tokens)

/-- Reads a command that begins with a reserved word or a bracket, if one comes next. -/
def readCompound? (variety : Variety) (list command : Reader Command) (tokens : List Placed) :
    Option (Except ReadFault (Command × List Placed)) :=
  match tokens with
  | ⟨.operator text, _⟩ :: rest =>
      if text = ['('] then some do
        let (body, rest) ← list rest
        .ok (.isolated body, ← expectOperator [')'] rest)
      else none
  | ⟨.number expression, line⟩ :: rest => some (.ok (.number line expression, rest))
  | ⟨.word word, line⟩ :: rest =>
      let isWord (text : Text) := plain? word == some text
      if isWord "\x7b" then some do
        let (body, rest) ← list rest
        .ok (body, ← expect "\x7d" rest)
      else if isWord "if" then some (readBranches list rest.length rest)
      else if isWord "while" ∨ isWord "until" then some do
        let (condition, rest) ← list rest
        let (body, rest) ← readBody list rest
        .ok (.loop (isWord "while") condition body, rest)
      else if isWord "for" then some (readEach variety list line rest)
      else if isWord "case" then some (readSelect list line rest)
      else if variety = .dash then none
      else if isWord "[[" then some do
        let (words, rest) ← readCondition rest.length rest
        .ok (.condition line words, rest)
      else if isWord "time" then some (command rest)
      else none
  | _ => none

/-- Whether a name with empty brackets comes next, which is how a function is defined. -/
def definition? (variety : Variety) : List Placed → Option (Text × List Placed)
  | ⟨.word word, _⟩ :: ⟨.operator ['('], _⟩ :: ⟨.operator [')'], _⟩ :: rest =>
      let isFit (name : Text) : Bool :=
        match variety with
        | .dash => isName name && !(reservedWords .dash).contains name && !isSpecial name
        | .bash => !(reservedWords .bash).contains name
      if (assignment? variety word).isSome then none
      else ((plain? word).filter isFit).map fun name => (name, skipNewlines rest)
  | ⟨.word word, _⟩ :: ⟨.word named, _⟩ :: rest =>
      if variety = .bash ∧ plain? word = some "function".toList then
        let rest :=
          match rest with
          | ⟨.operator ['('], _⟩ :: ⟨.operator [')'], _⟩ :: rest => rest
          | rest => rest
        (plain? named).map fun name => (name, skipNewlines rest)
      else none
  | _ => none

/-- What is wrong with a function that is begun behind a word. -/
def definitionFault? (variety : Variety) : List Placed → Option ReadFault
  | ⟨.word word, line⟩ :: ⟨.operator ['('], _⟩ :: rest =>
      if (assignment? variety word).isSome then none
      else if startsWithOperator [')'] rest = false then some (unexpected (some (inQuotes [')'])) rest)
      else
        match variety with
        | .dash => some ⟨"Bad function name", none, line⟩
        | .bash => none
  | _ => none

/-- Whether the body of a function can begin with the next token. -/
def startsBody (variety : Variety) : List Placed → Bool
  | ⟨.word word, _⟩ :: _ => variety == .dash || (plain? word).any (reservedWords .bash).contains
  | ⟨.operator text, _⟩ :: _ => text == ['(']
  | ⟨.number _, _⟩ :: _ => true
  | _ => variety == .dash

def isReserved (variety : Variety) (word : Word) : Bool :=
  (plain? word).any (reservedWords variety).contains

def readCommand (variety : Variety) : Nat → Reader Command
  | 0, tokens => .error (unexpected none tokens)
  | fuel + 1, tokens => do
      let list := readList (readCommand variety fuel) (fuel + 1)
      match readCompound? variety list (readCommand variety fuel) tokens, definition? variety tokens with
      | some found, _ =>
          let (command, tokens) ← found
          let (redirections, tokens) ← readRedirections tokens.length tokens
          .ok (redirect redirections command, tokens)
      | none, some (name, tokens) =>
          if startsBody variety tokens = false then .error (unexpected none tokens)
          else
            let (body, tokens) ← readCommand variety fuel tokens
            .ok (.define name body, tokens)
      | none, none =>
          let simple := readSimple variety tokens.length ⟨[], [], [], []⟩ tokens
          match tokens with
          | ⟨.word word, line⟩ :: _ =>
              match isReserved variety word, definitionFault? variety tokens with
              | true, _ => .error (unexpected none tokens)
              | false, some fault => .error fault
              | false, none =>
                  let (simple, tokens) ← simple
                  .ok (simple.command line, tokens)
          | _ =>
              let (simple, rest) ← simple
              if simple.redirections.isEmpty then .error (unexpected none tokens)
              else .ok (simple.command ((tokens.head?.map Placed.line).getD 0), rest)

def readLine (variety : Variety) (fuel : Nat) : Nat → Reader Command
  | 0, tokens => .error (unexpected none tokens)
  | count + 1, tokens => do
      let (first, tokens) ← readJoined (readCommand variety fuel) fuel tokens
      let isSeparated := startsWithOperator [';'] tokens || startsWithOperator ['&'] tokens
      let first := if startsWithOperator ['&'] tokens then .background first else first
      let rest := if isSeparated then tokens.tail else tokens
      match rest with
      | ⟨.newline, _⟩ :: rest => .ok (first, rest)
      | ⟨.finish, _⟩ :: _ => .ok (first, rest)
      | _ =>
          if isSeparated then
            let (others, rest) ← readLine variety fuel count rest
            .ok (.inOrder first others, rest)
          else .error (unexpected none rest)

/-- The next command line of a script, or none at its end. -/
def nextLine (variety : Variety) (tokens : List Placed) :
    Except ReadFault (Option (Command × List Placed)) :=
  match skipNewlines tokens with
  | [] => .ok none
  | ⟨.finish, _⟩ :: _ => .ok none
  | tokens => (readLine variety (tokens.length + 2) (tokens.length + 1) tokens).map some

end UniversalModule.Host.Shell
