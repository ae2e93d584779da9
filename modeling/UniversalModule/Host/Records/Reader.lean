import UniversalModule.Host.Records.ExpressionReader

/-!
The statements, rules and functions of a script on records, from its tokens.
-/

namespace UniversalModule.Host.Records

def endsStatement : List Located → Bool
  | [] => true
  | ⟨token, _⟩ :: _ => token == .newLine || token == .sign [';'] || token == .sign ['}']

/-- Whether the values of a printing statement end in front of some tokens. -/
def endsValues (tokens : List Located) : Bool :=
  endsStatement tokens || nextIs ['>'] tokens || nextIs ">>" tokens || nextIs ['|'] tokens

def readValues (context : Context) (fuel : Nat) : Reader (List Expression) := fun tokens => do
  let bare := { context with compares := false }
  let plain : Except Fault (List Expression × List Located) :=
    if endsValues tokens then .ok ([], tokens) else readList bare fuel tokens
  if nextIs ['('] tokens then
    match readArguments context fuel tokens.tail with
    | .ok (values, rest) => if endsValues rest then .ok (values, rest) else plain
    | .error fault => .error fault
  else plain

/-- Reads where the output of a statement goes, if that is told. -/
def readTarget (context : Context) (fuel : Nat) : Reader (Option Target) := fun tokens => do
  let direction? : Option Direction :=
    if nextIs ['>'] tokens then some .over
    else if nextIs ">>" tokens then some .behind
    else if nextIs ['|'] tokens then some .command
    else none
  match direction? with
  | none => .ok (none, tokens)
  | some direction => do
      let (name, rest) ← readAt { context with compares := false } fuel .chosen tokens.tail
      .ok (some ⟨direction, name⟩, rest)

/-- Reads the end of a statement; a closing brace is left. -/
def readEnd (context : Context) : Reader Unit := fun tokens =>
  match tokens with
  | [] => .ok ((), [])
  | ⟨token, _⟩ :: rest =>
      if token = .newLine ∨ token = .sign [';'] then .ok ((), rest)
      else if token = .sign ['}'] then .ok ((), tokens)
      else refuse context tokens

/-- Reads a statement without parts of its own, up to its end. -/
def readSimple (context : Context) (fuel : Nat) : Reader Statement := fun tokens => do
  let fail {α : Type} (line : Nat) (message : Text) : Except Fault α := .error (faultAt line message)
  match tokens with
  | ⟨.keyword word, line⟩ :: rest =>
      let value? : Except Fault (Option Expression × List Located) :=
        if endsStatement rest then .ok (none, rest)
        else do
          let (value, rest) ← readAt context fuel .assigned rest
          .ok (some value, rest)
      match String.ofList word with
      | "print" => do
          let (values, rest) ← readValues context fuel rest
          let (target, rest) ← readTarget context fuel rest
          .ok (.print values target, rest)
      | "printf" => do
          let (values, rest) ← readValues context fuel rest
          if values.isEmpty then fail line "no arguments in call to printf"
          else
            let (target, rest) ← readTarget context fuel rest
            .ok (.format values target, rest)
      | "break" => if context.isInLoop then .ok (.leave, rest) else fail line "break statement outside of loop"
      | "continue" => if context.isInLoop then .ok (.goOn, rest) else fail line "continue statement outside of loop"
      | "next" => if context.hasRecords then .ok (.next, rest) else fail line "improper use of next"
      | "nextfile" =>
          if context.hasRecords then .ok (.nextFile, rest) else fail line "improper use of nextfile"
      | "exit" => do
          let (value, rest) ← value?
          .ok (.exit value, rest)
      | "return" =>
          if context.isInFunction then do
            let (value, rest) ← value?
            .ok (.giveBack value, rest)
          else fail line "return outside function body"
      | "delete" =>
          match rest with
          | ⟨.name array, _⟩ :: rest =>
              if nextIs ['['] rest then do
                let (index, rest) ← readList context fuel rest.tail
                let rest ← expect context [']'] rest
                .ok (.delete array (some index), rest)
              else .ok (.delete array none, rest)
          | rest => refuse context rest
      | _ => do
          let (expression, rest) ← readAt context fuel .assigned tokens
          .ok (.expression expression, rest)
  | tokens => do
      let (expression, rest) ← readAt context fuel .assigned tokens
      .ok (.expression expression, rest)

mutual

def readStatement (context : Context) : Nat → Reader Statement
  | 0 => refuse context
  | fuel + 1 => fun tokens => do
      let inLoop := { context with isInLoop := true }
      let inBrackets := { context with brackets := context.brackets + 1 }
      let test (rest : List Located) : Except Fault (Expression × List Located) := do
        let rest ← expect context ['('] rest
        let (test, rest) ← readAt inBrackets fuel .assigned rest
        .ok (test, ← expect inBrackets [')'] rest)
      match tokens with
      | ⟨.sign ['{'], _⟩ :: rest => readBlock { context with braces := context.braces + 1 } fuel [] rest
      | ⟨.sign [';'], _⟩ :: rest => .ok (.empty, rest)
      | ⟨.keyword word, _⟩ :: rest =>
          match String.ofList word with
          | "if" => do
              let (test, rest) ← test rest
              let (first, rest) ← readStatement context fuel (skipLines rest)
              if nextIsWord "else" (skipEnds rest) then
                let (second, rest) ← readStatement context fuel (skipLines (skipEnds rest).tail)
                .ok (.cond test first second, rest)
              else .ok (.cond test first .empty, rest)
          | "while" => do
              let (test, rest) ← test rest
              if nextIs [';'] rest then .ok (.whilst test .empty, rest.tail)
              else
                let (body, rest) ← readStatement inLoop fuel (skipLines rest)
                .ok (.whilst test body, rest)
          | "do" => do
              let (body, rest) ← readStatement inLoop fuel (skipLines rest)
              let rest := skipEnds rest
              if nextIsWord "while" rest then
                let (test, rest) ← test rest.tail
                let (_, rest) ← readEnd context rest
                .ok (.doWhilst body test, rest)
              else refuse context rest
          | "for" => do
              let rest ← expect context ['('] rest
              match rest with
              | ⟨.name name, _⟩ :: ⟨.keyword ['i', 'n'], _⟩ :: ⟨.name array, _⟩ :: ⟨.sign [')'], _⟩ :: rest => do
                  let (body, rest) ← readStatement inLoop fuel (skipLines rest)
                  .ok (.each name array body, rest)
              | rest => do
                  let (start, rest) ←
                    if nextIs [';'] rest then .ok (.empty, rest) else readSimple inBrackets fuel rest
                  let rest ← expect inBrackets [';'] rest
                  let rest := skipLines rest
                  let (test, rest) ←
                    if nextIs [';'] rest then .ok (none, rest)
                    else do
                      let (test, rest) ← readAt inBrackets fuel .assigned rest
                      .ok (some test, rest)
                  let rest ← expect inBrackets [';'] rest
                  let rest := skipLines rest
                  let (step, rest) ←
                    if nextIs [')'] rest then .ok (.empty, rest) else readSimple inBrackets fuel rest
                  let rest ← expect inBrackets [')'] rest
                  if nextIs [';'] rest then .ok (.count start test step .empty, rest.tail)
                  else
                    let (body, rest) ← readStatement inLoop fuel (skipLines rest)
                    .ok (.count start test step body, rest)
          | _ => do
              let (statement, rest) ← readSimple context fuel tokens
              let (_, rest) ← readEnd context rest
              .ok (statement, rest)
      | tokens => do
          let (statement, rest) ← readSimple context fuel tokens
          let (_, rest) ← readEnd context rest
          .ok (statement, rest)

def readBlock (context : Context) : Nat → List Statement → Reader Statement
  | 0, _ => refuse context
  | fuel + 1, read => fun tokens => do
      match skipEnds tokens with
      | ⟨.sign ['}'], _⟩ :: rest => .ok (.block read.reverse, rest)
      | [] => refuse context []
      | tokens => do
          let (statement, rest) ← readStatement context fuel tokens
          readBlock context fuel (statement :: read) rest

end

/-- Reads the parameters of a function behind the opening bracket. -/
def readParameters (context : Context) : Nat → Reader (List Text)
  | 0 => refuse context
  | fuel + 1 => fun tokens => do
      match tokens with
      | ⟨.sign [')'], _⟩ :: rest => .ok ([], rest)
      | ⟨.name name, _⟩ :: rest =>
          if nextIs [','] rest then
            let (others, rest) ← readParameters context fuel (skipLines rest.tail)
            .ok (name :: others, rest)
          else
            let rest ← expect context [')'] rest
            .ok ([name], rest)
      | tokens => refuse context tokens

def readFunction (context : Context) (fuel : Nat) : Reader (Text × Function) := fun tokens => do
  let named (name : Text) (rest : List Located) : Except Fault ((Text × Function) × List Located) := do
    let rest ← expect context ['('] rest
    let (parameters, rest) ← readParameters context fuel rest
    match skipLines rest with
    | ⟨.sign ['{'], _⟩ :: rest => do
        let inner := { context with isInFunction := true, braces := 1, hasRecords := true }
        let (body, rest) ← readBlock inner fuel [] rest
        .ok ((name, ⟨parameters, body⟩), rest)
    | rest => refuse context rest
  match tokens with
  | ⟨.caller name, _⟩ :: rest => named name rest
  | ⟨.name name, _⟩ :: rest => named name rest
  | tokens => refuse context tokens

def readRuleAction (context : Context) (fuel : Nat) : Reader (Option Statement) := fun tokens => do
  if nextIs ['{'] tokens then
    let (action, rest) ← readBlock { context with braces := 1 } fuel [] tokens.tail
    .ok (some action, rest)
  else .ok (none, tokens)

def readScript (context : Context) : Nat → Script → List Located → Except Fault Script
  | 0, script, _ => .ok script
  | fuel + 1, script, tokens => do
      let goOn (selection : Selection) (needsAction : Bool) (rest : List Located) : Except Fault Script := do
        let inner := { context with hasRecords := !needsAction }
        let (action, behind) ← readRuleAction inner fuel rest
        if needsAction ∧ action.isNone then refuse context rest
        else readScript context fuel { script with rules := script.rules ++ [⟨selection, action⟩] } behind
      match skipEnds tokens with
      | [] => .ok script
      | ⟨.keyword word, line⟩ :: rest =>
          match String.ofList word with
          | "BEGIN" => goOn .atStart true rest
          | "END" => goOn .atEnd true rest
          | "function" => do
              let ((name, function), rest) ← readFunction context fuel rest
              readScript context fuel { script with functions := script.functions.put name function } rest
          | _ => refuse context (⟨.keyword word, line⟩ :: rest)
      | ⟨.sign ['}'], line⟩ :: rest =>
          let next := (rest.head?.map fun located => located.token.source).getD "end of line".toList
          .error ⟨(faultAt line "extra '\x7d'").complaints ++
            (faultAt line ("syntax error at or near " ++ next)).complaints⟩
      | tokens => do
          if nextIs ['{'] tokens then goOn .all false tokens
          else
            let (first, rest) ← readAt context fuel .assigned tokens
            if nextIs [','] rest then
              let (last, rest) ← readAt context fuel .assigned (skipLines rest.tail)
              goOn (.range first last) false rest
            else goOn (.those first) false rest

end UniversalModule.Host.Records
