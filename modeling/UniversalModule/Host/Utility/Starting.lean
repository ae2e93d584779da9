import UniversalModule.Host.Utility.Counting
import UniversalModule.Host.Utility.Naming

/-!
Programs that start others.
-/

namespace UniversalModule.Host.Utility

variable {m : Type → Type} [Monad m] (call : Call m)

def become (program : Text) (arguments : List Text) (environment : Environment)
    (refuse : IoFault → Work m Unit) : Work m Unit := do
  match ← call.start program arguments environment with
  | .ok ending => modify fun progress => { progress with ending := some ending }
  | .error fault => refuse fault

def statusOfFault (fault : IoFault) : Nat :=
  if fault = .notFound ∨ fault = .notDirectory ∨ fault = .nameTooLong then 127 else 126

def refuseStart (program : Text) (fault : IoFault) : Work m Unit :=
  call.fail (statusOfFault fault) (escaped program ++ ": " ++ fault.reason)

/-- The words of a text, in which quotes and backslashes protect; nothing when a quote is open. -/
def wordsIn : Nat → Option Text → Text → Option (List Text)
  | 0, _, _ => none
  | _, word, [] => some word.toList
  | fuel + 1, word, c :: rest =>
      if c = ' ' ∨ c = '\t' ∨ c = '\n' then
        (wordsIn fuel none rest).map fun words => word.toList ++ words
      else if c = '\'' ∨ c = '"' then
        let inside := rest.takeWhile (· != c)
        match rest.drop inside.length with
        | [] => none
        | _ :: rest => wordsIn fuel (some (word.getD [] ++ inside)) rest
      else if c = '\\' then
        match rest with
        | [] => some word.toList
        | d :: rest => wordsIn fuel (some (word.getD [] ++ [d])) rest
      else wordsIn fuel (some (word.getD [] ++ [c])) rest

/-- Whether a word gives a value to a name of the environment. -/
def isSetting (word : Text) : Bool := word.contains '='

def withSettings (environment : Environment) (words : List Text) : Environment :=
  words.foldl (fun environment word =>
    let name := word.takeWhile (· != '=')
    environment.put name (word.drop (name.length + 1))) environment

/-- How far a text of words is read: whether it is between quotes, and of what kind. -/
inductive Quoting where
  | none
  | single
  | double
deriving DecidableEq

/-- The name between braces at the beginning of a text, and what follows it. -/
def bracedName? (text : Text) : Option (Text × Text) :=
  match text with
  | '\x7b' :: rest =>
      let name := rest.takeWhile fun c => c.isAlphanum || c == '_'
      match rest.drop name.length with
      | '\x7d' :: rest => if name.isEmpty ∨ name.any (·.isDigit) && name.head?.any Char.isDigit then .none else some (name, rest)
      | _ => .none
  | _ => .none

def splitEscape? (c : Char) : Option Char :=
  match c with
  | 'f' => some '\x0c'
  | 'n' => some '\n'
  | 'r' => some '\r'
  | 't' => some '\t'
  | 'v' => some '\x0b'
  | c => if "\"#$'\\".toList.contains c then some c else .none

/-- The words of a text with quotes, escapes and values of the environment; an error says why there
are none. The word that is being read is kept turned round. -/
def splitWords (environment : Environment) : Nat → Quoting → Option Text → Text → Except Text (List Text)
  | 0, _, word, _ => .ok (word.map List.reverse).toList
  | _, quoting, word, [] =>
      if quoting = .none then .ok (word.map List.reverse).toList
      else .error "no terminating quote in -S string"
  | fuel + 1, quoting, word, c :: rest =>
      let read := splitWords environment fuel
      let put (c : Char) (rest : Text) : Except Text (List Text) := read quoting (some (c :: word.getD [])) rest
      let finish (rest : Text) : Except Text (List Text) := do
        return (word.map List.reverse).toList ++ (← read .none none rest)
      match c, quoting with
      | '\'', .none => read .single (some (word.getD [])) rest
      | '\'', .single => read .none word rest
      | '"', .none => read .double (some (word.getD [])) rest
      | '"', .double => read .none word rest
      | '\\', quoting =>
          match rest, quoting with
          | [], _ => .error "invalid backslash at end of string in -S"
          | d :: others, .single => if d = '\\' ∨ d = '\'' then put d others else put c rest
          | '_' :: others, .none => finish others
          | '_' :: others, .double => put ' ' others
          | 'c' :: _, .none => .ok (word.map List.reverse).toList
          | 'c' :: _, .double => .error "'\\c' must not appear in double-quoted -S string"
          | d :: others, _ =>
              match splitEscape? d with
              | some meant => put meant others
              | none => .error ("invalid sequence '\\" ++ [d] ++ "' in -S")
      | '$', .single => put c rest
      | '$', quoting =>
          match bracedName? rest with
          | none => .error ("only $\x7bVARNAME\x7d expansion is supported, error at: " ++ c :: rest)
          | some (name, others) =>
              match environment.get? name with
              | some value => read quoting (some (value.reverse ++ word.getD [])) others
              | none => read quoting word others
      | c, .none =>
          if isSpace c then finish rest
          else if c = '#' ∧ word.isNone then .ok []
          else put c rest
      | c, _ => put c rest

/-- Arguments with the words of a text in place of each option that holds one. -/
def withSplit (environment : Environment) : Nat → List Text → Except Text (List Text)
  | fuel + 1, argument :: rest =>
      let splitUp (text : Text) (rest : List Text) : Except Text (List Text) := do
        let words ← splitWords environment (text.length + 1) .none none text
        withSplit environment fuel (words ++ rest)
      let keep (count : Nat) : Except Text (List Text) :=
        return (argument :: rest).take count ++ (← withSplit environment fuel (rest.drop (count - 1)))
      let long : Text := "--split-string"
      match argument, rest with
      | ['-', '-'], _ => .ok (argument :: rest)
      | '-' :: '-' :: _, rest =>
          if (long ++ ['=']).isPrefixOf argument then splitUp (argument.drop (long.length + 1)) rest
          else if argument = long then
            match rest with
            | text :: rest => splitUp text rest
            | [] => keep 1
          else keep 1
      | '-' :: letters, rest =>
          let plain := letters.takeWhile "i0v".toList.contains
          let flags : List Text := if plain.isEmpty then [] else ['-' :: plain]
          match letters.drop plain.length, rest with
          | 'S' :: [], text :: rest => return flags ++ (← splitUp text rest)
          | 'S' :: c :: text, rest => return flags ++ (← splitUp (c :: text) rest)
          | [_], _ :: _ => keep 2
          | _, _ => keep 1
      | _, _ => .ok (argument :: rest)
  | _, arguments => .ok arguments

/-- What is said when an option or a program has a blank in it. -/
def splitHint : Text := "use -[v]S to pass options in shebang lines"

def runInEnvironment (given : List Given) (environment : Environment) (program : Text) (arguments : List Text) :
    Work m Unit := do
  let folder ←
    match valueGiven? given ['C'] with
    | none => pure call.folder
    | some path =>
        match ← call.find path with
        | .ok .folder => pure (call.place path)
        | found =>
            let fault := match found with
              | .error fault => fault
              | .ok _ => .notDirectory
            call.fail 125 ("cannot change directory to " ++ quoted path ++ ": " ++ fault.reason)
  if isGiven given ['0'] then call.fail 125 ("cannot specify --null (-0) with command" ++ call.helpLine)
  become { call with folder } program arguments environment fun fault => do
    call.complain (if fault = .notFound then 127 else 126) (escaped program ++ ": " ++ fault.reason)
    if fault = .notFound ∧ program.contains ' ' then call.complain 0 splitHint

def env : Work m Unit := do
  match withSplit call.environment 10 call.arguments with
  | .error message => call.fail 125 message
  | .ok arguments => do
      let names := "i,ignore-environment 0,null u,unset= C,chdir= S,split-string= v,debug"
      match readOptions (knownOptions names) false (arguments.flatten.length + arguments.length + 1) arguments with
      | .error fault =>
          let hint : Text := match fault with
            | .unknownLetter letter => if isSpace letter then '\n' :: (call.name ++ ": " ++ splitHint) else []
            | _ => []
          call.fail 125 (fault.message ++ hint ++ call.helpLine)
      | .ok (given, operands) =>
          let isBare := operands.head? = some ['-']
          let operands := if isBare then operands.tail else operands
          let removed := (given.filter fun option => option.name == ['u']).map Given.value
          let kept : Environment :=
            if isGiven given ['i'] ∨ isBare then []
            else call.environment.filter fun entry => !removed.contains entry.1
          let environment := withSettings kept (operands.takeWhile isSetting)
          match operands.dropWhile isSetting, isGiven given ['C'] with
          | [], true => call.fail 125 ("must specify command with --chdir (-C)" ++ call.helpLine)
          | [], false =>
              let ending := if isGiven given ['0'] then '\x00' else '\n'
              environment.forM fun (name, value) => printText (name ++ '=' :: value ++ [ending])
          | program :: rest, _ => runInEnvironment call given environment program rest

def refuseRun (tell : Text → Text) (program : Text) (fault : IoFault) : Work m Unit :=
  call.fail (statusOfFault fault) ("failed to run command " ++ tell program ++ ": " ++ fault.reason)

def nohup : Work m Unit := do
  let (_, operands) ← call.optionsWith false 125 [] call.arguments
  match operands with
  | [] => call.fail 125 ("missing operand" ++ call.helpLine)
  | program :: rest => become call program rest call.environment (refuseRun call quoted program)

/-- How a stream is to be buffered: not at all, by lines or in a number of bytes. -/
def isBuffering (isInput : Bool) (mode : Text) : Bool :=
  (mode == ['L'] && !isInput) || (countOf? mode).isSome

/-- Runs a program whose streams are buffered otherwise, which cannot be seen. -/
def stdbuf : Work m Unit := do
  let (given, operands) ← call.optionsWith false 125 "i,input= o,output= e,error=" call.arguments
  match given.find? fun option => !isBuffering (option.name == ['i']) option.value, operands with
  | some ⟨name, value⟩, _ =>
      if name = ['i'] ∧ value = ['L'] then
        call.fail 125 ("line buffering stdin is meaningless" ++ call.helpLine)
      else call.fail 125 ("invalid mode " ++ escaped value)
  | none, [] => call.fail 125 ("missing operand" ++ call.helpLine)
  | none, program :: rest =>
      if given.isEmpty then call.fail 125 ("you must specify a buffering mode option" ++ call.helpLine)
      else become call program rest call.environment (refuseRun call escaped program)

/-- The number of a signal that is told by its name or by itself. -/
def signalOf? (word : Text) : Option Nat :=
  match digits? word with
  | some number => if number ≤ 64 then some number else none
  | none =>
      let name := word.map Char.toUpper
      let name := (Text.after? "SIG" name).getD name
      if name = "EXIT".toList then some 0 else (signalNames.findIdx? (· == name)).map (· + 1)

/-- How long a program goes on that only waits, in thousandths of a second. -/
def waitingTime? (program : Text) (arguments : List Text) : Option Nat :=
  if baseName program = "sleep".toList then
    (arguments.mapM thousandths?).map fun times => times.foldl (· + ·) 0
  else none

/-- Runs a program for a time. Only programs that do nothing but wait can need more than that. -/
def timeout : Work m Unit := do
  let names := "s,signal= k,kill-after= foreground preserve-status v,verbose"
  let (given, operands) ← call.optionsWith false 125 names call.arguments
  let signal ←
    match valueGiven? given ['s'] with
    | none => pure 15
    | some word =>
        match signalOf? word with
        | some signal => pure signal
        | none => call.fail 125 (escaped word ++ ": invalid signal" ++ call.helpLine)
  match (valueGiven? given ['k']).filter (!isTime ·), operands with
  | some time, _ => call.fail 125 ("invalid time interval " ++ escaped time ++ call.helpLine)
  | none, time :: program :: rest =>
      if isTime time = false then call.fail 125 ("invalid time interval " ++ escaped time ++ call.helpLine)
      else
        let limit := (thousandths? time).filter (· != 0)
        match limit, waitingTime? program rest with
        | some limit, some needed =>
            if needed ≤ limit then become call program rest call.environment (refuseRun call escaped program)
            else do
              if isGiven given ['v'] then
                let name := (signalName? signal).getD (Text.ofNat signal)
                call.complain 0 ("sending signal " ++ name ++ " to command " ++ escaped program)
              let ending : Ending :=
                if signal = 9 then .signal 9
                else .status (if isGiven given "preserve-status" then 128 + signal else 124)
              modify fun progress => { progress with ending := some ending }
        | _, _ => become call program rest call.environment (refuseRun call escaped program)
  | none, _ => do
      printError (call.helpLine.tail ++ ['\n'])
      stop 125

/-- Runs a program with another weight, or tells its own. -/
def nice : Work m Unit := do
  let arguments := match call.arguments with
    | ('-' :: '-' :: c :: rest) :: others => if c.isDigit then ("-n-" ++ c :: rest) :: others else call.arguments
    | ('-' :: '+' :: c :: rest) :: others => if c.isDigit then ("-n" ++ c :: rest) :: others else call.arguments
    | ('-' :: c :: rest) :: others => if c.isDigit then ("-n" ++ c :: rest) :: others else call.arguments
    | arguments => arguments
  let (given, operands) ← call.optionsWith false 125 "n,adjustment=" arguments
  let isNumber (word : Text) : Bool :=
    match word with
    | '-' :: digits => (digits? digits).isSome
    | '+' :: digits => (digits? digits).isSome
    | digits => (digits? digits).isSome
  match given.getLast?, operands with
  | some ⟨_, value⟩, operands =>
      if isNumber value = false then call.fail 125 ("invalid adjustment " ++ escaped value)
      else
        match operands with
        | [] => call.fail 125 ("a command must be given with an adjustment" ++ call.helpLine)
        | program :: rest => become call program rest call.environment (refuseStart call program)
  | none, [] => printLine ['0']
  | none, program :: rest => become call program rest call.environment (refuseStart call program)

/-- The items of an input, and how they are given to a program. -/
structure Batching where
  program : Text
  arguments : List Text
  /-- What in the arguments an item takes the place of. -/
  placeholder : Option Text
  most : Option Nat
  tells : Bool

def replaceIn (part item : Text) : Nat → Text → Text
  | 0, word => word
  | fuel + 1, word =>
      match Text.after? part word, word with
      | some rest, _ => item ++ replaceIn part item fuel rest
      | none, c :: rest => c :: replaceIn part item fuel rest
      | none, [] => []

def batchesOf (most : Nat) : Nat → List Text → List (List Text)
  | 0, items => [items]
  | fuel + 1, items =>
      if items.length ≤ most then [items] else items.take most :: batchesOf most fuel (items.drop most)

def Batching.starts (batching : Batching) (items : List Text) (runsEmpty : Bool) : List (List Text) :=
  match batching.placeholder with
  | some part =>
      items.map fun item =>
        batching.arguments.map fun word => replaceIn part item (word.length + 1) word
  | none =>
      if items.isEmpty then (if runsEmpty then [batching.arguments] else [])
      else
        let batches := match batching.most with
          | some most => batchesOf (max most 1) items.length items
          | none => [items]
        batches.map fun items => batching.arguments ++ items

def Batching.start (batching : Batching) (arguments : List Text) : Work m Unit := do
  if batching.tells then
    printError (Text.joinWith " " ((batching.program :: arguments).map quotedIfOdd) ++ ['\n'])
  match ← call.start batching.program arguments call.environment with
  | .error fault =>
      call.fail (statusOfFault fault) (batching.program ++ ": " ++ fault.reason)
  | .ok (.status 0) => return ()
  | .ok (.status 255) => call.fail 124 (batching.program ++ ": exited with status 255; aborting")
  | .ok (.status _) => giveStatus 123
  | .ok (.signal number) =>
      call.fail 125 (batching.program ++ ": terminated by signal " ++ Text.ofNat number)

def unmatchedQuote (text : Text) : Text :=
  let isDouble := text.count '\'' % 2 = 0
  "unmatched " ++ (if isDouble then "double" else "single") ++
    " quote; by default quotes are special to xargs unless you use the -0 option"

def xargs : Work m Unit := do
  let (given, operands) ← call.optionsWith false 1
    ("0,null a,arg-file= d,delimiter= E= e,eof? I= i,replace? L,max-lines= l? n,max-args= P,max-procs= " ++
      "p,interactive r,no-run-if-empty s,max-chars= t,verbose x,exit show-limits o,open-tty") call.arguments
  let is (letter : Char) := isGiven given [letter]
  let source := (valueGiven? given ['a']).getD ['-']
  let content ←
    match ← call.read source with
    | .ok content => pure (Text.ofUtf8Lossy content)
    | .error fault => call.fail 1 ("Cannot open input file " ++ quoted source ++ ": " ++ fault.reason)
  let placeholder := (valueGiven? given ['I']).orElse fun _ =>
    (valueGiven? given ['i']).map fun part => if part.isEmpty then "\x7b\x7d" else part
  let delimiter? : Option Char :=
    if is '0' then some '\x00'
    else
      (valueGiven? given ['d']).bind fun word =>
        match word with
        | ['\\', 'n'] => some '\n'
        | ['\\', 't'] => some '\t'
        | ['\\', '0'] => some '\x00'
        | c :: _ => some c
        | [] => none
  let items ←
    match delimiter?, placeholder with
    | some delimiter, _ => pure (linesOf delimiter content)
    | none, some _ =>
        let lines := (linesOf '\n' content).map fun line => line.dropWhile fun c => c == ' ' || c == '\t'
        pure (lines.filter (!List.isEmpty ·))
    | none, none =>
        match wordsIn (content.length + 1) none content with
        | some words => pure words
        | none => call.fail 1 (unmatchedQuote content)
  let number (letter : Char) : Option Nat := (valueGiven? given [letter]).bind digits?
  let batching : Batching := {
    program := operands.headD "echo"
    arguments := operands.tail
    placeholder
    most := (number 'n').orElse fun _ => number 'L'
    tells := is 't' }
  (batching.starts items !(is 'r')).forM (batching.start call)

end UniversalModule.Host.Utility
