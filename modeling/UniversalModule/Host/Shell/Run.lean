import UniversalModule.Host.Shell.Calling
import UniversalModule.Host.Shell.Condition

/-!
How a shell runs a script. The fuel bounds how deep commands stand in one another; a script that
needs more, or that repeats a command too often, is ended.
-/

namespace UniversalModule.Host.Shell

variable {m : Type → Type} [Monad m]

/-- The only thing that a script does is to name a file for its input. -/
def inputAlone? (variety : Variety) (script : Text) : Option Word :=
  match nextLine variety (tokensFrom variety 1 script) with
  | .ok (some (.redirected [.input 0 word] (.simple _ [] []), [⟨.finish, _⟩])) => some word
  | _ => none

/-- What a script prints that runs apart from the one in which it stands. -/
def catchOutput (setting : Setting m) (run : Runner m) (script : Text) (state : State) :
    m (Bytes × State) := do
  let flags :=
    match setting.variety with
    | .dash => state.flags
    | .bash => (state.flags.put false 'e').getD state.flags
  let inner ← runText setting (run false) ⟨script, state.line, [], true, false⟩
    { state.catching with flags, depth := state.depth + 1 }
  let inner ← runAtEnd setting (run false) inner
  let outer := state.rejoined inner
  return (inner.caughtBytes,
    { outer with status := state.status, putInStatus := inner.status, input := inner.input })

/-- What is put in for a script: what it prints, or what the file holds that it only names. -/
def putInOutput (setting : Setting m) (run : Runner m) : PutIn m := fun script state => do
  match setting.variety, inputAlone? setting.variety script with
  | .bash, some word => do
      let (isDone, inner) ← applyRedirections setting (catchOutput setting run) [.input 0 word] state
      let status := if isDone then 0 else 1
      return (if isDone then inner.input else [], { inner with input := state.input, putInStatus := status })
  | _, _ => catchOutput setting run script state

/-- What stands in front of what is told of commands. In the second shell its first character is
repeated for each script in which the command stands. -/
def traceMark (setting : Setting m) (putIn : PutIn m) (state : State) : m Text := do
  let given := (state.values.get? "PS4".toList).getD []
  let mark ←
    match readWord setting.variety .document state.line given with
    | .error _ => pure given
    | .ok (word, _) => do
        let quiet := { state with flags := (state.flags.put false 'x').getD state.flags }
        pure (← expandText setting putIn word quiet).1
  match setting.variety, mark with
  | .bash, c :: rest => return List.replicate state.depth c ++ rest
  | _, mark => return mark

/-- Tells on the errors what is run, where that is asked for. -/
def trace (setting : Setting m) (putIn : PutIn m) (before : State) (words : List Text) (state : State) :
    m State := do
  if state.flags.traces = false ∨ words.isEmpty then return state
  else
    let mark ← traceMark setting putIn state
    let told ← setting.emit 2 (Text.utf8 (mark ++ Text.joinWith " " words ++ ['\n']))
      { state with sinks := before.sinks }
    return { told with sinks := state.sinks }

def traceSimple (setting : Setting m) (putIn : PutIn m) (before : State) (given texts : List Text)
    (state : State) : m State := do
  match setting.variety with
  | .dash => trace setting putIn before (given ++ texts) state
  | .bash => do
      let state ← given.foldlM (fun state text => trace setting putIn before [text] state) state
      trace setting putIn before (texts.map (quotedText .program)) state

/-- Runs a simple command. Values that are given in front of a command last as long as it does, and
the programs that it runs find them; in front of a special command they stay. -/
def runSimple (setting : Setting m) (run : Runner m) (isTested : Bool) (line : Nat)
    (assignments : List Assignment) (words : List Word) (redirections : List Redirection)
    (before : State) : m State := do
  let putIn := putInOutput setting run
  let (texts, state) ← expandCommand setting putIn words { before with line, putInStatus := 0 }
  if state.isGoing = false then return state
  let outer := state
  let (isDone, state) ← applyRedirections setting putIn redirections state
  let isSpecialFirst := texts.head?.any (isFirst setting)
  if isDone = false then
    let ended := state.withChannelsOf outer redirections
    if ended.isGoing ∧ isSpecialFirst then return { ended with flow := .failed }
    else afterFailure setting run isTested ended
  else
    let keeps := texts.isEmpty || isSpecialFirst
    let names := if keeps then [] else assignments.map Assignment.name
    let valued := state
    let (given, state) ← assignAll setting putIn texts.isEmpty assignments state
    let closed (ended : State) : State := { ended.withChannelsOf outer redirections with nextFile := before.nextFile }
    if state.isGoing = false then return closed state
    let state ← traceSimple setting putIn outer given texts (names.foldl State.exportName state)
    match texts with
    | [] => afterFailure setting run isTested (closed (state.withStatus state.putInStatus))
    | name :: words => do
        let ended ← runWords setting (run isTested) name words state
        let keepsChannels := name = "exec".toList ∧ words.isEmpty
        let ended := if keepsChannels then ended else closed ended
        let ended ← runPending setting (run isTested) (ended.withValuesOf valued names)
        afterFailure setting run isTested ended

def runRedirected (setting : Setting m) (run : Runner m) (isTested : Bool)
    (redirections : List Redirection) (command : Command) (state : State) : m State := do
  let (isDone, opened) ← applyRedirections setting (putInOutput setting run) redirections state
  if isDone = false then afterFailure setting run isTested (opened.withChannelsOf state redirections)
  else
    let ended ← run isTested command opened
    return { ended.withChannelsOf state redirections with nextFile := state.nextFile }

def runApart (setting : Setting m) (run : Runner m) (command : Command) (apart : State) : m State := do
  runAtEnd setting (run false) (afterLine (← run false command apart))

def runIsolated (setting : Setting m) (run : Runner m) (command : Command) (state : State) : m State := do
  let inner ← runApart setting run command state.apart
  runPending setting (run false)
    { state.rejoined inner with caught := inner.caught, input := inner.input }

def statusesOf (first : Nat) (second : Command) (after : State) : List Text :=
  Text.ofNat first ::
    match second with
    | .pipe _ _ => (after.items "PIPESTATUS").map Prod.snd
    | _ => [Text.ofNat after.status]

/-- Runs two commands, of which the second one reads what the first one prints. -/
def runPipe (setting : Setting m) (run : Runner m) (first second : Command) (state : State) : m State := do
  let before ← runApart setting run first state.catching
  let between := { state.apart with
    printed := before.printed, input := before.caughtBytes, inputIsFile := false, inputFrom := none }
  let after ← runApart setting run second between
  let status :=
    if state.flags.failsInPipes ∧ after.status = 0 then before.status else after.status
  let joined := state.rejoined { after with toMain := before.toMain ++ after.toMain, status }
  let joined := { joined with caught := after.caught, input := before.input }
  let told :=
    match setting.variety with
    | .dash => joined
    | .bash => joined.setRow "PIPESTATUS" (rowOf (statusesOf before.status second after))
  runPending setting (run false) told

/-- Runs a command for whose end the shell does not wait. -/
def runBackground (setting : Setting m) (run : Runner m) (command : Command) (state : State) : m State := do
  let apart := { state.apart with input := [], inputIsFile := false, inputFrom := none }
  let inner ← runApart setting run command apart
  let joined := { state.rejoined inner with caught := inner.caught }
  runPending setting (run false) { joined with jobs := state.jobs ++ [inner.status], status := 0 }

/-- Whether a loop goes on after a round, and the state behind it. -/
def afterRound (state : State) : Bool × State :=
  match state.flow with
  | .going => (true, state)
  | .leaving loops => (false, { state with flow := if loops ≤ 1 then .going else .leaving (loops - 1) })
  | .repeating loops =>
      if loops ≤ 1 then (true, { state with flow := .going })
      else (false, { state with flow := .repeating (loops - 1) })
  | _ => (false, state)

def roundLimit : Nat := 100000

/-- Repeats a command as long as a condition is met; the status is that of its last round. -/
def runRounds (run : Command → State → m State) (condition : State → m (Bool × State)) (body : Command) :
    Nat → Nat → State → m State
  | 0, _, state => return { state with flow := .ended }
  | fuel + 1, status, state => do
      let (isMet, state) ← condition state
      let (goesOn, state) := afterRound state
      if goesOn = false then return state
      else if isMet = false then return state.withStatus status
      else
        let (goesOn, state) := afterRound (← run body state)
        if goesOn then runRounds run condition body fuel state.status state else return state

def runEach (setting : Setting m) (run : Command → State → m State) (told : State → m State)
    (name : Text) (body : Command) : List Text → State → m State
  | [], state => return state
  | text :: texts, state => do
      if state.isFixed name then setting.refuse [] name state
      else
        let state ← told (← setting.give [] name text state)
        if state.isGoing = false then return state
        let (goesOn, state) := afterRound (← run body state)
        if goesOn then runEach setting run told name body texts state else return state

/-- The value of an expression in double brackets; an empty one counts as 1. -/
def numberOfText (setting : Setting m) (putIn : PutIn m) (expression : Text) (state : State) :
    m (Option Int × State) := do
  match readWord setting.variety .inner state.line expression with
  | .error message => return (none, ← setting.complain ("((: " ++ message) 1 state)
  | .ok (word, _) => do
      let (text, state) ← expandText setting putIn word state
      if (trimBlanks text).isEmpty then return (some 1, state)
      else
        match Arithmetic.evaluate setting.variety setting.memory (trimBlanks text) state with
        | .ok (value, state) => return (some value, state)
        | .error fault =>
            let message := faultMessage setting.variety (trimBlanks text) fault
            return (none, ← setting.complain ("((: " ++ message) 1 state)

def runCount (setting : Setting m) (run : Command → State → m State) (putIn : PutIn m)
    (start condition step : Text) (body : Command) (state : State) : m State := do
  match ← numberOfText setting putIn start state with
  | (none, state) => return state
  | (some _, state) =>
      let goesOn (isFirst : Bool) (state : State) : m (Bool × State) := do
        let (stepped, state) ←
          if isFirst then pure (some 1, state) else numberOfText setting putIn step state
        match stepped with
        | none => return (false, state)
        | some _ => do
            let (value, state) ← numberOfText setting putIn condition state
            return (value.any (· != 0), state)
      let (isMet, state) ← goesOn true state
      if isMet = false then return state.withStatus (if state.status = 1 then 1 else 0)
      else
        let (goes, state) := afterRound (← run body state)
        if goes then runRounds run (goesOn false) body roundLimit state.status state else return state

def fitsAny (setting : Setting m) (putIn : PutIn m) (text : Text) :
    List Word → State → m (Bool × State)
  | [], state => return (false, state)
  | word :: words, state => do
      let (pattern, state) ← expandPattern setting putIn word state
      if fits setting.variety pattern text then return (true, state)
      else fitsAny setting putIn text words state

inductive Search where
  | none
  /-- A case was found, and another one may be. -/
  | found
  /-- The next case is run in any event. -/
  | passing
deriving DecidableEq

def runCases (setting : Setting m) (putIn : PutIn m) (run : Command → State → m State) (text : Text) :
    List (List Word × AfterCase × Command) → Search → State → m State
  | [], search, state => return if search = .none then state.withStatus 0 else state
  | (patterns, after, body) :: others, search, state => do
      let (isFitting, state) ←
        if search = .passing then pure (true, state) else fitsAny setting putIn text patterns state
      if state.isGoing = false then return state
      else if isFitting = false then runCases setting putIn run text others search state
      else
        let state ← run body state
        if state.isGoing = false then return state
        else
          match after with
          | .nothing => return state
          | .next => runCases setting putIn run text others .passing state
          | .others => runCases setting putIn run text others .found state

/-- Tells of a command that is made of others; only the second shell does. -/
def traceCompound (setting : Setting m) (putIn : PutIn m) (words : List Text) (state : State) : m State :=
  match setting.variety with
  | .dash => return state
  | .bash => trace setting putIn state words state

def execute (setting : Setting m) : Nat → Runner m
  | 0, _, _, state => return { state with flow := .ended }
  | fuel + 1, isTested, command, state => do
      if state.isGoing = false ∨ state.flags.onlyReads then return state
      let run : Runner m := execute setting fuel
      let putIn := putInOutput setting run
      let inLoop (state : State) : State := { state with loops := state.loops + 1 }
      let outOfLoop (ended : State) : State := { ended with loops := state.loops }
      match command with
      | .nothing => return state.withStatus 0
      | .simple line assignments words =>
          runSimple setting run isTested line assignments words [] state
      | .redirected redirections (.simple line assignments words) =>
          runSimple setting run isTested line assignments words redirections state
      | .redirected redirections command =>
          runRedirected setting run isTested redirections command state
      | .inOrder first second => run isTested second (← run isTested first state)
      | .afterSuccess first second => do
          let state ← run true first state
          if state.status = 0 then run isTested second state else return state
      | .afterFailure first second => do
          let state ← run true first state
          if state.status = 0 then return state else run isTested second state
      | .negated command => do
          let state ← run true command state
          return if state.isGoing then state.withStatus (if state.status = 0 then 1 else 0) else state
      | .pipe first second => afterFailure setting run isTested (← runPipe setting run first second state)
      | .isolated command => afterFailure setting run isTested (← runIsolated setting run command state)
      | .background command => runBackground setting run command state
      | .branch condition first second => do
          let state ← run true condition state
          run isTested (if state.status = 0 then first else second) state
      | .loop succeeds condition body => do
          let isMet (state : State) : m (Bool × State) := do
            let state ← run true condition state
            return ((state.status == 0) == succeeds, state)
          return outOfLoop (← runRounds (run isTested) isMet body roundLimit 0 (inLoop state))
      | .each line name words body => do
          let state := { state with line }
          if isName name = false then
            return ← setting.complain ('\x60' :: name ++ "': not a valid identifier") 1 state
          let (texts, state) ←
            match words with
            | some words => expandWords setting putIn words state
            | none => pure (state.arguments, state)
          if state.isGoing = false then return state
          let head : List Text := ["for", name, "in"]
          let told := traceCompound setting putIn (head ++ texts.map (quotedText .program))
          return outOfLoop
            (← runEach setting (run isTested) told name body texts (inLoop (state.withStatus 0)))
      | .count line start condition step body =>
          return outOfLoop
            (← runCount setting (run isTested) putIn start condition step body (inLoop { state with line }))
      | .select line word cases => do
          let (text, state) ← expandText setting putIn word { state with line }
          if state.isGoing = false then return state
          let state ← traceCompound setting putIn ["case", quotedText .program text, "in"] state
          runCases setting putIn (run isTested) text cases .none state
      | .number line expression => do
          let state ← traceCompound setting putIn ["((", trimBlanks expression, "))"] { state with line }
          let (value, state) ← numberOfText setting putIn expression state
          let ended :=
            match value with
            | some value => state.withStatus (if value = 0 then 1 else 0)
            | none => state
          afterFailure setting run isTested ended
      | .condition line words => do
          afterFailure setting run isTested (← Condition.run setting putIn words { state with line })
      | .define name body =>
          return { state with functions := state.functions.put name body, status := 0 }

def depthLimit : Nat := 4000

/-- Runs a script from its first line to its end, and then what is to be run at the end. -/
def runScript (setting : Setting m) (label : Text) (isEchoed : Bool) (script : Text) (state : State) :
    m Exit := do
  let run : Command → State → m State := execute setting depthLimit false
  let ended ← runText setting run ⟨script, 1, label, true, isEchoed⟩ state
  return (← runAtEnd setting run ended).exit

end UniversalModule.Host.Shell
