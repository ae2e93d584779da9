import UniversalModule.Host.Shell.Format
import UniversalModule.Host.Shell.Redirecting

/-!
Signals that commands send to one another, and what a script does when they come.
-/

namespace UniversalModule.Host.Shell

variable {m : Type → Type} [Monad m] (setting : Setting m)

/-- The names of the signals that the system leaves to programs, from 32 on. -/
def freeSignalNames : List Text :=
  let behind (name : Text) (sign : Char) (number : Nat) : Text :=
    if number = 0 then name else name ++ sign :: Text.ofNat number
  [['3', '2'], ['3', '3']] ++ (List.range 16).map (behind "RTMIN" '+') ++
    (List.range 15).reverse.map (behind "RTMAX" '-')

/-- The signal that a number or a name stands for; the end of the script is number 0. -/
def signalOf? (variety : Variety) (word : Text) : Option Nat :=
  match digits? word with
  | some number => if number ≤ 64 then some number else none
  | none =>
      let upper := word.map Char.toUpper
      let name := match variety with
        | .dash => upper
        | .bash => (Text.after? "SIG" upper).getD upper
      if name = "EXIT".toList then some 0
      else (signalNames.findIdx? (· == name)).map (· + 1)

def sentSignal? (variety : Variety) (word : Text) : Option Nat :=
  (signalOf? variety word).filter fun number => number != 0 || (digits? word).isSome

def State.receive (state : State) (signal : Nat) : State :=
  let untrapped :=
    if isHarmlessSignal signal then state else { state with flow := .killed signal }
  if state.isApart then { state with toMain := state.toMain ++ [signal] }
  else if signal = 9 ∨ signal = 19 then untrapped
  else
    match state.traps.get? signal with
    | none => untrapped
    | some action => if action.isEmpty then state else { state with pending := state.pending ++ [signal] }

/-- The commands in the background to which numbers belong. -/
def State.jobOf? (state : State) (number : Nat) : Option Nat :=
  if ownNumber < number ∧ number ≤ ownNumber + state.jobs.length then some (number - ownNumber - 1) else none

/-- The commands in the background that a word behind a percent sign means, or what is said of it. -/
def State.jobAt (state : State) (word : Text) : Except Text Nat :=
  match word, digits? word with
  | _, some number =>
      if 0 < number ∧ number ≤ state.jobs.length then .ok (number - 1) else .error ("No such job: %" ++ word)
  | [], none => if state.jobs.isEmpty then .error "No current job" else .ok (state.jobs.length - 1)
  | ['%'], none => if state.jobs.isEmpty then .error "No current job" else .ok (state.jobs.length - 1)
  | ['+'], none => if state.jobs.isEmpty then .error "No current job" else .ok (state.jobs.length - 1)
  | ['-'], none => if state.jobs.isEmpty then .error "No previous job" else .ok (state.jobs.length - 1)
  | word, none => .error ("No such job: %" ++ word)

/-- Sends a signal to the process itself or to commands in the background. -/
def sendSignal (signal : Nat) (state : State) (target : Text) : m State := do
  let toJob (job : Nat) : State := { state with jobs := state.jobs.set job (128 + signal) }
  let missing : m State :=
    match setting.variety with
    | .dash => setting.complain "kill: No such process\n" 1 state
    | .bash => setting.complain ("kill: (" ++ target ++ ") - No such process") 1 state
  let refused : m State :=
    match setting.variety with
    | .dash => setting.finish ("kill: Illegal number: " ++ ((Text.after? "-" target).getD target)) state
    | .bash => setting.complain ("kill: " ++ target ++ ": arguments must be process or job IDs") 1 state
  match target, digits? target with
  | _, some number =>
      if number = ownNumber ∨ number = 0 then return state.receive signal
      else
        match state.jobOf? number with
        | some job => return toJob job
        | none => missing
  | '%' :: word, none =>
      match state.jobAt word, setting.variety with
      | .ok job, _ => return toJob job
      | .error message, .dash => setting.finish ("kill: " ++ message) state
      | .error _, .bash => setting.complain ("kill: " ++ target ++ ": no such job") 1 state
  | '-' :: word, none => if (digits? word).isSome then missing else refused
  | _, none => refused

/-- The name of a signal from its number, or from the status of what it has ended. -/
def nameOfStatus? (number : Nat) : Option Text :=
  let signal := if 128 < number then number - 128 else number
  if signal = 0 then none else (signalNames ++ freeSignalNames)[signal - 1]?

/-- Tells the names of signals, of all or of those with some numbers. -/
def listSignals (words : List Text) (state : State) : m State := do
  let tell (lines : List Text) : m State :=
    return (← setting.emitText (lines.flatMap (· ++ ['\n'])) state).withStatus 0
  match setting.variety, words with
  | _, [] => tell (['0'] :: (signalNames ++ freeSignalNames))
  | .dash, word :: _ =>
      match digits? word with
      | none => setting.finish ("kill: Illegal number: " ++ word) state
      | some number =>
          match nameOfStatus? number with
          | some name => tell [name]
          | none => setting.finish ("kill: invalid signal number or exit status: " ++ word) state
  | .bash, words =>
      tell (words.map fun word =>
        match digits? word with
        | some number => (nameOfStatus? number).getD ['0']
        | none => ((signalOf? .bash word).map Text.ofNat).getD word)

structure Sending where
  signal : Option Nat
  lists : Bool
  words : List Text

inductive SendingFault where
  | unknownLetter (letter : Char)
  | unknownSignal (word : Text)
  | missingSignal
deriving DecidableEq

/-- Reads the letters in front of the processes to which a signal is sent. -/
def readSending (variety : Variety) : Nat → List Text → Sending → Except SendingFault Sending
  | _, ['-', '-'] :: words, sending => .ok { sending with words }
  | fuel + 1, ('-' :: letter :: letters) :: words, sending =>
      let given (value : Text) (words : List Text) : Except SendingFault Sending :=
        match sentSignal? variety value with
        | some signal => readSending variety fuel words { sending with signal }
        | none => .error (.unknownSignal value)
      let others := if letters.isEmpty then words else ('-' :: letters) :: words
      match letter, letters, words with
      | 'l', _, _ => readSending variety fuel others { sending with lists := true }
      | 's', [], value :: words => given value words
      | 's', [], [] => .error .missingSignal
      | 's', value, words => given value words
      | letter, _, _ => .error (.unknownLetter letter)
  | _, words, sending => .ok { sending with words }

/-- Reads what a command that sends signals is asked to do; the first word may be a signal. -/
def sendingOf (variety : Variety) (words : List Text) : Except SendingFault Sending :=
  let fuel := words.flatten.length + words.length + 1
  match words with
  | ('-' :: name) :: rest =>
      match sentSignal? variety name with
      | some signal => .ok ⟨some signal, false, rest⟩
      | none => readSending variety fuel words ⟨none, false, []⟩
  | words => .ok ⟨none, false, words⟩

def tellSending (state : State) : m State :=
  match setting.variety with
  | .dash =>
      setting.finish
        ("kill: Usage: kill [-s sigspec | -signum | -sigspec] [pid | job]... or\n" ++ "kill -l [exitstatus]") state
  | .bash =>
      setting.tellUsage "kill: usage: kill [-s sigspec | -n signum | -sigspec] pid | jobspec ... or kill -l [sigspec]"
        state

def refuseSending (words : List Text) (fault : SendingFault) (state : State) : m State :=
  match setting.variety, fault with
  | .dash, .unknownLetter letter => setting.finish ("kill: Illegal option -" ++ [letter]) state
  | .dash, .unknownSignal word => setting.finish ("kill: invalid signal number or name: " ++ word) state
  | .dash, .missingSignal => setting.finish "kill: No arg for -s option" state
  | .bash, .unknownLetter _ =>
      setting.complain ("kill: " ++ (words.headD []).drop 1 ++ ": invalid signal specification") 1 state
  | .bash, .unknownSignal word => setting.complain ("kill: " ++ word ++ ": invalid signal specification") 1 state
  | .bash, .missingSignal => setting.complain "kill: -s: option requires an argument" 1 state

def runKill (words : List Text) (state : State) : m State := do
  match sendingOf setting.variety words with
  | .error fault => refuseSending setting words fault state
  | .ok ⟨none, true, words⟩ => listSignals setting words state
  | .ok ⟨some _, true, _⟩ => tellSending setting state
  | .ok ⟨_, false, []⟩ => tellSending setting state
  | .ok ⟨signal, false, targets⟩ =>
      targets.foldlM (sendSignal setting (signal.getD 15)) (state.withStatus 0)

def signalWord (variety : Variety) (signal : Nat) : Text :=
  match signal, signalName? signal, variety with
  | 0, _, _ => "EXIT"
  | 65, _, .bash => "ERR"
  | 66, _, .bash => "DEBUG"
  | 67, _, .bash => "RETURN"
  | _, some name, .dash => name
  | _, some name, .bash => "SIG" ++ name
  | _, none, _ => Text.ofNat signal

/-- The number under which is kept what is to be run when a command fails. -/
def failureTrap : Nat := 65

/-- What else than signals the second shell sets traps for. -/
def eventOf? (variety : Variety) (word : Text) : Option Nat :=
  if variety = .bash ∧ word = "ERR".toList then some failureTrap
  else if variety = .bash ∧ word = "DEBUG".toList then some (failureTrap + 1)
  else if variety = .bash ∧ word = "RETURN".toList then some (failureTrap + 2)
  else none

/-- Remembers for each of some signals what is to be run when it comes, or that nothing is. -/
def setTraps (action : Option Text) : List Text → State → m State
  | [], state => return state
  | word :: words, state => do
      match (eventOf? setting.variety word).or (signalOf? setting.variety word), setting.variety with
      | none, .dash =>
          return (← setting.emit 2 (Text.utf8 ("trap: " ++ word ++ ": bad trap\n")) state).withStatus 1
      | none, .bash =>
          setTraps action words (← setting.complain ("trap: " ++ word ++ ": invalid signal specification") 1 state)
      | some signal, _ =>
          let others := state.traps.filter fun trap => trap.1 != signal
          let own := action.toList.map fun action => (signal, action)
          setTraps action words { state with traps := others ++ own }

/-- Remembers what is to be run when signals come or at the end. -/
def runTrap (words : List Text) (state : State) : m State := do
  let words := if words.head? = some ['-', '-'] then words.tail else words
  let told : Text := (state.traps.mergeSort fun first second => first.1 ≤ second.1).flatMap fun (signal, action) =>
    "trap -- " ++ toldValue action ++ ' ' :: signalWord setting.variety signal ++ ['\n']
  match words with
  | [] => return (← setting.emitText told state).withStatus 0
  | ('-' :: letter :: _) :: _ =>
      match setting.variety with
      | .dash => setting.finish ("trap: Illegal option -" ++ [letter]) state
      | .bash =>
          if letter = 'p' then return (← setting.emitText told state).withStatus 0
          else if letter = 'l' then listSignals setting [] state
          else
            setting.tellUsage "trap: usage: trap [-lp] [[arg] signal_spec ...]"
              (← setting.complain ("trap: -" ++ letter :: ": invalid option") 2 state)
  | first :: rest =>
      let resets := rest.isEmpty ∨ (digits? first).isSome ∨ first = ['-']
      let signals := if rest.isEmpty ∨ (digits? first).isSome then words else rest
      setTraps setting (if resets then none else some first) signals (state.withStatus 0)

def refuseJob (command word : Text) (state : State) : m State := do
  match word, setting.variety with
  | '%' :: job, .dash =>
      match state.jobAt job with
      | .error message => setting.finish (command ++ ": " ++ message) state
      | .ok _ => return state
  | word, .dash => setting.finish (command ++ ": Illegal number: " ++ word) state
  | '%' :: _, .bash => setting.complain (command ++ ": " ++ word ++ ": no such job") 127 state
  | word, .bash => setting.complain (command ++ ": \x60" ++ word ++ "': not a pid or valid job spec") 1 state

/-- Waits for commands in the background, which have ended long since. -/
def runWait (words : List Text) (state : State) : m State := do
  let words := if words.head? = some ['-', '-'] then words.tail else words
  words.foldlM (fun state word => do
    if state.isGoing = false then return state
    let job? : Option Nat :=
      match word, digits? word with
      | _, some number => state.jobOf? number
      | '%' :: job, none => (state.jobAt job).toOption
      | _, none => none
    match job?.bind fun job => state.jobs[job]?, digits? word, setting.variety with
    | some status, _, _ => return state.withStatus status
    | none, some _, .dash => return state.withStatus 127
    | none, some _, .bash =>
        setting.complain ("wait: pid " ++ word ++ " is not a child of this shell") 127 state
    | none, none, _ => refuseJob setting "wait" word state) (state.withStatus 0)

/-- Brings a command of the background to the front, or lets it go on there; there is none that could. -/
def runResume (command : Text) (words : List Text) (state : State) : m State := do
  match setting.variety, words with
  | .bash, _ => setting.complain (command ++ ": no job control") 1 state
  | .dash, [] => setting.finish (command ++ ": No current job") state
  | .dash, word :: _ =>
      match state.jobAt ((Text.after? "%" word).getD word) with
      | .error _ => setting.finish (command ++ ": No such job: " ++ word) state
      | .ok _ => setting.finish (command ++ ": job " ++ word ++ " not created under job control") state

end UniversalModule.Host.Shell
