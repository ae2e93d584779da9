import UniversalModule.Host.Shell.Expansion

/-!
Channels of commands that lead to files, to one another or nowhere, and inputs that stand in a
script.
-/

namespace UniversalModule.Host.Shell

variable {m : Type → Type} [Monad m] (setting : Setting m)

/-- Complains of a file that a channel cannot become; shells have their own words for it. -/
def complainOfFile (start path missing : Text) (fault : IoFault) (state : State) : m (Bool × State) := do
  let isMissing := fault = .notFound ∨ fault = .notDirectory
  match setting.variety with
  | .dash =>
      let reason := if isMissing then missing else fault.reason
      return (false, ← setting.complain (start ++ path ++ ": " ++ reason) 2 state)
  | .bash => return (false, ← setting.complain (path ++ ": " ++ fault.reason) 1 state)

def State.putSink (state : State) (channel : Nat) (sink : Sink) : State :=
  { state with sinks := state.sinks.put channel sink }

def channelOf? (path : Text) : Option Nat :=
  if path = "/dev/stdin".toList ∨ path = "/dev/fd/0".toList then some 0
  else if path = "/dev/stdout".toList ∨ path = "/dev/fd/1".toList then some 1
  else if path = "/dev/stderr".toList ∨ path = "/dev/fd/2".toList then some 2
  else none

/-- Complains of a file that is there already and is to be spared. -/
def spareFile (path : Text) (state : State) : m (Bool × State) := do
  match setting.variety with
  | .dash => return (false, ← setting.complain ("cannot create " ++ path ++ ": File exists") 2 state)
  | .bash => return (false, ← setting.complain (path ++ ": cannot overwrite existing file") 1 state)

def sinkOf (device : Device) : Sink := if device = .full then .refusing .noSpace else .nowhere

/-- Opens the file that takes the place of a channel; the flag tells whether that could be done. -/
def openOutput (channel : Nat) (writing : Writing) (path : Text) (state : State) : m (Bool × State) := do
  match channelOf? path with
  | some number => return (true, state.putSink channel ((state.sinks.get? number).getD .nowhere))
  | none => do
      let place := pathFrom state.folder ⟨path⟩
      let before ← setting.files.find place
      let made ←
        match before, writing with
        | .ok (.file _), .anew =>
            if state.flags.sparesFiles then return ← spareFile setting path state
            else setting.files.write place []
        | .ok (.file file), .behind => setting.files.write place file.content
        | _, _ => setting.files.write place []
      match made, before with
      | .ok (), .ok (.device device) => return (true, state.putSink channel (sinkOf device))
      | .ok (), _ => return (true, state.putSink channel (.file place))
      | .error fault, _ => complainOfFile setting "cannot create " path "Directory nonexistent" fault state

def State.putSource (state : State) (channel : Nat) (content : Bytes) : State :=
  if channel = 0 then { state with input := content, inputIsFile := false, inputFrom := none }
  else { state with sources := state.sources.put channel content }

def openInput (channel : Nat) (path : Text) (state : State) : m (Bool × State) := do
  if channelOf? path = some 0 then return (true, state)
  else
    match ← setting.files.read (pathFrom state.folder ⟨path⟩) with
    | .ok content =>
        let opened := state.putSource channel content
        return (true, if channel = 0 then { opened with inputIsFile := true } else opened)
    | .error .isDirectory => return (true, state.putSource channel [])
    | .error fault => complainOfFile setting "cannot open " path "No such file" fault state

def closeChannel (channel : Nat) (state : State) : State :=
  let closed := { state with
    sinks := state.sinks.filter fun sink => sink.1 != channel
    sources := state.sources.filter fun source => source.1 != channel }
  if channel = 0 then { closed with input := [], inputFrom := none } else closed

def copyChannel (channel number : Nat) (state : State) : m (Bool × State) := do
  match state.sinks.get? number, state.sources.get? number with
  | some sink, _ => return (true, if channel = 0 then state else state.putSink channel sink)
  | none, some content =>
      if channel = 0 then return (true, { state with
          input := content, inputIsFile := false, inputFrom := some number })
      else return (true, state.putSource channel content)
  | none, none =>
      if number = 0 then return (true, if channel = 0 then state else state.putSource channel state.input)
      else
        let status := match setting.variety with | .dash => 2 | .bash => 1
        return (false, ← setting.complain (Text.ofNat number ++ ": Bad file descriptor") status state)

/-- A word as it stands in a script, if it is one parameter. -/
def sourceOfWord : Word → Text
  | [⟨.parameter name _ _ _ _ _, false⟩] => '$' :: name
  | [⟨.text text, _⟩] => text
  | _ => "word"

def expandTarget (putIn : PutIn m) (word : Word) (state : State) : m (Option Text × State) := do
  match setting.variety with
  | .dash =>
      let (path, state) ← expandText setting putIn word state
      return (some path, state)
  | .bash =>
      let (paths, state) ← expandWords setting putIn [word] state
      match paths with
      | [path] => return (some path, state)
      | _ => return (none, ← setting.complain (sourceOfWord word ++ ": ambiguous redirect") 1 state)

/-- The number that a word denotes, if it has only digits. -/
def digits? (word : Text) : Option Nat :=
  if word.isEmpty ∨ word.any (!Char.isDigit ·) then none else some (valueOfDecimal word)

/-- Redirects one channel; the flag tells whether that could be done. -/
def applyRedirection (putIn : PutIn m) (redirection : Redirection) (state : State) :
    m (Bool × State) := do
  let toBoth (writing : Writing) (path : Text) (state : State) : m (Bool × State) := do
    let (isDone, state) ← openOutput setting 1 writing path state
    if isDone then copyChannel setting 2 1 state else return (false, state)
  match redirection with
  | .document body => do
      let (text, state) ← expandText setting putIn body state
      if state.flow = .failed then return (false, { state with flow := .going })
      else return (state.isGoing, state.putSource 0 text.utf8)
  | .line word => do
      let (text, state) ← expandText setting putIn word state
      return (state.isGoing, state.putSource 0 (Text.utf8 (text ++ ['\n'])))
  | .input channel word => do
      match ← expandTarget setting putIn word state with
      | (some path, state) => openInput setting channel path state
      | (none, state) => return (false, state)
  | .output channel writing word => do
      match ← expandTarget setting putIn word state with
      | (some path, state) => openOutput setting channel writing path state
      | (none, state) => return (false, state)
  | .both writing word => do
      match ← expandTarget setting putIn word state with
      | (some path, state) => toBoth writing path state
      | (none, state) => return (false, state)
  | .copy channel word => do
      let (target, state) ← expandText setting putIn word state
      match digits? target, target, setting.variety with
      | some number, _, _ => copyChannel setting channel number state
      | none, ['-'], _ => return (true, closeChannel channel state)
      | none, _, .dash => return (false, ← setting.abandon "Syntax error: Bad fd number" state)
      | none, path, .bash =>
          if channel = 1 then toBoth .anew path state
          else return (false, ← setting.complain (sourceOfWord word ++ ": ambiguous redirect") 1 state)

def applyRedirections (putIn : PutIn m) : List Redirection → State → m (Bool × State)
  | [], state => return (true, state)
  | redirection :: others, state => do
      let (isDone, state) ← applyRedirection setting putIn redirection state
      if isDone ∧ state.isGoing then applyRedirections putIn others state else return (false, state)

def Redirection.channel : Redirection → Nat
  | .input channel _ => channel
  | .output channel _ _ => channel
  | .copy channel _ => channel
  | .both _ _ => 1
  | .document _ => 0
  | .line _ => 0

/-- The channels as they were before they were redirected. What a channel has left from which the
input came stays left. -/
def State.withChannelsOf (ended before : State) (redirections : List Redirection) : State :=
  let changed := redirections.map Redirection.channel
  let sources :=
    match ended.inputFrom with
    | some number =>
        if (before.sources.get? number).isSome then ended.sources.put number ended.input else ended.sources
    | none => ended.sources
  let sources := sources.filter fun source => !changed.contains source.1
  let sources := before.sources.foldl (fun sources (channel, content) =>
    if changed.contains channel then sources.put channel content else sources) sources
  let restored := { ended with sinks := before.sinks, sources }
  if changed.contains 0 then { restored with
      input := before.input
      inputIsFile := before.inputIsFile
      inputFrom := before.inputFrom }
  else restored

end UniversalModule.Host.Shell
