import UniversalModule.Host.Records.Builtin
import UniversalModule.Host.Records.Token

/-!
What expressions and statements of a script on records do, and the rules in their order. The fuel
bounds how deep expressions, statements and calls stand in one another.
-/

namespace UniversalModule.Host.Records

open Utility (Call Work octets bytesOf)

variable {m : Type → Type} [Monad m] (call : Call m)

inductive Flow where
  | going
  /-- The next round of a loop. -/
  | repeating
  /-- The end of a loop. -/
  | leaving
  | giving (value : Value)

/-- How often a loop may go round, and how many records there may be. -/
def roundLimit : Nat := 1000000

def repeatWhilst (test : Acting m Bool) (body : Acting m Flow) : Nat → Acting m Flow
  | 0 => return .going
  | fuel + 1 => do
      if ← test then
        match ← body with
        | .leaving => return .going
        | .giving value => return .giving value
        | _ => repeatWhilst test body fuel
      else return .going

def forEach (action : Text → Acting m Flow) : List Text → Acting m Flow
  | [] => return .going
  | text :: texts => do
      match ← action text with
      | .leaving => return .going
      | .giving value => return .giving value
      | _ => forEach action texts

def countRecord (isOfFile : Bool) : Acting m Unit :=
  change fun session =>
    let count (name : Text) (session : Session) : Session :=
      session.setShared name (.number ((session.shared name).toNumber + 1))
    count "NR".toList (if isOfFile then count "FNR".toList session else session)

def unescapeValue (text : Text) : Text := unescaped (text.length + 1) text

/-- Takes a line from a file or command that was opened before or is opened now; 1 if there is one, 0
at the end, -1 if there is no such file. -/
def takeFrom (source : LineSource) (name : Text) : Acting m (Option Text × Int) := do
  let left? ← match (← get).sources.get? name with
    | some left => pure (some left)
    | none =>
        if source = .command then do
          flush
          pure (some (← outputOf call name))
        else
          let path := Text.ofUtf8Lossy (bytesOf name)
          if ← work (call.isFolder path) then pure none
          else
            match ← work (call.read path) with
            | .ok content => pure (some (octets content))
            | .error _ => pure none
  match left? with
  | none => return (none, -1)
  | some left =>
      match ← takeRecord call ((← get).textOf "RS".toList) left with
      | some (record, left) => do
          change fun session => { session with sources := session.sources.put name left }
          return (some record, 1)
      | none => do
          change fun session => { session with sources := session.sources.put name [] }
          return (none, 0)

def setSlots (names : List Text) (slots : List Slot) : Acting m (Keyed Text Slot) := do
  match names, slots with
  | [], _ => return []
  | name :: names, slot :: slots => return (name, slot) :: (← setSlots names slots)
  | name :: names, [] => do
      let session ← get
      let number := session.freshNumber
      set (session.setEntries number [])
      return (name, .undecided number) :: (← setSlots names [])

def setElement (array : Nat) (key : Text) (value : Value) : Acting m Unit :=
  change fun session => session.setEntries array ((session.entries array).put key value)

mutual

def evaluate : Nat → Expression → Acting m Value
  | 0, _ => fail call "function call nesting too deep"
  | fuel + 1, expression => do
      let number (inner : Expression) : Acting m Float := return (← evaluate fuel inner).toNumber
      let isTrue (inner : Expression) : Acting m Bool := return (← evaluate fuel inner).isTrue
      let text (inner : Expression) : Acting m Text := do
        let value ← evaluate fuel inner
        return value.toText (← get).form
      match expression with
      | .number value => return .number value
      | .text text => return .text text
      | .regex regex => return .ofBool (Regex.isIn ⟨(← get).record.toArray, false, false⟩ regex)
      | .variable name =>
          match (← get).slot? name with
          | some (.value value) => return value
          | _ => return .unset
      | .element array index => do
          let key ← keyOf fuel index
          let array ← arrayOf array
          match ((← get).entries array).get? key with
          | some value => return value
          | none => do
              setElement array key .unset
              return .unset
      | .field index => do fieldAt call (integerOf (← number index))
      | .assign operation target value => do
          match operation with
          | none => do
              let value ← evaluate fuel value
              give fuel target value
              return value
          | some operation => do
              let amount ← number value
              let value := .number (operation.apply (← number target) amount)
              give fuel target value
              return value
      | .step isUp givesNew target => do
          let old ← number target
          let new := if isUp then old + 1 else old - 1
          give fuel target (.number new)
          return .number (if givesNew then new else old)
      | .condition test first second => do
          if ← isTrue test then evaluate fuel first else evaluate fuel second
      | .both first second => do
          if ← isTrue first then return .ofBool (← isTrue second) else return .ofBool false
      | .either first second => do
          if ← isTrue first then return .ofBool true else return .ofBool (← isTrue second)
      | .not inner => return .ofBool !(← isTrue inner)
      | .negative inner => return .number (-(← number inner))
      | .positive inner => return .number (← number inner)
      | .arithmetic operation first second => do
          let x ← number first
          return .number (operation.apply x (← number second))
      | .relation relation first second => do
          let x ← evaluate fuel first
          let y ← evaluate fuel second
          return .ofBool (relation.holds (← get).form x y)
      | .fits inner pattern => do
          let subject ← text inner
          let regex ← regexOf fuel pattern
          return .ofBool (Regex.isIn ⟨subject.toArray, false, false⟩ regex)
      | .isIn index array => do
          let key ← keyOf fuel index
          let array ← arrayOf array
          return .ofBool ((((← get).entries array).get? key).isSome)
      | .joined first second => do
          let before ← text first
          return .text (before ++ (← text second))
      | .call name arguments =>
          match (← get).script.functions.get? name with
          | none => return .unset
          | some function => do
              let slots ← arguments.mapM fun argument =>
                match argument with
                | .variable name => handedOver name
                | argument => do
                    let value ← evaluate fuel argument
                    return .value value
              let outer := (← get).locals
              let inner ← setSlots function.parameters slots
              change fun session => { session with locals := inner }
              let flow ← execute fuel function.body
              change fun session => { session with locals := outer }
              match flow with
              | .giving value => return value
              | _ => return .unset
      | .line source from? target => do
          let name ← match from? with
            | some name => text name
            | none => pure []
          let (record?, status) ← match source with
            | .records => do
                match ← nextRecord call unescapeValue roundLimit with
                | some record => pure (some record, 1)
                | none => pure (none, 0)
            | source => takeFrom call source name
          match record?, target with
          | some record, none => do
              setRecord call record
              if source = .command then countRecord false
          | some record, some target => do
              give fuel target (.input record)
              if source = .command then countRecord false
          | none, _ => pure ()
          return ofInt status
      | .builtin name arguments =>
          match String.ofList name, arguments with
          | "length", [.variable name] =>
              match (← get).slot? name with
              | some (.array number) => return .ofNat ((← get).entries number).length
              | some (.value value) => return .ofNat (value.toText (← get).form).length
              | _ => return .ofNat 0
          | "split", inner :: .variable array :: separator => do
              let subject ← text inner
              let fields ← match separator with
                | [] => splitFields call ((← get).textOf "FS".toList) subject
                | .regex regex :: _ => pure (if subject.isEmpty then [] else piecesBetween regex subject)
                | separator :: _ => do splitFields call (← text separator) subject
              let array ← arrayOf array
              let entries : Entries :=
                fields.mapIdx fun index field => (Text.ofNat (index + 1), Value.input field)
              change fun session => session.setEntries array entries
              return .ofNat fields.length
          | "match", [inner, pattern] => do
              let subject ← text inner
              let regex ← regexOf fuel pattern
              let (place, length) := placeOfFit regex subject
              change fun session =>
                session.setShared "RSTART".toList (ofInt place) |>.setShared "RLENGTH".toList (ofInt length)
              return ofInt place
          | "sub", pattern :: replacement :: target =>
              substitute fuel false pattern replacement (target.headD (.field (.number 0)))
          | "gsub", pattern :: replacement :: target =>
              substitute fuel true pattern replacement (target.headD (.field (.number 0)))
          | _, arguments => do applyBuiltin call name (← arguments.mapM (evaluate fuel))

def substitute : Nat → Bool → Expression → Expression → Expression → Acting m Value
  | 0, _, _, _, _ => return .unset
  | fuel + 1, isEvery, pattern, replacement, target => do
      let regex ← regexOf fuel pattern
      let replacement := (← evaluate fuel replacement).toText (← get).form
      let old := (← evaluate fuel target).toText (← get).form
      let (new, count) := substituted regex replacement old isEvery
      if count ≠ 0 ∧ target.isTarget then give fuel target (.text new)
      return .ofNat count

def regexOf : Nat → Expression → Acting m Regex
  | 0, _ => fail call "function call nesting too deep"
  | fuel + 1, pattern => do
      match pattern with
      | .regex regex => return regex
      | pattern => do
          let value ← evaluate fuel pattern
          regexOfText call (value.toText (← get).form)

def keyOf : Nat → List Expression → Acting m Text
  | 0, _ => return []
  | fuel + 1, index => do
      let values ← index.mapM (evaluate fuel)
      let session ← get
      return Text.joinWith (session.textOf "SUBSEP".toList) (values.map (Value.toText session.form))

def give : Nat → Expression → Value → Acting m Unit
  | 0, _, _ => return ()
  | fuel + 1, target, value => do
      match target with
      | .variable name => setVariable name value
      | .element array index => do
          let key ← keyOf fuel index
          let array ← arrayOf array
          setElement array key value
      | .field index => do
          let index ← evaluate fuel index
          setField call (integerOf index.toNumber) (value.toText (← get).form)
      | _ => return ()

def execute : Nat → Statement → Acting m Flow
  | 0, _ => fail call "function call nesting too deep"
  | fuel + 1, statement => do
      let isTrue (inner : Expression) : Acting m Bool := return (← evaluate fuel inner).isTrue
      let put (text : Text) (target : Option Target) : Acting m Unit := do
        match target with
        | none => printTo call .over ['-'] text
        | some ⟨direction, name⟩ => do
            let name ← evaluate fuel name
            printTo call direction (name.toText (← get).form) text
      match statement with
      | .empty => return .going
      | .expression expression => do
          let _ ← evaluate fuel expression
          return .going
      | .print values target => do
          let values ← values.mapM (evaluate fuel)
          let session ← get
          let form := session.textOf "OFMT".toList
          let line :=
            if values.isEmpty then session.record
            else Text.joinWith (session.textOf "OFS".toList) (values.map (Value.toText form))
          put (line ++ session.textOf "ORS".toList) target
          return .going
      | .format values target => do
          let values ← values.mapM (evaluate fuel)
          put (← formatValues call "printf" values) target
          return .going
      | .block statements => executeAll fuel statements
      | .cond test first second => do
          if ← isTrue test then execute fuel first else execute fuel second
      | .whilst test body => repeatWhilst (isTrue test) (execute fuel body) roundLimit
      | .doWhilst body test => do
          match ← execute fuel body with
          | .leaving => return .going
          | .giving value => return .giving value
          | _ => repeatWhilst (isTrue test) (execute fuel body) roundLimit
      | .count start test step body => do
          let _ ← execute fuel start
          let holds : Acting m Bool :=
            match test with
            | some test => isTrue test
            | none => return true
          let round : Acting m Flow := do
            match ← execute fuel body with
            | .leaving => return .leaving
            | .giving value => return .giving value
            | _ => do
                let _ ← execute fuel step
                return .going
          repeatWhilst holds round roundLimit
      | .each name array body => do
          let array ← arrayOf array
          let keys := keysInOrder ((← get).entries array)
          let round (key : Text) : Acting m Flow := do
            setVariable name (.input key)
            execute fuel body
          forEach round keys
      | .delete array none => do
          let array ← arrayOf array
          change fun session => session.setEntries array []
          return .going
      | .delete array (some index) => do
          let key ← keyOf fuel index
          let array ← arrayOf array
          change fun session =>
            session.setEntries array ((session.entries array).filter fun entry => entry.1 != key)
          return .going
      | .goOn => return .repeating
      | .leave => return .leaving
      | .next => throw .next
      | .nextFile => throw .nextFile
      | .exit status => do
          match status with
          | some status => do
              let status ← evaluate fuel status
              change fun session => { session with status := (integerOf status.toNumber % 256).toNat }
          | none => pure ()
          throw .exit
      | .giveBack none => return .giving .unset
      | .giveBack (some value) => return .giving (← evaluate fuel value)

def executeAll : Nat → List Statement → Acting m Flow
  | 0, _ => fail call "function call nesting too deep"
  | _ + 1, [] => return .going
  | fuel + 1, statement :: statements => do
      match ← execute fuel statement with
      | .going => executeAll fuel statements
      | flow => return flow

end

/-- How deep expressions, statements and calls may stand in one another. -/
def depthLimit : Nat := 5000

def applies (place : Nat) : Selection → Acting m Bool
  | .all => return true
  | .atStart => return false
  | .atEnd => return false
  | .those test => return (← evaluate call depthLimit test).isTrue
  | .range first last => do
      let isOpen := (← get).openRules.contains place
      let begins ← if isOpen then pure true else do pure (← evaluate call depthLimit first).isTrue
      if begins then
        let ends := (← evaluate call depthLimit last).isTrue
        change fun session =>
          let others := session.openRules.filter (· != place)
          { session with openRules := if ends then others else place :: others }
      return begins

def act (rule : Rule) : Acting m Unit := do
  let _ ← execute call depthLimit (rule.action.getD (.print [] none))

def applyRules : List (Nat × Rule) → Acting m Unit
  | [] => return ()
  | (place, rule) :: rules => do
      if ← applies call place rule.selection then act call rule
      applyRules rules

def overRecords (rules : List (Nat × Rule)) : Nat → Acting m Unit
  | 0 => return ()
  | fuel + 1 => do
      match ← nextRecord call unescapeValue roundLimit with
      | none => return ()
      | some record => do
          setRecord call record
          try applyRules call rules
          catch leave =>
            match leave with
            | .next => pure ()
            | .nextFile =>
                change fun session => { session with intake := { session.intake with left := none } }
            | leave => throw leave
          overRecords rules fuel

/-- Runs a script: what is at its start, the records, and what is at its end. -/
def runScript (script : Script) : Acting m Unit := do
  let isStart (rule : Rule) : Bool := match rule.selection with
    | .atStart => true
    | _ => false
  let isEnd (rule : Rule) : Bool := match rule.selection with
    | .atEnd => true
    | _ => false
  let atStart := script.rules.filter isStart
  let atEnd := script.rules.filter isEnd
  let others := script.rules.filter fun rule => !isStart rule && !isEnd rule
  let goesOnBehind (action : Acting m Unit) : Acting m Bool := do
    try
      action
      return true
    catch leave =>
      match leave with
      | .failed => return false
      | _ => return true
  let body : Acting m Unit := do
    for rule in atStart do act call rule
    if !others.isEmpty ∨ !atEnd.isEmpty then
      overRecords call (others.mapIdx fun place rule => (place, rule)) roundLimit
  if ← goesOnBehind body then
    let _ ← goesOnBehind (for rule in atEnd do act call rule)
  finish call

end UniversalModule.Host.Records
