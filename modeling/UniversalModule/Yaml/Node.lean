import UniversalModule.Keyed
import UniversalModule.Yaml.Scan

/-!
The nodes of a YAML document. A text holds one document, which may be empty; where a node is
missing, an empty plain scalar stands for it.
-/

namespace UniversalModule.Yaml

structure Properties where
  anchor : Option Nat
  tag : Option Text
deriving DecidableEq

inductive Node where
  | reference (number : Nat)
  | scalar (properties : Properties) (text : Text) (style : Style)
  | sequence (properties : Properties) (items : List Node)
  | mapping (properties : Properties) (members : List (Node × Node))

namespace Node

def noProperties : Properties := ⟨none, none⟩

def empty : Node := .scalar noProperties [] .plain

abbrev Reader (α : Type) := List Token → Option (α × List Token)

abbrev Handles := Keyed Text Text

def standardHandles : Handles := [("!", "!"), ("!!", "tag:yaml.org,2002:")]

def expandTag (handles : Handles) (handle suffix : Text) : Option Text :=
  if handle.isEmpty then some suffix else (handles.get? handle).map (· ++ suffix)

def readAnchor : List Token → Option Nat × List Token
  | .anchor number :: rest => (some number, rest)
  | rest => (none, rest)

def readTag (handles : Handles) : Reader (Option Text)
  | .tag handle suffix :: rest => (expandTag handles handle suffix).map fun tag => (some tag, rest)
  | rest => some (none, rest)

/-- Reads an anchor and a tag, in either order. -/
def readProperties (handles : Handles) : Reader Properties := fun tokens =>
  match readAnchor tokens with
  | (some anchor, rest) => do
      let (tag, rest) ← readTag handles rest
      some (⟨some anchor, tag⟩, rest)
  | (none, rest) => do
      let (tag, rest) ← readTag handles rest
      match tag with
      | none => some (noProperties, rest)
      | some tag =>
          let (anchor, rest) := readAnchor rest
          some (⟨anchor, some tag⟩, rest)

/-- Reads a node, or stands in for one in front of certain tokens. -/
def readUnless (read : Reader Node) (ends : Token → Bool) : Reader Node
  | [] => read []
  | token :: rest => if ends token then some (empty, token :: rest) else read (token :: rest)

/-- Reads the entries of a sequence in a block. -/
def readBlockItems (read : Reader Node) : Nat → Reader (List Node)
  | 0, _ => none
  | fuel + 1, .blockEntry :: rest => do
      let (item, rest) ← readUnless read (fun token => token == .blockEntry || token == .blockEnd) rest
      let (items, rest) ← readBlockItems read fuel rest
      some (item :: items, rest)
  | _ + 1, .blockEnd :: rest => some ([], rest)
  | _ + 1, _ => none

def endsMember (token : Token) : Bool := token == .key || token == .value || token == .blockEnd

/-- Reads the entries of a sequence that is not indented below its key. -/
def readInlineItems (read : Reader Node) : Nat → Reader (List Node)
  | 0, _ => none
  | fuel + 1, .blockEntry :: rest => do
      let (item, rest) ← readUnless read (fun token => token == .blockEntry || endsMember token) rest
      let (items, rest) ← readInlineItems read fuel rest
      some (item :: items, rest)
  | _ + 1, rest => some ([], rest)

/-- Reads a value after its colon, when there is one. -/
def readValue (read : Reader Node) (ends : Token → Bool) : Reader Node
  | .value :: rest => readUnless read ends rest
  | rest => some (empty, rest)

/-- Reads the members of a mapping in a block. -/
def readBlockMembers (read : Reader Node) : Nat → Reader (List (Node × Node))
  | 0, _ => none
  | fuel + 1, .key :: rest => do
      let (key, rest) ← readUnless read endsMember rest
      let (value, rest) ← readValue read endsMember rest
      let (members, rest) ← readBlockMembers read fuel rest
      some ((key, value) :: members, rest)
  | _ + 1, .blockEnd :: rest => some ([], rest)
  | _ + 1, _ => none

def endsItem (token : Token) : Bool := token == .flowEntry || token == .flowSequenceEnd

/-- Reads a mapping of one member between the brackets of a sequence. A missing key takes the
token that shows it is missing with it. -/
def readPair (read : Reader Node) : Reader Node := fun tokens => do
  let (key, rest) ←
    match tokens with
    | [] => read []
    | token :: rest =>
        if token = .value ∨ endsItem token then some (empty, rest) else read (token :: rest)
  let (value, rest) ← readValue read endsItem rest
  some (.mapping noProperties [(key, value)], rest)

/-- Reads the items of a sequence between brackets, the first one or, after a comma, a further
one. -/
def readFlowItems (read : Reader Node) : Nat → Bool → Reader (List Node)
  | 0, _, _ => none
  | _ + 1, _, .flowSequenceEnd :: rest => some ([], rest)
  | fuel + 1, isFirst, tokens => do
      let tokens ←
        match isFirst, tokens with
        | true, tokens => some tokens
        | false, .flowEntry :: rest => some rest
        | false, _ => none
      match tokens with
      | .flowSequenceEnd :: rest => some ([], rest)
      | .key :: rest => do
          let (item, rest) ← readPair read rest
          let (items, rest) ← readFlowItems read fuel false rest
          some (item :: items, rest)
      | tokens => do
          let (item, rest) ← read tokens
          let (items, rest) ← readFlowItems read fuel false rest
          some (item :: items, rest)

def endsFlowMember (token : Token) : Bool := token == .flowEntry || token == .flowMappingEnd

/-- Reads the members of a mapping between braces. Without an explicit key, what stands there is
a key without value. -/
def readFlowMembers (read : Reader Node) : Nat → Bool → Reader (List (Node × Node))
  | 0, _, _ => none
  | _ + 1, _, .flowMappingEnd :: rest => some ([], rest)
  | fuel + 1, isFirst, tokens => do
      let tokens ←
        match isFirst, tokens with
        | true, tokens => some tokens
        | false, .flowEntry :: rest => some rest
        | false, _ => none
      match tokens with
      | .flowMappingEnd :: rest => some ([], rest)
      | .key :: rest => do
          let (key, rest) ←
            readUnless read (fun token => token == .value || endsFlowMember token) rest
          let (value, rest) ← readValue read endsFlowMember rest
          let (members, rest) ← readFlowMembers read fuel false rest
          some ((key, value) :: members, rest)
      | tokens => do
          let (key, rest) ← read tokens
          let (members, rest) ← readFlowMembers read fuel false rest
          some ((key, empty) :: members, rest)

/-- Where a node stands, which decides what it may be. -/
inductive Setting where
  /-- Between brackets or braces. -/
  | flow
  | block
  /-- In a mapping in a block, where a sequence need not be indented. -/
  | member
deriving DecidableEq

/-- Reads a node; the depth bounds the number of tokens, and so the nesting. -/
def read (handles : Handles) : Nat → Setting → Reader Node
  | 0, _, _ => none
  | _ + 1, _, .reference number :: rest => some (.reference number, rest)
  | depth + 1, setting, tokens => do
      let (properties, rest) ← readProperties handles tokens
      let inFlow := read handles depth .flow
      let inBlock := read handles depth .block
      let inMember := read handles depth .member
      let stands := properties ≠ noProperties
      match rest with
      | .scalar text style :: rest => some (.scalar properties text style, rest)
      | .flowSequence :: rest =>
          (readFlowItems inFlow (depth + 1) true rest).map fun (items, rest) =>
            (.sequence properties items, rest)
      | .flowMapping :: rest =>
          (readFlowMembers inFlow (depth + 1) true rest).map fun (members, rest) =>
            (.mapping properties members, rest)
      | .blockEntry :: rest =>
          if setting = .member then
            (readInlineItems inBlock (depth + 1) (.blockEntry :: rest)).map fun (items, rest) =>
              (.sequence properties items, rest)
          else if stands then some (.scalar properties [] .plain, .blockEntry :: rest)
          else none
      | .blockSequence :: rest =>
          if setting ≠ .flow then
            (readBlockItems inBlock (depth + 1) rest).map fun (items, rest) =>
              (.sequence properties items, rest)
          else if stands then some (.scalar properties [] .plain, .blockSequence :: rest)
          else none
      | .blockMapping :: rest =>
          if setting ≠ .flow then
            (readBlockMembers inMember (depth + 1) rest).map fun (members, rest) =>
              (.mapping properties members, rest)
          else if stands then some (.scalar properties [] .plain, .blockMapping :: rest)
          else none
      | rest => if stands then some (.scalar properties [] .plain, rest) else none

/-- Reads directives, of which there may be one version and one declaration for each handle. -/
def readDirectives (versioned : Bool) (declared : Handles) : Reader Handles
  | .version major minor :: rest =>
      if versioned ∨ major ≠ 1 ∨ (minor ≠ 1 ∧ minor ≠ 2) then none
      else readDirectives true declared rest
  | .handle handle expansion :: rest =>
      if handle ∈ declared.keys then none
      else readDirectives versioned (declared ++ [(handle, expansion)]) rest
  | rest => some (declared ++ standardHandles, rest)

def endsDocument : Token → Bool
  | .version _ _ => true
  | .handle _ _ => true
  | .documentStart => true
  | .documentEnd => true
  | _ => false

/-- Reads the node of a document, which may be missing after three dashes. -/
def readDocument (depth : Nat) : Reader Node := fun tokens =>
  match tokens with
  | [] => none
  | token :: _ =>
      if endsDocument token ∧ token ≠ .documentEnd then do
        let (handles, rest) ← readDirectives false [] tokens
        match rest with
        | .documentStart :: rest =>
            if rest.head?.all endsDocument then some (empty, rest)
            else read handles depth .block rest
        | _ => none
      else read standardHandles depth .block tokens

/-- The only document of a text; the inner `none` stands for a text without one. -/
def ofText? (text : Text) : Option (Option Node) := do
  let tokens ← tokens? text
  if tokens.isEmpty then some none
  else
    let (node, rest) ← readDocument (tokens.length + 1) tokens
    if rest.all (· == .documentEnd) then some (some node) else none

end Node

end UniversalModule.Yaml
