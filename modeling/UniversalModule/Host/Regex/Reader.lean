import UniversalModule.Host.Regex.Basic

/-!
Regular expressions as they are written. In the basic form brackets, braces and bars have their
meaning behind a backslash, in the extended forms without one.
-/

namespace UniversalModule.Host

namespace Regex

/-- How an expression is written, and what in it is no fault. -/
structure Form where
  isBasic : Bool
  /-- Whether a closing bracket or a brace that does not fit stands for itself. -/
  keepsStrays : Bool
  /-- Whether a sign for repetition in front of everything is passed over. -/
  skipsRepetition : Bool
  /-- Whether a count in braces in front of everything stands for itself. -/
  keepsCounts : Bool

namespace Form

def basic : Form := ⟨true, false, false, false⟩

def extended : Form := ⟨false, false, false, false⟩

def looking : Form := ⟨true, false, false, true⟩

def searching : Form := ⟨false, true, true, false⟩

def records : Form := ⟨false, true, false, false⟩

end Form

inductive Token where
  | char (c : Char)
  /-- What fits in one way only. -/
  | atom (regex : Regex)
  | times (least : Nat) (most : Option Nat) (source : Text)
  | opening
  | closing
  | bar
  | caret
  | dollar

/-- The name between a sign and a bracket, and what follows them. -/
def upToSign? (sign : Char) : Text → Option (Text × Text)
  | [] => none
  | c :: rest =>
      match rest with
      | ']' :: after =>
          if c = sign then some ([], after)
          else (upToSign? sign rest).map fun (name, rest) => (c :: name, rest)
      | _ => (upToSign? sign rest).map fun (name, rest) => (c :: name, rest)

def unmatchedSet : Text := "Unmatched [, [^, [:, [., or [="

/-- Reads the ranges of a bracket, whose first character may be the closing one. -/
def readSet : Nat → Bool → Text → Except Text (List (Char × Char) × Text)
  | 0, _, _ => .error unmatchedSet
  | _ + 1, _, [] => .error unmatchedSet
  | fuel + 1, isFirst, c :: rest => do
      let goOn (ranges : List (Char × Char)) (rest : Text) : Except Text (List (Char × Char) × Text) := do
        let (others, rest) ← readSet fuel false rest
        .ok (ranges ++ others, rest)
      match c, rest with
      | '[', ':' :: inside =>
          match upToSign? ':' inside with
          | none => .error unmatchedSet
          | some (name, rest) =>
              match CharacterSet.class? name with
              | none => .error "Invalid character class name"
              | some ranges => goOn ranges rest
      | '[', '.' :: inside =>
          match upToSign? '.' inside with
          | none => .error unmatchedSet
          | some ([d], rest) => goOn [(d, d)] rest
          | some _ => .error "Invalid collation character"
      | '[', '=' :: inside =>
          match upToSign? '=' inside with
          | none => .error unmatchedSet
          | some ([d], rest) => goOn [(d, d)] rest
          | some _ => .error "Invalid collation character"
      | ']', rest => if isFirst then goOn [(']', ']')] rest else .ok ([], rest)
      | c, '-' :: last :: after =>
          if last = ']' then goOn [(c, c)] rest
          else if last.toNat < c.toNat then .error "Invalid range end"
          else goOn [(c, last)] after
      | c, rest => goOn [(c, c)] rest

def readBracket (text : Text) : Except Text (CharacterSet × Text) := do
  let (isOneOf, inside) :=
    match text with
    | '^' :: inside => (false, inside)
    | inside => (true, inside)
  if inside.isEmpty then .error "Invalid regular expression"
  let (ranges, rest) ← readSet (inside.length + 1) true inside
  .ok (⟨isOneOf, ranges⟩, rest)

def decimal (digits : Text) : Nat := digits.foldl (fun value c => 10 * value + (c.toNat - '0'.toNat)) 0

def countLimit : Nat := 32767

/-- Reads how often something fits, behind the opening brace. What cannot be that at all is nothing
where strays stand for themselves. -/
def readTimes (form : Form) (text : Text) : Except Text (Option (Token × Text)) :=
  let low := text.takeWhile Char.isDigit
  let (high, rest) :=
    match text.drop low.length with
    | ',' :: rest => (some (rest.takeWhile Char.isDigit), rest.dropWhile Char.isDigit)
    | rest => (none, rest)
  let after? : Option Text :=
    match form.isBasic, rest with
    | true, '\\' :: '\x7d' :: rest => some rest
    | false, '\x7d' :: rest => some rest
    | _, _ => none
  let invalid : Text := "Invalid content of \\\x7b\\\x7d"
  match after? with
  | none =>
      if form.keepsStrays then .ok none
      else .error (if rest.isEmpty then "Unmatched \\\x7b" else invalid)
  | some rest =>
      let least := decimal low
      let most :=
        match high with
        | none => some least
        | some digits => if digits.isEmpty then none else some (decimal digits)
      if low.isEmpty ∧ high.isNone then (if form.keepsStrays then .ok none else .error invalid)
      else if most.any (· < least) then .error invalid
      else if countLimit < most.getD least then .error "Regular expression too big"
      else
        let count := '\x7b' :: low ++ (high.map fun digits => ',' :: digits).getD [] ++ ['\x7d']
        .ok (some (.times least most count, rest))

/-- What a letter means behind a backslash, if it has a meaning there. -/
def escapeOf? : Char → Option Regex
  | 'w' => some (.one CharacterSet.word)
  | 'W' => some (.one CharacterSet.word.complement)
  | 's' => some (.one CharacterSet.space)
  | 'S' => some (.one CharacterSet.space.complement)
  | 'b' => some (.atEdge .atEither)
  | 'B' => some (.atEdge .atNeither)
  | '<' => some (.atEdge .atStart)
  | '>' => some (.atEdge .atEnd)
  | '\x60' => some .textStart
  | '\'' => some .textEnd
  | c => if c.isDigit ∧ c ≠ '0' then some (.again (c.toNat - '0'.toNat)) else none

/-- The signs that have a meaning in the extended form, and in the basic form behind a backslash. -/
def sign? : Char → Option Token
  | '(' => some .opening
  | ')' => some .closing
  | '|' => some .bar
  | '+' => some (.times 1 none ['+'])
  | '?' => some (.times 0 (some 1) ['?'])
  | _ => none

def tokens (form : Form) : Nat → Text → Except Text (List Token)
  | 0, _ => .ok []
  | _ + 1, [] => .ok []
  | fuel + 1, c :: rest => do
      let goOn (token : Token) (rest : Text) : Except Text (List Token) := do
        .ok (token :: (← tokens form fuel rest))
      match c, rest, form.isBasic with
      | '\\', [], _ => .error "Trailing backslash"
      | '\\', d :: rest, _ =>
          match sign? d, escapeOf? d, form.isBasic with
          | some token, _, true => goOn token rest
          | _, some regex, _ => goOn (.atom regex) rest
          | _, none, _ =>
              if d = '\x7b' ∧ form.isBasic then do
                match ← readTimes form rest with
                | some (token, rest) => goOn token rest
                | none => goOn (.char d) rest
              else goOn (.char d) rest
      | '[', rest, _ => do
          let (set, rest) ← readBracket rest
          goOn (.atom (.one set)) rest
      | '.', rest, _ => goOn (.atom (.one CharacterSet.every)) rest
      | '*', rest, _ => goOn (.times 0 none ['*']) rest
      | '^', rest, _ => goOn .caret rest
      | '$', rest, _ => goOn .dollar rest
      | '\x7b', rest, false => do
          match ← readTimes form rest with
          | some (token, rest) => goOn token rest
          | none => goOn (.char '\x7b') rest
      | c, rest, false => goOn ((sign? c).getD (.char c)) rest
      | c, rest, true => goOn (.char c) rest

def literal (text : Text) : Regex :=
  text.foldr (fun c rest => .inOrder (.one (.only c)) rest) .nothing

/-- What has been read of an alternative, and whether something in it can be repeated. -/
structure Sequence where
  before : Regex
  last? : Option Regex

def Sequence.whole (sequence : Sequence) : Regex :=
  match sequence.last? with
  | none => sequence.before
  | some last => .inOrder sequence.before last

def Sequence.add (sequence : Sequence) (next : Regex) : Sequence := ⟨sequence.whole, some next⟩

def Sequence.addPlace (sequence : Sequence) (next : Regex) : Sequence :=
  ⟨.inOrder sequence.whole next, none⟩

/-- Whether a dollar sign in front of some tokens is the end of a line. -/
def isAtEnd : List Token → Bool
  | [] => true
  | .closing :: _ => true
  | .bar :: _ => true
  | _ => false

/-- Reads alternatives up to a closing bracket or the end; gives how many groups were opened. -/
def readAlternatives (form : Form) :
    Nat → Nat → Nat → Bool → Sequence → List Token → Except Text (Regex × Nat × List Token)
  | 0, _, _, _, _, _ => .error "Regular expression too big"
  | fuel + 1, depth, groups, isStart, sequence, tokens =>
      let goOn (groups : Nat) (sequence : Sequence) (tokens : List Token) :=
        readAlternatives form fuel depth groups false sequence tokens
      match tokens with
      | [] => if depth = 0 then .ok (sequence.whole, groups, []) else .error "Unmatched ( or \\("
      | .closing :: rest =>
          if depth ≠ 0 then .ok (sequence.whole, groups, rest)
          else if form.keepsStrays then goOn groups (sequence.add (.one (.only ')'))) rest
          else .error "Unmatched ) or \\)"
      | .bar :: rest => do
          let (other, groups, rest) ← readAlternatives form fuel depth groups true ⟨.nothing, none⟩ rest
          .ok (.either sequence.whole other, groups, rest)
      | .opening :: rest => do
          let number := groups + 1
          let (inner, groups, rest) ← readAlternatives form fuel (depth + 1) number true ⟨.nothing, none⟩ rest
          goOn groups (sequence.add (.group number inner)) rest
      | .char c :: rest => goOn groups (sequence.add (.one (.only c))) rest
      | .atom (.again number) :: rest =>
          if groups < number then .error "Invalid back reference"
          else goOn groups (sequence.add (.again number)) rest
      | .atom regex :: rest => goOn groups (sequence.add regex) rest
      | .caret :: rest =>
          if form.isBasic = false ∨ isStart then
            readAlternatives form fuel depth groups true (sequence.addPlace .lineStart) rest
          else goOn groups (sequence.add (.one (.only '^'))) rest
      | .dollar :: rest =>
          if form.isBasic = false ∨ isAtEnd rest then goOn groups (sequence.addPlace .lineEnd) rest
          else goOn groups (sequence.add (.one (.only '$'))) rest
      | .times least most source :: rest =>
          match sequence.last? with
          | some last => goOn groups ⟨sequence.before, some (.repeated least most last)⟩ rest
          | none =>
              if form.skipsRepetition then readAlternatives form fuel depth groups isStart sequence rest
              else if (form.isBasic ∧ source.length = 1) ∨ (source = ['*'] ∧ isStart = false) ∨ form.keepsCounts then
                goOn groups (sequence.add (literal source)) rest
              else .error "Invalid preceding regular expression"

/-- The signs for repetition that stand in front of everything, as they are complained of. -/
def loneSigns : Bool → List Token → List Text
  | _, [] => []
  | isStart, .times _ _ source :: rest =>
      if isStart then (if source.length = 1 then source else "\x7b...\x7d") :: loneSigns true rest
      else loneSigns false rest
  | _, .opening :: rest => loneSigns true rest
  | _, .bar :: rest => loneSigns true rest
  | _, .caret :: rest => loneSigns true rest
  | _, _ :: rest => loneSigns false rest

/-- The signs for repetition in an expression that stand in front of everything. -/
def strayRepetitions (form : Form) (text : Text) : List Text :=
  match tokens form (text.length + 1) text with
  | .ok tokens => loneSigns true tokens
  | .error _ => []

def read (form : Form) (text : Text) : Except Text Regex := do
  let tokens ← tokens form (text.length + 1) text
  let (regex, _, _) ← readAlternatives form (2 * tokens.length + 2) 0 0 true ⟨.nothing, none⟩ tokens
  .ok regex

end Regex

end UniversalModule.Host
