import UniversalModule.Host.Editor.Basic
import UniversalModule.Host.Regex.Reader

/-!
The instructions in the text of an editor script. A fault tells how much of the text had been read.
-/

namespace UniversalModule.Host.Editor

/-- Why a script is refused, and how many of its characters were left, unless it ended too early
for a fault at its beginning. -/
structure Fault where
  message : Text
  left : Option Nat

abbrev Reader (α : Type) := Text → Except Fault (α × Text)

def refuse {α : Type} (message : Text) (rest : Text) : Except Fault α :=
  .error ⟨message, some rest.length⟩

def isBlank (c : Char) : Bool := c == ' ' || ('\t' ≤ c && c ≤ '\r')

def skipBlanks (text : Text) : Text := text.dropWhile isBlank

/-- Splits a text behind what ends the inner part of a bracket. -/
def behindInner (sign : Char) : Text → Option (Text × Text)
  | [] => none
  | c :: rest =>
      if c = sign ∧ rest.head? = some ']' then some ([c, ']'], rest.tail)
      else (behindInner sign rest).map fun (inner, rest) => (c :: inner, rest)

def behindBracket : Nat → Text → Option (Text × Text)
  | 0, _ => none
  | _ + 1, [] => none
  | fuel + 1, c :: rest =>
      let isInner := c = '[' ∧ (rest.head?.any fun sign => sign == ':' || sign == '.' || sign == '=')
      let step? : Option (Text × Text) :=
        if isInner then
          (behindInner (rest.headD ' ') rest.tail).map fun (inner, after) =>
            (c :: rest.headD ' ' :: inner, after)
        else some ([c], rest)
      if c = ']' then some ([']'], rest)
      else
        match step? with
        | none => none
        | some (read, rest) =>
            (behindBracket fuel rest).map fun (others, rest) => (read ++ others, rest)

/-- Splits a text behind a bracket, whose opening sign is left away. The closing sign may be its first
character. -/
def bracket? (text : Text) : Option (Text × Text) :=
  let start := text.takeWhile (· == '^') |>.take 1
  let rest := text.drop start.length
  let first := rest.takeWhile (· == ']') |>.take 1
  (behindBracket (text.length + 1) (rest.drop first.length)).map fun (body, rest) =>
    (start ++ first ++ body, rest)

/-- The text up to a sign that no backslash protects, nor a bracket in an expression. A backslash in
front of the sign is dropped, and one in front of `n` begins a line end in an expression. -/
def upToSign? (sign : Char) (isRegex : Bool) : Nat → Text → Option (Text × Text)
  | 0, _ => none
  | _ + 1, [] => none
  | _ + 1, ['\\'] => none
  | fuel + 1, '\\' :: c :: rest =>
      let kept : Text :=
        if c = sign then [c]
        else if c = 'n' ∧ isRegex then ['\n']
        else ['\\', c]
      (upToSign? sign isRegex fuel rest).map fun (text, rest) => (kept ++ text, rest)
  | fuel + 1, c :: rest =>
      if c = sign then some ([], rest)
      else if c = '[' ∧ isRegex then
        match bracket? rest with
        | none => none
        | some (body, rest) =>
            (upToSign? sign isRegex fuel rest).map fun (text, rest) => (c :: body ++ text, rest)
      else (upToSign? sign isRegex fuel rest).map fun (text, rest) => (c :: text, rest)

/-- The text up to a sign, and what is behind the sign. -/
def splitAtSign? (sign : Char) (isRegex : Bool) (text : Text) : Option (Text × Text) :=
  upToSign? sign isRegex (text.length + 1) text

/-- A character that a letter means behind a backslash. -/
def meantBy? : Char → Option Char
  | 'a' => some '\x07'
  | 'f' => some '\x0c'
  | 'n' => some '\n'
  | 'r' => some '\r'
  | 't' => some '\t'
  | 'v' => some '\x0b'
  | _ => none

/-- An expression with the characters that letters mean behind backslashes. -/
def withMeant : Text → Text
  | '\\' :: c :: rest =>
      match meantBy? c with
      | some meant => meant :: withMeant rest
      | none => '\\' :: c :: withMeant rest
  | c :: rest => c :: withMeant rest
  | [] => []

def digitsOf (text : Text) : Text := text.takeWhile Char.isDigit

def valueOf (digits : Text) : Nat :=
  digits.foldl (fun value c => 10 * value + (c.toNat - '0'.toNat)) 0

/-- Reads the expression of an address behind its first sign, with the letters that follow it. -/
def readPattern (form : Regex.Form) (sign : Char) : Reader Pattern := fun text => do
  match splitAtSign? sign true text with
  | none => refuse "unterminated address regex" []
  | some (expression, rest) =>
      let letters := rest.takeWhile fun c => c == 'I' || c == 'M'
      let rest := rest.drop letters.length
      if expression.isEmpty then .ok (⟨none, letters.contains 'I', letters.contains 'M'⟩, rest)
      else
        match Regex.read form (withMeant expression) with
        | .error message => refuse message rest
        | .ok regex => .ok (⟨some regex, letters.contains 'I', letters.contains 'M'⟩, rest)

def readAddress (form : Regex.Form) : Reader (Option Address) := fun text => do
  match text with
  | '$' :: rest => .ok (some .last, rest)
  | '/' :: rest => do
      let (pattern, rest) ← readPattern form '/' rest
      .ok (some (.fits pattern), rest)
  | '\\' :: sign :: rest => do
      let (pattern, rest) ← readPattern form sign rest
      .ok (some (.fits pattern), rest)
  | text =>
      let digits := digitsOf text
      if digits.isEmpty then .ok (none, text)
      else
        let rest := text.drop digits.length
        match rest with
        | '~' :: behind =>
            let step := digitsOf behind
            .ok (some (.every (valueOf digits) (valueOf step)), behind.drop step.length)
        | rest => .ok (some (.line (valueOf digits)), rest)

def readRangeEnd (form : Regex.Form) : Reader RangeEnd := fun text => do
  match text with
  | '+' :: rest =>
      let digits := digitsOf rest
      .ok (.further (valueOf digits), rest.drop digits.length)
  | '~' :: rest =>
      let digits := digitsOf rest
      .ok (.multiple (valueOf digits), rest.drop digits.length)
  | text =>
      match ← readAddress form text with
      | (some address, rest) => .ok (.address address, rest)
      | (none, rest) => refuse "unexpected \x60,'" rest.tail

def readSelection (form : Regex.Form) : Reader Selection := fun text => do
  match ← readAddress form text with
  | (none, rest) => .ok (.all, rest)
  | (some start, rest) =>
      match skipBlanks rest with
      | ',' :: behind => do
          let (finish, rest) ← readRangeEnd form (skipBlanks behind)
          match start, finish with
          | .line 0, .address (.fits pattern) => .ok (.fromStart (.fits pattern), rest)
          | .line 0, _ => refuse "invalid usage of line address 0" (skipBlanks rest).tail
          | start, finish => .ok (.range start finish, rest)
      | behind =>
          match start with
          | .line 0 => refuse "invalid usage of line address 0" behind.tail
          | start => .ok (.one start, behind)

def readEnd (text : Text) : Except Fault Text :=
  let rest := text.dropWhile fun c => c == ' ' || c == '\t' || c == '\r'
  match rest with
  | [] => .ok []
  | '\n' :: rest => .ok rest
  | ';' :: rest => .ok rest
  | '}' :: _ => .ok rest
  | '#' :: _ => .ok rest
  | _ :: rest => refuse "extra characters after command" rest

def readLabel (text : Text) : Text × Text :=
  let rest := text.dropWhile fun c => c == ' ' || c == '\t'
  let label := rest.takeWhile fun c => !isBlank c && c != ';' && c != '}'
  (label, rest.drop label.length)

/-- The lines of a text up to an end that no backslash protects. -/
def readLines : Text → Text × Text
  | [] => ([], [])
  | ['\\'] => ([], [])
  | '\\' :: c :: rest =>
      let (text, rest) := readLines rest
      (c :: text, rest)
  | '\n' :: rest => ([], rest)
  | c :: rest =>
      let (text, rest) := readLines rest
      (c :: text, rest)

def readText (text : Text) : Except Fault (Text × Text) :=
  let isGap (c : Char) : Bool := c == ' ' || c == '\t'
  match text.dropWhile isGap with
  | [] => refuse "expected \\ after \x60a', \x60c' or \x60i'" []
  | '\\' :: rest =>
      let body := match rest.dropWhile isGap with
        | '\n' :: body => body
        | _ => rest
      let (lines, rest) := readLines body
      .ok (if lines.isEmpty ∧ body.isEmpty then [] else lines ++ ['\n'], rest)
  | rest =>
      let (lines, rest) := readLines rest
      .ok (lines ++ ['\n'], rest)

def replacementOf : Text → List Replacement
  | [] => []
  | ['\\'] => [.text ['\\']]
  | '\\' :: c :: rest =>
      let part : Replacement :=
        if c.isDigit then .group (c.toNat - '0'.toNat)
        else if "LUEul".toList.contains c then .inCase c
        else .text [(meantBy? c).getD c]
      part :: replacementOf rest
  | '&' :: rest => .group 0 :: replacementOf rest
  | c :: rest =>
      match replacementOf rest with
      | .text text :: parts => .text (c :: text) :: parts
      | parts => .text [c] :: parts

structure Flags where
  number : Option Nat
  replacesAll : Bool
  prints : Bool
  ignoresCase : Bool
  hasLines : Bool
  output : Option Text

/-- Reads the letters and numbers behind a substitution. -/
def readFlags : Nat → Flags → Reader Flags
  | 0, flags, text => .ok (flags, text)
  | fuel + 1, flags, text =>
      match text with
      | 'g' :: rest =>
          if flags.replacesAll then refuse "multiple \x60g' options to \x60s' command" rest
          else readFlags fuel { flags with replacesAll := true } rest
      | 'p' :: rest =>
          if flags.prints then refuse "multiple \x60p' options to \x60s' command" rest
          else readFlags fuel { flags with prints := true } rest
      | 'i' :: rest => readFlags fuel { flags with ignoresCase := true } rest
      | 'I' :: rest => readFlags fuel { flags with ignoresCase := true } rest
      | 'm' :: rest => readFlags fuel { flags with hasLines := true } rest
      | 'M' :: rest => readFlags fuel { flags with hasLines := true } rest
      | 'w' :: rest =>
          let path := (rest.dropWhile fun c => c == ' ' || c == '\t').takeWhile (· != '\n')
          if path.isEmpty then refuse "missing filename in r/R/w/W commands" []
          else .ok ({ flags with output := some path }, (rest.dropWhile (· != '\n')).tail)
      | c :: rest =>
          if c.isDigit then
            let digits := digitsOf text
            let rest := text.drop digits.length
            if valueOf digits = 0 then refuse "number option to \x60s' command may not be zero" rest
            else if flags.number.isSome then refuse "multiple number options to \x60s' command" rest
            else readFlags fuel { flags with number := some (valueOf digits) } rest
          else if c = ';' ∨ c = '\n' then .ok (flags, rest)
          else if c = '}' ∨ c = '#' then .ok (flags, text)
          else if c = ' ' ∨ c = '\t' ∨ c = '\r' then readFlags fuel flags rest
          else refuse "unknown option to \x60s'" rest
      | [] => .ok (flags, [])

/-- The number of the greatest group that a replacement asks for. -/
def greatestGroup (parts : List Replacement) : Nat :=
  parts.foldl (fun greatest part =>
    match part with
    | .group number => max greatest number
    | _ => greatest) 0

def readSubstitution (form : Regex.Form) : Reader Action := fun text => do
  let unterminated {α : Type} : Except Fault α := refuse "unterminated \x60s' command" []
  match text with
  | [] => unterminated
  | sign :: rest =>
      match splitAtSign? sign true rest with
      | none => unterminated
      | some (expression, rest) =>
          match splitAtSign? sign false rest with
          | none => unterminated
          | some (replacement, rest) => do
              let (flags, rest) ←
                readFlags (rest.length + 1) ⟨none, false, false, false, false, none⟩ rest
              let parts := replacementOf replacement
              let regex? ←
                if expression.isEmpty then .ok none
                else
                  match Regex.read form (withMeant expression) with
                  | .error message => refuse message rest
                  | .ok regex =>
                      if regex.lastGroup < greatestGroup parts then
                        refuse ("invalid reference \\" ++ Text.ofNat (greatestGroup parts) ++
                          " on \x60s' command's RHS") rest
                      else .ok (some regex)
              .ok (.substitute {
                pattern := ⟨regex?, flags.ignoresCase, flags.hasLines⟩
                replacement := parts
                first := flags.number.getD 1
                replacesAll := flags.replacesAll
                prints := flags.prints
                output := flags.output }, rest)

/-- The characters of a translation, without the backslashes that protect them. -/
def translated : Text → Text
  | '\\' :: c :: rest => (if c = '\\' then '\\' else (meantBy? c).getD c) :: translated rest
  | c :: rest => c :: translated rest
  | [] => []

def readTranslation : Reader Action := fun text => do
  let unterminated {α : Type} : Except Fault α := refuse "unterminated \x60y' command" []
  match text with
  | [] => unterminated
  | sign :: rest =>
      match splitAtSign? sign false rest with
      | none => unterminated
      | some (first, rest) =>
          match splitAtSign? sign false rest with
          | none => unterminated
          | some (second, rest) =>
              let first := translated first
              let second := translated second
              if first.length ≠ second.length then
                refuse "strings for \x60y' command are different lengths" rest
              else do .ok (.translate (first.zip second), ← readEnd rest)

def readPath (make : Text → Action) : Reader Action := fun text =>
  let path := (text.dropWhile fun c => c == ' ' || c == '\t').takeWhile (· != '\n')
  if path.isEmpty then refuse "missing filename in r/R/w/W commands" (text.dropWhile (· != '\n'))
  else .ok (make path, (text.dropWhile (· != '\n')).tail)

def readAction (form : Regex.Form) : Reader Action := fun text => do
  let alone (action : Action) (rest : Text) : Except Fault (Action × Text) := do
    .ok (action, ← readEnd rest)
  let put (make : Text → Action) (rest : Text) : Except Fault (Action × Text) := do
    let (text, rest) ← readText rest
    .ok (make text, rest)
  let jump (make : Text → Action) (rest : Text) : Except Fault (Action × Text) := do
    let (label, rest) := readLabel rest
    .ok (make label, ← readEnd rest)
  match text with
  | [] => refuse "missing command" []
  | letter :: rest =>
      let numbered : Text × Text :=
        let behind := rest.dropWhile fun c => c == ' ' || c == '\t'
        (digitsOf behind, behind.drop (digitsOf behind).length)
      match letter with
      | '\x7b' => .ok (.opening, rest)
      | '}' => alone .closing rest
      | '=' => alone .number rest
      | 'a' => put .append rest
      | 'b' => jump .jump rest
      | 'c' => put .change rest
      | 'd' => alone .delete rest
      | 'D' => alone .deleteLine rest
      | 'F' => alone .name rest
      | 'g' => alone .recall rest
      | 'G' => alone .recallMore rest
      | 'h' => alone .keep rest
      | 'H' => alone .keepMore rest
      | 'i' => put .insert rest
      | 'l' =>
          if numbered.1.isEmpty then alone (.list none) rest
          else alone (.list (some (valueOf numbered.1))) numbered.2
      | 'n' => alone .next rest
      | 'N' => alone .appendNext rest
      | 'p' => alone .print rest
      | 'P' => alone .printLine rest
      | 'q' => alone (.quit (valueOf numbered.1) true) numbered.2
      | 'Q' => alone (.quit (valueOf numbered.1) false) numbered.2
      | 'r' => readPath .read rest
      | 'R' => readPath .readLine rest
      | 's' => readSubstitution form rest
      | 't' => jump .jumpIfChanged rest
      | 'T' => jump .jumpUnlessChanged rest
      | 'v' => .ok (.nothing, (rest.dropWhile (· != '\n')).tail)
      | 'w' => readPath .write rest
      | 'W' => readPath .writeLine rest
      | 'x' => alone .exchange rest
      | 'y' => readTranslation rest
      | 'z' => alone .empty rest
      | c => refuse ("unknown command: \x60" ++ [c, '\'']) rest

def checkSelection (selection : Selection) (letter : Char) (rest : Text) : Except Fault Unit :=
  match selection with
  | .all => .ok ()
  | .one _ =>
      if letter = '}' then refuse "unexpected \x60\x7d'" rest
      else if letter = ':' then refuse ": doesn't want any addresses" rest
      else if letter = '#' then refuse "comments don't accept any addresses" rest
      else .ok ()
  | _ =>
      if letter = ':' then refuse ": doesn't want any addresses" rest
      else if letter = '#' then refuse "comments don't accept any addresses" rest
      else if letter = 'q' ∨ letter = 'Q' then refuse "command only uses one address" rest
      else .ok ()

def readNegation (text : Text) : Except Fault (Bool × Text) :=
  match text with
  | '!' :: rest =>
      match skipBlanks rest with
      | '!' :: rest => refuse "multiple \x60!'s" rest
      | rest => .ok (true, rest)
  | text => .ok (false, text)

/-- Reads instructions; `depth` counts those that are open. -/
def readInstructions (form : Regex.Form) :
    Nat → Nat → List Instruction → Reader (List Instruction)
  | 0, _, read, text => .ok (read.reverse, text)
  | fuel + 1, depth, read, text => do
      match text.dropWhile fun c => isBlank c || c == ';' with
      | [] =>
          if depth = 0 then .ok (read.reverse, [])
          else .error ⟨"unmatched \x60\x7b'", none⟩
      | text => do
          let (selection, rest) ← readSelection form text
          let (isNegated, rest) ← readNegation (skipBlanks rest)
          checkSelection selection (rest.headD ' ') rest.tail
          match rest with
          | '#' :: rest =>
              readInstructions form fuel depth read ((rest.dropWhile (· != '\n')).tail)
          | ':' :: rest =>
              let (label, rest) := readLabel rest
              if label.isEmpty then refuse "\":\" lacks a label" rest
              else readInstructions form fuel depth (⟨selection, isNegated, .label label⟩ :: read) rest
          | '}' :: rest =>
              if depth = 0 then refuse "unexpected \x60\x7d'" rest
              else
                let rest ← readEnd rest
                readInstructions form fuel (depth - 1) (⟨.all, false, .closing⟩ :: read) rest
          | rest => do
              let (action, rest) ← readAction form rest
              let depth := match action with
                | .opening => depth + 1
                | _ => depth
              readInstructions form fuel depth (⟨selection, isNegated, action⟩ :: read) rest

def Action.target? : Action → Option Text
  | .jump target => some target
  | .jumpIfChanged target => some target
  | .jumpUnlessChanged target => some target
  | _ => none

def missingLabel? (instructions : List Instruction) : Option Text :=
  let labels := instructions.filterMap fun instruction =>
    match instruction.action with
    | .label name => some name
    | _ => none
  instructions.findSome? fun instruction =>
    instruction.action.target?.filter fun label => !label.isEmpty && !labels.contains label

end UniversalModule.Host.Editor
