import UniversalModule.Host.Digest
import UniversalModule.Host.Utility.Work

/-!
Programs that print digests of files, and that check files against a list of digests.
-/

namespace UniversalModule.Host.Utility

variable {m : Type → Type} [Monad m] (call : Call m)

structure Digester where
  name : Text
  digest : Bytes → Bytes
  /-- How many bytes the digest has. -/
  size : Nat

/-- The digests by the names that programs have for them. -/
def digester? (name : Text) : Option Digester :=
  match String.ofList name with
  | "md5" => some ⟨"MD5", Digest.md5, 16⟩
  | "sha1" => some ⟨"SHA1", Digest.sha1, 20⟩
  | "sha224" => some ⟨"SHA224", Digest.sha224, 28⟩
  | "sha256" => some ⟨"SHA256", Digest.sha256, 32⟩
  | "sha384" => some ⟨"SHA384", Digest.sha384, 48⟩
  | "sha512" => some ⟨"SHA512", Digest.sha512, 64⟩
  | _ => none

/-- The characters of a name that a line of a list cannot hold, and the letters that stand for them. -/
def listEscapes : List (Char × Char) := [('\\', '\\'), ('\n', 'n'), ('\r', 'r')]

/-- A name as a list holds it, with the mark that says whether anything was escaped. -/
def listedName (name : Text) : Text × Text :=
  let shown := name.flatMap fun c => (listEscapes.lookup c).elim [c] fun letter => ['\\', letter]
  (if shown = name then [] else ['\\'], shown)

structure Listed where
  isTagged : Bool
  isBinary : Bool
  endsInZero : Bool

def Listed.line (listed : Listed) (digester : Digester) (path : Text) (content : Bytes) : Text :=
  let hex := Digest.hexOf (digester.digest content)
  let (mark, name) := if listed.endsInZero then ([], path) else listedName path
  let told : Text :=
    if listed.isTagged then digester.name ++ " (" ++ name ++ ") = " ++ hex
    else hex ++ (if listed.isBinary then " *" else "  ") ++ name
  mark ++ told ++ (if listed.endsInZero then ['\x00'] else ['\n'])

def listDigests (listed : Listed) (digester : Digester) (paths : List Text) : Work m Unit :=
  (if paths.isEmpty then [['-']] else paths).forM fun path => do
    match ← call.read path with
    | .ok content => printText (listed.line digester path content)
    | .error fault => call.refuseFile path fault

/-- A name without its escapes; nothing when one is wrong. -/
def unlistedName? : Text → Option Text
  | [] => some []
  | ['\\'] => none
  | '\\' :: letter :: rest => do
      let (c, _) ← listEscapes.find? fun escape => escape.2 == letter
      (unlistedName? rest).map (c :: ·)
  | c :: rest => (unlistedName? rest).map (c :: ·)

/-- The digest, in hexadecimal digits, and the name in a line of a list. -/
def readListed? (digester : Digester) (line : Text) : Option (Text × Text) := do
  let line := line.dropWhile fun c => c == ' ' || c == '\t'
  let isEscaped := line.head? = some '\\'
  let line := if isEscaped then line.tail else line
  let tag : Text := digester.name ++ " ("
  let (hex, name) ←
    if tag.isPrefixOf line then
      let rest := line.drop tag.length
      let count := rest.length - 2 * digester.size - 4
      if (rest.drop count).take 4 = ") = ".toList then some (rest.drop (count + 4), rest.take count) else none
    else
      let hex := line.take (2 * digester.size)
      match line.drop hex.length with
      | ' ' :: kind :: name => if kind = ' ' ∨ kind = '*' then some (hex, name) else some (hex, kind :: name)
      | _ => none
  let isHex := hex.length = 2 * digester.size ∧ hex.all fun c => c.isDigit || "abcdefABCDEF".toList.contains c
  if isHex = false ∨ name.isEmpty then none
  else do
    let name ← if isEscaped then unlistedName? name else some name
    some (hex.map Char.toLower, name)

structure Checking where
  isQuiet : Bool
  isSilent : Bool
  isStrict : Bool
  warns : Bool
  ignoresMissing : Bool

structure Checked where
  wellFormed : Nat
  malformed : Nat
  matched : Nat
  mismatched : Nat
  unread : Nat

def Call.warnCount (count : Nat) (one many : Text) : Work m Unit :=
  if count = 0 then return ()
  else call.complain 0 ("WARNING: " ++ Text.ofNat count ++ ' ' :: if count = 1 then one else many)

def checkLine (checking : Checking) (digester : Digester) (list : Text) (checked : Checked) (line : Text)
    (number : Nat) : Work m Checked := do
  match readListed? digester line with
  | none => do
      if checking.warns then
        call.complain 0 <|
          list ++ ": " ++ Text.ofNat number ++ ": improperly formatted " ++ digester.name ++ " checksum line"
      return { checked with malformed := checked.malformed + 1 }
  | some (hex, name) =>
      let checked := { checked with wellFormed := checked.wellFormed + 1 }
      let (mark, shown) := listedName name
      let tell (told : Text) : Work m Unit := printLine (mark ++ shown ++ ": " ++ told)
      match ← call.read name with
      | .ok content =>
          if Digest.hexOf (digester.digest content) = hex then do
            if checking.isQuiet = false ∧ checking.isSilent = false then tell "OK"
            return { checked with matched := checked.matched + 1 }
          else do
            if checking.isSilent = false then tell "FAILED"
            return { checked with mismatched := checked.mismatched + 1 }
      | .error fault =>
          if checking.ignoresMissing ∧ fault = .notFound then return checked
          else do
            call.complain 0 (quotedIfOdd name ++ ": " ++ fault.reason)
            if checking.isSilent = false then tell "FAILED open or read"
            return { checked with unread := checked.unread + 1 }

def checkList (checking : Checking) (digester : Digester) (path : Text) : Work m Unit := do
  match ← call.read path with
  | .error fault => call.refuseFile path fault
  | .ok content => do
      let list := quotedIfOdd (if path = ['-'] then "standard input" else path)
      let lines := (linesOf '\n' (Text.ofUtf8Lossy content)).zipIdx 1
      let counted := lines.filter fun (line, _) => !line.isEmpty && line.head? != some '#'
      let checked ← counted.foldlM (fun checked (line, number) =>
        checkLine call checking digester list checked line number) (⟨0, 0, 0, 0, 0⟩ : Checked)
      if checked.wellFormed = 0 then
        call.complain 1 (list ++ ": no properly formatted checksum lines found")
      else do
        if checking.isSilent = false then
          call.warnCount checked.malformed "line is improperly formatted" "lines are improperly formatted"
          call.warnCount checked.unread "listed file could not be read" "listed files could not be read"
          call.warnCount checked.mismatched "computed checksum did NOT match" "computed checksums did NOT match"
          if checking.ignoresMissing ∧ checked.matched = 0 then
            call.complain 0 (list ++ ": no file was verified")
        let isFine := checked.matched ≠ 0 ∧ checked.mismatched = 0 ∧ checked.unread = 0 ∧
          (checking.isStrict = false ∨ checked.malformed = 0)
        giveStatus (if isFine then 0 else 1)

/-- Options that ask for nothing unless files are checked. -/
def checkingOptions : List Text := ["ignore-missing", "status", "warn", "quiet", "strict"]

/-- A program that lists and checks digests of one kind. -/
def digesting (digester : Digester) : Work m Unit := do
  let (given, operands) ← call.options 1
    "b,binary c,check t,text tag z,zero ignore-missing status quiet strict w,warn"
  let is (name : Text) := isGiven given name || (name == "warn".toList && isGiven given ['w'])
  let paths := if operands.isEmpty then [['-']] else operands
  if is ['c'] then
    if is "tag" then call.fail 1 ("the --tag option is meaningless when verifying checksums" ++ call.helpLine)
    else if is ['z'] then
      call.fail 1 ("the --zero option is not supported when verifying checksums" ++ call.helpLine)
    else if is ['b'] || is ['t'] then
      let what : Text := "the --binary and --text options are meaningless when verifying checksums"
      call.fail 1 (what ++ call.helpLine)
    else
      let checking : Checking := ⟨is "quiet", is "status", is "strict", is "warn", is "ignore-missing"⟩
      paths.forM (checkList call checking digester)
  else
    match checkingOptions.find? is with
    | some name =>
        let what : Text := "the --" ++ name ++ " option is meaningful only when verifying checksums"
        call.fail 1 (what ++ call.helpLine)
    | none =>
        let modes := given.filter fun option => option.name == ['b'] || option.name == ['t']
        let isBinary := (modes.getLast?).any fun option => option.name == ['b']
        listDigests call ⟨is "tag", isBinary, is ['z']⟩ digester operands

def listChecks (tell : Bytes → Text) (paths : List Text) : Work m Unit :=
  (if paths.isEmpty then [['-']] else paths).forM fun path => do
    match ← call.read path with
    | .ok content => printLine (tell content ++ (if paths.isEmpty then [] else ' ' :: path))
    | .error fault => call.refuseFile path fault

def turningCheck (content : Bytes) : Text :=
  let sum := Text.ofNat (Digest.turningSum content)
  let blocks := Text.ofNat ((content.length + 1023) / 1024)
  List.replicate (5 - sum.length) '0' ++ sum ++ ' ' :: padLeft 5 blocks

def plainCheck (content : Bytes) : Text :=
  Text.ofNat (Digest.plainSum content) ++ ' ' :: Text.ofNat ((content.length + 511) / 512)

def cyclicCheck (content : Bytes) : Text :=
  Text.ofNat (Digest.cyclic content) ++ ' ' :: Text.ofNat content.length

def sum : Work m Unit := do
  let (given, operands) ← call.options 1 "r s,sysv"
  listChecks call (if isGiven given ['s'] then plainCheck else turningCheck) operands

def cksum : Work m Unit := do
  let (given, operands) ← call.options 1 "a,algorithm= untagged tag z,zero"
  let name := (valueGiven? given ['a']).getD "crc"
  match String.ofList name, digester? name with
  | "crc", _ => listChecks call cyclicCheck operands
  | "bsd", _ => listChecks call turningCheck operands
  | "sysv", _ => listChecks call plainCheck operands
  | _, some digester =>
      listDigests call ⟨!isGiven given "untagged", false, isGiven given ['z']⟩ digester operands
  | _, none =>
      let known : List Text :=
        ["bsd", "sysv", "crc", "md5", "sha1", "sha224", "sha256", "sha384", "sha512", "blake2b", "sm3"]
      let told : Text := known.flatMap fun name => "\n  - " ++ escaped name
      call.fail 1 <|
        "invalid argument " ++ escaped name ++ " for '--algorithm'\nValid arguments are:" ++ told ++ call.helpLine

end UniversalModule.Host.Utility
