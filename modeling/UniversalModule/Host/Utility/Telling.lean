import UniversalModule.Host.Shell.Test
import UniversalModule.Host.Utility.Naming
import UniversalModule.Text.Base64

/-!
Programs that tell what they are given or what they know.
-/

namespace UniversalModule.Host.Utility

variable {m : Type → Type} [Monad m] (call : Call m)

def echo : Work m Unit := print (Shell.echoPlain call.arguments)

def printf : Work m Unit := do
  let arguments := if call.arguments.head? = some "--".toList then call.arguments.tail else call.arguments
  match arguments with
  | [] => call.fail 1 ("missing operand" ++ call.helpLine)
  | format :: words => do
      let printed := Shell.formatAll .program (words.length + 2) format words
      if printed.isEnded then print printed.bytes
      printed.complaints.forM fun complaint => call.complain printed.status complaint
      if !printed.isEnded then print printed.bytes
      giveStatus printed.status

def sleep : Work m Unit := do
  let (_, operands) ← call.options 1 []
  if operands.isEmpty then call.failMissing "missing operand"
  else
    match operands.filter (!isTime ·) with
    | [] => return ()
    | refused => do
        refused.forM fun word => printError (call.name ++ ": invalid time interval " ++ escaped word ++ ['\n'])
        printError (call.helpLine.tail ++ ['\n'])
        stop 1

def endlessCount : Nat := 100000

def yes : Work m Unit := do
  let (_, operands) ← call.options 1 []
  let line := (if operands.isEmpty then ['y'] else Text.joinWith " " operands) ++ ['\n']
  print (List.replicate endlessCount (Text.utf8 line)).flatten

def printenv : Work m Unit := do
  let (given, operands) ← call.options 2 "0,null"
  let ending := if isGiven given ['0'] then '\x00' else '\n'
  if operands.isEmpty then
    call.environment.forM fun (name, value) => printText (name ++ '=' :: value ++ [ending])
  else operands.forM fun name => do
    match call.environment.get? name with
    | some value => printText (value ++ [ending])
    | none => giveStatus 1

def which : Work m Unit := do
  let folders := Text.splitAt ':' ((call.environment.get? "PATH".toList).getD [])
  let (_, operands) ← call.options 2 "a s"
  operands.forM fun name => do
    if name.contains '/' then
      if ← call.isThere name then printLine name else giveStatus 1
    else
      match ← ask (call.files.search call.folder name folders) with
      | .ok path => printLine path
      | .error _ => giveStatus 1

def uname : Work m Unit := do
  let (given, _) ← call.options 1
    ("a,all s,kernel-name n,nodename r,kernel-release v,kernel-version m,machine p,processor " ++
      "i,hardware-platform o,operating-system")
  let is (letter : Char) := isGiven given [letter]
  let told : List Text :=
    (if given.isEmpty || is 's' || is 'a' then ["Linux".toList] else []) ++
      (if is 'n' || is 'a' then ["localhost".toList] else []) ++
      (if is 'm' || is 'a' then ["x86_64".toList] else []) ++
      (if is 'o' || is 'a' then ["GNU/Linux".toList] else [])
  printLine (Text.joinWith " " told)

def identity : Work m Unit := do
  let (given, _) ← call.options 1 "u,user g,group G,groups n,name r,real z,zero a Z"
  if isGiven given ['n'] then printLine "root"
  else if given.isEmpty then printLine "uid=0(root) gid=0(root) groups=0(root)"
  else printLine ['0']

/-- Tells of the terminal of the input, which is never one. -/
def terminalName : Work m Unit := do
  let (given, operands) ← call.options 2 "s,silent,quiet"
  match operands with
  | extra :: _ => call.fail 2 ("extra operand " ++ escaped extra ++ call.helpLine)
  | [] => do
      if isGiven given ['s'] = false then printLine "not a tty"
      giveStatus 1

/-- The bytes that digits to the base sixty-four stand for. -/
def bytesOfSextets : List Nat → Bytes
  | a :: b :: c :: d :: rest =>
      let value := ((a * 64 + b) * 64 + c) * 64 + d
      UInt8.ofNat (value / 65536) :: UInt8.ofNat (value / 256) :: UInt8.ofNat value :: bytesOfSextets rest
  | [a, b, c] =>
      let value := ((a * 64 + b) * 64 + c) * 64
      [UInt8.ofNat (value / 65536), UInt8.ofNat (value / 256)]
  | [a, b] => [UInt8.ofNat ((a * 64 + b) / 16)]
  | _ => []

def inLines (width : Nat) : Nat → Text → Text
  | 0, text => text
  | fuel + 1, text =>
      if text.isEmpty then []
      else if width = 0 then text
      else text.take width ++ '\n' :: inLines width fuel (text.drop width)

def base64 : Work m Unit := do
  let (given, operands) ← call.options 1 "d,decode i,ignore-garbage w,wrap="
  let path := operands.headD ['-']
  match ← call.read path with
  | .error fault => call.fail 1 (quotedIfOdd path ++ ": " ++ fault.reason)
  | .ok content =>
      if isGiven given ['d'] then
        let letters := (octets content).filter fun c => c != '\n'
        let kept := letters.filter (· != '=')
        print (bytesOfSextets ((kept.map Base64.value?).takeWhile Option.isSome |>.filterMap id))
        if kept.any fun c => (Base64.value? c).isNone then call.fail 1 "invalid input"
      else
        let width := ((valueGiven? given ['w']).bind digits?).getD 76
        let text := Base64.encode content
        printText (inLines width text.length text)

def condition (isBracket : Bool) : Work m Unit := do
  let words := call.arguments
  if isBracket ∧ words.getLast? ≠ some [']'] then call.fail 2 "missing ']'"
  else
    let words := if isBracket then words.dropLast else words
    let site : Shell.Test.Site m := ⟨.bash, call.files, call.folder⟩
    match ← ask (Shell.Test.holds site words) with
    | .ok truth => giveStatus (if truth then 0 else 1)
    | .error fault => call.fail 2 (fault.message .program words)

end UniversalModule.Host.Utility
