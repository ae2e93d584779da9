import UniversalModule.Host.Shell.Redirecting

/-!
What a process may do: the rights that its new files are not given, its limits and its time.
-/

namespace UniversalModule.Host.Shell

/-- The letters of the rights to something: to read it, to write it and to run it. -/
def rightsText (rights : Nat) : Text :=
  [(4, 'r'), (2, 'w'), (1, 'x')].filterMap fun (bit, letter) => if rights / bit % 2 = 1 then some letter else none

def rightsOf? (letters : Text) : Option Nat :=
  letters.foldlM (fun rights letter =>
    match letter with
    | 'r' => some (rights ||| 4)
    | 'w' => some (rights ||| 2)
    | 'x' => some (rights ||| 1)
    | 'X' => some (rights ||| 1)
    | 's' => some rights
    | 't' => some rights
    | _ => none) 0

/-- Whose rights letters change, as a factor for the rights of one of them. -/
def holdersOf (letters : Text) : Nat :=
  let part (letter : Char) (factor : Nat) : Nat :=
    if letters.isEmpty ∨ letters.contains 'a' ∨ letters.contains letter then factor else 0
  part 'u' 64 + part 'g' 8 + part 'o' 1

/-- A mask after one change in letters, such as `g-w`, or the text at which it cannot be read. -/
def changedMask (mask : Nat) (change : Text) : Except (Char × Bool) Nat :=
  let holders := change.takeWhile fun c => "ugoa".toList.contains c
  match change.drop holders.length with
  | [] => .error ('\x00', true)
  | sign :: letters =>
      match rightsOf? letters, sign with
      | none, _ => .error ((letters.find? fun c => !"rwxXst".toList.contains c).getD ' ', false)
      | some rights, sign =>
          let given := 0o777 - mask % 0o1000
          let own := holdersOf holders
          let changed := rights * own
          let kept := given &&& (0o777 - 7 * own)
          if sign = '+' then .ok (0o777 - (given ||| changed))
          else if sign = '-' then .ok (0o777 - (given &&& (0o777 - changed)))
          else if sign = '=' then .ok (0o777 - (kept ||| changed))
          else .error (sign, true)

def octal? (word : Text) : Option Nat :=
  if word.all fun c => '0' ≤ c ∧ c ≤ '7' then
    some (word.foldl (fun value c => 8 * value + (c.toNat - '0'.toNat)) 0)
  else none

variable {m : Type → Type} [Monad m] (setting : Setting m)

def maskText (mask : Nat) (inLetters : Bool) : Text :=
  if inLetters then
    let rights (factor : Nat) : Text := rightsText (7 - mask / factor % 8)
    "u=" ++ rights 64 ++ ",g=" ++ rights 8 ++ ",o=" ++ rights 1
  else
    let digits := Nat.toDigits 8 mask
    List.replicate (4 - digits.length) '0' ++ digits

def setMask (word : Text) (state : State) : m State := do
  if (word.head?.map Char.isDigit).getD false then
    match octal? word, setting.variety with
    | some mask, _ => return { state with mask := mask % 0o1000, status := 0 }
    | none, .dash => setting.finish ("umask: Illegal number: " ++ word) state
    | none, .bash => setting.complain ("umask: " ++ word ++ ": octal number out of range") 1 state
  else
    let changed := (Text.splitAt ',' word).foldlM changedMask state.mask
    match changed, setting.variety with
    | .ok mask, _ => return { state with mask, status := 0 }
    | .error _, .dash => setting.finish ("umask: Illegal mode: " ++ word) state
    | .error (c, isOperator), .bash =>
        let kind : Text := if isOperator then "operator" else "character"
        setting.complain ("umask: \x60" ++ c :: "': invalid symbolic mode " ++ kind) 1 state

def runMask (words : List Text) (state : State) : m State := do
  let isOption (word : Text) : Bool := word.head? == some '-' && 1 < word.length
  let letters := (words.takeWhile isOption).flatMap List.tail
  let allowed : Text := match setting.variety with
    | .dash => "S"
    | .bash => "Sp"
  match letters.find? fun letter => !allowed.contains letter, words.dropWhile isOption with
  | some letter, _ =>
      setting.refuseLetter "umask" letter "umask: usage: umask [-p] [-S] [mode]" state
  | none, [] =>
      let told := maskText state.mask (letters.contains 'S')
      let start : Text := if letters.contains 'p' then "umask " else []
      return (← setting.emitText (start ++ told ++ ['\n']) state).withStatus 0
  | none, word :: _ => setMask setting word state

/-- The limit that stands under a letter; the others are no limits. -/
def limitUnder (letter : Char) : Text :=
  match letter with
  | 's' => "8192"
  | 'c' => "0"
  | 'l' => "8192"
  | 'n' => "1024"
  | 'r' => "0"
  | _ => "unlimited"

/-- Tells a limit; limits that are set change nothing here. -/
def runLimit (words : List Text) (state : State) : m State := do
  let isOption (word : Text) : Bool := word.head? == some '-' && 1 < word.length
  let letters := (words.takeWhile isOption).flatMap List.tail
  let operands := words.dropWhile isOption
  let known : Text := match setting.variety with
    | .dash => "HSatfdscmlpnvwr"
    | .bash => "HSabcdefiklmnpqrstuvxPRT"
  match letters.find? fun letter => !known.contains letter, operands, setting.variety with
  | some letter, _, _ =>
      setting.refuseLetter "ulimit" letter "ulimit: usage: ulimit [-SHabcdefiklmnpqrstuvxPRT] [limit]" state
  | none, _ :: _ :: _, .dash => setting.finish "ulimit: too many arguments" state
  | none, [], _ =>
      let letter := ((letters.filter fun letter => letter != 'H' && letter != 'S').getLast?).getD 'f'
      return (← setting.emitText (limitUnder letter ++ ['\n']) state).withStatus 0
  | none, word :: _, variety =>
      let isNumber := word = "unlimited".toList ∨ (word.isEmpty = false ∧ word.all Char.isDigit)
      if isNumber then return state.withStatus 0
      else
        match variety with
        | .dash => setting.finish "ulimit: bad number" state
        | .bash => setting.complain ("ulimit: " ++ word ++ ": invalid number") 1 state

/-- Tells the time that the shell and its commands have taken, of which there is none. -/
def runTimes (state : State) : m State := do
  let line : Text := match setting.variety with
    | .dash => "0m0.000000s 0m0.000000s\n"
    | .bash => "0m0.000s 0m0.000s\n"
  return (← setting.emitText (line ++ line) state).withStatus 0

end UniversalModule.Host.Shell
