import UniversalModule.Host.Shell.Redirecting

/-!
Options that a script takes from its arguments.
-/

namespace UniversalModule.Host.Shell

variable {m : Type → Type} [Monad m] (setting : Setting m)

/-- What is taken next by `getopts`: how far it is then, the letter and its value. -/
structure TakenOption where
  next : Nat
  offset : Option Nat
  name : Text
  value : Option Text
  complaint : Option Text
  isEnd : Bool

def takeOption (variety : Variety) (known : Text) (arguments : List Text) (next : Nat)
    (offset : Option Nat) : TakenOption :=
  let isSilent := known.head? == some ':'
  let finished (next : Nat) : TakenOption := ⟨next, none, ['?'], none, none, true⟩
  let inWord : Option (Nat × Text) :=
    match offset, arguments[next - 2]? with
    | some offset, some word => if offset < word.length ∧ 1 < next then some (next, word.drop offset) else none
    | _, _ => none
  let letters? : Option (Nat × Text) :=
    match inWord, arguments[next - 1]? with
    | some found, _ => some found
    | none, some ('-' :: c :: rest) => some (next + 1, c :: rest)
    | none, _ => none
  match letters? with
  | none => finished next
  | some (next, letters) =>
      let word := (arguments[next - 2]?).getD []
      if inWord.isNone ∧ letters = ['-'] then finished next
      else
        let letter := letters.headD '?'
        let rest := letters.tail
        let offset := if rest.isEmpty then none else some (word.length - rest.length)
        let told (dashText bashText : Text) : Option Text :=
          if isSilent then none
          else match variety with
            | .dash => some dashText
            | .bash => some bashText
        match (known.dropWhile (· != letter)), letter with
        | _ :: ':' :: _, _ =>
            if rest.isEmpty = false then ⟨next, none, [letter], some rest, none, false⟩
            else
              match arguments[next - 1]? with
              | some value => ⟨next + 1, none, [letter], some value, none, false⟩
              | none =>
                  ⟨next, none, if isSilent then [':'] else ['?'], if isSilent then some [letter] else none,
                    told ("No arg for -" ++ letter :: " option".toList)
                      ("option requires an argument -- " ++ [letter]), false⟩
        | _ :: _, _ =>
            ⟨next, offset, [letter], match variety with | .dash => some [] | .bash => none, none, false⟩
        | [], _ =>
            ⟨next, offset, ['?'], if isSilent then some [letter] else none,
              told ("Illegal option -" ++ [letter]) ("illegal option -- " ++ [letter]), false⟩

/-- Takes the next option from the arguments of the script, or from words. -/
def runGetOptions (words : List Text) (state : State) : m State := do
  match words with
  | known :: name :: words =>
      let arguments := if words.isEmpty then state.arguments else words
      let next := ((state.values.get? "OPTIND".toList).bind digits?).getD 1
      let taken := takeOption setting.variety known arguments (max next 1) state.optionOffset
      let state := state.setVariable "OPTIND" (Text.ofNat taken.next)
      let state := state.setVariable name taken.name
      let state :=
        match taken.value with
        | some value => state.setVariable "OPTARG" value
        | none => if taken.isEnd then state else state.unset "OPTARG"
      let state := { state with optionOffset := taken.offset }
      let state ←
        match taken.complaint, setting.variety with
        | none, _ => pure state
        | some complaint, .dash => setting.emit 2 (Text.utf8 (complaint ++ ['\n'])) state
        | some complaint, .bash =>
            setting.emit 2 (Text.utf8 (setting.script ++ ": " ++ complaint ++ ['\n'])) state
      if isName name then return state.withStatus (if taken.isEnd then 1 else 0)
      else
        match setting.variety with
        | .dash => setting.finish ("getopts: " ++ name ++ ": bad variable name") state
        | .bash => setting.complain ("getopts: \x60" ++ name ++ "': not a valid identifier") 1 state
  | _ =>
      match setting.variety with
      | .dash => setting.finish "getopts: Usage: getopts optstring var [arg...]" state
      | .bash => setting.tellUsage "getopts: usage: getopts optstring name [arg ...]" state

end UniversalModule.Host.Shell
