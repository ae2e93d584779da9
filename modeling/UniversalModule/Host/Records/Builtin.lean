import UniversalModule.Host.Records.Session

/-!
The functions that every script on records has, as far as they need no more than values.
-/

namespace UniversalModule.Host.Records

open Utility (Call Work)

variable {m : Type → Type} [Monad m] (call : Call m)

/-- The part of a text from a place on, of a length. Places count from 1. -/
def part (text : Text) (start length : Float) : Text :=
  let length := if start < 1 then length + start - 1 else length
  let start := (integerOf (if start < 1 then 1 else start)).toNat
  (text.drop (start - 1)).take (integerOf length).toNat

/-- The place at which a text is first found in another one; places count from 1. -/
def placeIn (text wanted : Text) : Nat :=
  ((List.range (text.length + 1)).find? fun place => wanted.isPrefixOf (text.drop place)).elim 0 (· + 1)

/-- What takes the place of a fit: a sign for the fit itself may be protected by a backslash. -/
def putInFit (fit : Text) : Text → Text
  | '\\' :: '\\' :: '&' :: rest => '\\' :: (fit ++ putInFit fit rest)
  | '\\' :: '&' :: rest => '&' :: putInFit fit rest
  | '&' :: rest => fit ++ putInFit fit rest
  | c :: rest => c :: putInFit fit rest
  | [] => []

/-- A text with something else where an expression fits, and how often it does. -/
def substituted (regex : Regex) (replacement text : Text) (isEvery : Bool) : Text × Nat :=
  let subject : Regex.Subject := ⟨text.toArray, false, false⟩
  let fits := Regex.allFits subject regex
  let fits := if isEvery then fits else fits.take 1
  let rec go (position : Nat) : List Regex.Fit → Text
    | [] => subject.between position subject.text.size
    | fit :: fits =>
        subject.between position fit.start ++ putInFit (subject.between fit.start fit.finish) replacement ++
          go fit.finish fits
  (go 0 fits, fits.length)

/-- The place and the length of what an expression fits. -/
def placeOfFit (regex : Regex) (text : Text) : Int × Int :=
  match Regex.fitFrom? ⟨text.toArray, false, false⟩ regex 0 with
  | some fit => (fit.start + 1, fit.finish - fit.start)
  | none => (0, -1)

def ofInt (value : Int) : Value :=
  .number (if value < 0 then -(Float.ofNat value.natAbs) else Float.ofNat value.natAbs)

def numberFunction? (name : Text) : Option (Float → Float) :=
  match String.ofList name with
  | "sin" => some Float.sin
  | "cos" => some Float.cos
  | "exp" => some Float.exp
  | "log" => some Float.log
  | "sqrt" => some Float.sqrt
  | "int" => some truncated
  | _ => none

def formatValues (name : Text) (values : List Value) : Acting m Text := do
  let form := (← get).form
  match values with
  | [] => return []
  | format :: values =>
      let format := format.toText form
      match formatted? form (format.length + 1) format values with
      | some text => return text
      | none => fail call ("not enough arguments passed to " ++ name ++ "(\"" ++ format ++ "\")")

/-- The next number of a sequence without a rule that shows. -/
def nextRandom : Acting m Float := do
  let session ← get
  let seed := (session.seed * 1103515245 + 12345) % 2147483648
  set { session with seed }
  return Float.ofNat seed / 2147483648

def applyBuiltin (name : Text) (values : List Value) : Acting m Value := do
  let session ← get
  let texts := values.map (Value.toText session.form)
  match numberFunction? name, values with
  | some function, value :: _ => return .number (function value.toNumber)
  | _, _ =>
      match String.ofList name, values, texts with
      | "length", [], _ => return .ofNat session.record.length
      | "length", _, text :: _ => return .ofNat text.length
      | "substr", [_, start], text :: _ => return .text (part text start.toNumber (1 / 0))
      | "substr", _ :: start :: length :: _, text :: _ =>
          return .text (part text start.toNumber length.toNumber)
      | "index", _, [text, wanted] => return .ofNat (placeIn text wanted)
      | "atan2", [y, x], _ => return .number (Float.atan2 y.toNumber x.toNumber)
      | "tolower", _, text :: _ => return .text (text.map Char.toLower)
      | "toupper", _, text :: _ => return .text (text.map Char.toUpper)
      | "sprintf", _, _ => return .text (← formatValues call name values)
      | "rand", _, _ => return .number (← nextRandom)
      | "srand", _, _ => do
          let seed := match values with
            | value :: _ => (integerOf (Value.toNumber value)).toNat
            | [] => 0
          set { session with seed }
          return .ofNat session.seed
      | "system", _, command :: _ => do
          flush
          return .ofNat (← runCommand call command [])
      | "close", _, target :: _ => return ofInt (← close call target)
      | "fflush", _, _ => do
          flush
          return .ofNat 0
      | _, _, _ => return .unset

end UniversalModule.Host.Records
