import UniversalModule.Host.Shell.Arithmetic

/-!
Words with alternatives in braces, of which one word is made for each choice. An alternative may
hold braces in its turn; a range in braces stands for the numbers or letters in it.
-/

namespace UniversalModule.Host.Shell

/-- A character of a word outside quotes, or a part of the word. -/
inductive Atom where
  | char (c : Char)
  | part (part : Part)
deriving DecidableEq

namespace Atom

def ofWord (word : Word) : List Atom :=
  word.flatMap fun part =>
    match part.piece, part.quoted with
    | .text text, false => text.map .char
    | _, _ => [.part part]

def toWord (atoms : List Atom) : Word :=
  atoms.foldr (fun atom word =>
    match atom, word with
    | .char c, ⟨.text text, false⟩ :: parts => ⟨.text (c :: text), false⟩ :: parts
    | .char c, parts => ⟨.text [c], false⟩ :: parts
    | .part kept, parts => kept :: parts) []

def text? (atoms : List Atom) : Option Text :=
  atoms.mapM fun
    | .char c => some c
    | .part _ => none

/-- The atoms up to the brace that closes, and those after it. -/
def upToClosing? : Nat → List Atom → List Atom → Option (List Atom × List Atom)
  | _, _, [] => none
  | depth, read, atom :: rest =>
      if atom = .char '\x7d' then
        match depth with
        | 0 => some (read.reverse, rest)
        | depth + 1 => upToClosing? depth (atom :: read) rest
      else upToClosing? (if atom = .char '\x7b' then depth + 1 else depth) (atom :: read) rest

/-- The atoms between the commas that stand in no other braces. -/
def alternatives : Nat → List Atom → List (List Atom)
  | _, [] => [[]]
  | depth, atom :: rest =>
      if atom = .char ',' ∧ depth = 0 then [] :: alternatives depth rest
      else
        let depth :=
          if atom = .char '\x7b' then depth + 1 else if atom = .char '\x7d' then depth - 1 else depth
        match alternatives depth rest with
        | [] => [[atom]]
        | first :: others => (atom :: first) :: others

def progression (first last step : Int) : List Int :=
  let size := if step = 0 then 1 else step.natAbs
  (List.range ((last - first).natAbs / size + 1)).map fun index =>
    if first ≤ last then first + (index * size : Nat) else first - (index * size : Nat)

/-- A number of a range, and how many digits are asked for by zeros in front of it. -/
def rangeNumber? (text : Text) : Option (Int × Nat) :=
  let digits := if text.head? = some '-' then text.tail else text
  if digits.isEmpty ∨ digits.any (!Char.isDigit ·) then none
  else
    let amount : Int := digits.foldl (fun value c => 10 * value + (c.toNat - '0'.toNat)) 0
    some (if text.head? = some '-' then -amount else amount,
      if digits.head? = some '0' ∧ digits.length ≠ 1 then text.length else 0)

def splitAtPoints : Text → List Text
  | [] => [[]]
  | '.' :: '.' :: rest => [] :: splitAtPoints rest
  | c :: rest =>
      match splitAtPoints rest with
      | [] => [[c]]
      | piece :: pieces => (c :: piece) :: pieces

def range? (text : Text) : Option (List Text) :=
  let between (first last : Text) (step : Int) : Option (List Text) :=
    match rangeNumber? first, rangeNumber? last, first, last with
    | some (first, width), some (last, otherWidth), _, _ =>
        some <| (progression first last step).map fun value =>
          let digits := Text.ofNat value.natAbs
          let sign : Text := if value < 0 then ['-'] else []
          sign ++ List.replicate (max width otherWidth - sign.length - digits.length) '0' ++ digits
    | none, none, [c], [d] =>
        if c.isAlpha ∧ d.isAlpha then
          some ((progression c.toNat d.toNat step).map fun code => [Char.ofNat code.toNat])
        else none
    | _, _, _, _ => none
  match splitAtPoints text with
  | [first, last] => between first last 1
  | [first, last, step] => (rangeNumber? step).bind fun (step, _) => between first last step
  | _ => none

def choices : Nat → List Atom → List (List Atom)
  | 0, atoms => [atoms]
  | _ + 1, [] => [[]]
  | fuel + 1, atom :: rest =>
      let plain := (choices fuel rest).map (atom :: ·)
      if atom ≠ .char '\x7b' then plain
      else
        match upToClosing? 0 [] rest with
        | none => plain
        | some (inside, after) =>
            let options := alternatives 0 inside
            let joined (firsts : List (List Atom)) : List (List Atom) :=
              let lasts := choices fuel after
              firsts.flatMap fun first => lasts.map (first ++ ·)
            if 1 < options.length then joined (options.flatMap (choices fuel))
            else
              match (text? inside).bind range? with
              | some texts => joined (texts.map (·.map .char))
              | none => plain

end Atom

/-- The words that come of a word with alternatives in braces. -/
def wordsOfBraces (word : Word) : List Word :=
  let atoms := Atom.ofWord word
  if atoms.contains (.char '\x7b') then (Atom.choices (atoms.length + 1) atoms).map Atom.toWord else [word]

end UniversalModule.Host.Shell
