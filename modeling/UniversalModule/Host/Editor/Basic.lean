import UniversalModule.Host.Regex.Basic

/-!
Scripts of the line editor: lists of instructions, each with the lines to which it applies.
-/

namespace UniversalModule.Host.Editor

/-- An expression with how it is looked for; without one, the last one that was used. -/
structure Pattern where
  regex : Option Regex
  ignoresCase : Bool
  hasLines : Bool

inductive Address where
  | line (number : Nat)
  | last
  /-- Every line from a first one on, at equal distances. -/
  | every (first step : Nat)
  | fits (pattern : Pattern)

inductive RangeEnd where
  | address (address : Address)
  /-- So many lines behind the first one. -/
  | further (count : Nat)
  /-- At the next line whose number is a multiple. -/
  | multiple (factor : Nat)

inductive Selection where
  | all
  | one (address : Address)
  | range (start : Address) (finish : RangeEnd)
  /-- From the beginning on up to a line that fits, which may be the first one. -/
  | fromStart (finish : Address)

inductive Replacement where
  | text (text : Text)
  /-- What a group has fitted; group 0 is the whole fit. -/
  | group (number : Nat)
  /-- From here on, or for one character, capitals or small letters. -/
  | inCase (letter : Char)

structure Substitution where
  pattern : Pattern
  replacement : List Replacement
  /-- The first fit that is replaced. -/
  first : Nat
  /-- Whether the fits behind it are replaced too. -/
  replacesAll : Bool
  prints : Bool
  output : Option Text

inductive Action where
  /-- The instructions up to the closing one belong together. -/
  | opening
  | closing
  | label (name : Text)
  | append (text : Text)
  | insert (text : Text)
  | change (text : Text)
  | substitute (substitution : Substitution)
  | translate (pairs : List (Char × Char))
  | delete
  | deleteLine
  | print
  | printLine
  | next
  | appendNext
  | keep
  | keepMore
  | recall
  | recallMore
  | exchange
  | jump (label : Text)
  | jumpIfChanged (label : Text)
  | jumpUnlessChanged (label : Text)
  | quit (status : Nat) (prints : Bool)
  | number
  | name
  | list (width : Option Nat)
  | read (path : Text)
  | readLine (path : Text)
  | write (path : Text)
  | writeLine (path : Text)
  | empty
  | nothing

structure Instruction where
  selection : Selection
  /-- Whether it applies to the other lines. -/
  isNegated : Bool
  action : Action

abbrev Script := Array Instruction

end UniversalModule.Host.Editor
