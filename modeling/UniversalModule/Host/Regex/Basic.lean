import UniversalModule.Host.CharacterSet
import UniversalModule.Keyed

/-!
Regular expressions and where they fit a text. Of the fits that begin first the longest counts. A
group remembers the last place at which it fitted.
-/

namespace UniversalModule.Host

/-- A place in a text to which an edge of a word is bound. -/
inductive WordEdge where
  | atStart
  | atEnd
  | atEither
  | atNeither
deriving DecidableEq

inductive Regex where
  | nothing
  | one (set : CharacterSet)
  | lineStart
  | lineEnd
  | textStart
  | textEnd
  | atEdge (edge : WordEdge)
  | group (number : Nat) (inner : Regex)
  /-- What a group has fitted. -/
  | again (number : Nat)
  | inOrder (first second : Regex)
  | either (first second : Regex)
  | repeated (least : Nat) (most : Option Nat) (inner : Regex)

namespace Regex

def lastGroup : Regex → Nat
  | .group number inner => max number inner.lastGroup
  | .inOrder first second => max first.lastGroup second.lastGroup
  | .either first second => max first.lastGroup second.lastGroup
  | .repeated _ _ inner => inner.lastGroup
  | _ => 0

structure Subject where
  text : Array Char
  ignoresCase : Bool
  /-- Whether lines begin and end at the line ends inside the text. -/
  hasLines : Bool

def Subject.char? (subject : Subject) (position : Nat) : Option Char := subject.text[position]?

def Subject.between (subject : Subject) (start finish : Nat) : Text :=
  (subject.text.extract start finish).toList

def isWordChar (c : Char) : Bool := CharacterSet.word.has c

def Subject.isWordAt (subject : Subject) (position : Nat) : Bool :=
  (subject.char? position).any isWordChar

/-- How far a fit has come, and where groups have fitted. -/
structure Reached where
  position : Nat
  groups : Keyed Nat (Nat × Nat)

/-- Keeps the first of those that have come equally far. -/
def distinct (found : List Reached) : List Reached :=
  (found.foldl (fun (kept : List Reached × List Nat) reached =>
    if kept.2.contains reached.position then kept
    else (reached :: kept.1, reached.position :: kept.2)) ([], [])).1.reverse

/-- Whether a set has the character at a place. Where lines are told apart, a line end is in no set
of all others. -/
def Subject.hasAt (subject : Subject) (set : CharacterSet) (position : Nat) : Bool :=
  match subject.char? position with
  | none => false
  | some c =>
      if subject.hasLines ∧ set.isOneOf = false ∧ c = '\n' then false
      else set.has c || (subject.ignoresCase && (set.has c.toLower || set.has c.toUpper))

/-- How many characters of a set follow one another from a place on. -/
def Subject.runOf (subject : Subject) (set : CharacterSet) : Nat → Nat → Nat
  | 0, _ => 0
  | fuel + 1, position =>
      if subject.hasAt set position then subject.runOf set fuel (position + 1) + 1 else 0

/-- The ways in which an expression fits several times, those that go on longest first. Only the
times that are asked for may fit nothing. -/
def rounds (one : Reached → List Reached) : Nat → Nat → Option Nat → Reached → List Reached
  | 0, _, _, reached => [reached]
  | fuel + 1, least, most, reached =>
      if most = some 0 then [reached]
      else
        let next := (one reached).filter fun next => next.position != reached.position || least != 0
        let further := next.flatMap (rounds one fuel (least - 1) (most.map (· - 1)))
        distinct (if least = 0 then further ++ [reached] else further)

def Subject.repeats (subject : Subject) (start finish position : Nat) : Bool :=
  let fold (text : Text) : Text := if subject.ignoresCase then text.map Char.toLower else text
  fold (subject.between start finish) == fold (subject.between position (position + (finish - start)))

def Subject.isEdge (subject : Subject) (edge : WordEdge) (position : Nat) : Bool :=
  let before := 0 < position && subject.isWordAt (position - 1)
  let after := subject.isWordAt position
  match edge with
  | .atStart => !before && after
  | .atEnd => before && !after
  | .atEither => before != after
  | .atNeither => before == after

/-- How far an expression fits from a place on, the preferred ways first. -/
def reaches (subject : Subject) : Regex → Reached → List Reached
  | .nothing, reached => [reached]
  | .one set, reached =>
      if subject.hasAt set reached.position then [{ reached with position := reached.position + 1 }] else []
  | .textStart, reached => if reached.position = 0 then [reached] else []
  | .textEnd, reached => if reached.position = subject.text.size then [reached] else []
  | .lineStart, reached =>
      let isStart := reached.position = 0 ∨
        (subject.hasLines ∧ subject.char? (reached.position - 1) = some '\n')
      if isStart then [reached] else []
  | .lineEnd, reached =>
      let isEnd := reached.position = subject.text.size ∨
        (subject.hasLines ∧ subject.char? reached.position = some '\n')
      if isEnd then [reached] else []
  | .atEdge edge, reached => if subject.isEdge edge reached.position then [reached] else []
  | .group number inner, reached =>
      (reaches subject inner reached).map fun next =>
        { next with groups := next.groups.put number (reached.position, next.position) }
  | .again number, reached =>
      match reached.groups.get? number with
      | none => []
      | some (start, finish) =>
          if subject.repeats start finish reached.position then
            [{ reached with position := reached.position + (finish - start) }]
          else []
  | .inOrder first second, reached =>
      distinct ((reaches subject first reached).flatMap (reaches subject second))
  | .either first second, reached =>
      distinct (reaches subject first reached ++ reaches subject second reached)
  | .repeated least most (.one set), reached =>
      let available := subject.runOf set (subject.text.size + 1 - reached.position) reached.position
      let count := match most with
        | none => available
        | some most => min most available
      if count < least then []
      else
        (List.range (count - least + 1)).map fun fewer =>
          { reached with position := reached.position + (count - fewer) }
  | .repeated least most inner, reached =>
      rounds (reaches subject inner) (subject.text.size + least + 1 - reached.position) least most reached

structure Fit where
  start : Nat
  finish : Nat
  groups : Keyed Nat (Nat × Nat)

def fitAt? (subject : Subject) (regex : Regex) (start : Nat) : Option Fit :=
  (reaches subject regex ⟨start, []⟩).foldl (fun best reached =>
    match best with
    | some fit => if fit.finish < reached.position then some ⟨start, reached.position, reached.groups⟩ else best
    | none => some ⟨start, reached.position, reached.groups⟩) none

/-- The first fit that begins at one of so many places. -/
def fitWithin? (subject : Subject) (regex : Regex) : Nat → Nat → Option Fit
  | 0, _ => none
  | count + 1, start =>
      match fitAt? subject regex start with
      | some fit => some fit
      | none => fitWithin? subject regex count (start + 1)

def fitFrom? (subject : Subject) (regex : Regex) (start : Nat) : Option Fit :=
  fitWithin? subject regex (subject.text.size + 1 - start) start

def isIn (subject : Subject) (regex : Regex) : Bool := (fitFrom? subject regex 0).isSome

/-- What a group has fitted; group 0 is all of the fit. -/
def Fit.group (fit : Fit) (subject : Subject) (number : Nat) : Text :=
  if number = 0 then subject.between fit.start fit.finish
  else
    match fit.groups.get? number with
    | none => []
    | some (start, finish) => subject.between start finish

/-- The fits from a place on that follow one another. One that is empty does not follow another
fit directly. The fuel bounds their number. -/
def fitsFrom (subject : Subject) (regex : Regex) : Nat → Option Nat → Nat → List Fit
  | 0, _, _ => []
  | fuel + 1, last, start =>
      match fitFrom? subject regex start with
      | none => []
      | some fit =>
          if fit.start = fit.finish then
            let others := fitsFrom subject regex fuel none (fit.finish + 1)
            if subject.text.size ≤ fit.finish then
              if last = some fit.start then [] else [fit]
            else if last = some fit.start then others else fit :: others
          else fit :: fitsFrom subject regex fuel (some fit.finish) fit.finish

def allFits (subject : Subject) (regex : Regex) : List Fit :=
  fitsFrom subject regex (subject.text.size + 2) none 0

end Regex

end UniversalModule.Host
