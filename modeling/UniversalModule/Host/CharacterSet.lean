import UniversalModule.Text.Basic

/-!
Sets of characters, as ranges of codes.
-/

namespace UniversalModule.Host

structure CharacterSet where
  /-- Whether the ranges are what is in the set, or what is not. -/
  isOneOf : Bool
  ranges : List (Char × Char)
deriving DecidableEq

namespace CharacterSet

def covers (ranges : List (Char × Char)) (c : Char) : Bool :=
  ranges.any fun (first, last) => first.toNat ≤ c.toNat && c.toNat ≤ last.toNat

def has (set : CharacterSet) (c : Char) : Bool := covers set.ranges c == set.isOneOf

def only (c : Char) : CharacterSet := ⟨true, [(c, c)]⟩

def every : CharacterSet := ⟨false, []⟩

/-- The ranges of the classes that have names. -/
def class? (name : Text) : Option (List (Char × Char)) :=
  match String.ofList name with
  | "alpha" => some [('A', 'Z'), ('a', 'z')]
  | "digit" => some [('0', '9')]
  | "alnum" => some [('0', '9'), ('A', 'Z'), ('a', 'z')]
  | "upper" => some [('A', 'Z')]
  | "lower" => some [('a', 'z')]
  | "space" => some [('\t', '\r'), (' ', ' ')]
  | "blank" => some [('\t', '\t'), (' ', ' ')]
  | "punct" => some [('!', '/'), (':', '@'), ('[', '\x60'), ('\x7b', '~')]
  | "print" => some [(' ', '~')]
  | "graph" => some [('!', '~')]
  | "cntrl" => some [('\x00', '\x1f'), ('\x7f', '\x7f')]
  | "xdigit" => some [('0', '9'), ('A', 'F'), ('a', 'f')]
  | _ => none

def word : CharacterSet := ⟨true, [('0', '9'), ('A', 'Z'), ('_', '_'), ('a', 'z')]⟩

def space : CharacterSet := ⟨true, [('\t', '\r'), (' ', ' ')]⟩

def complement (set : CharacterSet) : CharacterSet := { set with isOneOf := !set.isOneOf }

end CharacterSet

end UniversalModule.Host
