import UniversalModule.SourceMap.Basic
import UniversalModule.Json.Reader

/-!
Source maps read from JSON. An object may have members of other names, which are passed over, but
none of its own twice. An array gives the six members in their order.
-/

namespace UniversalModule.SourceMap

open Json (Reader)

inductive Member where
  | version (value : UInt8)
  | file (name : Option Text)
  | sources (names : List Text)
  | sourcesContent (contents : List (Option Text))
  | names (names : List Text)
  | mappings (text : Text)
  | other

def readVersion : Reader UInt8 := fun text => do
  let (numeral, rest) ← Json.readNumeral text
  let value := Json.digitsValue numeral.digits
  if numeral.isPlain = false ∨ numeral.negative ∨ 256 ≤ value then none
  else some (UInt8.ofNat value, rest)

def readOptionalText : Reader (Option Text) := fun text =>
  match text with
  | 'n' :: 'u' :: 'l' :: 'l' :: rest => some (none, rest)
  | text => (Json.readText text).map fun (text, rest) => (some text, rest)

def readList {α : Type} (item : Reader α) : Reader (List α) := fun text =>
  match text with
  | '[' :: rest => Json.readItems item rest
  | _ => none

def into {α : Type} (member : α → Member) (reader : Reader α) : Reader Member := fun text =>
  (reader text).map fun (value, rest) => (member value, rest)

/-- The members of a map with the readers of their values, in order. -/
def memberReaders : List (Text × Reader Member) :=
  [("version", into .version readVersion),
    ("file", into .file readOptionalText),
    ("sources", into .sources (readList Json.readText)),
    ("sourcesContent", into .sourcesContent (readList readOptionalText)),
    ("names", into .names (readList Json.readText)),
    ("mappings", into .mappings Json.readText)]

def readNamed (name : Text) : Reader Member := fun text =>
  match Keyed.get? name memberReaders with
  | some reader => reader text
  | none => into (fun _ => .other) (Json.skipValue text.length) text

/-- Reads the values of an array after its opening bracket, one with each reader. -/
def readInOrder (first : Bool) : List (Reader Member) → Reader (List Member)
  | [], text =>
      match Json.skipSpace text with
      | ']' :: rest => some ([], rest)
      | _ => none
  | reader :: readers, text => do
      let start ←
        if first then some (Json.skipSpace text)
        else
          match Json.skipSpace text with
          | ',' :: rest => some (Json.skipSpace rest)
          | _ => none
      let (member, rest) ← reader start
      let (members, rest) ← readInOrder false readers rest
      some (member :: members, rest)

def readMembers : Reader (List Member) := fun text =>
  match text with
  | '\x7b' :: rest =>
      (Json.readMembers (Json.readMember readNamed) rest).map fun (members, rest) =>
        (members.map Prod.snd, rest)
  | '[' :: rest => readInOrder true (memberReaders.map Prod.snd) rest
  | _ => none

/-- The only one of a list; `none` inside when there is none, and nothing when there are more. -/
def atMostOne {α : Type} : List α → Option (Option α)
  | [] => some none
  | [value] => some (some value)
  | _ => none

/-- The map with the given members. Version, sources and mappings have to be there. -/
def ofMembers (members : List Member) : Option SourceMap := do
  let version ← atMostOne (members.filterMap fun | .version value => some value | _ => none)
  let file ← atMostOne (members.filterMap fun | .file name => some name | _ => none)
  let sources ← atMostOne (members.filterMap fun | .sources names => some names | _ => none)
  let contents ← atMostOne (members.filterMap fun | .sourcesContent texts => some texts | _ => none)
  let names ← atMostOne (members.filterMap fun | .names names => some names | _ => none)
  let mappings ← atMostOne (members.filterMap fun | .mappings text => some text | _ => none)
  some
    { version := ← version
      file := file.join
      sources := ← sources
      sourcesContent := contents.getD []
      names := names.getD []
      mappings := ← mappings }

def ofJsonText? (text : Text) : Option SourceMap := (Json.readWhole readMembers text).bind ofMembers

end UniversalModule.SourceMap
