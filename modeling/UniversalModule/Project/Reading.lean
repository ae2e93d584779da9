import UniversalModule.Project.Basic
import UniversalModule.Text.Blank
import UniversalModule.Yaml.Document

/-!
How a project is read from a tree of keys and values. A field takes what its kind asks for, an
absent one has its default. Unknown keys count for nothing, except in a dependency entry, and no
known key may come twice. Names of dependencies may; the last entry of a name counts.
-/

namespace UniversalModule

open Yaml (Attempt)

/-- What reading takes from the nodes of a tree. A node may refer to another one, and is followed
before anything else is taken from it. -/
structure Reading (τ : Type) where
  follow : τ → Attempt τ
  text? : τ → Option Text
  flag? : τ → Option Bool
  items? : τ → Option (List τ)
  members? : τ → Option (List (τ × τ))
  /-- Whether a node stands for a missing value. -/
  isAbsent? : τ → Option Bool
  /-- The value of a node of any kind. -/
  value : τ → Attempt Json.Value

namespace Reading

variable {τ α : Type} (reading : Reading τ)

def read (take : τ → Option α) (node : τ) : Attempt α := do
  (take (← reading.follow node) : Option α)

def text (node : τ) : Attempt Text := reading.read reading.text? node

def flag (node : τ) : Attempt Bool := reading.read reading.flag? node

def optionalText (node : τ) : Attempt (Option Text) := do
  let node ← reading.follow node
  if ← (reading.isAbsent? node : Option Bool) then return none
  else return some (← reading.text node)

def texts (node : τ) : Attempt (List Text) := do
  let items ← reading.read reading.items? node
  items.mapM reading.text

/-- The members of a node with the texts of their keys. -/
def members (node : τ) : Attempt (List (Text × τ)) := do
  let members ← reading.read reading.members? node
  members.mapM fun member => return (← reading.text member.1, member.2)

/-- Those members whose keys are known; each key may come once. -/
def fields (known : List Text) (node : τ) : Attempt (Keyed Text τ) := do
  let members ← reading.members node
  let fields := members.filter fun member => known.contains member.1
  if (Keyed.keys fields).Nodup then return fields else failure

/-- The field of a key, or what stands for it when it is absent. -/
def field (fields : Keyed Text τ) (key : Text) (absent : α) (read : τ → Attempt α) : Attempt α :=
  match fields.get? key with
  | none => pure absent
  | some node => read node

/-- A dependency entry, which has no other than its own keys. -/
def entry (node : τ) : Attempt DependencyEntry := do
  let members ← reading.members node
  let keys := Keyed.keys members
  if keys.Nodup ∧ keys.all (ProjectKey.ofEntry.contains ·) then
    return {
      globals := ← field members ProjectKey.globals none reading.optionalText
      commonJs := ← field members ProjectKey.commonJs none reading.optionalText
      ym := ← field members ProjectKey.ym none reading.optionalText }
  else failure

def requires (node : τ) : Attempt Dependencies := do
  let members ← reading.members node
  let entries ← members.mapM fun member => return (member.1, ← reading.entry member.2)
  return .ofList entries

def options (node : τ) : Attempt Project := do
  let fields ← reading.fields ProjectKey.known node
  let absent := Project.default
  return {
    filename := ← field fields ProjectKey.filename absent.filename reading.optionalText
    dirname := ← field fields ProjectKey.dirname absent.dirname reading.optionalText
    coreFilename := ← field fields ProjectKey.coreFilename absent.coreFilename reading.optionalText
    exportName := ← field fields ProjectKey.exportName absent.exportName reading.text
    runtimeVar := ← field fields ProjectKey.runtimeVar absent.runtimeVar reading.text
    exportAliases := ← field fields ProjectKey.exportAliases absent.exportAliases reading.texts
    scopeTemplates := ← field fields ProjectKey.scopeTemplates absent.scopeTemplates reading.flag
    sourceMap := ← field fields ProjectKey.sourceMap absent.sourceMap reading.flag
    coreOptions := ← field fields ProjectKey.coreOptions absent.coreOptions reading.value
    requires := ← field fields ProjectKey.requires absent.requires reading.requires
    bundler := ← field fields ProjectKey.bundler absent.bundler reading.text }

def project (node : τ) : Attempt Project := do
  let fields ← reading.fields [ProjectKey.options] node
  field fields ProjectKey.options Project.default reading.options

end Reading

namespace Yaml

def isEmptyScalar : Node → Bool
  | .scalar _ [] .plain => true
  | _ => false

/-- A truth value is a plain scalar, or a block of lines that is tagged as one. -/
def Document.flag? : Node → Option Bool
  | .scalar properties text style =>
      if style = .plain ∨ (style = .literal ∧ properties.tag = some booleanTag) then boolean? text
      else none
  | _ => none

/-- The items of a sequence; nothing at all is an empty one. -/
def Document.items? : Node → Option (List Node)
  | .sequence _ items => some items
  | node => if isEmptyScalar node then some [] else none

/-- The members of a mapping; nothing at all is an empty one. -/
def Document.members? : Node → Option (List (Node × Node))
  | .mapping _ members => some members
  | node => if isEmptyScalar node then some [] else none

/-- Plain null values and empty scalars stand for a missing value, unless they are tagged. -/
def Document.isAbsent? : Node → Option Bool
  | .scalar properties text .plain =>
      if properties.tag = none then some (text.isEmpty || isNull text)
      else if properties.tag = some nullTag then if isNull text then some true else none
      else some false
  | _ => some false

/-- Collections may be nested 128 deep, and values stand inside two of them. -/
def valueDepth : Nat := 126

def Document.reading (document : Document) : Reading Node where
  follow := document.follow
  text? := Document.text?
  flag? := Document.flag?
  items? := Document.items?
  members? := Document.members?
  isAbsent? := Document.isAbsent?
  value := document.value valueDepth

end Yaml

namespace Json.Value

def text? : Value → Option Text
  | .string text => some text
  | _ => none

def flag? : Value → Option Bool
  | .boolean value => some value
  | _ => none

def items? : Value → Option (List Value)
  | .array items => some items
  | _ => none

def members? : Value → Option (List (Value × Value))
  | .object members => some (members.map fun (key, value) => (.string key, value))
  | _ => none

def isNull : Value → Bool
  | .null => true
  | _ => false

def reading : Reading Value where
  follow := pure
  text? := text?
  flag? := flag?
  items? := items?
  members? := members?
  isAbsent? := fun value => some value.isNull
  value := pure

end Json.Value

namespace Project

/-- The project that a value gives by the reading rules. -/
def ofJson? (value : Json.Value) : Option Project :=
  ((Json.Value.reading.project value).run 0).map (·.1)

def ofDocument? (document : Yaml.Document) : Option Project :=
  ((document.reading.project document.root).run document.allowance).map (·.1)

/-- The project of a file's text. A blank text is an empty project. -/
def ofText? (text : Text) : Option Project :=
  if text.allBlank then some default else (Yaml.Document.ofText? text).bind ofDocument?

end Project

end UniversalModule
