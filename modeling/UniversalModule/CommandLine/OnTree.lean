import UniversalModule.CommandLine.TreeMachine
import UniversalModule.Host.Command

/-!
What calls leave in a tree in which commands are installed: the files that are new or changed.
-/

namespace UniversalModule.Host.Tree

/-- The files that are found when one goes down from a folder, links followed, with the names on
the way to each of them. The fuel bounds how far one goes. -/
def filesBelow (tree : Tree) (start : Location) : Nat → List Text → List (List Text × Bytes)
  | 0, _ => []
  | fuel + 1, way =>
      match tree.locate start ⟨Text.joinWith ['/'] (['.'] :: way)⟩ with
      | .error _ => []
      | .ok place =>
          match tree.find? place with
          | some (.file file) => [(way, file.content)]
          | some .folder => (tree.names place).flatMap fun name => tree.filesBelow start fuel (way ++ [name.text])
          | _ => []

/-- The files below a folder that are new or have another content than in an older tree. -/
def changedFiles (start : Location) (old new : Tree) : List (List Text × Text) :=
  let files (tree : Tree) : Keyed (List Text) Bytes :=
    tree.filesBelow start (tree.slots.length + linkLimit + 1) []
  let before := files old
  (files new).filterMap fun (way, content) =>
    if before.get? way = some content then none else some (way, Text.ofUtf8Lossy content)

end UniversalModule.Host.Tree
