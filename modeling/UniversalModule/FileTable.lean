import UniversalModule.Failure
import UniversalModule.Keyed

/-!
Files in a table, which are found under every path with the same components. The file that was
added last under a path counts.
-/

namespace UniversalModule

structure FileTable where
  files : Keyed (List Component) Text

namespace FileTable

def empty : FileTable := ⟨[]⟩

def add (table : FileTable) (path : Path) (content : Text) : FileTable :=
  ⟨table.files.put path.components content⟩

def read (table : FileTable) (path : Path) : Except IoFault Text :=
  match table.files.get? path.components with
  | some content => .ok content
  | none => .error (.reported ("file not found: " ++ path.text))

end FileTable

end UniversalModule
