import UniversalModule.Host.Name
import UniversalModule.Proofs.Text.Split
import UniversalModule.Proofs.Text.Utf8

/-!
Names of paths. A name that can stand in a folder is shown as a text that can stand in a path, whether it
is a text or not; only a name that is one can be told from the text.
-/

namespace UniversalModule.Host

namespace Name

theorem ofPath_ne_nil (path : Bytes) : ofPath path ≠ [] := by
  simp [ofPath, Text.splitAt_ne_nil]

theorem separator_notMem {path : Bytes} {name : Name} (member : name ∈ ofPath path) : separator ∉ name.bytes := by
  obtain ⟨piece, among, rfl⟩ := List.mem_map.mp member
  exact Text.notMem_of_mem_splitAt among

end Name

structure IsProper (name : Name) : Prop where
  shown : name.isSkipped = false
  notUp : name ≠ .above
  whole : Name.separator ∉ name.bytes

structure IsPiece (text : Text) : Prop where
  nonempty : text ≠ []
  notHere : text ≠ ['.']
  notAbove : text ≠ ['.', '.']
  whole : '/' ∉ text

section Joining

variable {names : List Name} {folder : Location}

/-- The names of a location as texts, with separators between them. -/
def labelOf (names : List Name) : Text := Text.joinWith ['/'] (names.map Name.text)

/-- The path of a location with a text after it, as joining of paths gives it. -/
def Location.join (folder : Location) (path : Text) : Bytes :=
  (if folder.isEmpty then [] else folder.bytes) ++ Name.separator :: path.utf8

theorem IsPiece.separator_notMem {text : Text} (piece : IsPiece text) : Name.separator ∉ text.utf8 := by
  intro member
  obtain ⟨c, among, own⟩ := List.mem_flatMap.mp member
  have code := Text.toNat_eq_of_mem_utf8Of own (by decide)
  have same : c = '/' := Char.toNat_inj.mp code.symm
  exact piece.whole (same ▸ among)

end Joining

end UniversalModule.Host
