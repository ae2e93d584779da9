import UniversalModule.Proofs.CommandLine.Effects
import UniversalModule.Proofs.Compile.Layout

/-!
How a template is spelled on the command line. Below the directory in which packages are bundled, a
template is labelled by the names on the way to it, so that all paths that lead to it give the same
module.
-/

namespace UniversalModule

namespace CommandLine

open Host (Location Name Tree IsPiece IsProper labelOf)

def Respelled (tree : Tree) (current : Location) (path other : Path) : Prop :=
  ∃ place, tree.canonical? current path = some place ∧ tree.canonical? current other = some place

variable {commands : Commands} {current : Location} {arguments : Arguments} {tree after : Tree}
  {base path other : Path} {files others : List Path}

/-- What is below a folder is labelled by the names on the way, and nothing else is. -/
theorem relativeTo_eq_some_iff {folder place : Location} {label : Text} :
    relativeTo folder place = some label ↔ ∃ names, place = folder ++ names ∧ label = labelOf names := by
  rw [relativeTo, Option.map_eq_some_iff]
  constructor
  · rintro ⟨names, beyond, rfl⟩
    exact ⟨names, (List.isPrefixOf?_eq_some_iff_append_eq.mp beyond).symm, rfl⟩
  · rintro ⟨names, rfl, rfl⟩
    exact ⟨names, List.isPrefixOf?_eq_some_iff_append_eq.mpr rfl, rfl⟩

/-- What was there already has no label under a folder that is new. -/
theorem labelIn_of_new (sound : tree.WellFormed) {folder place : Location}
    (reached : after.locate current base = .ok folder) (new : tree.slot? folder = none)
    (located : after.locate current path = .ok place) (stands : (tree.slot? place).isSome = true) :
    labelIn after current base path = none := by
  have label : labelIn after current base path = relativeTo folder place := by
    simp only [labelIn, Tree.canonical?, located, reached, Except.toOption, Option.bind_eq_bind, Option.bind_some]
  rw [label, Option.eq_none_iff_forall_ne_some]
  intro text relative
  -- What is below the folder would have something standing in its place before.
  obtain ⟨names, rfl, -⟩ := relativeTo_eq_some_iff.mp relative
  have above := sound.above (List.prefix_append folder names) stands
  rw [new] at above
  exact absurd above (by simp)

theorem Respelled.read (same : Respelled tree current path other) :
    tree.read current path = tree.read current other := by
  obtain ⟨place, first, second⟩ := same
  exact Tree.read_of_locate (Tree.locate_of_canonical? first second)

theorem Respelled.labelIn (same : Respelled tree current path other) (base : Path) :
    labelIn tree current base path = labelIn tree current base other := by
  obtain ⟨place, first, second⟩ := same
  simp only [CommandLine.labelIn, first, second]

end CommandLine

end UniversalModule
