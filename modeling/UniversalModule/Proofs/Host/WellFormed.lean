import Mathlib.Data.List.Induction
import UniversalModule.Proofs.Host.Changes

/-!
Trees in which everything stands in a folder, under a name that a piece of a path can be. What is
made keeps a tree so.
-/

namespace UniversalModule.Host

namespace Tree

/-- Files have contents, folders have folders above them, and names are proper. -/
structure WellFormed (tree : Tree) : Prop where
  numbered : tree.Numbered
  housed : ∀ folder name, (tree.slot? (folder ++ [name])).isSome = true → tree.slot? folder = some .folder
  named : ∀ folder name, (tree.slot? (folder ++ [name])).isSome = true → IsProper name

variable {tree after : Tree} {current place base folder : Location} {path : Path} {name : Name} {slot : Slot}

theorem turn?_eq_into_iff : tree.turn? place = some .into ↔ tree.slot? place = some .folder := by
  constructor
  · intro into
    have found : tree.find? place = some .folder := by
      simpa [isFolder] using isFolder_iff.mpr into
    obtain ⟨slot, stands, meant⟩ := Option.bind_eq_some_iff.mp found
    cases slot with
    | folder => exact stands
    | file number =>
        obtain ⟨file, -, same⟩ := Option.map_eq_some_iff.mp meant
        exact absurd same (by simp)
    | _ => exact absurd meant (by simp [entryOf?])
  · intro stands
    rw [turn?_of_slot stands]
    rfl

theorem stands_of_turn? {turn : Turn} (turned : tree.turn? place = some turn) :
    (tree.slot? place).isSome = true := by
  obtain ⟨entry, found, -⟩ := Option.map_eq_some_iff.mp turned
  exact stands_of_find? found

namespace WellFormed

theorem empty : WellFormed empty := by
  have nothing (folder : Location) (name : Name) : Tree.empty.slot? (folder ++ [name]) = none := by
    simp [slot?, Tree.empty, Keyed.get?]
  refine ⟨numbered_empty, ?_, ?_⟩ <;>
    · intro folder name stands
      rw [nothing] at stands
      exact absurd stands (by simp)

theorem above (sound : tree.WellFormed) (start : base <+: place)
    (stands : (tree.slot? place).isSome = true) : (tree.slot? base).isSome = true := by
  obtain ⟨more, rfl⟩ := start
  induction more using List.reverseRecOn with
  | nil => rwa [List.append_nil] at stands
  | append_singleton more name induction =>
      rw [← List.append_assoc] at stands
      apply induction
      rw [sound.housed _ name stands]
      rfl

theorem proper (sound : tree.WellFormed) (stands : (tree.slot? place).isSome = true) :
    ∀ name ∈ place, IsProper name := by
  induction place using List.reverseRecOn with
  | nil =>
      intro name member
      exact absurd member List.not_mem_nil
  | append_singleton folder last induction =>
      intro name member
      rcases List.mem_append.mp member with before | here
      · apply induction _ name before
        rw [sound.housed folder last stands]
        rfl
      · rw [List.mem_singleton.mp here]
        exact sound.named folder last stands

/-- Something new in a folder, under a proper name that nothing had. -/
theorem adds (sound : tree.WellFormed) (numbered : after.Numbered) (into : tree.slot? folder = some .folder)
    (proper : IsProper name) (free : tree.slot? (folder ++ [name]) = none)
    (slots : ∀ other, after.slot? other = if folder ++ [name] = other then some slot else tree.slot? other) :
    after.WellFormed := by
  have kept {other : Location} (stands : tree.slot? other = some .folder) :
      after.slot? other = some .folder := by
    rw [slots, if_neg, stands]
    rintro rfl
    rw [free] at stands
    exact absurd stands (by simp)
  refine ⟨numbered, ?_, ?_⟩
  · intro other last stands
    rw [slots] at stands
    split at stands
    · next same =>
        rw [← (List.append_inj' same rfl).1]
        exact kept into
    · exact kept (sound.housed other last stands)
  · intro other last stands
    rw [slots] at stands
    split at stands
    · next same =>
        rw [← (List.cons.inj (List.append_inj' same rfl).2).1]
        exact proper
    · exact sound.named other last stands

theorem putFolder (sound : tree.WellFormed) (into : tree.slot? folder = some .folder)
    (proper : IsProper name) (free : tree.slot? (folder ++ [name]) = none) :
    (tree.put (folder ++ [name]) .folder).WellFormed :=
  sound.adds (numbered_putFolder sound.numbered (by simp)) into proper free fun _ => slot?_put (by simp)

theorem addFile (sound : tree.WellFormed) (into : tree.slot? folder = some .folder)
    (proper : IsProper name) (free : tree.slot? (folder ++ [name]) = none) (file : File) :
    (tree.addFile (folder ++ [name]) file).WellFormed :=
  sound.adds (numbered_addFile sound.numbered (by simp) file) into proper free fun _ => slot?_put (by simp)

theorem makeFolder (sound : tree.WellFormed) (made : tree.makeFolder current path = .ok after) :
    after.WellFormed := by
  obtain ⟨folder, name, ends, unfound, rfl, -⟩ := makeFolder_ok made
  have into := turn?_eq_into_iff.mp ends.into
  have whole : Name.separator ∉ name.bytes := by
    obtain ⟨before, empties, pieces, -⟩ := ends.pieces
    apply @Name.separator_notMem path.text.utf8
    rw [pieces]
    exact List.mem_append_right before List.mem_cons_self
  exact sound.putFolder into ⟨ends.shown, ends.notUp, whole⟩ ((find?_eq_none_iff sound.numbered).mp unfound)

theorem rooted (sound : tree.WellFormed) (into : tree.turn? place = some .into) :
    tree.turn? place.dropLast = some .into := by
  cases place using List.reverseRecOn with
  | nil => exact into
  | append_singleton above name =>
      rw [List.dropLast_concat, turn?_eq_into_iff]
      exact sound.housed above name (stands_of_turn? into)

end WellFormed

theorem canonical?_eq_some_iff : tree.canonical? current path = some place ↔ tree.locate current path = .ok place := by
  unfold canonical?
  cases tree.locate current path <;> simp [Except.toOption]

theorem locate_of_canonical? {other : Path} (first : tree.canonical? current path = some place)
    (second : tree.canonical? current other = some place) : tree.locate current path = tree.locate current other := by
  rw [canonical?_eq_some_iff.mp first, canonical?_eq_some_iff.mp second]

theorem read_of_locate {other : Path} (same : tree.locate current path = tree.locate current other) :
    tree.read current path = tree.read current other := by
  simp only [read, found, same]

end Tree

end UniversalModule.Host
