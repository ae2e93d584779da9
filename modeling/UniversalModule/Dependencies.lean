import UniversalModule.Failure
import UniversalModule.Keyed

/-!
The dependencies of a project: entries under distinct names, in the order in which the names first
came. Main statement: the requirements made of them have these names in this order.
-/

namespace UniversalModule

/-- How a dependency can be got, as a project file says it. -/
structure DependencyEntry where
  globals : Option Text
  commonJs : Option Text
  ym : Option Text
deriving DecidableEq

namespace DependencyEntry

/-- The requirement of an entry: its providers are the named module, the package and the global
path. A path with a blank segment is refused before anything else. -/
def toRequirement (entry : DependencyEntry) (name : Text) :
    Except Requirement.Fault Requirement :=
  let modules := entry.ym.toList.map .named ++ entry.commonJs.toList.map .bundled
  match entry.globals with
  | none => Requirement.make name modules
  | some dotted =>
      match DottedPath.segments? dotted with
      | none => .error (.badPath dotted)
      | some segments => Requirement.make name (modules ++ [.global segments])

theorem name_toRequirement {entry : DependencyEntry} {name : Text} {requirement : Requirement}
    (made : entry.toRequirement name = .ok requirement) : requirement.name = name := by
  unfold toRequirement at made
  split at made
  · exact (Requirement.make_eq_ok_iff.mp made).1
  · split at made
    · exact absurd made (by simp)
    · exact (Requirement.make_eq_ok_iff.mp made).1

end DependencyEntry

structure Dependencies where
  entries : Keyed Text DependencyEntry
  distinct : entries.keys.Nodup

namespace Dependencies

def empty : Dependencies := ⟨[], List.nodup_nil⟩

/-- The dependencies of entries in which names may repeat; the last entry of a name counts. -/
def ofList (entries : List (Text × DependencyEntry)) : Dependencies :=
  ⟨Keyed.ofList entries, Keyed.nodup_keys_ofList entries⟩

/-- The requirements of entries, or the fault of the first entry that has one. -/
def requirementsOf : List (Text × DependencyEntry) → Except CompileError (List Requirement)
  | [] => .ok []
  | (name, entry) :: rest =>
      match entry.toRequirement name with
      | .error fault => .error (.invalidRequire name fault)
      | .ok requirement => (requirementsOf rest).map (requirement :: ·)

theorem map_name_requirementsOf {entries : List (Text × DependencyEntry)}
    {requirements : List Requirement} (made : requirementsOf entries = .ok requirements) :
    requirements.map Requirement.name = entries.map Prod.fst := by
  induction entries generalizing requirements with
  | nil =>
      cases made
      rfl
  | cons entry rest induction =>
      obtain ⟨name, entry⟩ := entry
      simp only [requirementsOf] at made
      split at made
      · exact absurd made (by simp)
      · next requirement first =>
          generalize others : requirementsOf rest = result at made
          cases result with
          | error => exact absurd made (by simp [Except.map])
          | ok more =>
              cases made
              simp [DependencyEntry.name_toRequirement first, induction others]

def requirements (dependencies : Dependencies) : Except CompileError (List Requirement) :=
  requirementsOf dependencies.entries

end Dependencies

end UniversalModule
