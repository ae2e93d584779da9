import UniversalModule.Host.Tree

/-!
Where paths lead. What a path does at a piece depends on what is found there only as far as it is a
folder, a link or something else, so that a path that leads somewhere still does when the tree gets
more.
-/

namespace UniversalModule.Host

inductive Turn where
  | into
  | along (target : Bytes)
  /-- Only the end of a path can be here. -/
  | nowhere
deriving DecidableEq

def Entry.turn : Entry → Turn
  | .folder => .into
  | .link target => .along target
  | _ => .nowhere

structure IsName (piece : Name) : Prop where
  shown : piece.isSkipped = false
  notUp : piece ≠ .above
  short : piece.bytes.length ≤ Tree.nameLimit

namespace Tree

def turn? (tree : Tree) (place : Location) : Option Turn := (tree.find? place).map Entry.turn

variable {tree before after : Tree} {place next out : Location} {piece : Name} {pieces : List Name}
  {links : Nat}

theorem isFolder_iff : tree.isFolder place = true ↔ tree.turn? place = some .into := by
  rw [isFolder, turn?, beq_iff_eq]
  constructor
  · intro found
    rw [found]
    rfl
  · intro turned
    obtain ⟨entry, found, turn⟩ := Option.map_eq_some_iff.mp turned
    cases entry with
    | folder => exact found
    | _ => exact absurd turn (by simp [Entry.turn])

theorem turn?_eq_none_iff : tree.turn? place = none ↔ tree.find? place = none := Option.map_eq_none_iff

theorem turn?_eq_along_iff {target : Bytes} :
    tree.turn? place = some (.along target) ↔ tree.find? place = some (.link target) := by
  constructor
  · intro turned
    obtain ⟨entry, found, turn⟩ := Option.map_eq_some_iff.mp turned
    cases entry with
    | link other =>
        rw [found, Turn.along.inj turn]
    | _ => exact absurd turn (by simp [Entry.turn])
  · intro found
    rw [turn?, found]
    rfl

inductive Steps (tree : Tree) (place : Location) : Name → Move → Prop where
  | stays {piece : Name} (folder : tree.turn? place = some .into)
      (skipped : piece.isSkipped = true) : Steps tree place piece (.to place)
  | rises (folder : tree.turn? place = some .into) : Steps tree place .above (.to place.dropLast)
  | enters {name : Name} {turn : Turn} (folder : tree.turn? place = some .into) (named : IsName name)
      (found : tree.turn? (place ++ [name]) = some turn) (straight : ∀ target, turn ≠ .along target) :
      Steps tree place name (.to (place ++ [name]))
  | turns {name : Name} {target : Bytes} (folder : tree.turn? place = some .into) (named : IsName name)
      (found : tree.turn? (place ++ [name]) = some (.along target)) :
      Steps tree place name (.along target)

theorem step_ok_iff {move : Move} : tree.step place piece = .ok move ↔ Steps tree place piece move := by
  unfold step
  constructor
  · intro moved
    split at moved
    · exact absurd moved (by simp)
    next folder =>
    have into : tree.turn? place = some .into := isFolder_iff.mp (by simpa using folder)
    split at moved
    · next skipped =>
        cases moved
        exact .stays into skipped
    next shown =>
    split at moved
    · next up =>
        cases moved
        rw [up]
        exact .rises into
    next notUp =>
    split at moved
    · exact absurd moved (by simp)
    next short =>
    have named : IsName piece := ⟨by simpa using shown, notUp, Nat.le_of_not_lt short⟩
    split at moved
    · exact absurd moved (by simp)
    · next target found =>
        cases moved
        exact .turns into named (turn?_eq_along_iff.mpr found)
    · next entry straight found =>
        cases moved
        have turned : tree.turn? (place ++ [piece]) = some entry.turn := by
          rw [turn?, found]
          rfl
        refine .enters into named turned ?_
        intro target same
        rw [same, turn?_eq_along_iff, found] at turned
        exact straight target (Option.some.inj turned)
  · intro steps
    cases steps with
    | stays folder skipped => rw [if_neg (by simp [isFolder_iff.mpr folder]), if_pos skipped]
    | rises folder =>
        rw [if_neg (by simp [isFolder_iff.mpr folder]), if_neg (by decide), if_pos rfl]
    | enters folder named found straight =>
        rw [if_neg (by simp [isFolder_iff.mpr folder]), if_neg (by simp [named.shown]),
          if_neg named.notUp, if_neg (Nat.not_lt_of_le named.short)]
        split
        · next missing =>
            rw [turn?_eq_none_iff.mpr missing] at found
            exact absurd found (by simp)
        · next target isLink =>
            rw [turn?_eq_along_iff.mpr isLink] at found
            exact absurd (Option.some.inj found).symm (straight target)
        · rfl
    | turns folder named found =>
        rw [if_neg (by simp [isFolder_iff.mpr folder]), if_neg (by simp [named.shown]),
          if_neg named.notUp, if_neg (Nat.not_lt_of_le named.short), turn?_eq_along_iff.mp found]

/-- The pieces lead from a place to another, through as many links at most. -/
inductive Leads (tree : Tree) : Nat → Location → List Name → Location → Prop where
  | ends {links : Nat} {place : Location} : Leads tree links place [] place
  | goes {links : Nat} {place next out : Location} {piece : Name} {pieces : List Name}
      (steps : Steps tree place piece (.to next)) (rest : Leads tree links next pieces out) :
      Leads tree links place (piece :: pieces) out
  | turns {links : Nat} {place out : Location} {piece : Name} {target : Bytes} {pieces : List Name}
      (steps : Steps tree place piece (.along target))
      (rest : Leads tree links (startOf place target) (Name.ofPath target ++ pieces) out) :
      Leads tree (links + 1) place (piece :: pieces) out

theorem bind_eq_ok {α β : Type} {first : Except IoFault α} {second : α → Except IoFault β} {result : β}
    (whole : (first >>= second) = .ok result) : ∃ value, first = .ok value ∧ second value = .ok result := by
  cases first with
  | error fault => exact absurd whole (by simp [bind, Except.bind])
  | ok value => exact ⟨value, rfl, whole⟩

theorem walk_ok {onLink : Location → List Name → Except IoFault Location}
    (walked : tree.walk onLink place (piece :: pieces) = .ok out) :
    (∃ next, Steps tree place piece (.to next) ∧ tree.walk onLink next pieces = .ok out) ∨
      ∃ target, Steps tree place piece (.along target) ∧
        onLink (startOf place target) (Name.ofPath target ++ pieces) = .ok out := by
  rw [walk] at walked
  obtain ⟨move, moved, rest⟩ := bind_eq_ok walked
  have steps := step_ok_iff.mp moved
  rcases move with next | target
  · exact .inl ⟨next, steps, rest⟩
  · exact .inr ⟨target, steps, rest⟩

theorem walk_goes {onLink : Location → List Name → Except IoFault Location}
    (steps : Steps tree place piece (.to next)) :
    tree.walk onLink place (piece :: pieces) = tree.walk onLink next pieces := by
  rw [walk, step_ok_iff.mpr steps]
  rfl

theorem walk_turns {onLink : Location → List Name → Except IoFault Location} {target : Bytes}
    (steps : Steps tree place piece (.along target)) :
    tree.walk onLink place (piece :: pieces) =
      onLink (startOf place target) (Name.ofPath target ++ pieces) := by
  rw [walk, step_ok_iff.mpr steps]
  rfl

theorem follow_ok_iff : tree.follow links place pieces = .ok out ↔ Leads tree links place pieces out := by
  constructor
  · intro followed
    induction links generalizing place pieces with
    | zero =>
        rw [follow] at followed
        induction pieces generalizing place with
        | nil =>
            cases followed
            exact .ends
        | cons piece pieces induction =>
            rcases walk_ok followed with ⟨next, steps, rest⟩ | ⟨target, steps, refused⟩
            · exact .goes steps (induction rest)
            · exact absurd refused (by simp)
    | succ links onLinks =>
        rw [follow] at followed
        induction pieces generalizing place with
        | nil =>
            cases followed
            exact .ends
        | cons piece pieces induction =>
            rcases walk_ok followed with ⟨next, steps, rest⟩ | ⟨target, steps, rest⟩
            · exact .goes steps (induction rest)
            · exact .turns steps (onLinks rest)
  · intro leads
    induction leads with
    | @ends links place => cases links <;> rfl
    | @goes links place next out piece pieces steps _ induction =>
        cases links <;> exact (walk_goes steps).trans induction
    | turns steps _ induction => exact (walk_turns steps).trans induction

theorem Leads.more_links (leads : Leads tree links place pieces out) {more : Nat} (enough : links ≤ more) :
    Leads tree more place pieces out := by
  induction leads generalizing more with
  | ends => exact .ends
  | goes steps _ induction => exact .goes steps (induction enough)
  | turns steps _ induction =>
      obtain ⟨more, rfl⟩ := Nat.exists_eq_succ_of_ne_zero (show more ≠ 0 by omega)
      exact .turns steps (induction (Nat.le_of_succ_le_succ enough))

/-- A path goes on from where its first pieces lead, if it needs no more links. -/
theorem Leads.append {middle : Location} {more : List Name} (first : Leads tree links place pieces middle)
    (second : Leads tree 0 middle more out) : Leads tree links place (pieces ++ more) out := by
  induction first with
  | ends => exact second.more_links (Nat.zero_le _)
  | goes steps _ induction => exact .goes steps (induction second)
  | turns steps _ induction =>
      have rest := induction second
      rw [List.append_assoc] at rest
      exact .turns steps rest

/-- A path that leads somewhere leads somewhere with its first pieces, and from there on with the
others. -/
theorem Leads.split {first second : List Name} (leads : Leads tree links place (first ++ second) out) :
    ∃ middle rest, Leads tree links place first middle ∧ Leads tree rest middle second out := by
  generalize whole : first ++ second = pieces at leads
  induction leads generalizing first with
  | ends =>
      obtain ⟨rfl, rfl⟩ := List.append_eq_nil_iff.mp whole
      exact ⟨_, 0, .ends, .ends⟩
  | goes steps rest induction =>
      cases first with
      | nil =>
          rw [List.nil_append] at whole
          rw [whole]
          exact ⟨_, _, .ends, .goes steps rest⟩
      | cons piece first =>
          obtain ⟨rfl, same⟩ := List.cons.inj whole
          obtain ⟨middle, left, before, after⟩ := induction same
          exact ⟨middle, left, .goes steps before, after⟩
  | @turns links place out piece target pieces steps rest induction =>
      cases first with
      | nil =>
          rw [List.nil_append] at whole
          rw [whole]
          exact ⟨_, _, .ends, .turns steps rest⟩
      | cons piece first =>
          obtain ⟨rfl, same⟩ := List.cons.inj whole
          have longer : (Name.ofPath target ++ first) ++ second = Name.ofPath target ++ pieces := by
            rw [List.append_assoc]
            exact congrArg _ same
          obtain ⟨middle, left, before, after⟩ := induction longer
          exact ⟨middle, left, .turns steps before, after⟩

theorem Leads.folder (leads : Leads tree links place (piece :: pieces) out) : tree.turn? place = some .into := by
  cases leads with
  | goes steps _ =>
      cases steps with
      | stays folder _ => exact folder
      | rises folder => exact folder
      | enters folder _ _ _ => exact folder
  | turns steps _ =>
      cases steps with
      | turns folder _ _ => exact folder

theorem Leads.empties (folder : tree.turn? place = some .into) {empties : List Name}
    (all : empties.all Name.isEmpty = true) : Leads tree 0 place empties place := by
  induction empties with
  | nil => exact .ends
  | cons piece rest induction =>
      rw [List.all_cons, Bool.and_eq_true] at all
      have skipped : piece.isSkipped = true := by
        rw [Name.isSkipped, all.1]
        rfl
      exact .goes (.stays folder skipped) (induction all.2)

/-- Whatever is found in the one tree is found in the other, and paths go on from it alike. -/
def Extends (before after : Tree) : Prop :=
  ∀ place turn, before.turn? place = some turn → after.turn? place = some turn

theorem Extends.refl (tree : Tree) : Extends tree tree := fun _ _ found => found

theorem Extends.trans {last : Tree} (first : Extends before after) (second : Extends after last) :
    Extends before last := fun place turn found => second place turn (first place turn found)

theorem Steps.extends (larger : Extends before after) {move : Move} (steps : Steps before place piece move) :
    Steps after place piece move := by
  cases steps with
  | stays folder skipped => exact .stays (larger _ _ folder) skipped
  | rises folder => exact .rises (larger _ _ folder)
  | enters folder named found straight =>
      exact .enters (larger _ _ folder) named (larger _ _ found) straight
  | turns folder named found => exact .turns (larger _ _ folder) named (larger _ _ found)

theorem Leads.extends (larger : Extends before after) (leads : Leads before links place pieces out) :
    Leads after links place pieces out := by
  induction leads with
  | ends => exact .ends
  | goes steps _ induction => exact .goes (steps.extends larger) induction
  | turns steps _ induction => exact .turns (steps.extends larger) induction

theorem locate_ok {current : Location} {path : Path} (located : tree.locate current path = .ok out) :
    checkPath path = .ok () ∧
      Leads tree linkLimit (startOf current path.text.utf8) (Name.ofPath path.text.utf8) out := by
  obtain ⟨⟨⟩, checked, followed⟩ := bind_eq_ok located
  exact ⟨checked, follow_ok_iff.mp followed⟩

theorem locate_of_leads {current : Location} {path : Path} (checked : checkPath path = .ok ())
    (leads : Leads tree linkLimit (startOf current path.text.utf8) (Name.ofPath path.text.utf8) out) :
    tree.locate current path = .ok out := by
  rw [locate, checked]
  exact follow_ok_iff.mpr leads

theorem locate_extends (larger : Extends before after) {current : Location} {path : Path}
    (located : before.locate current path = .ok out) : after.locate current path = .ok out := by
  obtain ⟨checked, leads⟩ := locate_ok located
  exact locate_of_leads checked (leads.extends larger)

theorem leadsToFolder_extends (larger : Extends before after) {current : Location} {path : Path}
    (leads : before.leadsToFolder current path = true) : after.leadsToFolder current path = true := by
  unfold leadsToFolder at leads ⊢
  cases located : before.locate current path with
  | error fault =>
      rw [located] at leads
      exact absurd leads (by simp)
  | ok place =>
      rw [located] at leads
      rw [locate_extends larger located]
      exact isFolder_iff.mpr (larger place .into (isFolder_iff.mp leads))

theorem holds_extends (larger : Extends before after) {current : Location} {path : Path}
    (holds : before.holds current path = true) : after.holds current path = true := by
  unfold Tree.holds at holds ⊢
  cases located : before.locate current path with
  | error fault =>
      rw [located] at holds
      exact absurd holds (by simp)
  | ok place => rw [locate_extends larger located]

inductive LeadsOut (tree : Tree) : Nat → Location → List Name → Location → Prop where
  | ends {links : Nat} {place : Location} {name : Name} (folder : tree.turn? place = some .into)
      (named : IsName name) (ended : ∀ turn, tree.turn? (place ++ [name]) = some turn → turn = .nowhere) :
      LeadsOut tree links place [name] (place ++ [name])
  | goes {links : Nat} {place next out : Location} {piece : Name} {pieces : List Name}
      (steps : Steps tree place piece (.to next)) (rest : LeadsOut tree links next pieces out) :
      LeadsOut tree links place (piece :: pieces) out
  | turns {links : Nat} {place out : Location} {piece : Name} {target : Bytes} {pieces : List Name}
      (steps : Steps tree place piece (.along target))
      (rest : LeadsOut tree links (startOf place target) (Name.ofPath target ++ pieces) out) :
      LeadsOut tree (links + 1) place (piece :: pieces) out

theorem lastPlace_ok {onLink : Location → List Name → Except IoFault Location} {isSeparated : Bool}
    (reached : tree.lastPlace onLink place piece isSeparated = .ok out) :
    isSeparated = false ∧ tree.turn? place = some .into ∧ IsName piece ∧
      ((out = place ++ [piece] ∧ ∀ turn, tree.turn? (place ++ [piece]) = some turn → turn = .nowhere) ∨
        ∃ target, Steps tree place piece (.along target) ∧
          onLink (startOf place target) (Name.ofPath target) = .ok out) := by
  unfold lastPlace at reached
  split at reached
  · exact absurd reached (by simp)
  next folder =>
  have into : tree.turn? place = some .into := isFolder_iff.mp (by simpa using folder)
  split at reached
  · exact absurd reached (by simp)
  next plain =>
  simp only [not_or] at plain
  obtain ⟨whole, shown, notUp⟩ := plain
  split at reached
  · exact absurd reached (by simp)
  next short =>
  have named : IsName piece := ⟨by simpa using shown, notUp, Nat.le_of_not_lt short⟩
  refine ⟨by simpa using whole, into, named, ?_⟩
  split at reached
  · exact absurd reached (by simp)
  · next target found =>
      exact .inr ⟨target, .turns into named (turn?_eq_along_iff.mpr found), reached⟩
  · next notFolder notLink =>
      cases reached
      refine .inl ⟨rfl, ?_⟩
      intro turn turned
      obtain ⟨entry, found, rfl⟩ := Option.map_eq_some_iff.mp turned
      cases entry with
      | folder => exact absurd found notFolder
      | link target => exact absurd found (notLink target)
      | _ => rfl

theorem walkOut_ok {onLink : Location → List Name → Except IoFault Location}
    (walked : tree.walkOut onLink place (piece :: pieces) = .ok out) :
    (pieces = [] ∧ tree.turn? place = some .into ∧ IsName piece ∧ out = place ++ [piece] ∧
      ∀ turn, tree.turn? (place ++ [piece]) = some turn → turn = .nowhere) ∨
    (∃ next, Steps tree place piece (.to next) ∧ tree.walkOut onLink next pieces = .ok out) ∨
    ∃ target, Steps tree place piece (.along target) ∧
      onLink (startOf place target) (Name.ofPath target ++ pieces) = .ok out := by
  rw [walkOut] at walked
  split at walked
  · obtain ⟨whole, into, named, ended⟩ := lastPlace_ok walked
    have last : pieces = [] := by simpa using whole
    rcases ended with ⟨same, ended⟩ | ⟨target, steps, rest⟩
    · exact .inl ⟨last, into, named, same, ended⟩
    · refine .inr (.inr ⟨target, steps, ?_⟩)
      rw [last, List.append_nil]
      exact rest
  · obtain ⟨move, moved, rest⟩ := bind_eq_ok walked
    have steps := step_ok_iff.mp moved
    rcases move with next | target
    · exact .inr (.inl ⟨next, steps, rest⟩)
    · exact .inr (.inr ⟨target, steps, rest⟩)

theorem followOut_ok (followed : tree.followOut links place pieces = .ok out) :
    LeadsOut tree links place pieces out := by
  induction links generalizing place pieces with
  | zero =>
      rw [followOut] at followed
      induction pieces generalizing place with
      | nil => exact absurd followed (by simp [walkOut])
      | cons piece pieces induction =>
          rcases walkOut_ok followed with ⟨rfl, into, named, rfl, ended⟩ | ⟨next, steps, rest⟩ |
            ⟨target, steps, refused⟩
          · exact .ends into named ended
          · exact .goes steps (induction rest)
          · exact absurd refused (by simp)
  | succ links onLinks =>
      rw [followOut] at followed
      induction pieces generalizing place with
      | nil => exact absurd followed (by simp [walkOut])
      | cons piece pieces induction =>
          rcases walkOut_ok followed with ⟨rfl, into, named, rfl, ended⟩ | ⟨next, steps, rest⟩ |
            ⟨target, steps, rest⟩
          · exact .ends into named ended
          · exact .goes steps (induction rest)
          · exact .turns steps (onLinks rest)

/-- The place for a file is in a folder, where something else than a file's kind is not found. -/
theorem LeadsOut.housed (leads : LeadsOut tree links place pieces out) :
    out ≠ [] ∧ tree.turn? out.dropLast = some .into ∧
      ∀ turn, tree.turn? out = some turn → turn = .nowhere := by
  induction leads with
  | ends folder _ ended => exact ⟨by simp, by simpa using folder, ended⟩
  | goes _ _ induction => exact induction
  | turns _ _ induction => exact induction

theorem LeadsOut.leads (larger : Extends before after) (present : after.turn? out = some .nowhere)
    (leads : LeadsOut before links place pieces out) : Leads after links place pieces out := by
  induction leads with
  | ends folder named _ => exact .goes (.enters (larger _ _ folder) named present (by simp)) .ends
  | goes steps _ induction => exact .goes (steps.extends larger) (induction present)
  | turns steps _ induction => exact .turns (steps.extends larger) (induction present)

end Tree

end UniversalModule.Host
