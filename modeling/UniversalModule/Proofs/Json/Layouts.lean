import UniversalModule.Proofs.Json.Containers

/-!
Ways of writing values that differ only in the space around items and members. What is read back from
one of them is read back from all: a container is read back when its parts are.
-/

namespace UniversalModule.Json

namespace Value

def isScalar : Value → Bool
  | .array _ => false
  | .object _ => false
  | _ => true

@[elab_as_elim]
theorem byParts {motive : Value → Prop} (scalar : ∀ value, value.isScalar = true → motive value)
    (array : ∀ items, (∀ item ∈ items, motive item) → motive (.array items))
    (object : ∀ members, (∀ member ∈ members, motive member.2) → motive (.object members))
    (value : Value) : motive value := by
  refine @Value.rec motive (fun items => ∀ item ∈ items, motive item)
    (fun members => ∀ member ∈ members, motive member.2) (fun member => motive member.2)
    (scalar _ rfl) (fun _ => scalar _ rfl) (fun _ => scalar _ rfl) (fun _ => scalar _ rfl)
    (fun _ => scalar _ rfl) array object ?_ ?_ ?_ ?_ ?_ value
  · exact fun item member => absurd member List.not_mem_nil
  · exact fun first rest isFirst others => List.forall_mem_cons.mpr ⟨isFirst, others⟩
  · exact fun item member => absurd member List.not_mem_nil
  · exact fun first rest isFirst others => List.forall_mem_cons.mpr ⟨isFirst, others⟩
  · exact fun key value known => known

end Value

/-- A way of writing values: scalars have one text, containers have space around their parts. -/
structure Layout (form : Form) (text : Nat → Value → Text) : Prop where
  scalar : ∀ (level : Nat) (value : Value), value.isScalar = true → text level value = value.render form
  array : ∀ (level : Nat) (items : List Value), ∃ gaps : Gaps,
    text level (.array items) = '[' :: (gaps.text (items.map (text (level + 1))) ++ [']'])
  object : ∀ (level : Nat) (members : List (Text × Value)), ∃ (gaps : Gaps) (gap : Text),
    gap.all isSpace = true ∧
      text level (.object members) =
        '\x7b' :: (gaps.text (members.map fun member =>
          memberText form gap member.1 (text (level + 1) member.2)) ++ ['\x7d'])

theorem layout_render (form : Form) : Layout form fun _ => Value.render form where
  scalar _ _ _ := rfl
  array _ items := by
    refine ⟨Gaps.none, ?_⟩
    rw [Value.render_array]
    simp [Gaps.text, Gaps.none]
  object _ members := by
    refine ⟨Gaps.none, [], rfl, ?_⟩
    rw [Value.render_object]
    simp [Gaps.text, Gaps.none]

theorem all_isSpace_breakAt (level : Nat) : (Value.breakAt level).all isSpace = true := by
  rw [List.all_eq_true]
  intro c member
  rcases List.mem_cons.mp member with rfl | space
  · rfl
  · rw [List.eq_of_mem_replicate space]
    rfl

/-- A container over several lines: its parts on lines of their own, one level deeper. -/
def Gaps.lines (level : Nat) : Gaps where
  first := Value.breakAt (level + 1)
  between := Value.breakAt (level + 1)
  last := Value.breakAt level
  blank := by simp only [List.all_append, all_isSpace_breakAt, Bool.and_self]

theorem renderPrettyItems_eq_joinWith (level : Nat) (items : List Value) (nonempty : items ≠ []) :
    Value.renderPrettyItems level items =
      Value.breakAt level ++
        Text.joinWith (',' :: Value.breakAt level) (items.map (Value.renderPretty level)) := by
  induction items with
  | nil => exact absurd rfl nonempty
  | cons first rest induction =>
      cases rest with
      | nil => rfl
      | cons next more =>
          rw [Value.renderPrettyItems, induction (by simp), List.map_cons (a := first),
            Text.joinWith_cons (by simp)]
          simp only [List.append_assoc, List.cons_append]

theorem renderPrettyMembers_eq_joinWith (level : Nat) (members : List (Text × Value))
    (nonempty : members ≠ []) :
    Value.renderPrettyMembers level members =
      Value.breakAt level ++
        Text.joinWith (',' :: Value.breakAt level) (members.map fun member =>
          memberText .data [' '] member.1 (Value.renderPretty level member.2)) := by
  induction members with
  | nil => exact absurd rfl nonempty
  | cons first rest induction =>
      cases rest with
      | nil => simp [Value.renderPrettyMembers, memberText, Text.joinWith]
      | cons next more =>
          rw [Value.renderPrettyMembers, induction (by simp), List.map_cons (a := first),
            Text.joinWith_cons (by simp), memberText]
          simp only [List.append_assoc, List.cons_append, List.nil_append]

theorem layout_renderPretty : Layout .data Value.renderPretty where
  scalar level value scalar := by
    cases value with
    | boolean truth => cases truth <;> rfl
    | array items => exact absurd scalar (by simp [Value.isScalar])
    | object members => exact absurd scalar (by simp [Value.isScalar])
    | _ => rfl
  array level items := by
    cases items with
    | nil => exact ⟨Gaps.none, rfl⟩
    | cons first rest =>
        have opened : Value.renderPretty level (.array (first :: rest)) =
            '[' :: (Value.renderPrettyItems (level + 1) (first :: rest) ++ Value.breakAt level ++ [']']) := rfl
        refine ⟨Gaps.lines level, ?_⟩
        rw [opened, renderPrettyItems_eq_joinWith _ _ (by simp)]
        simp only [Gaps.text, Gaps.lines, List.append_assoc]
  object level members := by
    cases members with
    | nil => exact ⟨Gaps.none, [], rfl, rfl⟩
    | cons first rest =>
        have opened : Value.renderPretty level (.object (first :: rest)) =
            '\x7b' :: (Value.renderPrettyMembers (level + 1) (first :: rest) ++ Value.breakAt level ++
              ['\x7d']) := rfl
        refine ⟨Gaps.lines level, [' '], rfl, ?_⟩
        rw [opened, renderPrettyMembers_eq_joinWith _ _ (by simp)]
        simp only [Gaps.text, Gaps.lines, List.append_assoc]

namespace Layout

variable {form : Form} {text : Nat → Value → Text} {α : Type}

theorem reads_array (layout : Layout form text) (level : Nat) {item : Reader α} {entries : List (Value × α)}
    (each : ∀ entry ∈ entries, Reads item (text (level + 1) entry.1) entry.2) :
    ∃ inner, text level (.array (entries.map Prod.fst)) = '[' :: inner ∧
      ∀ rest, readItems item (inner ++ rest) = some (entries.map Prod.snd, rest) := by
  obtain ⟨gaps, written⟩ := layout.array level (entries.map Prod.fst)
  refine ⟨_, written, ?_⟩
  intro rest
  have read : ∀ entry ∈ entries.map fun entry => (text (level + 1) entry.1, entry.2),
      Reads item entry.1 entry.2 := by
    intro entry member
    obtain ⟨part, among, rfl⟩ := List.mem_map.mp member
    exact each part among
  have items := readItems_text gaps read rest
  simp only [List.map_map, Function.comp_def] at items ⊢
  rw [List.append_assoc]
  exact items

theorem reads_object (layout : Layout form text) (level : Nat) {reader : Text → Reader α}
    {entries : List ((Text × Value) × α)}
    (each : ∀ entry ∈ entries, Reads (reader entry.1.1) (text (level + 1) entry.1.2) entry.2) :
    ∃ inner, text level (.object (entries.map Prod.fst)) = '\x7b' :: inner ∧
      ∀ rest, readMembers (readMember reader) (inner ++ rest) =
        some (entries.map fun entry => (entry.1.1, entry.2), rest) := by
  obtain ⟨gaps, gap, blank, written⟩ := layout.object level (entries.map Prod.fst)
  refine ⟨_, written, ?_⟩
  intro rest
  have read : ∀ entry ∈ entries.map fun entry =>
      (memberText form gap entry.1.1 (text (level + 1) entry.1.2), (entry.1.1, entry.2)),
      Reads (readMember reader) entry.1 entry.2 := by
    intro entry member
    obtain ⟨part, among, rfl⟩ := List.mem_map.mp member
    exact reads_member form blank (each part among)
  have members := readMembers_text gaps read rest
  simp only [List.map_map, Function.comp_def] at members ⊢
  rw [List.append_assoc]
  exact members

end Layout

end UniversalModule.Json
