import UniversalModule.Proofs.Json.Strings

/-!
Arrays and objects read back from their texts, for any reader of their items and any space around
these: it is enough that each item is read back whatever delimiter follows. The fuel of the repeated
readers is the length of the text, which is never less than the number of items.
-/

namespace UniversalModule.Json

def endsItem (c : Char) : Bool := c == ',' || c == ']' || c == '\x7d' || isSpace c

def Delimited (text : Text) : Prop := ∀ c rest, text = c :: rest → endsItem c = true

theorem delimited_cons {c : Char} (ends : endsItem c = true) (rest : Text) : Delimited (c :: rest) := by
  intro d more same
  rw [← (List.cons.inj same).1]
  exact ends

theorem delimited_gap {gap : Text} (blank : gap.all isSpace = true) {rest : Text} (ends : Delimited rest) :
    Delimited (gap ++ rest) := by
  cases gap with
  | nil => exact ends
  | cons c more =>
      have space : isSpace c = true := List.all_eq_true.mp blank c List.mem_cons_self
      exact delimited_cons (by simp [endsItem, space]) (more ++ rest)

/-- A character with which an item begins: it is no space and closes nothing. -/
def startsItem (c : Char) : Bool := !isSpace c && c != ']' && c != '\x7d'

structure Reads {α : Type} (item : Reader α) (text : Text) (value : α) : Prop where
  starts : ∃ c more, text = c :: more ∧ startsItem c = true
  reads : ∀ rest, Delimited rest → item (text ++ rest) = some (value, rest)

theorem skipSpace_gap {gap : Text} (blank : gap.all isSpace = true) {c : Char} (tight : isSpace c = false)
    (rest : Text) : skipSpace (gap ++ c :: rest) = c :: rest := by
  rw [skipSpace, List.dropWhile_append_of_pos (List.all_eq_true.mp blank), List.dropWhile_cons,
    if_neg (by simp [tight])]

theorem skipSpace_cons {c : Char} (tight : isSpace c = false) (rest : Text) :
    skipSpace (c :: rest) = c :: rest := @skipSpace_gap [] rfl c tight rest

variable {α : Type} {item : Reader α}

theorem Reads.skipSpace_gap {gap text : Text} {value : α} (read : Reads item text value)
    (blank : gap.all isSpace = true) (rest : Text) : skipSpace (gap ++ (text ++ rest)) = text ++ rest := by
  obtain ⟨c, more, rfl, starts⟩ := read.starts
  have tight : isSpace c = false := by
    simp only [startsItem, Bool.and_eq_true, Bool.not_eq_true'] at starts
    exact starts.1.1
  exact Json.skipSpace_gap blank tight (more ++ rest)

theorem Reads.ne_cons {text : Text} {value : α} (read : Reads item text value) {c : Char}
    (closing : startsItem c = false) {rest more : Text} : text ++ rest ≠ c :: more := by
  obtain ⟨d, tail, rfl, starts⟩ := read.starts
  intro same
  rw [List.cons_append] at same
  rw [(List.cons.inj same).1, closing] at starts
  exact absurd starts (by simp)

theorem Reads.readWhole {text : Text} {value : α} (read : Reads item text value) :
    readWhole item text = some value := by
  have tight := @Reads.skipSpace_gap α item [] text value read rfl []
  have whole := read.reads [] (fun c rest same => absurd same (by simp))
  rw [List.nil_append, List.append_nil] at tight
  rw [List.append_nil] at whole
  simp only [Json.readWhole, tight, whole, Option.bind_eq_bind, Option.bind_some]
  rfl

def commaBefore (gap : Text) (texts : List Text) : Text := texts.flatMap fun text => ',' :: (gap ++ text)

theorem joinWith_comma_cons (gap text : Text) (texts : List Text) :
    Text.joinWith (',' :: gap) (text :: texts) = text ++ commaBefore gap texts := by
  induction texts generalizing text with
  | nil => simp [Text.joinWith, commaBefore]
  | cons next rest induction =>
      rw [Text.joinWith, induction, commaBefore, commaBefore, List.flatMap_cons, List.append_assoc]
      simp only [List.cons_append, List.append_assoc]

theorem length_lt_commaBefore (gap : Text) (texts : List Text) (last : Text) (closing : Char) (rest : Text) :
    texts.length < (commaBefore gap texts ++ (last ++ closing :: rest)).length := by
  induction texts with
  | nil =>
      simp only [commaBefore, List.flatMap_nil, List.length_append, List.length_cons, List.length_nil]
      omega
  | cons text more induction =>
      simp only [commaBefore, List.flatMap_cons, List.length_append, List.length_cons] at induction ⊢
      omega

theorem delimited_commaBefore (gap : Text) (texts : List Text) {closing : Text} (ends : Delimited closing) :
    Delimited (commaBefore gap texts ++ closing) := by
  cases texts with
  | nil => exact ends
  | cons text rest => exact delimited_cons rfl _

/-- The space in a container: before its first item, behind its commas, and behind its last item. -/
structure Gaps where
  first : Text
  between : Text
  last : Text
  blank : (first ++ (between ++ last)).all isSpace = true

namespace Gaps

def none : Gaps := ⟨[], [], [], rfl⟩

def text (gaps : Gaps) (texts : List Text) : Text :=
  gaps.first ++ (Text.joinWith (',' :: gaps.between) texts ++ gaps.last)

variable (gaps : Gaps)

theorem blanks : gaps.first.all isSpace = true ∧ gaps.between.all isSpace = true ∧
    gaps.last.all isSpace = true := by
  have blank := gaps.blank
  rw [List.all_append, List.all_append, Bool.and_eq_true, Bool.and_eq_true] at blank
  exact blank

theorem delimited_last {closing : Char} (ends : endsItem closing = true) (texts : List Text) (rest : Text) :
    Delimited (commaBefore gaps.between texts ++ (gaps.last ++ closing :: rest)) :=
  delimited_commaBefore _ _ (delimited_gap gaps.blanks.2.2 (delimited_cons ends rest))

/-- Behind an opening bracket: either there is nothing but space up to the closing one, or the first
item and then the others. -/
theorem skipSpace_text {closing : Char} (tight : isSpace closing = false) (rest : Text)
    {entries : List (Text × α)} (each : ∀ entry ∈ entries, Reads item entry.1 entry.2) :
    skipSpace (gaps.text (entries.map Prod.fst) ++ closing :: rest) =
      match entries with
      | [] => closing :: rest
      | entry :: more =>
          entry.1 ++ (commaBefore gaps.between (more.map Prod.fst) ++ (gaps.last ++ closing :: rest)) := by
  obtain ⟨first, -, last⟩ := gaps.blanks
  cases entries with
  | nil =>
      have blank : (gaps.first ++ gaps.last).all isSpace = true := by simp [first, last]
      have bare : gaps.text [] = gaps.first ++ gaps.last := rfl
      rw [List.map_nil, bare]
      exact skipSpace_gap blank tight rest
  | cons entry more =>
      have read := each entry List.mem_cons_self
      rw [text, List.map_cons, joinWith_comma_cons, List.append_assoc, List.append_assoc, List.append_assoc,
        read.skipSpace_gap first]

end Gaps

/-- A reader of the items up to a closing character, by way of a reader of those behind the first. -/
structure Lists (closing : Char) (item : Reader α) (others : Nat → Reader (List α))
    (whole : Reader (List α)) : Prop where
  ends : endsItem closing = true
  tight : isSpace closing = false
  closes : startsItem closing = false
  last : ∀ {fuel : Nat} {text rest : Text}, skipSpace text = closing :: rest →
    others (fuel + 1) text = some ([], rest)
  next : ∀ {fuel : Nat} {text after more rest : Text} {value : α} {values : List α},
    skipSpace text = ',' :: after → item (skipSpace after) = some (value, more) →
    others fuel more = some (values, rest) → others (fuel + 1) text = some (value :: values, rest)
  empty : ∀ {text rest : Text}, skipSpace text = closing :: rest → whole text = some ([], rest)
  first : ∀ {text more rest : Text} {value : α} {values : List α},
    (∀ rest, skipSpace text ≠ closing :: rest) → item (skipSpace text) = some (value, more) →
    others more.length more = some (values, rest) → whole text = some (value :: values, rest)

theorem lists_items (item : Reader α) : Lists ']' item (readMoreItems item) (readItems item) where
  ends := rfl
  tight := rfl
  closes := rfl
  last closed := by
    rw [readMoreItems, closed]
    rfl
  next comma read others := by
    rw [readMoreItems, comma]
    simp only [read, others, Option.bind_eq_bind, Option.bind_some]
  empty closed := by
    rw [readItems, closed]
    rfl
  first opened read others := by
    unfold readItems
    split
    · next same => exact absurd same (opened _)
    · simp only [read, others, Option.bind_eq_bind, Option.bind_some]

theorem lists_members (item : Reader α) : Lists '\x7d' item (readMoreMembers item) (readMembers item) where
  ends := rfl
  tight := rfl
  closes := rfl
  last closed := by
    rw [readMoreMembers, closed]
    rfl
  next comma read others := by
    rw [readMoreMembers, comma]
    simp only [read, others, Option.bind_eq_bind, Option.bind_some]
  empty closed := by
    rw [readMembers, closed]
    rfl
  first opened read others := by
    unfold readMembers
    split
    · next same => exact absurd same (opened _)
    · simp only [read, others, Option.bind_eq_bind, Option.bind_some]

namespace Lists

variable {closing : Char} {others : Nat → Reader (List α)} {whole : Reader (List α)}

theorem others_commaBefore (lists : Lists closing item others whole) (gaps : Gaps)
    {entries : List (Text × α)} (each : ∀ entry ∈ entries, Reads item entry.1 entry.2) {fuel : Nat}
    (enough : entries.length < fuel) (rest : Text) :
    others fuel (commaBefore gaps.between (entries.map Prod.fst) ++ (gaps.last ++ closing :: rest)) =
      some (entries.map Prod.snd, rest) := by
  obtain ⟨-, between, last⟩ := gaps.blanks
  induction entries generalizing fuel with
  | nil =>
      obtain ⟨fuel, rfl⟩ := Nat.exists_eq_succ_of_ne_zero (Nat.ne_of_gt enough)
      exact lists.last (skipSpace_gap last lists.tight rest)
  | cons entry more induction =>
      obtain ⟨fuel, rfl⟩ := Nat.exists_eq_succ_of_ne_zero (Nat.ne_of_gt (Nat.zero_lt_of_lt enough))
      have read := each entry List.mem_cons_self
      have found := induction (fun other member => each other (List.mem_cons_of_mem entry member))
        (Nat.lt_of_succ_lt_succ enough)
      have text : commaBefore gaps.between ((entry :: more).map Prod.fst) ++ (gaps.last ++ closing :: rest) =
          ',' :: (gaps.between ++ (entry.1 ++
            (commaBefore gaps.between (more.map Prod.fst) ++ (gaps.last ++ closing :: rest)))) := by
        simp [commaBefore]
      rw [text]
      apply lists.next (skipSpace_cons (by decide) _) _ found
      rw [read.skipSpace_gap between]
      exact read.reads _ (gaps.delimited_last lists.ends _ rest)

theorem whole_text (lists : Lists closing item others whole) (gaps : Gaps)
    {entries : List (Text × α)} (each : ∀ entry ∈ entries, Reads item entry.1 entry.2) (rest : Text) :
    whole (gaps.text (entries.map Prod.fst) ++ closing :: rest) = some (entries.map Prod.snd, rest) := by
  have skipped := gaps.skipSpace_text lists.tight rest each
  cases entries with
  | nil => exact lists.empty skipped
  | cons entry more =>
      have read := each entry List.mem_cons_self
      have enough := length_lt_commaBefore gaps.between (more.map Prod.fst) gaps.last closing rest
      rw [List.length_map] at enough
      apply lists.first
      · intro after
        rw [skipped]
        exact read.ne_cons lists.closes
      · rw [skipped]
        exact read.reads _ (gaps.delimited_last lists.ends _ rest)
      · exact lists.others_commaBefore gaps
          (fun other member => each other (List.mem_cons_of_mem entry member)) enough rest

end Lists

/-- The items of an array are read back up to its closing bracket. -/
theorem readItems_text (gaps : Gaps) {entries : List (Text × α)}
    (each : ∀ entry ∈ entries, Reads item entry.1 entry.2) (rest : Text) :
    readItems item (gaps.text (entries.map Prod.fst) ++ ']' :: rest) = some (entries.map Prod.snd, rest) :=
  (lists_items item).whole_text gaps each rest

/-- The members of an object are read back up to its closing brace. -/
theorem readMembers_text (gaps : Gaps) {entries : List (Text × α)}
    (each : ∀ entry ∈ entries, Reads item entry.1 entry.2) (rest : Text) :
    readMembers item (gaps.text (entries.map Prod.fst) ++ '\x7d' :: rest) =
      some (entries.map Prod.snd, rest) :=
  (lists_members item).whole_text gaps each rest

theorem reads_quoted (form : Form) (text : Text) : Reads readText (quoted form text) text where
  starts := ⟨'"', _, rfl, by decide⟩
  reads rest _ := readText_quoted form text rest

def memberText (form : Form) (gap key text : Text) : Text := quoted form key ++ ':' :: (gap ++ text)

/-- A member is read back when the reader that its key chooses reads the value back. -/
theorem reads_member (form : Form) {gap : Text} (blank : gap.all isSpace = true) {reader : Text → Reader α}
    {key text : Text} {value : α} (read : Reads (reader key) text value) :
    Reads (readMember reader) (memberText form gap key text) (key, value) where
  starts := ⟨'"', _, rfl, by decide⟩
  reads rest delimited := by
    simp only [readMember, memberText, List.append_assoc, List.cons_append, readText_quoted,
      skipSpace_cons (show isSpace ':' = false by decide), read.skipSpace_gap blank,
      read.reads rest delimited, Option.bind_eq_bind, Option.bind_some]

namespace Value

theorem renderItems_eq_joinWith (form : Form) (items : List Value) :
    renderItems form items = Text.joinWith [','] (items.map (render form)) := by
  induction items with
  | nil => rfl
  | cons first rest induction =>
      cases rest with
      | nil => rfl
      | cons next more =>
          rw [renderItems, induction, List.map_cons (a := first), Text.joinWith_cons (by simp),
            List.append_assoc]
          rfl

theorem renderMembers_eq_joinWith (form : Form) (members : List (Text × Value)) :
    renderMembers form members =
      Text.joinWith [','] (members.map fun member => memberText form [] member.1 (render form member.2)) := by
  induction members with
  | nil => rfl
  | cons first rest induction =>
      cases rest with
      | nil => rfl
      | cons next more =>
          rw [renderMembers, induction, List.map_cons (a := first), Text.joinWith_cons (by simp), memberText,
            List.append_assoc, List.append_assoc]
          rfl

theorem render_array (form : Form) (items : List Value) :
    render form (.array items) = '[' :: (Text.joinWith [','] (items.map (render form)) ++ [']']) := by
  rw [← renderItems_eq_joinWith]
  rfl

theorem render_object (form : Form) (members : List (Text × Value)) :
    render form (.object members) =
      '\x7b' :: (Text.joinWith [','] (members.map fun member =>
        memberText form [] member.1 (render form member.2)) ++ ['\x7d']) := by
  rw [← renderMembers_eq_joinWith]
  rfl

end Value

end UniversalModule.Json
