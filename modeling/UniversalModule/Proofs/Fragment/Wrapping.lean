import UniversalModule.Fragment
import UniversalModule.Proofs.Identifier

/-!
The grammar of a wrapped template. A text can be wrapped in several ways, because blanks meet where
the function has no name, but its body is the same in all of them: it stands between the first brace
behind the parameters and the last brace of the text. Unwrapping keeps that body and nothing else.
-/

namespace UniversalModule

namespace Wrapper

abbrev Gap := { text : Text // Text.allBlank text = true }

def noGap : Gap := ⟨[], rfl⟩

def space : Gap := ⟨" ", by decide⟩

structure Header where
  start : Gap
  beforeSign : Gap
  beforeFunction : Gap
  beforeName : Gap
  name : Text
  named : ∀ c ∈ name, isNamePart c = true
  afterName : Gap
  parameters : Text
  unclosed : ')' ∉ parameters
  beforeBrace : Gap

def Header.signature (header : Header) : Text :=
  header.start.1 ++ "module.exports" ++ header.beforeSign.1 ++ "=" ++ header.beforeFunction.1 ++
    "function" ++ header.beforeName.1 ++ header.name ++ header.afterName.1 ++ "(" ++ header.parameters ++ ")"

def Header.text (header : Header) : Text := header.signature ++ header.beforeBrace.1 ++ "\x7b"

structure Ending where
  afterBrace : Gap
  semicolon : Bool
  last : Gap

def Ending.rest (ending : Ending) : Text :=
  ending.afterBrace.1 ++ (if ending.semicolon then [';'] else []) ++ ending.last.1

def Ending.text (ending : Ending) : Text := "\x7d" ++ ending.rest

structure Wrapped where
  header : Header
  body : Text
  ending : Ending

def Wrapped.text (wrapped : Wrapped) : Text := wrapped.header.text ++ wrapped.body ++ wrapped.ending.text

theorem skipBlanks_append (gap : Gap) (rest : Text) : skipBlanks (gap.1 ++ rest) = skipBlanks rest :=
  List.dropWhile_append_of_pos (List.all_eq_true.mp gap.2)

theorem skipBlanks_cons {c : Char} (shown : isBlank c = false) (rest : Text) :
    skipBlanks (c :: rest) = c :: rest := by
  simp [skipBlanks, shown]

theorem exists_gap (text : Text) : ∃ gap : Gap, text = gap.1 ++ skipBlanks text := by
  refine ⟨⟨text.takeWhile isBlank, List.all_takeWhile⟩, ?_⟩
  exact List.takeWhile_append_dropWhile.symm

/-- A word that does not begin with a blank is found behind any gap. -/
theorem after?_skipBlanks_iff {word : Text} (shown : word.head?.map isBlank = some false) {text rest : Text} :
    Text.after? word (skipBlanks text) = some rest ↔ ∃ gap : Gap, text = gap.1 ++ (word ++ rest) := by
  rw [Text.after?_eq_some_iff]
  constructor
  · intro found
    obtain ⟨gap, whole⟩ := exists_gap text
    refine ⟨gap, ?_⟩
    rw [← found]
    exact whole
  · rintro ⟨gap, rfl⟩
    obtain ⟨c, first, visible⟩ := Option.map_eq_some_iff.mp shown
    obtain ⟨more, rfl⟩ := List.head?_eq_some_iff.mp first
    rw [skipBlanks_append, List.cons_append, skipBlanks_cons visible]

theorem code_of_isBlank {c : Char} (blank : isBlank c = true) : c.toNat ≤ 32 ∨ 133 ≤ c.toNat := by
  simp only [isBlank, blankRanges, List.any_cons, List.any_nil, Bool.or_false, Bool.or_eq_true,
    Bool.and_eq_true, decide_eq_true_eq] at blank
  omega

theorem code_of_isNamePart {c : Char} (part : isNamePart c = true) : 36 ≤ c.toNat ∧ c.toNat ≤ 122 := by
  rcases range_of_isIdentifierPart part with ⟨low, high⟩ | ⟨low, high⟩ | ⟨low, high⟩ | rfl | rfl
  · have lowest : 97 ≤ c.toNat := low
    have highest : c.toNat ≤ 122 := high
    omega
  · have lowest : 65 ≤ c.toNat := low
    have highest : c.toNat ≤ 90 := high
    omega
  · have lowest : 48 ≤ c.toNat := low
    have highest : c.toNat ≤ 57 := high
    omega
  · decide
  · decide

theorem isNamePart_of_isBlank {c : Char} (blank : isBlank c = true) : isNamePart c = false := by
  apply Bool.eq_false_iff.mpr
  intro part
  have outside := code_of_isBlank blank
  have inside := code_of_isNamePart part
  omega

theorem dropWhile_name {name : Text} (named : ∀ c ∈ name, isNamePart c = true) (gap : Gap) (rest : Text) :
    (name ++ (gap.1 ++ '(' :: rest)).dropWhile isNamePart = gap.1 ++ '(' :: rest := by
  rw [List.dropWhile_append_of_pos named]
  obtain ⟨blanks, blank⟩ := gap
  cases blanks with
  | nil => rfl
  | cons c blanks =>
      have first : isBlank c = true := List.all_eq_true.mp blank c List.mem_cons_self
      simp [isNamePart_of_isBlank first]

theorem after?_name_iff {text rest : Text} :
    Text.after? "(" (skipBlanks ((skipBlanks text).dropWhile isNamePart)) = some rest ↔
      ∃ (before : Gap) (name : Text) (after : Gap), (∀ c ∈ name, isNamePart c = true) ∧
        text = before.1 ++ (name ++ (after.1 ++ '(' :: rest)) := by
  have opening : ("(" : Text).head?.map isBlank = some false := by decide
  constructor
  · intro found
    obtain ⟨before, whole⟩ := exists_gap text
    obtain ⟨after, remains⟩ := (after?_skipBlanks_iff opening).mp found
    refine ⟨before, (skipBlanks text).takeWhile isNamePart, after, ?_, ?_⟩
    · intro c member
      exact List.all_eq_true.mp List.all_takeWhile c member
    · have split : (skipBlanks text).takeWhile isNamePart ++ (skipBlanks text).dropWhile isNamePart =
          skipBlanks text := List.takeWhile_append_dropWhile
      rw [remains] at split
      exact whole.trans (congrArg (before.1 ++ ·) split.symm)
  · rintro ⟨before, name, after, named, rfl⟩
    apply (after?_skipBlanks_iff opening).mpr
    rw [skipBlanks_append]
    cases name with
    | nil =>
        refine ⟨⟨[], rfl⟩, ?_⟩
        rw [List.nil_append, skipBlanks_append, skipBlanks_cons (by decide)]
        rfl
    | cons c name =>
        have shown : isBlank c = false := by
          apply Bool.eq_false_iff.mpr
          intro blank
          have part := named c List.mem_cons_self
          rw [isNamePart_of_isBlank blank] at part
          exact absurd part (by simp)
        refine ⟨after, ?_⟩
        rw [List.cons_append, skipBlanks_cons shown, ← List.cons_append, dropWhile_name named]
        rfl

theorem after?_parameters_iff {text rest : Text} :
    Text.after? ")" (text.dropWhile (· != ')')) = some rest ↔
      ∃ parameters : Text, ')' ∉ parameters ∧ text = parameters ++ ')' :: rest := by
  rw [Text.after?_eq_some_iff]
  constructor
  · intro found
    refine ⟨text.takeWhile (· != ')'), ?_, ?_⟩
    · intro member
      have other := List.all_eq_true.mp List.all_takeWhile _ member
      simp at other
    · have split : text.takeWhile (· != ')') ++ text.dropWhile (· != ')') = text :=
        List.takeWhile_append_dropWhile
      rw [found] at split
      exact split.symm
  · rintro ⟨parameters, unclosed, rfl⟩
    have others : ∀ c ∈ parameters, (c != ')') = true := by
      intro c member
      simp only [bne_iff_ne, ne_eq]
      rintro rfl
      exact unclosed member
    rw [List.dropWhile_append_of_pos others]
    rfl

theorem afterHead?_eq_some_iff {source rest : Text} :
    afterHead? source = some rest ↔ ∃ header : Header, source = header.text ++ rest := by
  have keyword : ("module.exports" : Text).head?.map isBlank = some false := by decide
  have sign : ("=" : Text).head?.map isBlank = some false := by decide
  have function : ("function" : Text).head?.map isBlank = some false := by decide
  have brace : ("\x7b" : Text).head?.map isBlank = some false := by decide
  simp only [afterHead?, Option.bind_eq_bind, Option.bind_eq_some_iff]
  constructor
  · rintro ⟨afterExports, found, afterSign, foundSign, afterFunction, foundFunction, afterOpening,
      foundOpening, afterParameters, foundClosing, foundBrace⟩
    obtain ⟨start, rfl⟩ := (after?_skipBlanks_iff keyword).mp found
    obtain ⟨beforeSign, rfl⟩ := (after?_skipBlanks_iff sign).mp foundSign
    obtain ⟨beforeFunction, rfl⟩ := (after?_skipBlanks_iff function).mp foundFunction
    obtain ⟨beforeName, name, afterName, named, rfl⟩ := after?_name_iff.mp foundOpening
    obtain ⟨parameters, unclosed, rfl⟩ := after?_parameters_iff.mp foundClosing
    obtain ⟨beforeBrace, rfl⟩ := (after?_skipBlanks_iff brace).mp foundBrace
    refine ⟨⟨start, beforeSign, beforeFunction, beforeName, name, named, afterName, parameters, unclosed,
      beforeBrace⟩, ?_⟩
    simp [Header.text, Header.signature]
  · rintro ⟨header, rfl⟩
    refine ⟨_, (after?_skipBlanks_iff keyword).mpr ⟨header.start, ?_⟩, _,
      (after?_skipBlanks_iff sign).mpr ⟨header.beforeSign, rfl⟩, _,
      (after?_skipBlanks_iff function).mpr ⟨header.beforeFunction, rfl⟩, _,
      after?_name_iff.mpr ⟨header.beforeName, header.name, header.afterName, header.named, rfl⟩, _,
      after?_parameters_iff.mpr ⟨header.parameters, header.unclosed, rfl⟩,
      (after?_skipBlanks_iff brace).mpr ⟨header.beforeBrace, rfl⟩⟩
    simp [Header.text, Header.signature]

theorem after?_brace_iff {text rest : Text} :
    Text.after? "\x7d" (skipBlanks ((Text.after? ";" (skipBlanks text)).getD (skipBlanks text))) = some rest ↔
      ∃ (last : Gap) (semicolon : Bool) (afterBrace : Gap),
        text = last.1 ++ ((if semicolon then [';'] else []) ++ (afterBrace.1 ++ '\x7d' :: rest)) := by
  have brace : ("\x7d" : Text).head?.map isBlank = some false := by decide
  have mark : (";" : Text).head?.map isBlank = some false := by decide
  constructor
  · intro found
    obtain ⟨afterBrace, remains⟩ := (after?_skipBlanks_iff brace).mp found
    cases marked : Text.after? ";" (skipBlanks text) with
    | none =>
        rw [marked, Option.getD_none] at remains
        obtain ⟨last, whole⟩ := exists_gap text
        refine ⟨last, false, afterBrace, ?_⟩
        rw [remains] at whole
        exact whole
    | some before =>
        rw [marked, Option.getD_some] at remains
        obtain ⟨last, whole⟩ := (after?_skipBlanks_iff mark).mp marked
        refine ⟨last, true, afterBrace, ?_⟩
        rw [remains] at whole
        exact whole
  · rintro ⟨last, semicolon, afterBrace, rfl⟩
    apply (after?_skipBlanks_iff brace).mpr
    rw [skipBlanks_append]
    cases semicolon with
    | true => exact ⟨afterBrace, rfl⟩
    | false =>
        refine ⟨⟨[], rfl⟩, ?_⟩
        have bare : skipBlanks ([] ++ (afterBrace.1 ++ '\x7d' :: rest)) = '\x7d' :: rest := by
          rw [List.nil_append, skipBlanks_append, skipBlanks_cons (by decide)]
        simp only [Bool.false_eq_true, if_false, bare]
        rfl

theorem allBlank_reverse (gap : Gap) : Text.allBlank gap.1.reverse = true := by
  rw [Text.allBlank, List.all_reverse]
  exact gap.2

theorem beforeTail?_eq_some_iff {text body : Text} :
    beforeTail? text = some body ↔ ∃ ending : Ending, text = body ++ ending.text := by
  simp only [beforeTail?, Option.map_eq_some_iff, after?_brace_iff]
  constructor
  · rintro ⟨reversed, ⟨last, semicolon, afterBrace, whole⟩, rfl⟩
    refine ⟨⟨⟨afterBrace.1.reverse, allBlank_reverse afterBrace⟩, semicolon,
      ⟨last.1.reverse, allBlank_reverse last⟩⟩, ?_⟩
    rw [List.reverse_eq_iff.mp whole]
    cases semicolon <;> simp [Ending.text, Ending.rest]
  · rintro ⟨ending, rfl⟩
    refine ⟨body.reverse, ⟨⟨ending.last.1.reverse, allBlank_reverse ending.last⟩, ending.semicolon,
      ⟨ending.afterBrace.1.reverse, allBlank_reverse ending.afterBrace⟩, ?_⟩, List.reverse_reverse body⟩
    cases marked : ending.semicolon <;> simp [Ending.text, Ending.rest, marked]

theorem body?_eq_some_iff {source body : Text} :
    body? source = some body ↔ ∃ wrapped : Wrapped, wrapped.text = source ∧ wrapped.body = body := by
  simp only [body?, Option.bind_eq_some_iff, afterHead?_eq_some_iff, beforeTail?_eq_some_iff]
  constructor
  · rintro ⟨rest, ⟨header, rfl⟩, ending, rfl⟩
    refine ⟨⟨header, body, ending⟩, ?_, rfl⟩
    rw [Wrapped.text, List.append_assoc]
  · rintro ⟨⟨header, _, ending⟩, rfl, rfl⟩
    refine ⟨_, ⟨header, ?_⟩, ending, rfl⟩
    rw [Wrapped.text, List.append_assoc]

theorem notMem_gap {c : Char} (shown : isBlank c = false) (gap : Gap) : c ∉ gap.1 := by
  intro member
  have blank := List.all_eq_true.mp gap.2 c member
  rw [shown] at blank
  exact absurd blank (by simp)

theorem Ending.brace_notMem_rest (ending : Ending) : '\x7d' ∉ ending.rest := by
  have brace : isBlank '\x7d' = false := by decide
  have before := notMem_gap brace ending.afterBrace
  have after := notMem_gap brace ending.last
  cases marked : ending.semicolon <;> simp [rest, marked, before, after]

theorem unwrapTemplate_text (wrapped : Wrapped) : unwrapTemplate wrapped.text = wrapped.body := by
  have found := body?_eq_some_iff.mpr ⟨wrapped, rfl, rfl⟩
  rw [unwrapTemplate, found, Option.getD_some]

theorem unwrapTemplate_of_body?_eq_none {source : Text} (bare : body? source = none) :
    unwrapTemplate source = source := by
  rw [unwrapTemplate, bare, Option.getD_none]

theorem body?_eq_none_iff {source : Text} :
    body? source = none ↔ ∀ wrapped : Wrapped, wrapped.text ≠ source := by
  rw [Option.eq_none_iff_forall_ne_some]
  constructor
  · intro bare wrapped same
    exact bare wrapped.body (body?_eq_some_iff.mpr ⟨wrapped, same, rfl⟩)
  · intro bare body found
    obtain ⟨wrapped, same, -⟩ := body?_eq_some_iff.mp found
    exact bare wrapped same

/-- However a text is taken apart as a wrapped template, its body stands between the first brace behind
the parameters and the last brace of the text, and that body is what unwrapping gives; a text that
cannot be taken apart so stays as it is. -/
theorem unwrapTemplate_grammar (source : Text) :
    (∀ wrapped : Wrapped, wrapped.text = source →
      (∃ front back, source = wrapped.header.signature ++ front ++ '\x7b' :: wrapped.body ++ '\x7d' :: back ∧
        '\x7b' ∉ front ∧ '\x7d' ∉ back) ∧
      (∀ other : Wrapped, other.text = source → other.body = wrapped.body) ∧
      unwrapTemplate source = wrapped.body) ∧
    ((∀ wrapped : Wrapped, wrapped.text ≠ source) → unwrapTemplate source = source) ∧
    ∀ header body ending, unwrapTemplate (Wrapped.text ⟨header, body, ending⟩) = body := by
  refine ⟨?_, ?_, ?_⟩
  · rintro wrapped rfl
    refine ⟨⟨wrapped.header.beforeBrace.1, wrapped.ending.rest, ?_, ?_, ?_⟩, ?_, unwrapTemplate_text wrapped⟩
    · simp [Wrapped.text, Header.text, Ending.text]
    · exact notMem_gap (by decide) wrapped.header.beforeBrace
    · exact wrapped.ending.brace_notMem_rest
    · intro other same
      rw [← unwrapTemplate_text other, same, unwrapTemplate_text wrapped]
  · intro bare
    exact unwrapTemplate_of_body?_eq_none (body?_eq_none_iff.mpr bare)
  · intro header body ending
    exact unwrapTemplate_text ⟨header, body, ending⟩

/-- A name that is missing between two gaps, braces among the parameters and in the body, and more
than one gap at the end. -/
def exportedView : Wrapped where
  header :=
    { start := ⟨"\n", by decide⟩
      beforeSign := ⟨"  ", by decide⟩
      beforeFunction := noGap
      beforeName := space
      name := []
      named := by simp
      afterName := ⟨"\u2028", by decide⟩
      parameters := "bt, \x7b deep \x7d"
      unclosed := by decide
      beforeBrace := space }
  body := "\n  if (deep) \x7b bt.match(); \x7d\n"
  ending := ⟨⟨"\n", by decide⟩, true, space⟩

theorem unwrapTemplate_grammar_exportedView :
    exportedView.text =
      "\nmodule.exports  =function \u2028(bt, \x7b deep \x7d) \x7b\n  if (deep) \x7b bt.match(); \x7d\n\x7d\n; " ∧
    unwrapTemplate exportedView.text = "\n  if (deep) \x7b bt.match(); \x7d\n" ∧
    (∀ wrapped : Wrapped, wrapped.text ≠ "bt.match(function () \x7b\x7d);") ∧
    unwrapTemplate "bt.match(function () \x7b\x7d);" = "bt.match(function () \x7b\x7d);" := by
  have bare := body?_eq_none_iff.mp (show body? "bt.match(function () \x7b\x7d);" = none by decide)
  refine ⟨by decide, ?_, bare, ?_⟩
  · exact ((unwrapTemplate_grammar exportedView.text).1 exportedView rfl).2.2
  · exact (unwrapTemplate_grammar _).2.1 bare

end Wrapper

end UniversalModule
