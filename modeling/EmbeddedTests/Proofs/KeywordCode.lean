import EmbeddedTests.Proofs.Identifiers

/-!
# Assertions behind a bug tag

The keyword of an assertion stays with its code, directly before what follows the bug tag. If that
starts with a character of an identifier, the two become one word; in all other cases the code is
what it is without a tag, up to blanks after the keyword.
-/
namespace EmbeddedTests

open Text

namespace Text

/-- Does the text go on with a word that stands directly before it? -/
def continuesWord (t : Text) : Bool := t.head?.any identifierPart.contains

theorem ends_with_colon_append {t : Text} (front : Text) (some : t ≠ []) :
    endsWith ":" (front ++ t) = endsWith ":" t := by
  obtain ⟨start, last, rfl⟩ := List.eq_nil_or_concat t |>.resolve_left some
  by_cases colon : ':' = last
  · subst colon
    simp [endsWith, startsWith, after?]
  · simp [endsWith, startsWith, after?, colon]

theorem trim_end_visible_append {word : Text} (t : Text) (visible : ∀ c ∈ word, isBlank c = false) :
    trimEnd (word ++ t) = word ++ trimEnd t := by
  rcases List.eq_nil_or_concat word with rfl | ⟨start, last, rfl⟩
  · rfl
  · have stops : isBlank last = false := visible last (by simp)
    have kept := drop_end_append_cons_of_not start t stops
    simpa [trimEnd] using kept

end Text

def codeAfterWord (lead body : Text) : Text :=
  if allBlank body then lead
  else lead ++ '\n' ::
    if endsWith ":" lead then joinLines (nestLines (splitOn '\n' (trimEnd body))) else trimEnd body

section

variable {word : Text}

theorem normalize_code_word (t : Text) (visible : ∀ c ∈ word, isBlank c = false)
    (plain : '#' ∉ word) (some : word ≠ []) (uncolonned : endsWith ":" word = false) :
    normalizeCode (word ++ t) =
      word ++ codeAfterWord (trimEnd (firstLine t)) (bodyText (laterLines t)) := by
  have one : ∀ c ∈ word, decide (c ≠ '\n') = true := by
    intro c member
    refine decide_eq_true fun feed => ?_
    have blank := visible c member
    rw [feed] at blank
    cases blank
  have first : firstLine (word ++ t) = word ++ firstLine t := List.takeWhile_append_of_pos one
  have later : laterLines (word ++ t) = laterLines t := by
    rw [laterLines, List.dropWhile_append_of_pos one, laterLines]
  obtain ⟨c, rest, rfl⟩ := List.exists_cons_of_ne_nil some
  have trimmed : trim (c :: rest ++ firstLine t) = c :: (rest ++ trimEnd (firstLine t)) := by
    have here : isBlank c = false := visible c List.mem_cons_self
    rw [trim, strip, List.cons_append, List.dropWhile_cons_of_neg (by simp [here])]
    exact trim_end_visible_append (firstLine t) visible
  have lead : leadText (c :: rest ++ firstLine t) = c :: rest ++ trimEnd (firstLine t) := by
    exact lead_text_of_ne trimmed fun same => plain (same ▸ List.mem_cons_self)
  have colon : endsWith ":" (c :: rest ++ trimEnd (firstLine t)) =
      endsWith ":" (trimEnd (firstLine t)) := by
    by_cases none : trimEnd (firstLine t) = []
    · rw [none, List.append_nil, uncolonned]
      rfl
    · exact ends_with_colon_append _ none
  rw [normalizeCode, first, later, lead, joinCode, codeAfterWord, colon]
  cases allBlank (bodyText (laterLines t)) with
  | true => rfl
  | false => cases endsWith ":" (trimEnd (firstLine t)) <;> simp

end

theorem code_after_word_space {t : Text} (body : Text) (some : t ≠ []) :
    codeAfterWord (' ' :: t) body = ' ' :: codeAfterWord t body := by
  have colon : endsWith ":" (' ' :: t) = endsWith ":" t := ends_with_colon_append [' '] some
  rw [codeAfterWord, codeAfterWord, colon]
  cases allBlank body <;> rfl

theorem code_after_word_spaced (t body : Text) :
    codeAfterWord (trimEnd (' ' :: t)) body =
      if allBlank t then codeAfterWord (trimEnd t) body
      else ' ' :: codeAfterWord (trimEnd t) body := by
  cases blank : allBlank t with
  | true =>
    have none : allBlank (' ' :: t) = true := by simpa [allBlank, isBlank] using blank
    rw [if_pos rfl, trim_end_of_blank none, trim_end_of_blank blank]
  | false =>
    have some : trimEnd t ≠ [] := by
      intro none
      obtain ⟨back, whole, all⟩ := exists_drop_end_append isBlank t
      have nothing : dropEnd isBlank t = [] := none
      rw [nothing, List.nil_append] at whole
      rw [whole, allBlank, List.all_eq_true.mpr all] at blank
      cases blank
    have kept : trimEnd (' ' :: t) = ' ' :: trimEnd t := trim_end_append_filled [' '] blank
    rw [if_neg Bool.false_ne_true, kept, code_after_word_space body some]

theorem continues_word_cons_of_blank {c : Char} (t : Text) (blank : isBlank c = true) :
    continuesWord (c :: t) = false :=
  not_part_of_blank blank

theorem continues_word_code_after_word (t body : Text) :
    continuesWord (codeAfterWord (trimEnd (firstLine t)) body) = continuesWord t := by
  have feed : isBlank '\n' = true := rfl
  cases kept : trimEnd (firstLine t) with
  | nil =>
    have below : continuesWord (codeAfterWord [] body) = false := by
      unfold codeAfterWord
      split
      · rfl
      · exact continues_word_cons_of_blank _ feed
    rw [below]
    cases t with
    | nil => rfl
    | cons c rest =>
      -- The first character is blank: it ends the first line, or is on a line of blanks.
      by_cases line : c = '\n'
      · rw [line, continues_word_cons_of_blank rest feed]
      · obtain ⟨back, whole, all⟩ := exists_drop_end_append isBlank (firstLine (c :: rest))
        have first : firstLine (c :: rest) = c :: firstLine rest := by simp [firstLine, line]
        rw [trimEnd] at kept
        rw [kept, List.nil_append, first] at whole
        have blank : isBlank c = true := all c (whole ▸ List.mem_cons_self)
        rw [continues_word_cons_of_blank rest blank]
  | cons c rest =>
    have head : c ∈ (firstLine t).head? := head_drop_end (p := isBlank) (by
      rw [← trimEnd, kept]
      rfl)
    have start : t.head? = some c := by
      cases t with
      | nil => cases head
      | cons d later =>
        by_cases line : d = '\n'
        · simp [firstLine, line] at head
        · simpa [firstLine, line] using head
    have code : (codeAfterWord (c :: rest) body).head? = some c := by
      unfold codeAfterWord
      split <;> rfl
    rw [continuesWord, code, continuesWord, start]

theorem classify_assertion (t : Text) :
    classify ("assert" ++ ' ' :: t) = assertionContent .assert "assert" (' ' :: t) := by
  have word : keyword ("assert" ++ ' ' :: t) = "assert" :=
    take_while_append_cons_of_not t (List.all_eq_true.mp (by decide)) rfl
  have known : keywordKind? "assert" = some .assert := rfl
  unfold classify
  simp only [word, known]
  rfl

theorem normalize_code_assertion (t : Text) :
    normalizeCode ("assert" ++ t) =
      "assert" ++ codeAfterWord (trimEnd (firstLine t)) (bodyText (laterLines t)) := by
  apply normalize_code_word
  · exact none_of_all (by decide)
  · decide
  · decide
  · decide

theorem take_bug_space {t : Text} (untagged : ∀ tag rest, ¬ Tagged t tag rest) :
    takeBug (' ' :: t) = ({}, ' ' :: t) := by
  have start : trimStart (' ' :: t) = trimStart t := rfl
  rcases tag_cases (' ' :: t) with undecided | ⟨tag, rest, tagged⟩ | ⟨c, rest, first, other⟩
  · exact take_bug_open undecided
  · exact absurd ⟨start ▸ tagged.start, tagged.first⟩ (untagged tag rest)
  · exact take_bug_untagged first other

/-- An assertion with a bug tag has that tag, and its code is that of the same assertion without a
tag up to one space after the keyword. The keyword is glued to what follows it exactly if a
character of an identifier stands right after the tag. -/
theorem tagged_assertion_is_glued_iff {id e : Text} (closed : '>' ∉ id) :
    ∃ code plain : Text,
      (parseBlock ("assert <" ++ id ++ ">" ++ e)).content =
        .check .assert (BugTag.ofText id) ("assert" ++ code) ∧
      normalizeCode ("assert " ++ e) = "assert" ++ plain ∧
      ((∀ tag rest, ¬ Tagged e tag rest) →
        (parseBlock ("assert " ++ e)).content = .check .assert {} ("assert" ++ plain)) ∧
      (plain = code ∨ plain = ' ' :: code) ∧ continuesWord plain = false ∧
      continuesWord code = continuesWord e := by
  let body := bodyText (laterLines e)
  let code := codeAfterWord (trimEnd (firstLine e)) body
  let plain := codeAfterWord (trimEnd (' ' :: firstLine e)) body
  have glued : continuesWord code = continuesWord e := continues_word_code_after_word e body
  have spaced : plain = if allBlank (firstLine e) then code else ' ' :: code :=
    code_after_word_spaced (firstLine e) body
  have unmarked : normalizeCode ("assert " ++ e) = "assert" ++ plain :=
    normalize_code_assertion (' ' :: e)
  refine ⟨code, plain, ?_, unmarked, ?_, ?_, ?_, glued⟩
  · have written : ("assert <" ++ id ++ ">" ++ e : Text) =
        "assert" ++ ' ' :: ('<' :: (id ++ '>' :: e)) := by simp
    have tagged : Tagged (' ' :: '<' :: (id ++ '>' :: e)) id e := ⟨rfl, closed⟩
    rw [parseBlock, written, classify_assertion, assertionContent, take_bug_tagged tagged]
    exact congrArg (Content.check .assert (BugTag.ofText id)) (normalize_code_assertion e)
  · intro untagged
    have written : ("assert " ++ e : Text) = "assert" ++ ' ' :: e := rfl
    rw [parseBlock, written, classify_assertion, assertionContent, take_bug_space untagged]
    exact congrArg (Content.check .assert {}) unmarked
  · rw [spaced]
    split
    · exact .inl rfl
    · exact .inr rfl
  · exact continues_word_code_after_word (' ' :: e) body

/-- A space after the tag keeps the keyword apart. -/
theorem spaced_assertion_is_not_glued :
    '>' ∉ ("*42" : Text) ∧ continuesWord " x == 1" = false ∧
      ∃ code plain : Text,
        (parseBlock "assert <*42> x == 1").content =
          .check .assert ⟨"42", true⟩ ("assert" ++ code) ∧
        normalizeCode "assert  x == 1" = "assert" ++ plain ∧
        (plain = code ∨ plain = ' ' :: code) ∧ continuesWord plain = false ∧
        continuesWord code = continuesWord " x == 1" := by
  have closed : '>' ∉ ("*42" : Text) := by decide
  obtain ⟨code, plain, tagged, written, -, alike⟩ :=
    tagged_assertion_is_glued_iff (e := " x == 1") closed
  exact ⟨closed, by decide, code, plain, tagged, written, alike⟩

/-- Without a space after the tag the keyword and the first name of the condition become one name,
so that the block runs other code, and the bug excuses its failure. -/
theorem keyword_is_glued_after_tag :
    let id : Text := "42"
    let e : Text := "x == 1"
    ('>' ∉ id ∧ e ≠ [] ∧ e.head? ≠ some '<' ∧ e.head? ≠ some '#') ∧
      (parseBlock ("assert <" ++ id ++ ">" ++ e)).content =
        .check .assert ⟨"42", false⟩ "assertx == 1" ∧
      (parseBlock ("assert " ++ e)).content = .check .assert {} "assert x == 1" ∧
      identifierPart.contains 'x' = true := by
  intro id e
  have glued : normalizeCode "assertx == 1" = "assertx == 1" := by decide
  have plain : normalizeCode "assert x == 1" = "assert x == 1" := by decide
  refine ⟨by decide, ?_, ?_, by decide⟩
  · exact congrArg (Content.check .assert ⟨"42", false⟩) glued
  · exact congrArg (Content.check .assert {}) plain

end EmbeddedTests
