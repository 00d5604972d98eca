import EmbeddedTests.Block.Classify
import EmbeddedTests.Proofs.BufferLines

/-!
# Tags in front of code

A bug tag, or what an error or warning block expects, stands in front of the code. A text is open
if it does not say whether there is a tag: it is blank, or has the beginning of a tag and not its
end. What is read from an open text, from one with a tag, and from any other.
-/
namespace EmbeddedTests

open Text

namespace Text

theorem take_while_append_cons {p : Char → Bool} {stop : Char} (front rest : Text)
    (h : p stop = false) : (front ++ stop :: rest).takeWhile p = front.takeWhile p := by
  induction front with
  | nil => simp [h]
  | cons c front ih =>
    rw [List.cons_append, List.takeWhile_cons, List.takeWhile_cons, ih]

theorem cut_at_append_cons {sep : Char} {before : Text} (after : Text) (first : sep ∉ before) :
    cutAt? sep (before ++ sep :: after) = some (before, after) := by
  induction before with
  | nil => simp [cutAt?]
  | cons c before ih =>
    have here : c ≠ sep := fun same => first (same ▸ List.mem_cons_self)
    have later := ih fun member => first (List.mem_cons_of_mem c member)
    simp [cutAt?, here, later]

theorem cut_at_eq_none {sep : Char} {t : Text} (absent : sep ∉ t) : cutAt? sep t = none := by
  induction t with
  | nil => rfl
  | cons c rest ih =>
    have here : c ≠ sep := fun same => absent (same ▸ List.mem_cons_self)
    have later := ih fun member => absent (List.mem_cons_of_mem c member)
    simp [cutAt?, here, later]

theorem trim_start_append {t : Text} (later : Text) (filled : trimStart t ≠ []) :
    trimStart (t ++ later) = trimStart t ++ later := by
  unfold trimStart at filled ⊢
  rw [List.dropWhile_append, if_neg (by simpa using filled)]

theorem trim_start_blank_append {t : Text} (later : Text) (blank : trimStart t = []) :
    trimStart (t ++ later) = trimStart later := by
  unfold trimStart at blank ⊢
  rw [List.dropWhile_append, if_pos (by simp [blank])]

theorem first_word_eq_none {t : Text} (blank : trimStart t = []) : firstWord? t = none := by
  unfold firstWord?
  rw [blank]

theorem first_word_eq_some {t : Text} {c : Char} {rest : Text} (start : trimStart t = c :: rest) :
    firstWord? t = some ((c :: rest).takeWhile (!isBlank ·),
      trimStart ((c :: rest).dropWhile (!isBlank ·))) := by
  unfold firstWord?
  rw [start]

theorem first_word_line_feed {t : Text} (later : Text) (filled : trimStart t ≠ []) :
    ∃ word rest rest', firstWord? t = some (word, rest) ∧
      firstWord? (t ++ '\n' :: later) = some (word, rest') := by
  obtain ⟨c, rest, start⟩ := List.exists_cons_of_ne_nil filled
  have longer := trim_start_append ('\n' :: later) filled
  rw [start, List.cons_append] at longer
  have word : (c :: (rest ++ '\n' :: later)).takeWhile (!isBlank ·) =
      (c :: rest).takeWhile (!isBlank ·) :=
    take_while_append_cons (c :: rest) later rfl
  have below := first_word_eq_some longer
  rw [word] at below
  exact ⟨_, _, _, first_word_eq_some start, below⟩

end Text

/-- In front of the text stands a tag in angle brackets. -/
structure Tagged (t tag rest : Text) : Prop where
  start : trimStart t = '<' :: (tag ++ '>' :: rest)
  first : '>' ∉ tag

/-- The text does not say whether there is a tag. -/
inductive IsOpen (t : Text) : Prop where
  | blank (none : trimStart t = [])
  | unclosed (rest : Text) (start : trimStart t = '<' :: rest) (opened : '>' ∉ rest)

theorem tag_cases (t : Text) : IsOpen t ∨ (∃ tag rest, Tagged t tag rest) ∨
    ∃ c rest, trimStart t = c :: rest ∧ c ≠ '<' := by
  cases start : trimStart t with
  | nil => exact .inl (.blank start)
  | cons c rest =>
    by_cases tag : c = '<'
    · subst tag
      by_cases closed : '>' ∈ rest
      · obtain ⟨tag, after, rfl, first⟩ := List.eq_append_cons_of_mem closed
        exact .inr (.inl ⟨tag, after, start, first⟩)
      · exact .inl (.unclosed rest start closed)
    · exact .inr (.inr ⟨c, rest, rfl, tag⟩)

theorem Tagged.line_feed {t tag rest : Text} (h : Tagged t tag rest) (later : Text) :
    Tagged (t ++ '\n' :: later) tag (rest ++ '\n' :: later) := by
  refine ⟨?_, h.first⟩
  rw [trim_start_append _ (by simp [h.start]), h.start, List.cons_append, List.append_assoc,
    List.cons_append]

theorem IsOpen.tag_below {t : Text} (h : IsOpen t) : ∃ later tag,
    '\n' ∉ later ∧ IsContinuation later ∧ Tagged (t ++ '\n' :: later) tag [] ∧
      tag ≠ [] ∧ tag ≠ anything := by
  cases h with
  | blank none =>
    refine ⟨" <1>", "1", by decide, by decide, ⟨?_, by decide⟩, by decide, by decide⟩
    rw [trim_start_blank_append _ none]
    rfl
  | unclosed rest start opened =>
    refine ⟨" >", rest ++ "\n ", by decide, by decide, ⟨?_, by simp [opened]⟩, by simp, ?_⟩
    · rw [trim_start_append _ (by simp [start]), start]
      simp
    · intro same
      -- The tag has two characters at least, the pattern that matches anything has one.
      have long := congrArg List.length same
      simp [anything] at long

section

variable {t tag rest : Text} {c : Char}

theorem take_bug_tagged (h : Tagged t tag rest) : takeBug t = (BugTag.ofText tag, rest) := by
  simp only [takeBug, h.start, cut_at_append_cons rest h.first]

theorem take_bug_open (h : IsOpen t) : takeBug t = ({}, t) := by
  cases h with
  | blank none => simp only [takeBug, none]
  | unclosed rest start opened => simp only [takeBug, start, cut_at_eq_none opened]

theorem take_bug_untagged (start : trimStart t = c :: rest) (other : c ≠ '<') :
    takeBug t = ({}, t) := by
  unfold takeBug
  rw [start]
  split
  · rename_i tagged
    exact absurd (List.cons.inj tagged).1 other
  · rfl

theorem BugTag.of_text_ne (written : tag ≠ []) : BugTag.ofText tag ≠ {} := by
  unfold ofText
  split
  · simp
  · simpa using written

theorem take_expectation_tagged (h : Tagged t tag rest) :
    takeExpectation t = (.matching tag, rest) := by
  simp only [takeExpectation, h.start, cut_at_append_cons rest h.first]

theorem take_expectation_open (h : IsOpen t) : takeExpectation t = (.matching anything, t) := by
  cases h with
  | blank none => simp only [takeExpectation, none]
  | unclosed rest start opened => simp only [takeExpectation, start, cut_at_eq_none opened]

theorem take_expectation_id (start : trimStart t = "id=" ++ rest) :
    takeExpectation t = match firstWord? rest with
      | some (id, rest) => (.identified id, rest)
      | none => (.matching anything, t) := by
  unfold takeExpectation
  rw [start]
  rfl

theorem take_expectation_identified {word later : Text} (start : trimStart t = "id=" ++ rest)
    (first : firstWord? rest = some (word, later)) :
    takeExpectation t = (.identified word, later) := by
  rw [take_expectation_id start, first]

theorem take_expectation_nameless (start : trimStart t = "id=" ++ rest)
    (blank : trimStart rest = []) : takeExpectation t = (.matching anything, t) := by
  rw [take_expectation_id start, first_word_eq_none blank]

theorem take_expectation_untagged (start : trimStart t = c :: rest) (other : c ≠ '<')
    (nameless : startsWith "id=" (trimStart t) = false) :
    takeExpectation t = (.matching anything, t) := by
  unfold takeExpectation
  rw [start] at nameless ⊢
  split
  · rename_i tagged
    exact absurd (List.cons.inj tagged).1 other
  · rename_i identified
    rw [identified] at nameless
    cases nameless
  · rfl

end

end EmbeddedTests
