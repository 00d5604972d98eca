import EmbeddedTests.Proofs.FunctionTokens

/-!
# Lines of code in their function

Where the lines of a block's code stand in the function around them. Every line that has something
to read starts at the margin of the code or further in, whatever ends the lines before it: `indent`
puts the margin after other ends of lines as well, and of those only the form feed starts a margin
anew. A blank line stands as it is written, and its other blanks are faults where a line starts.
-/
namespace EmbeddedTests.Snippet

open Text

/-- Texts of lines that stand as far in as the code of a block, unless they are blank. -/
inductive Deep : Text → Prop
  | nil : Deep []
  | blank {c : Char} {t : Text} (none : isBlank c = true) (later : Deep t) : Deep (c :: t)
  | line {c : Char} {h t : Text} (whole : ∀ d ∈ h, d ≠ '\n' ∧ d ≠ '\x0c') (later : Deep t) :
    Deep (bodyMargin ++ (h ++ c :: t))

namespace Deep

theorem of_append_cons {front a t b : Text} {c : Char} (plain : '\n' ∉ front)
    (h : front ++ c :: t = a ++ '\n' :: b) : t = b ∨ ∃ a', t = a' ++ '\n' :: b := by
  rcases List.append_eq_append_iff.mp h with ⟨more, rfl, rest⟩ | ⟨more, rfl, rest⟩
  · cases more with
    | nil => exact .inl (List.cons.inj rest).2
    | cons d more => exact .inr ⟨more, (List.cons.inj rest).2⟩
  · cases more with
    | nil => exact .inl (List.cons.inj rest).2.symm
    | cons d more =>
      obtain ⟨rfl, -⟩ := List.cons.inj rest
      exact absurd (by simp) plain

theorem after_feed {t a b : Text} (h : Deep t) (cut : t = a ++ '\n' :: b) : Deep b := by
  induction h generalizing a with
  | nil => exact absurd cut (by simp)
  | blank none later ih =>
    rcases @of_append_cons [] _ _ _ _ (by simp) cut with rfl | ⟨a', rest⟩
    · exact later
    · exact ih rest
  | @line c h t whole later ih =>
    have plain : '\n' ∉ bodyMargin ++ h := by
      rw [List.mem_append, not_or]
      exact ⟨by decide, fun member => (whole _ member).1 rfl⟩
    rw [← List.append_assoc] at cut
    rcases of_append_cons plain cut with rfl | ⟨a', rest⟩
    · exact later
    · exact ih rest

end Deep

namespace Lexer

def EndsDeep (m : Columns × Text) : Prop := (∀ c ∈ m.2.head?, isBlank c = true) ∨ 8 ≤ m.1.wide

theorem margin_from_other {c : Columns} {d : Char} {t : Text} (space : d ≠ ' ') (tab : d ≠ '\t')
    (form : d ≠ '\x0c') : marginFrom c (d :: t) = (c, d :: t) := by
  unfold marginFrom
  split <;> simp_all

theorem ends_deep_of_line {c : Columns} {h t : Text} {e : Char} (deep : 8 ≤ c.wide)
    (whole : ∀ d ∈ h, d ≠ '\n' ∧ d ≠ '\x0c') (later : ∀ c, EndsDeep (marginFrom c t)) :
    EndsDeep (marginFrom c (h ++ e :: t)) := by
  induction h generalizing c with
  | nil =>
    by_cases margin : e = ' ' ∨ e = '\t' ∨ e = '\x0c'
    · rcases margin with rfl | rfl | rfl <;> exact later _
    · simp only [not_or] at margin
      rw [List.nil_append, margin_from_other margin.1 margin.2.1 margin.2.2]
      exact .inr deep
  | cons d h ih =>
    have rest := fun x member => whole x (List.mem_cons_of_mem d member)
    by_cases space : d = ' '
    · subst space
      exact ih (Nat.le_succ_of_le deep) rest
    by_cases tab : d = '\t'
    · subst tab
      exact ih (by dsimp only; omega) rest
    rw [List.cons_append, margin_from_other space tab (whole d List.mem_cons_self).2]
    exact .inr deep

theorem ends_deep_of_deep {t : Text} (h : Deep t) (c : Columns) : EndsDeep (marginFrom c t) := by
  induction h generalizing c with
  | nil => exact .inl (by simp [marginFrom])
  | @blank d t none later ih =>
    by_cases margin : d = ' ' ∨ d = '\t' ∨ d = '\x0c'
    · rcases margin with rfl | rfl | rfl <;> exact ih _
    · simp only [not_or] at margin
      rw [margin_from_other margin.1 margin.2.1 margin.2.2]
      exact .inl (by simpa using none)
  | @line e h t whole later ih =>
    have wide : 8 ≤ (⟨c.wide + 8, c.narrow + 8⟩ : Columns).wide := Nat.le_add_left 8 c.wide
    exact ends_deep_of_line wide whole ih

end Lexer

open Lexer in
theorem deep_of_ended {X : Text} (e : Char) (ends : endsLine e = true)
    (later : Deep (withLineFeeds X)) :
    ∃ c u, withLineFeeds (e :: X) = c :: u ∧ isBlank c = true ∧ Deep u := by
  by_cases other : e = '\r'
  · subst other
    by_cases feed : ∃ X', X = '\n' :: X'
    · obtain ⟨X', rfl⟩ := feed
      refine ⟨'\n', withLineFeeds X', rfl, rfl, ?_⟩
      exact later.after_feed (a := []) rfl
    · refine ⟨'\n', withLineFeeds X, ?_, rfl, later⟩
      rw [withLineFeeds]
      exact fun X' same => feed ⟨X', same⟩
  · refine ⟨e, withLineFeeds X, ?_, is_blank_of_ends_line ends, later⟩
    exact @with_line_feeds_append [e] X (by simpa using Ne.symm other)

theorem deep_indent_part {h t : Text} {c : Char} (whole : ∀ d ∈ h, endsLine d = false)
    (none : isBlank c = true) (later : Deep t) : Deep (indentPart bodyMargin h ++ c :: t) := by
  unfold indentPart
  split
  · rename_i blank
    have all : ∀ d ∈ h, isBlank d = true := List.all_eq_true.mp blank
    clear whole blank
    induction h with
    | nil => exact .blank none later
    | cons d h ih =>
      exact .blank (all d List.mem_cons_self)
        (ih fun x member => all x (List.mem_cons_of_mem d member))
  · rw [List.append_assoc]
    refine .line (fun d member => ?_) later
    have goes := whole d member
    constructor <;> (rintro rfl; cases goes)

open Lexer in
theorem deep_code (t : Text) : Deep (withLineFeeds (indent bodyMargin t ++ ['\n'])) := by
  have plain {h : Text} (whole : ∀ c ∈ h, endsLine c = false) : '\r' ∉ indentPart bodyMargin h := by
    intro member
    unfold indentPart at member
    have inside : '\r' ∈ h := by
      split at member
      · exact member
      · exact (List.mem_append.mp member).resolve_left (by decide)
    have goes := whole _ inside
    cases goes
  rcases first_break t with whole | ⟨h, e, r, rfl, whole, ends⟩
  · rw [indent_unbroken whole, with_line_feeds_append (plain whole)]
    exact deep_indent_part whole rfl .nil
  · obtain ⟨c, u, same, blank, later⟩ := deep_of_ended e ends (deep_code r)
    rw [indent_break whole ends, List.append_assoc, List.cons_append,
      with_line_feeds_append (plain whole), same]
    exact deep_indent_part whole blank later
termination_by t.length
decreasing_by simp_all; omega

end EmbeddedTests.Snippet
