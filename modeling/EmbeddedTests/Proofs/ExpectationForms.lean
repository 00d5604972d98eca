import EmbeddedTests.Proofs.AlignedBodies

/-!
# Two forms of an expectation

What an error or a warning block expects is written as a class that goes by an identifier, or as a
pattern between brackets. Behind a pattern the code starts with the line feed. Behind an identifier
it starts with the first line that is not blank, and that line becomes one of its own.
-/
namespace EmbeddedTests

open Text

theorem classify_expectation (kind : ExpectKind) (t : Text) :
    classify ((BlockKind.ofExpect kind).name ++ ' ' :: t) = expectContent kind (' ' :: t) := by
  have word : keyword ((BlockKind.ofExpect kind).name ++ ' ' :: t) =
      (BlockKind.ofExpect kind).name := by
    apply take_while_append_cons_of_not t _ rfl
    apply List.all_eq_true.mp
    cases kind <;> decide
  have known : keywordKind? (BlockKind.ofExpect kind).name = some (.ofExpect kind) := by
    cases kind <;> rfl
  unfold classify
  simp only [word, known]
  cases kind <;> rfl

section

variable (kind : ExpectKind) {id : Text} (later : Text)

theorem identified_content (some : id ≠ []) (visible : ∀ c ∈ id, isBlank c = false) :
    (parseBlock ((BlockKind.ofExpect kind).name ++ " id=" ++ id ++ '\n' :: later)).content =
      .expect kind (.identified id) (normalizeCode (trimStart later)) := by
  have written : (BlockKind.ofExpect kind).name ++ " id=" ++ id ++ '\n' :: later =
      (BlockKind.ofExpect kind).name ++ ' ' :: ("id=" ++ (id ++ '\n' :: later)) := by simp
  have start : trimStart (' ' :: ("id=" ++ (id ++ '\n' :: later))) =
      "id=" ++ (id ++ '\n' :: later) := rfl
  have first : firstWord? (id ++ '\n' :: later) = Option.some (id, trimStart later) := by
    obtain ⟨c, rest, rfl⟩ := List.exists_cons_of_ne_nil some
    have kept : trimStart (c :: rest ++ '\n' :: later) = c :: (rest ++ '\n' :: later) :=
      List.dropWhile_cons_of_neg (by simp [visible c List.mem_cons_self])
    have inside : ∀ d ∈ c :: rest, (!isBlank d) = true := by simpa using visible
    have stops : ∀ d ∈ ('\n' :: later).head?, (!isBlank d) = false := by simp [isBlank]
    obtain ⟨taken, dropped⟩ := cut_eq inside stops
    rw [first_word_eq_some kept, ← List.cons_append, taken, dropped]
    rfl
  rw [parseBlock, written, classify_expectation, expectContent,
    take_expectation_identified start first]

theorem matching_content :
    (parseBlock ((BlockKind.ofExpect kind).name ++ " <.>" ++ '\n' :: later)).content =
      .expect kind (.matching anything) (normalizeCode ('\n' :: later)) := by
  have written : (BlockKind.ofExpect kind).name ++ " <.>" ++ '\n' :: later =
      (BlockKind.ofExpect kind).name ++ ' ' :: ('<' :: (anything ++ '>' :: '\n' :: later)) := by
    simp [anything]
  have tagged : Tagged (' ' :: '<' :: (anything ++ '>' :: '\n' :: later)) anything
      ('\n' :: later) := ⟨rfl, by decide⟩
  rw [parseBlock, written, classify_expectation, expectContent, take_expectation_tagged tagged]

end

/-- An error or warning block has the code of its body, whether the expected class goes by an
identifier or is told by a pattern. Behind an identifier this is the code of the trimmed body. If
spaces and tabs are the only blanks on the lines of the body, the two codes are the same exactly if
its first line that is not blank can stand on its own. -/
theorem identified_code_is_same_iff (kind : ExpectKind) {id : Text} (some : id ≠ [])
    (visible : ∀ c ∈ id, isBlank c = false) (later : Text) :
    (parseBlock ((BlockKind.ofExpect kind).name ++ " id=" ++ id ++ '\n' :: later)).content =
        .expect kind (.identified id) (normalizeCode (trimStart later)) ∧
      (parseBlock ((BlockKind.ofExpect kind).name ++ " <.>" ++ '\n' :: later)).content =
        .expect kind (.matching anything) (normalizeCode ('\n' :: later)) ∧
      ((∀ line ∈ splitOn '\n' later, Spaced line) →
        (normalizeCode (trimStart later) = normalizeCode ('\n' :: later) ↔
          FormsAgree (splitOn '\n' later))) := by
  refine ⟨identified_content kind later some visible, matching_content kind later, ?_⟩
  intro spaced
  have whole : ∀ line ∈ splitOn '\n' later, '\n' ∉ line := fun line => not_mem_of_mem_split_on
  have same := code_is_same_iff whole spaced
  rw [join_lines_split_on] at same
  rw [normalize_code_below fun line member => (spaced line member).bare, same]

/-- A loop whose body is written four spaces further in. -/
def alignedLoop : Text := "  for x in xs:\n      f(x)\n\n      g(x)"

theorem aligned_code_is_same :
    ("ValueError" : Text) ≠ [] ∧ (∀ c ∈ ("ValueError" : Text), isBlank c = false) ∧
      (∀ line ∈ splitOn '\n' alignedLoop, Spaced line) ∧ ∃ code : Text,
        (parseBlock ("error id=ValueError\n" ++ alignedLoop)).content =
          .expect .error (.identified "ValueError") code ∧
        (parseBlock ("error <.>\n" ++ alignedLoop)).content =
          .expect .error (.matching anything) code := by
  have some : ("ValueError" : Text) ≠ [] := by decide
  have visible : ∀ c ∈ ("ValueError" : Text), isBlank c = false := none_of_all (by decide)
  have spaced : ∀ line ∈ splitOn '\n' alignedLoop, Spaced line := by decide
  have agree : FormsAgree (splitOn '\n' alignedLoop) := by decide
  obtain ⟨identified, matching, same⟩ := identified_code_is_same_iff .error some visible alignedLoop
  rw [(same spaced).mpr agree] at identified
  exact ⟨some, visible, spaced, _, identified, matching⟩

/-- The last line is under the condition in one code and after it in the other. -/
theorem last_line_goes_under_condition :
    let later : Text := "  if flag:\n    f()\n  g()"
    (parseBlock ("error id=ValueError\n" ++ later)).content =
        .expect .error (.identified "ValueError") "if flag:\n      f()\n    g()" ∧
      (parseBlock ("error <.>\n" ++ later)).content =
        .expect .error (.matching anything) "if flag:\n  f()\ng()" := by
  intro later
  have some : ("ValueError" : Text) ≠ [] := by decide
  have visible : ∀ c ∈ ("ValueError" : Text), isBlank c = false := none_of_all (by decide)
  have own : normalizeCode (trimStart later) = "if flag:\n      f()\n    g()" := by decide
  have shared : normalizeCode ('\n' :: later) = "if flag:\n  f()\ng()" := by decide
  exact ⟨(identified_content .error later some visible).trans (congrArg _ own),
    (matching_content .error later).trans (congrArg _ shared)⟩

end EmbeddedTests
