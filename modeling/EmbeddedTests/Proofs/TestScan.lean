import EmbeddedTests.Batch.Scan
import EmbeddedTests.Proofs.BufferLines

/-!
# The scan for tests and the blocks of a file

A scan looks for lines that start with the marker and the beginning of a test's keyword. Such a line
starts a block, and the block is a test. The other way round, a test in a file that the scan passes
over has no keyword that is known.
-/
namespace EmbeddedTests

open Text

namespace Text

theorem from_line_starts_line {line : Text} (h : '\n' ∉ line) : fromLineStarts line = [line] := by
  have none : fromLineStarts.later line = [] := by
    induction line with
    | nil => rfl
    | cons c line ih =>
      have here : c ≠ '\n' := fun feed => h (feed ▸ List.mem_cons_self)
      simp [fromLineStarts.later, here, ih fun member => h (List.mem_cons_of_mem c member)]
  rw [fromLineStarts, none]

theorem from_line_starts_line_feed {line : Text} (rest : Text) (h : '\n' ∉ line) :
    fromLineStarts (line ++ '\n' :: rest) = (line ++ '\n' :: rest) :: fromLineStarts rest := by
  have later : fromLineStarts.later (line ++ '\n' :: rest) = fromLineStarts rest := by
    induction line with
    | nil => rfl
    | cons c line ih =>
      have here : c ≠ '\n' := fun feed => h (feed ▸ List.mem_cons_self)
      simp [fromLineStarts.later, here, ih fun member => h (List.mem_cons_of_mem c member)]
  rw [fromLineStarts, later]

end Text

namespace Batch

theorem starts_test_iff {marker t : Text} :
    startsTest marker t = true ↔ ∃ word ∈ testWords, marker ++ word <+: t := by
  simp [startsTest, starts_with_iff]

theorem starts_test_append {marker t : Text} (rest : Text) (h : startsTest marker t = true) :
    startsTest marker (t ++ rest) = true := by
  obtain ⟨word, known, starts⟩ := starts_test_iff.mp h
  exact starts_test_iff.mpr ⟨word, known, starts.trans (List.prefix_append t rest)⟩

theorem starts_test_line_feed {marker line : Text} (rest : Text) (h : '\n' ∉ marker) :
    startsTest marker (line ++ '\n' :: rest) = startsTest marker line := by
  have plain : ∀ word ∈ testWords, '\n' ∉ word := by decide
  rw [Bool.eq_iff_iff, startsTest, startsTest, List.any_eq_true, List.any_eq_true]
  refine exists_congr fun word => and_congr_right fun known => ?_
  have whole : '\n' ∉ marker ++ word := by simp [h, plain word known]
  rw [starts_with_line_feed rest whole]

theorem has_tests_of_line {marker t line : Text} (inside : line ∈ splitOn '\n' t)
    (h : startsTest marker line = true) : hasTests marker t = true := by
  induction t using lines_induction with
  | last only whole =>
    rw [split_on_line whole, List.mem_singleton] at inside
    subst inside
    simp [hasTests, from_line_starts_line whole, h]
  | more first rest whole ih =>
    rw [split_on_line_feed rest whole] at inside
    unfold hasTests at ih ⊢
    rw [from_line_starts_line_feed rest whole, List.any_cons, Bool.or_eq_true]
    rcases List.mem_cons.mp inside with rfl | later
    · exact .inl (starts_test_append _ h)
    · exact .inr (ih later)

theorem exists_line_of_has_tests {marker t : Text} (h : '\n' ∉ marker)
    (found : hasTests marker t = true) :
    ∃ line ∈ splitOn '\n' t, startsTest marker line = true := by
  induction t using lines_induction with
  | last only whole =>
    refine ⟨only, by simp [split_on_line whole], ?_⟩
    simpa [hasTests, from_line_starts_line whole] using found
  | more first rest whole ih =>
    unfold hasTests at ih found
    rw [from_line_starts_line_feed rest whole, List.any_cons, Bool.or_eq_true,
      starts_test_line_feed rest h] at found
    rw [split_on_line_feed rest whole]
    rcases found with here | later
    · exact ⟨first, List.mem_cons_self, here⟩
    · obtain ⟨line, inside, starts⟩ := ih later
      exact ⟨line, List.mem_cons_of_mem first inside, starts⟩

end Batch

theorem keyword_kind_name {word : Text} {kind : BlockKind} (h : keywordKind? word = some kind) :
    kind.name = word := by
  simpa using List.find?_some h

theorem kind_of_keyword {raw : Text} {kind : BlockKind}
    (h : keywordKind? (keyword raw) = some kind) : (classify raw).kind = kind := by
  have listed := List.mem_of_find?_eq_some h
  unfold classify
  simp only [h]
  simp only [List.mem_cons, List.not_mem_nil, or_false] at listed
  rcases listed with rfl | rfl | rfl | rfl | rfl | rfl | rfl | rfl | rfl | rfl | rfl
  case inr.inr.inl =>
    change (functionContent raw).kind = .function
    unfold functionContent
    split <;> rfl
  all_goals rfl

def BlockKind.isTest : BlockKind → Bool
  | shared | function | endfunction | demo | comment => false
  | _ => true

theorem is_test_eq_kind (c : Content) : c.isTest = c.kind.isTest := by
  cases c with
  | check kind bug code => cases kind <;> rfl
  | expect kind target code => cases kind <;> rfl
  | _ => rfl

theorem is_test_iff_word : ∀ kind ∈ BlockKind.all, kind.isTest = true ↔
    (∃ word ∈ Batch.testWords, word <+: kind.name) ∨ kind = .unknown := by
  decide

theorem starts_test_keyword (raw : Text) :
    Batch.startsTest [] raw = true ↔ ∃ word ∈ Batch.testWords, word <+: keyword raw := by
  have letters : ∀ word ∈ Batch.testWords, word.all isKeywordChar = true := by decide
  rw [Batch.starts_test_iff]
  refine exists_congr fun word => and_congr_right fun known => ?_
  rw [List.nil_append]
  constructor
  · rintro ⟨rest, rfl⟩
    rw [keyword, List.takeWhile_append_of_pos (List.all_eq_true.mp (letters word known))]
    exact List.prefix_append _ _
  · exact fun h => h.trans (List.takeWhile_prefix _)

/-- A block is a test if it starts like one of the known tests, or if its keyword is not known. -/
theorem is_test_iff (raw : Text) : (parseBlock raw).isTest = true ↔
    Batch.startsTest [] raw = true ∨ (parseBlock raw).kind = .unknown := by
  change (classify raw).isTest = true ↔ _ ∨ (classify raw).kind = .unknown
  rw [is_test_eq_kind, starts_test_keyword]
  cases known : keywordKind? (keyword raw) with
  | some kind =>
    have listed : kind ∈ BlockKind.all := by cases kind <;> decide
    rw [kind_of_keyword known, ← keyword_kind_name known]
    exact is_test_iff_word kind listed
  | none =>
    unfold classify
    simp only [known]
    split
    · rename_i rest
      have empty : keyword ('#' :: rest) = [] := rfl
      rw [empty]
      have none : ¬ ∃ word ∈ Batch.testWords, word <+: [] := by decide
      exact iff_of_false Bool.false_ne_true (not_or.mpr ⟨none, by decide⟩)
    · exact iff_of_true rfl (.inr rfl)

theorem markable_sublist (t : Text) : (markable t).Sublist (splitOn '\n' t) := by
  unfold markable
  split
  · exact List.nil_sublist _
  · rename_i first later lines
    rw [lines]
    split
    · exact List.sublist_cons_self first later
    · exact .refl _

theorem mem_markable {t line : Text} (inside : line ∈ splitOn '\n' t)
    (h : isInterpreterLine line = false) : line ∈ markable t := by
  unfold markable
  cases lines : splitOn '\n' t with
  | nil => simp [lines] at inside
  | cons first later =>
    rw [lines] at inside
    by_cases interpreter : isInterpreterLine first = true
    · rcases List.mem_cons.mp inside with rfl | member
      · simp [h] at interpreter
      · simpa [interpreter] using member
    · simpa [interpreter] using inside

theorem not_interpreter_of_starts_test {marker line : Text} (two : marker.length = 2)
    (h : Batch.startsTest marker line = true) : isInterpreterLine line = false := by
  obtain ⟨word, known, rest, rfl⟩ := Batch.starts_test_iff.mp h
  obtain ⟨a, b, rfl⟩ := List.length_eq_two.mp two
  have third : ∀ word ∈ Batch.testWords, ∃ c letters, word = c :: letters ∧ c ≠ '/' := by
    simp [Batch.testWords]
  obtain ⟨c, letters, rfl, other⟩ := third word known
  apply Bool.eq_false_iff.mpr
  intro interpreter
  have shared := starts_with_iff.mp interpreter
  simp [List.cons_prefix_cons] at shared
  exact other shared.2.2.symm

theorem test_block_of_has_tests {marker t : Text} (two : marker.length = 2) (whole : '\n' ∉ marker)
    (found : Batch.hasTests marker t = true) :
    ∃ b ∈ parseBlocks (extractTests marker (feedLines t)), b.isTest = true := by
  obtain ⟨line, inside, starts⟩ := Batch.exists_line_of_has_tests whole found
  have marked := mem_markable inside (not_interpreter_of_starts_test two starts)
  obtain ⟨word, known, rest, rfl⟩ := Batch.starts_test_iff.mp starts
  have first : word ++ rest ∈ (markedLines marker (markable t)).filter startsBlock := by
    have letters : ∀ word ∈ Batch.testWords, ∀ rest, startsBlock (word ++ rest) = true := by
      simp [Batch.testWords, startsBlock]
      decide
    refine List.mem_filter.mpr ⟨List.mem_filterMap.mpr ⟨_, marked, ?_⟩, letters word known rest⟩
    rw [List.append_assoc, after_append]
  rw [← first_lines_of_marked_blocks] at first
  obtain ⟨raw, member, line⟩ := List.mem_map.mp first
  have opening : word <+: firstLine raw := line ▸ List.prefix_append word rest
  have started : word <+: raw := opening.trans (List.takeWhile_prefix _)
  exact ⟨parseBlock raw, List.mem_map_of_mem member,
    (is_test_iff raw).mpr (.inl (Batch.starts_test_iff.mpr ⟨word, known, started⟩))⟩

/-- Where the scan finds nothing, the only tests are blocks without a known keyword. -/
theorem kind_of_unscanned {marker t : Text} (passed : Batch.hasTests marker t = false) {b : Block}
    (inside : b ∈ parseBlocks (extractTests marker (feedLines t))) (test : b.isTest = true) :
    b.kind = .unknown := by
  obtain ⟨raw, member, rfl⟩ := List.mem_map.mp inside
  rcases (is_test_iff raw).mp test with starts | unknown
  · exfalso
    obtain ⟨word, known, rest, rfl⟩ := Batch.starts_test_iff.mp starts
    have plain : ∀ word ∈ Batch.testWords, word.all (· ≠ '\n') = true := by decide
    have first : firstLine (word ++ rest) ∈ markedLines marker (markable t) := by
      have listed : firstLine (word ++ rest) ∈
          (splitBlocks (extractTests marker (feedLines t))).map firstLine :=
        List.mem_map_of_mem member
      rw [first_lines_of_marked_blocks] at listed
      exact List.mem_of_mem_filter listed
    obtain ⟨line, markable, part⟩ := List.mem_filterMap.mp first
    obtain rfl := after_eq_some_iff.mp part
    have scanned : Batch.startsTest marker (marker ++ firstLine (word ++ rest)) = true := by
      refine Batch.starts_test_iff.mpr ⟨word, known, List.prefix_append_right_inj marker |>.mpr ?_⟩
      rw [firstLine, List.takeWhile_append_of_pos (List.all_eq_true.mp (plain word known))]
      exact List.prefix_append _ _
    have found := Batch.has_tests_of_line ((markable_sublist t).subset markable) scanned
    exact Bool.false_ne_true (passed.symm.trans found)
  · exact unknown

end EmbeddedTests
