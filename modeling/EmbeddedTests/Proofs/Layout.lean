import EmbeddedTests.Block.Classify
import EmbeddedTests.Marked
import EmbeddedTests.Proofs.Lines

/-!
# Blocks in a test buffer

A buffer is some lines that belong to no block, and then blocks, one below the other: nothing of it
is lost. A text is a block if it starts with a character that is not blank and all its further lines
are empty or start with a blank. Blocks that are marked line by line in a source file, between
whatever other lines, are found there again.
-/
namespace EmbeddedTests

open Text

/-- A line that starts no block: it is empty, or starts with a blank. -/
def IsContinuation (line : Text) : Prop := ∀ c ∈ line.head?, isBlank c = true

theorem starts_block_eq_false_iff {line : Text} : startsBlock line = false ↔ IsContinuation line := by
  cases line <;> simp [startsBlock, IsContinuation]

structure IsBlockText (t : Text) : Prop where
  starts : ∃ c rest, t = c :: rest ∧ isBlank c = false
  continues : ∀ before c after, t = before ++ '\n' :: c :: after → isBlank c = true

def IsGroup : List Text → Prop
  | [] => False
  | first :: later => startsBlock first = true ∧ ∀ line ∈ later, IsContinuation line

instance (line : Text) : Decidable (IsContinuation line) :=
  decidable_of_iff (startsBlock line = false) starts_block_eq_false_iff

instance : DecidablePred IsGroup
  | [] => .isFalse id
  | first :: later =>
    inferInstanceAs (Decidable (startsBlock first = true ∧ ∀ line ∈ later, IsContinuation line))

theorem IsGroup.ne_nil {lines : List Text} (h : IsGroup lines) : lines ≠ [] := by
  rintro rfl
  exact h

theorem starts_block_first_line {t first : Text} {later : List Text}
    (lines : splitOn '\n' t = first :: later) : startsBlock first = startsBlock t := by
  cases t with
  | nil =>
    cases lines
    rfl
  | cons c rest =>
    by_cases h : c = '\n'
    · rw [h, split_on_cons_self] at lines
      cases lines
      rw [h]
      rfl
    · obtain ⟨piece, pieces, split⟩ := List.exists_cons_of_ne_nil (split_on_ne_nil '\n' rest)
      rw [split_on_cons_of_ne h split] at lines
      cases lines
      rfl

theorem continues_cons_iff {d : Char} {rest : Text} :
    (∀ before c after, d :: rest = before ++ '\n' :: c :: after → isBlank c = true) ↔
      (d = '\n' → IsContinuation rest) ∧
        ∀ before c after, rest = before ++ '\n' :: c :: after → isBlank c = true := by
  constructor
  · intro all
    refine ⟨?_, fun before c after parts => all (d :: before) c after (by simp [parts])⟩
    rintro rfl c starts
    obtain ⟨after, rfl⟩ : ∃ after, rest = c :: after := List.head?_eq_some_iff.mp starts
    exact all [] c after rfl
  · rintro ⟨here, later⟩ before c after parts
    cases before with
    | nil =>
      obtain ⟨feed, rfl⟩ := List.cons.inj parts
      exact here feed c rfl
    | cons b before => exact later before c after (List.cons.inj parts).2

theorem later_lines_continue_iff {t first : Text} {later : List Text}
    (lines : splitOn '\n' t = first :: later) :
    (∀ line ∈ later, IsContinuation line) ↔
      ∀ before c after, t = before ++ '\n' :: c :: after → isBlank c = true := by
  induction t generalizing first later with
  | nil =>
    cases lines
    simp
  | cons d rest ih =>
    obtain ⟨piece, pieces, split⟩ := List.exists_cons_of_ne_nil (split_on_ne_nil '\n' rest)
    rw [continues_cons_iff, ← ih split]
    by_cases h : d = '\n'
    · -- The rest stands on later lines; its first line starts as it does itself.
      rw [h, split_on_cons_self, split] at lines
      cases lines
      have first_line : IsContinuation piece ↔ IsContinuation rest := by
        rw [← starts_block_eq_false_iff, ← starts_block_eq_false_iff, starts_block_first_line split]
      simp [h, first_line]
    · rw [split_on_cons_of_ne h split] at lines
      cases lines
      simp [h]

theorem is_block_text_iff_is_group {t : Text} : IsBlockText t ↔ IsGroup (splitOn '\n' t) := by
  obtain ⟨first, later, lines⟩ := List.exists_cons_of_ne_nil (split_on_ne_nil '\n' t)
  rw [lines, IsGroup, starts_block_first_line lines, later_lines_continue_iff lines]
  constructor
  · rintro ⟨⟨c, rest, rfl, visible⟩, continues⟩
    exact ⟨by simp [startsBlock, visible], continues⟩
  · rintro ⟨starts, continues⟩
    refine ⟨?_, continues⟩
    cases t with
    | nil => cases starts
    | cons c rest => exact ⟨c, rest, rfl, by simpa [startsBlock] using starts⟩

instance (t : Text) : Decidable (IsBlockText t) :=
  decidable_of_iff (IsGroup (splitOn '\n' t)) is_block_text_iff_is_group.symm

theorem gather_blocks_append {front : List Text} (lines : List Text)
    (continuing : ∀ line ∈ front, IsContinuation line) :
    gatherBlocks (front ++ lines) =
      (front ++ (gatherBlocks lines).1, (gatherBlocks lines).2) := by
  induction front with
  | nil => rfl
  | cons line rest ih =>
    have here : startsBlock line = false :=
      starts_block_eq_false_iff.mpr (continuing line List.mem_cons_self)
    have later := ih fun line member => continuing line (List.mem_cons_of_mem _ member)
    simp [gatherBlocks, later, here]

theorem gather_blocks_groups {front : List Text} {groups : List (List Text)}
    (continuing : ∀ line ∈ front, IsContinuation line) (grouped : ∀ g ∈ groups, IsGroup g) :
    gatherBlocks (front ++ groups.flatten) = (front, groups) := by
  induction groups generalizing front with
  | nil =>
    have gathered := gather_blocks_append [] continuing
    simpa [gatherBlocks] using gathered
  | cons g rest ih =>
    have group := grouped g List.mem_cons_self
    cases g with
    | nil => exact absurd rfl group.ne_nil
    | cons first later =>
      obtain ⟨starts, continued⟩ := group
      have gathered := ih continued fun g member => grouped g (List.mem_cons_of_mem _ member)
      rw [gather_blocks_append _ continuing, List.flatten_cons, List.cons_append]
      simp [gatherBlocks, gathered, starts]

/-- Nothing is lost in gathering, and what is gathered are groups. -/
theorem gather_blocks_parts (lines : List Text) :
    (gatherBlocks lines).1 ++ (gatherBlocks lines).2.flatten = lines ∧
      (∀ line ∈ (gatherBlocks lines).1, IsContinuation line) ∧
      ∀ g ∈ (gatherBlocks lines).2, IsGroup g := by
  induction lines with
  | nil => simp [gatherBlocks]
  | cons line later ih =>
    obtain ⟨whole, continuing, grouped⟩ := ih
    cases h : startsBlock line with
    | true =>
      simp only [gatherBlocks, h, if_true]
      refine ⟨by simp [whole], by simp, ?_⟩
      intro g member
      rcases List.mem_cons.mp member with rfl | member
      · exact ⟨h, continuing⟩
      · exact grouped g member
    | false =>
      simp only [gatherBlocks, h, Bool.false_eq_true, if_false]
      refine ⟨by simp [whole], ?_, grouped⟩
      intro l member
      rcases List.mem_cons.mp member with rfl | member
      · exact starts_block_eq_false_iff.mp h
      · exact continuing l member

theorem drop_final_feed_eq (t : Text) :
    dropFinalFeed t = if t.getLast? = some '\n' then t.dropLast else t := by
  induction t using dropFinalFeed.induct with
  | case1 => rfl
  | case2 => rfl
  | case3 c rest other ih =>
    cases rest with
    | nil =>
      have visible : c ≠ '\n' := by
        rintro rfl
        exact other rfl rfl
      simp [dropFinalFeed, visible]
    | cons d rest =>
      have step : dropFinalFeed (c :: d :: rest) = c :: dropFinalFeed (d :: rest) := by
        simp [dropFinalFeed]
      rw [step, ih, List.getLast?_cons_cons, List.dropLast_cons_cons]
      split <;> rfl

theorem split_blocks_of_lines {buffer : Text} (front : List Text) (groups : List (List Text))
    (lines : splitOn '\n' (dropFinalFeed buffer) = front ++ groups.flatten)
    (continuing : ∀ line ∈ front, IsContinuation line) (grouped : ∀ g ∈ groups, IsGroup g) :
    splitBlocks buffer = groups.map joinLines := by
  rw [splitBlocks, lines, gather_blocks_groups continuing grouped]

theorem join_lines_flatten {groups : List (List Text)} (grouped : ∀ g ∈ groups, g ≠ []) :
    joinLines groups.flatten = joinLines (groups.map joinLines) := by
  induction groups with
  | nil => rfl
  | cons g rest ih =>
    have later := ih fun g member => grouped g (List.mem_cons_of_mem _ member)
    by_cases last : rest = []
    · simp [last, joinLines, joinWith]
    · have some : rest.flatten ≠ [] := by
        obtain ⟨next, others, rfl⟩ := List.exists_cons_of_ne_nil last
        simp [grouped next (by simp)]
      rw [List.flatten_cons, join_lines_append _ some, feed_each_eq (grouped g (by simp)), later,
        List.map_cons, join_lines_cons _ (by simpa using last)]
      simp

/-- Nothing of a buffer is lost: without one line feed at its end, it is made of lines that start
no block, each with its line feed, and of the blocks, one below the other. Without blocks it is
those lines alone. -/
theorem buffer_is_front_and_blocks (buffer : Text) :
    let body := if buffer.getLast? = some '\n' then buffer.dropLast else buffer
    let blocks := splitBlocks buffer
    (∀ b ∈ blocks, IsBlockText b) ∧
      ∃ front : List Text, (∀ line ∈ front, IsContinuation line ∧ '\n' ∉ line) ∧
        body = if blocks = [] then joinLines front else feedEach front ++ joinLines blocks := by
  intro body blocks
  have trimmed : dropFinalFeed buffer = body := drop_final_feed_eq buffer
  obtain ⟨whole, continuing, grouped⟩ := gather_blocks_parts (splitOn '\n' body)
  rcases gathered : gatherBlocks (splitOn '\n' body) with ⟨front, groups⟩
  simp only [gathered] at whole continuing grouped
  have split : blocks = groups.map joinLines :=
    split_blocks_of_lines front groups (by rw [trimmed, whole]) continuing grouped
  have plain {line : Text} (member : line ∈ front ++ groups.flatten) : '\n' ∉ line :=
    not_mem_of_mem_split_on (whole ▸ member)
  have text : body = joinLines (front ++ groups.flatten) := by
    rw [whole, join_lines_split_on]
  refine ⟨?_, front, ?_, ?_⟩
  · intro b member
    rw [split] at member
    obtain ⟨g, gathered, rfl⟩ := List.mem_map.mp member
    have group := grouped g gathered
    have lines : splitOn '\n' (joinLines g) = g := by
      apply split_on_join_lines _ group.ne_nil
      intro line inside
      exact plain (List.mem_append_right _ (List.mem_flatten.mpr ⟨g, gathered, inside⟩))
    exact is_block_text_iff_is_group.mpr (lines.symm ▸ group)
  · intro line member
    exact ⟨continuing line member, plain (List.mem_append_left _ member)⟩
  · rw [split, text]
    by_cases none : groups = []
    · simp [none]
    · have some : groups.flatten ≠ [] := by
        obtain ⟨g, rest, rfl⟩ := List.exists_cons_of_ne_nil none
        have first := (grouped g List.mem_cons_self).ne_nil
        simp [first]
      rw [if_neg (by simpa using none), join_lines_append _ some,
        join_lines_flatten fun g member => (grouped g member).ne_nil]

theorem split_blocks_feed_each {blocks : List Text} (texts : ∀ b ∈ blocks, IsBlockText b) :
    splitBlocks (feedEach (blocks.flatMap (splitOn '\n'))) = blocks := by
  by_cases none : blocks = []
  · subst none
    rfl
  · have some : blocks.flatMap (splitOn '\n') ≠ [] := by
      obtain ⟨b, rest, rfl⟩ := List.exists_cons_of_ne_nil none
      simp [split_on_ne_nil]
    have trimmed : dropFinalFeed (feedEach (blocks.flatMap (splitOn '\n'))) =
        joinLines (blocks.flatMap (splitOn '\n')) := by
      rw [feed_each_eq some, drop_final_feed_eq]
      simp
    have whole : ∀ line ∈ blocks.flatMap (splitOn '\n'), '\n' ∉ line := by
      intro line member
      obtain ⟨b, _, inside⟩ := List.mem_flatMap.mp member
      exact not_mem_of_mem_split_on inside
    have grouped : ∀ g ∈ blocks.map (splitOn '\n'), IsGroup g := by
      intro g member
      obtain ⟨b, inside, rfl⟩ := List.mem_map.mp member
      exact is_block_text_iff_is_group.mp (texts b inside)
    have lines : splitOn '\n' (dropFinalFeed (feedEach (blocks.flatMap (splitOn '\n')))) =
        [] ++ (blocks.map (splitOn '\n')).flatten := by
      rw [trimmed, split_on_join_lines whole some, List.flatMap_def, List.nil_append]
    rw [split_blocks_of_lines [] _ lines (fun line member => by cases member) grouped,
      List.map_map]
    exact (List.map_congr_left fun b _ => join_lines_split_on b).trans (List.map_id _)

/-- Marked lines with other lines between them: what follows the marker, and all the lines. -/
inductive Interleaved (marker : Text) : List Text → List Text → Prop where
  | nil : Interleaved marker [] []
  | marked {code lines} (line : Text) (rest : Interleaved marker code lines) :
      Interleaved marker (line :: code) ((marker ++ line ++ ['\n']) :: lines)
  | other {code lines} (line : Text) (unmarked : startsWith marker line = false)
      (rest : Interleaved marker code lines) : Interleaved marker code (line :: lines)

theorem marked_part_append (marker t : Text) : markedPart marker (marker ++ t) = t := by
  induction marker with
  | nil => rfl
  | cons c rest ih => simpa only [markedPart, after?, List.cons_append, if_true] using ih

theorem marked_part_of_unmarked {marker line : Text} (h : startsWith marker line = false) :
    markedPart marker line = [] := by
  simp only [startsWith, Option.isSome_eq_false_iff, Option.isNone_iff_eq_none] at h
  simp [markedPart, h]

theorem marked_parts {marker : Text} {code lines : List Text} (h : Interleaved marker code lines) :
    (lines.map (markedPart marker)).flatten = feedEach code := by
  induction h with
  | nil => rfl
  | marked line rest ih =>
    simp only [List.map_cons, List.flatten_cons, ih, List.append_assoc, marked_part_append]
    simp [feedEach]
  | other line unmarked rest ih =>
    simp only [List.map_cons, List.flatten_cons, ih, marked_part_of_unmarked unmarked]
    rfl

theorem extract_tests_eq {marker : Text} {lines : List Text}
    (top : ∀ first ∈ lines.head?, startsWith marker first = true → isInterpreterLine first = false) :
    extractTests marker lines = (lines.map (markedPart marker)).flatten := by
  cases lines with
  | nil => rfl
  | cons first later =>
    rw [extractTests, List.map_cons, List.flatten_cons]
    congr 1
    cases marked : startsWith marker first with
    | true => simp [top first rfl marked]
    | false => simp [marked_part_of_unmarked marked]

/-- Blocks that are marked line by line, between whatever other lines, are the blocks of the file:
marking and extracting undo each other. -/
theorem marked_blocks_are_found {marker : Text} {blocks lines : List Text}
    (texts : ∀ b ∈ blocks, IsBlockText b)
    (placed : Interleaved marker (blocks.flatMap (splitOn '\n')) lines)
    (top : ∀ first ∈ lines.head?, startsWith marker first = true → isInterpreterLine first = false) :
    splitBlocks (extractTests marker lines) = blocks ∧
      parseBlocks (extractTests marker lines) = blocks.map parseBlock := by
  have buffer : extractTests marker lines = feedEach (blocks.flatMap (splitOn '\n')) := by
    rw [extract_tests_eq top, marked_parts placed]
  have found : splitBlocks (extractTests marker lines) = blocks := by
    rw [buffer, split_blocks_feed_each texts]
  exact ⟨found, by rw [parseBlocks, found]⟩

/-- A block with an indented, two empty and a wide-spaced line, and one that looks like the path of
an interpreter. -/
def sampleBlocks : List Text := ["test\n  a = 1\n\n\u3000b\n", "/ assert x"]

def sampleFile : List Text :=
  ["#!test\n", "x = 1\n", "#!  a = 1\n", "#!\n", "# !\n", "#!\u3000b\n", "#!\n",
    "#!/ assert x\n"]

theorem sample_blocks_are_found :
    (∀ b ∈ sampleBlocks, IsBlockText b) ∧
      Interleaved "#!" (sampleBlocks.flatMap (splitOn '\n')) sampleFile ∧
      (∀ first ∈ sampleFile.head?, startsWith "#!" first = true →
        isInterpreterLine first = false) ∧
      splitBlocks (extractTests "#!" sampleFile) = sampleBlocks := by
  have texts : ∀ b ∈ sampleBlocks, IsBlockText b := by decide
  have placed : Interleaved "#!" (sampleBlocks.flatMap (splitOn '\n')) sampleFile :=
    .marked _ <| .other _ rfl <| .marked _ <| .marked _ <| .other _ rfl <| .marked _ <|
      .marked _ <| .marked _ .nil
  have top : ∀ first ∈ sampleFile.head?, startsWith "#!" first = true →
      isInterpreterLine first = false := by decide
  exact ⟨texts, placed, top, (marked_blocks_are_found texts placed top).1⟩

end EmbeddedTests
