import EmbeddedTests.Proofs.Cuts
import EmbeddedTests.Proofs.Layout
import EmbeddedTests.Text.LineFeed
import Mathlib.Data.List.Basic

/-!
# The lines of a test buffer

A line of the buffer that is not empty is what follows the marker on a line of the file; only an
interpreter line at the top is left out. Those of them that do not start with a blank are the first
lines of the blocks, in order.
-/
namespace EmbeddedTests

open Text

namespace Text

theorem lines_induction {P : Text → Prop} (last : ∀ line, '\n' ∉ line → P line)
    (more : ∀ line rest, '\n' ∉ line → P rest → P (line ++ '\n' :: rest)) (t : Text) : P t := by
  rw [← join_lines_split_on t]
  have whole : ∀ line ∈ splitOn '\n' t, '\n' ∉ line := fun line => not_mem_of_mem_split_on
  generalize splitOn '\n' t = lines at whole
  induction lines with
  | nil => exact last [] List.not_mem_nil
  | cons line rest ih =>
    have here := whole line List.mem_cons_self
    by_cases none : rest = []
    · simpa [none, joinLines, joinWith] using last line here
    · rw [join_lines_cons line none]
      exact more line _ here (ih fun line member => whole line (List.mem_cons_of_mem _ member))

theorem feed_free {line : Text} (h : '\n' ∉ line) : ∀ c ∈ line, (c == '\n') = false := by
  intro c member
  apply Bool.eq_false_iff.mpr
  intro feed
  exact h (eq_of_beq feed ▸ member)

theorem split_on_line {line : Text} (h : '\n' ∉ line) : splitOn '\n' line = [line] :=
  split_where_of_none (feed_free h)

theorem split_on_line_feed {line : Text} (rest : Text) (h : '\n' ∉ line) :
    splitOn '\n' (line ++ '\n' :: rest) = line :: splitOn '\n' rest :=
  split_where_append_cons rest (feed_free h) rfl

theorem split_on_append_feed (t : Text) : splitOn '\n' (t ++ ['\n']) = splitOn '\n' t ++ [[]] := by
  induction t using lines_induction with
  | last line whole =>
    rw [split_on_line_feed [] whole, split_on_line whole]
    rfl
  | more line rest whole ih =>
    rw [List.append_assoc, List.cons_append, split_on_line_feed _ whole, ih,
      split_on_line_feed _ whole]
    rfl

theorem feed_lines_line_feed {line : Text} (rest : Text) (h : '\n' ∉ line) :
    feedLines (line ++ '\n' :: rest) = (line ++ ['\n']) :: feedLines rest := by
  induction line with
  | nil => simp [feedLines]
  | cons c line ih =>
    have here : c ≠ '\n' := fun feed => h (feed ▸ List.mem_cons_self)
    have later := ih fun member => h (List.mem_cons_of_mem c member)
    simp [feedLines, here, later]

theorem feed_lines_line {line : Text} (h : '\n' ∉ line) :
    feedLines line = [line].filter (!·.isEmpty) := by
  induction line with
  | nil => rfl
  | cons c line ih =>
    have here : c ≠ '\n' := fun feed => h (feed ▸ List.mem_cons_self)
    have later := ih fun member => h (List.mem_cons_of_mem c member)
    rw [feedLines, if_neg here, later]
    cases line <;> rfl

theorem first_line_line_feed {line : Text} (rest : Text) (h : '\n' ∉ line) :
    firstLine (line ++ '\n' :: rest) = line := by
  apply take_while_append_cons_of_not rest
  · simpa using fun c member => (feed_free h c member)
  · simp

theorem first_line_on_one_line (t : Text) : '\n' ∉ firstLine t := fun member =>
  absurd (List.mem_takeWhile_imp member) (by simp)

theorem first_line_line {line : Text} (h : '\n' ∉ line) : firstLine line = line := by
  apply List.takeWhile_eq_self_iff.mpr
  simpa using fun c member => (feed_free h c member)

theorem starts_with_line_feed {front line : Text} (rest : Text) (h : '\n' ∉ front) :
    startsWith front (line ++ '\n' :: rest) = startsWith front line := by
  induction front generalizing line with
  | nil => cases line <;> rfl
  | cons c front ih =>
    have here : c ≠ '\n' := fun feed => h (feed ▸ List.mem_cons_self)
    cases line with
    | nil => simp [startsWith, after?, here]
    | cons d line =>
      by_cases same : c = d
      · have later := @ih line fun member => h (List.mem_cons_of_mem c member)
        simpa [startsWith, after?, same] using later
      · simp [startsWith, after?, same]

end Text

theorem marked_part_line_feed (marker : Text) {line : Text} (h : '\n' ∉ line) :
    markedPart marker (line ++ ['\n']) = ((after? marker line).map (· ++ ['\n'])).getD [] := by
  induction marker generalizing line with
  | nil =>
    cases line <;> rfl
  | cons c marker ih =>
    cases line with
    | nil =>
      -- The marker may have a line feed itself; then nothing can follow it.
      by_cases feed : c = '\n'
      · cases marker <;> simp [markedPart, after?, feed]
      · simp [markedPart, after?, feed]
    | cons d line =>
      by_cases same : c = d
      · have later := ih fun member => h (List.mem_cons_of_mem d member)
        simpa [markedPart, after?, same] using later
      · simp [markedPart, after?, same]

/-- The lines of a file that can be marked: all but an interpreter line at the top. -/
def markable (t : Text) : List Text :=
  match splitOn '\n' t with
  | [] => []
  | first :: later => if isInterpreterLine first then later else first :: later

def markedLines (marker : Text) (lines : List Text) : List Text :=
  lines.filterMap (after? marker)

theorem is_interpreter_line_line_feed (line : Text) :
    isInterpreterLine (line ++ ['\n']) = isInterpreterLine line :=
  starts_with_line_feed [] (by decide)

theorem runs_of_marked_parts (marker t : Text) :
    runsOf (· == '\n') ((feedLines t).map (markedPart marker)).flatten =
      (markedLines marker (splitOn '\n' t)).filter (!·.isEmpty) := by
  induction t using lines_induction with
  | last line whole =>
    have part : ((feedLines line).map (markedPart marker)).flatten = markedPart marker line := by
      rw [feed_lines_line whole]
      cases line with
      | nil => cases marker <;> rfl
      | cons c rest => simp
    rw [part, split_on_line whole, markedLines, markedPart]
    cases marked : after? marker line with
    | none => simp [marked, runsOf, splitWhere]
    | some rest =>
      obtain rfl := after_eq_some_iff.mp marked
      have inside := feed_free fun member => whole (List.mem_append_right marker member)
      simp [marked, runs_of_of_none inside]
  | more line rest whole ih =>
    rw [feed_lines_line_feed rest whole, split_on_line_feed rest whole, List.map_cons,
      List.flatten_cons, marked_part_line_feed marker whole]
    unfold markedLines at ih ⊢
    cases marked : after? marker line with
    | none => simp [marked, ih]
    | some part =>
      obtain rfl := after_eq_some_iff.mp marked
      have inside := feed_free fun member => whole (List.mem_append_right marker member)
      simp only [Option.map_some, Option.getD_some, List.append_assoc, List.singleton_append,
        List.filterMap_cons, marked]
      rw [runs_of_append_cons _ inside (by simp), ih, ← List.filter_append, List.singleton_append]

theorem runs_of_buffer (marker t : Text) :
    runsOf (· == '\n') (extractTests marker (feedLines t)) =
      (markedLines marker (markable t)).filter (!·.isEmpty) := by
  have top (first : Text) (later : List Text) : extractTests marker (first :: later) =
      if isInterpreterLine first then (later.map (markedPart marker)).flatten
      else ((first :: later).map (markedPart marker)).flatten := by
    rw [extractTests]
    split <;> simp
  induction t using lines_induction with
  | last line whole =>
    have parts := runs_of_marked_parts marker line
    rw [split_on_line whole] at parts
    rw [markable, split_on_line whole]
    rw [feed_lines_line whole] at parts ⊢
    by_cases none : line = []
    · subst none
      exact parts
    · have some : [line].filter (!·.isEmpty) = [line] := by simp [none]
      rw [some] at parts ⊢
      rw [top]
      cases interpreter : isInterpreterLine line with
      | true => simp [interpreter, runsOf, splitWhere, markedLines]
      | false => simpa [interpreter] using parts
  | more line rest whole _ =>
    have parts := runs_of_marked_parts marker (line ++ '\n' :: rest)
    rw [feed_lines_line_feed rest whole, split_on_line_feed rest whole] at parts
    rw [feed_lines_line_feed rest whole, markable, split_on_line_feed rest whole, top,
      is_interpreter_line_line_feed]
    cases interpreter : isInterpreterLine line with
    | true => simpa [interpreter] using runs_of_marked_parts marker rest
    | false => simpa [interpreter] using parts

theorem gathered_heads (lines : List Text) :
    (gatherBlocks lines).2.filterMap List.head? = lines.filter startsBlock := by
  induction lines with
  | nil => rfl
  | cons line later ih =>
    cases starts : startsBlock line <;> simp [gatherBlocks, starts, ih]

/-- The first lines of the blocks are the lines that start with no blank. -/
theorem first_lines_of_blocks (buffer : Text) :
    (splitBlocks buffer).map firstLine = (runsOf (· == '\n') buffer).filter startsBlock := by
  let lines := splitOn '\n' (dropFinalFeed buffer)
  have heads : (splitBlocks buffer).map firstLine = lines.filter startsBlock := by
    obtain ⟨whole, -, grouped⟩ := gather_blocks_parts lines
    have first : ∀ g ∈ (gatherBlocks lines).2, some (firstLine (joinLines g)) = g.head? := by
      intro g member
      obtain ⟨head, later, rfl⟩ := List.exists_cons_of_ne_nil (grouped g member).ne_nil
      have inside : head ∈ lines := by
        rw [← whole]
        exact List.mem_append_right _
          (List.mem_flatten.mpr ⟨head :: later, member, List.mem_cons_self⟩)
      have plain : '\n' ∉ head := not_mem_of_mem_split_on inside
      by_cases alone : later = []
      · simp [alone, joinLines, joinWith, first_line_line plain]
      · rw [join_lines_cons head alone, first_line_line_feed _ plain]
        rfl
    rw [← gathered_heads, splitBlocks, List.map_map, ← List.filterMap_eq_map]
    exact List.filterMap_congr first
  have trimmed : lines.filter startsBlock = (splitOn '\n' buffer).filter startsBlock := by
    simp only [lines, drop_final_feed_eq]
    split
    · rename_i ended
      obtain ⟨front, rfl⟩ := List.getLast?_eq_some_iff.mp ended
      rw [List.dropLast_concat, split_on_append_feed, List.filter_append]
      simp [startsBlock]
    · rfl
  have filled : (splitOn '\n' buffer).filter startsBlock =
      (runsOf (· == '\n') buffer).filter startsBlock := by
    rw [runsOf, List.filter_filter]
    apply List.filter_congr
    intro line _
    cases line <;> simp [startsBlock]
  rw [heads, trimmed, filled]

theorem first_lines_of_marked_blocks (marker t : Text) :
    (splitBlocks (extractTests marker (feedLines t))).map firstLine =
      (markedLines marker (markable t)).filter startsBlock := by
  rw [first_lines_of_blocks, runs_of_buffer, List.filter_filter]
  apply List.filter_congr
  intro line _
  cases line <;> simp [startsBlock]

end EmbeddedTests
