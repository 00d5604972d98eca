import EmbeddedTests.Proofs.FirstLine

/-!
# The column that a body is written at

The lines below the first one lose the margin that they share. So it makes no difference to the code
of a block, nor to anything else that a block has whose code is all below its first line, how far
in these lines are written.
-/
namespace EmbeddedTests

open Text

namespace Text

theorem common_start_append (front s t : Text) :
    commonStart (front ++ s) (front ++ t) = front ++ commonStart s t := by
  induction front with
  | nil => rfl
  | cons c front ih => simp [commonStart, ih]

theorem common_margin_append (front : Text) {margins : List Text} (some : margins ≠ []) :
    commonMargin (margins.map (front ++ ·)) = front ++ commonMargin margins := by
  obtain ⟨first, others, rfl⟩ := List.exists_cons_of_ne_nil some
  simp only [commonMargin, List.map_cons]
  clear some
  induction others generalizing first with
  | nil => rfl
  | cons next others ih =>
    rw [List.map_cons, List.foldl_cons, List.foldl_cons, common_start_append, ih]

/-- The line with the front before it, unless it has nothing but spaces and tabs. -/
def shiftLine (front line : Text) : Text := if isBare line then line else front ++ line

/-- Every line of the text with the front before it, but for those of spaces and tabs only. -/
def shiftLines (front t : Text) : Text := joinLines ((splitOn '\n' t).map (shiftLine front))

/-- The text with the lines below the first one written further in. -/
def shiftLater (front t : Text) : Text :=
  match splitOn '\n' t with
  | [] => []
  | first :: later => joinLines (first :: later.map (shiftLine front))

section

variable {front : Text}

theorem shift_later_line {line : Text} (one : '\n' ∉ line) : shiftLater front line = line := by
  rw [shiftLater, split_on_line one]
  exact List.append_nil line

theorem shift_later_line_feed {line : Text} (later : Text) (one : '\n' ∉ line) :
    shiftLater front (line ++ '\n' :: later) = line ++ '\n' :: shiftLines front later := by
  have some : (splitOn '\n' later).map (shiftLine front) ≠ [] := by simp [split_on_ne_nil]
  rw [shiftLater, split_on_line_feed later one]
  exact join_lines_cons line some

variable (space : ∀ c ∈ front, isMargin c = true)

include space

theorem is_bare_shift_line (line : Text) : isBare (shiftLine front line) = isBare line := by
  unfold shiftLine
  split
  · rfl
  · rw [isBare, List.all_append, List.all_eq_true.mpr space, Bool.true_and, isBare]

theorem margin_append (line : Text) : margin (front ++ line) = front ++ margin line :=
  List.takeWhile_append_of_pos space

/-- The front becomes a part of the common margin, and is taken away with it. -/
theorem dedent_lines_shift (lines : List Text) :
    dedentLines (lines.map (shiftLine front)) = dedentLines lines := by
  have written : (lines.map (shiftLine front)).filter (!isBare ·) =
      (lines.filter (!isBare ·)).map (front ++ ·) := by
    rw [List.filter_map]
    have alike : (fun line => !isBare line) ∘ shiftLine front = fun line => !isBare line :=
      funext fun line => congrArg (!·) (is_bare_shift_line space line)
    rw [alike]
    refine List.map_congr_left fun line member => ?_
    have filled : isBare line = false := by simpa using (List.mem_filter.mp member).2
    simp [shiftLine, filled]
  have margins : ((lines.map (shiftLine front)).filter (!isBare ·)).map margin =
      ((lines.filter (!isBare ·)).map margin).map (front ++ ·) := by
    rw [written, List.map_map, List.map_map]
    exact List.map_congr_left fun line _ => margin_append space line
  unfold dedentLines
  rw [List.map_map]
  by_cases none : (lines.filter (!isBare ·)).map margin = []
  · -- All lines are bare, so none is written further in.
    refine List.map_congr_left fun line member => ?_
    have bare : isBare line = true := by
      simpa using List.filter_eq_nil_iff.mp (List.map_eq_nil_iff.mp none) line member
    simp [shiftLine, bare]
  · rw [margins, common_margin_append front none, List.length_append]
    refine List.map_congr_left fun line _ => ?_
    rw [Function.comp_apply, is_bare_shift_line space]
    split
    · rfl
    · rename_i filled
      rw [shiftLine, if_neg filled, ← List.drop_drop, List.drop_left]

theorem split_on_shift_lines (t : Text) :
    splitOn '\n' (shiftLines front t) = (splitOn '\n' t).map (shiftLine front) := by
  have inside : '\n' ∉ front := fun member => absurd (space '\n' member) (by decide)
  apply split_on_join_lines
  · intro shifted member
    obtain ⟨line, given, rfl⟩ := List.mem_map.mp member
    have whole : '\n' ∉ line := not_mem_of_mem_split_on given
    unfold shiftLine
    split
    · exact whole
    · simp [inside, whole]
  · simp [split_on_ne_nil]

end

end Text

theorem body_text_shift_lines {front : Text} (space : ∀ c ∈ front, isMargin c = true) (t : Text) :
    bodyText (shiftLines front t) = bodyText t := by
  rw [bodyText, dedent, split_on_shift_lines space, dedent_lines_shift space, ← dedent, ← bodyText]

section

variable {line later later' : Text}

theorem later_lines_line_feed (later : Text) (one : '\n' ∉ line) :
    laterLines (line ++ '\n' :: later) = later := by
  have dropped : (line ++ '\n' :: later).dropWhile (· ≠ '\n') = '\n' :: later :=
    (cut_eq (by simpa using fun c member => feed_free one c member) (by simp)).2
  rw [laterLines, dropped, List.tail_cons]

theorem normalize_code_line_feed (later : Text) (one : '\n' ∉ line) :
    normalizeCode (line ++ '\n' :: later) = joinCode (leadText line) (bodyText later) := by
  rw [normalizeCode, first_line_line_feed later one, later_lines_line_feed later one]

theorem later_code_line_feed (later : Text) (one : '\n' ∉ line) :
    laterCode (line ++ '\n' :: later) = joinCode [] (bodyText later) := by
  rw [laterCode, later_lines_line_feed later one]
  have lead : leadText [] = [] := rfl
  cases later with
  | nil => rfl
  | cons c later =>
    have code := normalize_code_line_feed (c :: later) (List.not_mem_nil (a := '\n'))
    rwa [lead] at code

theorem function_code_of_body (name parameters : Text) (outputs : List Text)
    (same : bodyText later = bodyText later') :
    functionCode name parameters outputs later = functionCode name parameters outputs later' := by
  unfold functionCode
  rw [same]

theorem content_of_body (one : '\n' ∉ line) (same : bodyText later = bodyText later')
    (below : (parseBlock (line ++ '\n' :: later)).kind = .shared ∨
      (parseBlock (line ++ '\n' :: later)).kind = .function ∨
      (parseBlock (line ++ '\n' :: later)).kind = .testif) :
    (parseBlock (line ++ '\n' :: later)).content = (parseBlock (line ++ '\n' :: later')).content := by
  change classify _ = classify _
  have plain : '\n' ∉ afterKeyword line := fun member => one (List.mem_of_mem_drop member)
  have keyword_stays {kind : BlockKind}
      (known : keywordKind? (keyword (line ++ '\n' :: later)) = some kind) :
      keywordKind? (keyword (line ++ '\n' :: later')) = some kind := by
    rw [keyword_line_feed] at known ⊢
    exact known
  rcases below with shared | function | guarded
  · have known := keyword_of_kind shared (by decide)
    rw [classify_of_shared known, classify_of_shared (keyword_stays known), sharedContent,
      sharedContent, after_keyword_line_feed, after_keyword_line_feed, first_line_line_feed _ plain,
      first_line_line_feed _ plain, later_code_line_feed _ plain, later_code_line_feed _ plain, same]
  · have known := keyword_of_kind function (by decide)
    rw [classify_of_function known, classify_of_function (keyword_stays known), functionContent,
      functionContent, first_line_line_feed _ one, first_line_line_feed _ one,
      later_lines_line_feed _ one, later_lines_line_feed _ one]
    cases functionParts? line with
    | none => rfl
    | some parts => exact congrArg _ (function_code_of_body parts.2.1 parts.2.2 _ same)
  · have known := keyword_of_kind guarded (by decide)
    rw [classify_of_guarded known, classify_of_guarded (keyword_stays known), guardedContent,
      guardedContent, after_keyword_line_feed, after_keyword_line_feed, first_line_line_feed _ plain,
      first_line_line_feed _ plain, later_code_line_feed _ plain, later_code_line_feed _ plain, same]

end

/-- Spaces and tabs before all lines below the first that have anything else on them change neither
the code that a text makes nor what a shared, function or guarded block is. -/
theorem column_of_body_is_irrelevant {front : Text} (space : ∀ c ∈ front, isMargin c = true) :
    (∀ t, normalizeCode (shiftLater front t) = normalizeCode t) ∧
      ∀ raw, (parseBlock raw).kind = .shared ∨ (parseBlock raw).kind = .function ∨
          (parseBlock raw).kind = .testif →
        (parseBlock (shiftLater front raw)).content = (parseBlock raw).content := by
  constructor
  · intro t
    have one := first_line_on_one_line t
    rcases first_line_and_later t with whole | ⟨later, whole⟩
    · rw [whole, shift_later_line one]
    · rw [whole, shift_later_line_feed later one, normalize_code_line_feed _ one,
        normalize_code_line_feed _ one, body_text_shift_lines space]
  · intro raw below
    have one := first_line_on_one_line raw
    rcases first_line_and_later raw with whole | ⟨later, whole⟩
    · rw [whole, shift_later_line one]
    · rw [whole] at below ⊢
      rw [shift_later_line_feed later one]
      exact (content_of_body one (body_text_shift_lines space later).symm below).symm

/-- A function whose body, with an empty line in it, is written a tab and a space further in. -/
theorem function_written_further_in :
    let given : Text := "function y = f(x)\n  y = x\n\n  y += 1"
    let shifted : Text := "function y = f(x)\n\t   y = x\n\n\t   y += 1"
    (∀ c ∈ ("\t " : Text), isMargin c = true) ∧ (parseBlock given).kind = .function ∧
      shiftLater "\t " given = shifted ∧
      normalizeCode shifted = normalizeCode given ∧
      (parseBlock shifted).content = (parseBlock given).content := by
  intro given shifted
  have space : ∀ c ∈ ("\t " : Text), isMargin c = true := List.all_eq_true.mp (by decide)
  have written : shiftLater "\t " given = shifted := by decide
  obtain ⟨code, content⟩ := column_of_body_is_irrelevant space
  refine ⟨space, rfl, written, ?_, ?_⟩
  · rw [← written]
    exact code given
  · rw [← written]
    exact content given (.inr (.inl rfl))

end EmbeddedTests
