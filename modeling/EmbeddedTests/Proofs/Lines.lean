import EmbeddedTests.Text

/-!
# Lines of a text

Splitting a text at a separator and joining the pieces with it undo each other, for pieces in which
the separator does not occur.
-/
namespace EmbeddedTests.Text

theorem split_where_ne_nil (p : Char → Bool) (t : Text) : splitWhere p t ≠ [] := by
  unfold splitWhere
  repeat' split
  all_goals exact List.cons_ne_nil _ _

theorem split_on_ne_nil (sep : Char) (t : Text) : splitOn sep t ≠ [] :=
  split_where_ne_nil (· == sep) t

theorem split_on_cons_of_ne {sep c : Char} (h : c ≠ sep) {t piece : Text} {later : List Text}
    (split : splitOn sep t = piece :: later) : splitOn sep (c :: t) = (c :: piece) :: later := by
  unfold splitOn at split
  simp [splitOn, splitWhere, h, split]

theorem split_on_append {sep : Char} {front t piece : Text} {later : List Text}
    (inside : ∀ c ∈ front, (c == sep) = false) (split : splitOn sep t = piece :: later) :
    splitOn sep (front ++ t) = (front ++ piece) :: later := by
  induction front with
  | nil => exact split
  | cons c front ih =>
    have here : c ≠ sep := by simpa using inside c List.mem_cons_self
    exact split_on_cons_of_ne here (ih fun d member => inside d (List.mem_cons_of_mem c member))

theorem split_on_cons_self (sep : Char) (t : Text) :
    splitOn sep (sep :: t) = [] :: splitOn sep t := by
  simp [splitOn, splitWhere]

theorem split_on_eq (sep : Char) (t : Text) : splitOn sep t = List.splitOn sep t := by
  induction t with
  | nil => rfl
  | cons c rest ih =>
    rw [List.splitOn_cons_eq_if_modifyHead, ← ih]
    by_cases h : c = sep
    · subst h
      simp [split_on_cons_self]
    · obtain ⟨piece, later, split⟩ := List.exists_cons_of_ne_nil (split_on_ne_nil sep rest)
      simp [split_on_cons_of_ne h split, split, h]

theorem not_mem_of_mem_split_on {sep : Char} {t piece : Text} (h : piece ∈ splitOn sep t) :
    sep ∉ piece := by
  induction t generalizing piece with
  | nil =>
    rw [List.mem_singleton.mp h]
    exact List.not_mem_nil
  | cons c rest ih =>
    by_cases hc : c = sep
    · rw [hc, split_on_cons_self] at h
      rcases List.mem_cons.mp h with rfl | later
      · exact List.not_mem_nil
      · exact ih later
    · obtain ⟨first, pieces, split⟩ := List.exists_cons_of_ne_nil (split_on_ne_nil sep rest)
      rw [split_on_cons_of_ne hc split] at h
      rw [split] at ih
      rcases List.mem_cons.mp h with rfl | later
      · have here := ih List.mem_cons_self
        simp [Ne.symm hc, here]
      · exact ih (List.mem_cons_of_mem _ later)

theorem mem_of_mem_split_on {sep : Char} {t piece : Text} {c : Char} (listed : piece ∈ splitOn sep t)
    (h : c ∈ piece) : c ∈ t := by
  induction t generalizing piece with
  | nil => rwa [List.mem_singleton.mp listed] at h
  | cons d rest ih =>
    by_cases ends : d = sep
    · rw [ends, split_on_cons_self] at listed
      rcases List.mem_cons.mp listed with rfl | later
      · cases h
      · exact List.mem_cons_of_mem d (ih later h)
    · obtain ⟨first, pieces, split⟩ := List.exists_cons_of_ne_nil (split_on_ne_nil sep rest)
      rw [split_on_cons_of_ne ends split] at listed
      rw [split] at ih
      rcases List.mem_cons.mp listed with rfl | later
      · rcases List.mem_cons.mp h with rfl | inside
        · exact List.mem_cons_self
        · exact List.mem_cons_of_mem d (ih List.mem_cons_self inside)
      · exact List.mem_cons_of_mem d (ih (List.mem_cons_of_mem first later) h)

theorem mem_join_with {sep : Text} {parts : List Text} {c : Char} (h : c ∈ joinWith sep parts) :
    c ∈ sep ∨ ∃ part ∈ parts, c ∈ part := by
  induction parts with
  | nil => cases h
  | cons part rest ih =>
    cases rest with
    | nil =>
      have inside : c ∈ part := by simpa [joinWith] using h
      exact .inr ⟨part, List.mem_cons_self, inside⟩
    | cons next rest =>
      rw [joinWith, List.intercalate_cons_cons, List.append_assoc, List.mem_append,
        List.mem_append] at h
      rcases h with here | between | later
      · exact .inr ⟨part, List.mem_cons_self, here⟩
      · exact .inl between
      · rcases ih later with between | ⟨other, listed, inside⟩
        · exact .inl between
        · exact .inr ⟨other, List.mem_cons_of_mem part listed, inside⟩

@[simp] theorem join_lines_split_on (t : Text) : joinLines (splitOn '\n' t) = t := by
  rw [split_on_eq]
  exact List.intercalate_splitOn '\n'

theorem split_on_join_lines {lines : List Text} (whole : ∀ line ∈ lines, '\n' ∉ line)
    (some : lines ≠ []) : splitOn '\n' (joinLines lines) = lines := by
  rw [split_on_eq]
  exact List.splitOn_intercalate '\n' whole some

theorem join_lines_cons (line : Text) {later : List Text} (h : later ≠ []) :
    joinLines (line :: later) = line ++ '\n' :: joinLines later := by
  obtain ⟨next, rest, rfl⟩ := List.exists_cons_of_ne_nil h
  simp [joinLines, joinWith, List.intercalate_cons_cons]

/-- The text in which every line is ended by a line feed. -/
def feedEach (lines : List Text) : Text := (lines.map (· ++ ['\n'])).flatten

theorem join_lines_append (first : List Text) {later : List Text} (h : later ≠ []) :
    joinLines (first ++ later) = feedEach first ++ joinLines later := by
  induction first with
  | nil => rfl
  | cons line rest ih =>
    rw [List.cons_append, join_lines_cons line (by simp [h]), ih]
    simp [feedEach]

theorem feed_each_eq {lines : List Text} (h : lines ≠ []) :
    feedEach lines = joinLines lines ++ ['\n'] := by
  induction lines with
  | nil => exact absurd rfl h
  | cons line rest ih =>
    by_cases last : rest = []
    · simp [last, feedEach, joinLines, joinWith]
    · rw [join_lines_cons line last, List.append_assoc, List.cons_append, ← ih last]
      simp [feedEach]

end EmbeddedTests.Text
