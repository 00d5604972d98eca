import EmbeddedTests.Proofs.Margins
import EmbeddedTests.Proofs.Nesting

/-!
# Code with and without a first line of its own

If nothing but blanks stands before the lines of a text, they all lose one margin. If the text is
trimmed, its first line with code is a first line of its own, and only those below it are a body.
-/
namespace EmbeddedTests

open Text

namespace Text

theorem mem_body_text {later : Text} {c : Char} (h : c ∈ bodyText later) : c ∈ later ∨ c = '\n' := by
  have inside : c ∈ dedent later := (List.dropWhile_sublist _).subset (mem_of_mem_drop_end h)
  rcases mem_join_with inside with feed | ⟨part, listed, here⟩
  · exact .inr (List.mem_singleton.mp feed)
  · obtain ⟨line, given, rfl⟩ := List.mem_map.mp listed
    split at here
    · cases here
    · exact .inl (mem_of_mem_split_on given (List.mem_of_mem_drop here))

theorem all_blank_join_lines {lines : List Text} (blank : ∀ line ∈ lines, allBlank line = true) :
    allBlank (joinLines lines) = true := by
  refine List.all_eq_true.mpr fun c member => ?_
  rcases mem_join_with member with feed | ⟨line, listed, inside⟩
  · rw [List.mem_singleton.mp feed]
    rfl
  · exact List.all_eq_true.mp (blank line listed) c inside

theorem trim_end_join_lines {line : Text} {after : List Text} (before : List Text)
    (filled : allBlank line = false) (blank : ∀ other ∈ after, allBlank other = true) :
    trimEnd (joinLines (before ++ line :: after)) = joinLines (before ++ [trimEnd line]) := by
  obtain ⟨back, whole, all⟩ : ∃ back, joinLines (line :: after) = line ++ back ∧
      ∀ c ∈ back, isBlank c = true := by
    by_cases none : after = []
    · exact ⟨[], by rw [none]; rfl, by simp⟩
    · refine ⟨_, join_lines_cons line none, List.forall_mem_cons.mpr ⟨rfl, ?_⟩⟩
      exact List.all_eq_true.mp (all_blank_join_lines blank)
  have written : allBlank (line ++ back) = false := by rw [all_blank_append_blank line all, filled]
  have alone : joinLines [trimEnd line] = trimEnd line := List.append_nil _
  rw [join_lines_append before (List.cons_ne_nil _ _),
    join_lines_append before (List.cons_ne_nil _ _), whole, trim_end_append_filled _ written, alone,
    trimEnd, drop_end_append_of_all _ all, trimEnd]

theorem exists_last_filled {line : Text} {lines : List Text} (member : line ∈ lines)
    (filled : allBlank line = false) : ∃ before last after, lines = before ++ last :: after ∧
      allBlank last = false ∧ ∀ other ∈ after, allBlank other = true := by
  induction lines generalizing line with
  | nil => cases member
  | cons first lines ih =>
    by_cases later : ∃ other ∈ lines, allBlank other = false
    · obtain ⟨other, listed, written⟩ := later
      obtain ⟨before, last, after, rfl, facts⟩ := ih listed written
      exact ⟨first :: before, last, after, rfl, facts⟩
    · have blank : ∀ other ∈ lines, allBlank other = true := by simpa using later
      rcases List.mem_cons.mp member with rfl | inside
      · exact ⟨[], line, lines, rfl, filled, blank⟩
      · rw [blank line inside] at filled
        cases filled

theorem all_blank_trim_end (t : Text) : allBlank (trimEnd t) = allBlank t := by
  obtain ⟨back, whole, blank⟩ := exists_drop_end_append isBlank t
  conv_rhs => rw [whole, all_blank_append_blank _ blank]
  rfl

theorem all_blank_trim_start (t : Text) : allBlank (trimStart t) = allBlank t := by
  rw [all_blank_eq_ink, ink_trim_start, ← all_blank_eq_ink]

theorem indent_part_filled {front line : Text} (filled : allBlank line = false) :
    indentPart front line = front ++ line := if_neg (by simp [filled])

theorem indent_part_nil (line : Text) : indentPart [] line = line := by
  unfold indentPart
  split <;> rfl

theorem indent_part_blank {front line : Text} (blank : allBlank line = true) :
    indentPart front line = line := if_pos blank

theorem indented_trim_end {front line : Text} {lines : List Text}
    (whole : ∀ line ∈ lines, '\n' ∉ line) (member : line ∈ lines) (filled : allBlank line = false) :
    joinLines ((splitOn '\n' (trimEnd (joinLines lines))).map (indentPart front)) =
      trimEnd (joinLines (lines.map (indentPart front))) := by
  obtain ⟨before, last, after, rfl, written, blank⟩ := exists_last_filled member filled
  have whole' : ∀ line ∈ before ++ [trimEnd last], '\n' ∉ line := by
    intro line member
    rcases List.mem_append.mp member with earlier | here
    · exact whole line (List.mem_append_left _ earlier)
    · rw [List.mem_singleton.mp here]
      exact fun feed => whole last (by simp) (mem_of_mem_drop_end feed)
  have blank' : ∀ other ∈ after.map (indentPart front), allBlank other = true := by
    intro other listed
    obtain ⟨line, given, rfl⟩ := List.mem_map.mp listed
    rw [indent_part_blank (blank line given), blank line given]
  have written' : allBlank (front ++ last) = false := by simp [allBlank] at written ⊢; tauto
  have ended : indentPart front (trimEnd last) = front ++ trimEnd last :=
    indent_part_filled (by rw [all_blank_trim_end, written])
  rw [trim_end_join_lines before written blank, split_on_join_lines whole' (by simp), List.map_append,
    List.map_append, List.map_cons, List.map_cons, List.map_nil, ended, indent_part_filled written,
    trim_end_join_lines _ written' blank', trim_end_append_filled front written]

/-- The first of the lines below one that opens a statement is no clause of that. -/
theorem first_line_nested (t : Text) :
    firstLine (joinLines (nestLines (splitOn '\n' t))) = indent "    " (firstLine t) := by
  have whole : ∀ line ∈ splitOn '\n' t, '\n' ∉ line := fun line => not_mem_of_mem_split_on
  obtain ⟨first, later, lines⟩ := List.exists_cons_of_ne_nil (split_on_ne_nil '\n' t)
  have head : first = firstLine t := by
    rw [← head_d_split_on, lines]
    rfl
  have nested : splitOn '\n' (joinLines (nestLines (splitOn '\n' t))) =
      nestLines (splitOn '\n' t) :=
    split_on_join_lines (nest_lines_whole whole) (by simp [nestLines, split_on_ne_nil])
  rw [← head_d_split_on, nested, lines, nestLines, List.map_cons, List.headD_cons, List.headD_cons,
    nest_line_eq, if_neg (fun deeper => Nat.lt_irrefl _ deeper.1), head]

end Text

namespace Text

section

variable {lines : List Text} {line : Text}

theorem trim_start_join_lines (lines : List Text) : trimStart (joinLines lines) =
    match lines.dropWhile allBlank with
    | [] => []
    | first :: below => joinLines (trimStart first :: below) := by
  induction lines with
  | nil => rfl
  | cons line lines ih =>
    cases blank : allBlank line with
    | true =>
      have start : trimStart line = [] := List.dropWhile_eq_nil_iff.mpr (List.all_eq_true.mp blank)
      rw [List.dropWhile_cons_of_pos blank, ← ih]
      by_cases last : lines = []
      · rw [last, joinLines, joinWith, List.intercalate_singleton, start]
        rfl
      · rw [join_lines_cons line last, trim_start_blank_append _ start]
        rfl
    | false =>
      have start : trimStart line ≠ [] := fun none => by
        have all : allBlank line = true := List.all_eq_true.mpr (List.dropWhile_eq_nil_iff.mp none)
        rw [all] at blank
        cases blank
      rw [List.dropWhile_cons_of_neg (by simp [blank])]
      by_cases last : lines = []
      · simp [last, joinLines, joinWith]
      · dsimp only
        rw [join_lines_cons line last, join_lines_cons _ last, trim_start_append _ start]

theorem line_feed_inj {line line' later later' : Text} (one : '\n' ∉ line) (one' : '\n' ∉ line') :
    line ++ '\n' :: later = line' ++ '\n' :: later' ↔ line = line' ∧ later = later' := by
  constructor
  · intro same
    have first := congrArg firstLine same
    have rest := congrArg laterLines same
    rw [first_line_line_feed later one, first_line_line_feed later' one'] at first
    rw [later_lines_line_feed later one, later_lines_line_feed later' one'] at rest
    exact ⟨first, rest⟩
  · rintro ⟨rfl, rfl⟩
    rfl

theorem prefix_join_lines (line : Text) (later : List Text) :
    line <+: joinLines (line :: later) := by
  by_cases last : later = []
  · rw [last]
    exact List.prefix_append _ _
  · rw [join_lines_cons line last]
    exact List.prefix_append _ _

theorem drop_while_feed_join_lines (whole : ∀ line ∈ lines, '\n' ∉ line) :
    (joinLines lines).dropWhile (· == '\n') = joinLines (lines.dropWhile (·.isEmpty)) := by
  induction lines with
  | nil => rfl
  | cons line lines ih =>
    have later := ih fun other member => whole other (List.mem_cons_of_mem line member)
    cases line with
    | nil =>
      by_cases last : lines = []
      · rw [last]
        rfl
      · rw [join_lines_cons [] last, List.dropWhile_cons_of_pos rfl, ← later]
        rfl
    | cons c rest =>
      have other : c ≠ '\n' := fun feed => whole _ List.mem_cons_self (feed ▸ List.mem_cons_self)
      obtain ⟨back, start⟩ := prefix_join_lines (c :: rest) lines
      rw [← start, List.cons_append, List.dropWhile_cons_of_neg (by simpa using other),
        List.dropWhile_cons_of_neg (by simp), ← start, List.cons_append]

theorem dedent_lines_bare_cons (lines : List Text) (bare : isBare line = true) :
    dedentLines (line :: lines) = [] :: dedentLines lines := by
  simp [dedentLines, bare]

theorem drop_while_dedent_lines (bare : ∀ line ∈ lines, allBlank line = true → isBare line = true) :
    (dedentLines lines).dropWhile (·.isEmpty) = dedentLines (lines.dropWhile allBlank) := by
  induction lines with
  | nil => rfl
  | cons line lines ih =>
    have later := ih fun other member => bare other (List.mem_cons_of_mem line member)
    cases blank : allBlank line with
    | true =>
      rw [dedent_lines_bare_cons lines (bare line List.mem_cons_self blank),
        List.dropWhile_cons_of_pos rfl, List.dropWhile_cons_of_pos blank, later]
    | false =>
      have kept : (dedentLine (line :: lines) line).isEmpty = false := by
        have filled : allBlank (dedentLine (line :: lines) line) = false := by
          rw [all_blank_dedent_line List.mem_cons_self, blank]
        cases left : dedentLine (line :: lines) line with
        | nil =>
          rw [left] at filled
          cases filled
        | cons c rest => rfl
      rw [List.dropWhile_cons_of_neg (by simp [blank]), dedent_lines_eq, List.map_cons,
        List.dropWhile_cons_of_neg (by simp [kept])]

end

end Text

def bodyCode (lines : List Text) : Text :=
  trimEnd (joinLines (dedentLines (lines.dropWhile allBlank)))

theorem trim_end_body_text {later : Text}
    (bare : ∀ line ∈ splitOn '\n' later, allBlank line = true → isBare line = true) :
    trimEnd (bodyText later) = bodyCode (splitOn '\n' later) := by
  have whole : ∀ line ∈ dedentLines (splitOn '\n' later), '\n' ∉ line := by
    intro line member
    rw [← split_on_dedent] at member
    exact not_mem_of_mem_split_on member
  rw [bodyText, strip, trim_end_drop_end_feed, dedent, drop_while_feed_join_lines whole,
    drop_while_dedent_lines bare, bodyCode]

theorem join_code_no_lead (body : Text) : joinCode [] body = trimEnd body := by
  unfold joinCode
  split
  · rename_i blank
    exact (trim_end_of_blank blank).symm
  · rfl

theorem normalize_code_below {later : Text}
    (bare : ∀ line ∈ splitOn '\n' later, allBlank line = true → isBare line = true) :
    normalizeCode ('\n' :: later) = bodyCode (splitOn '\n' later) := by
  have code := normalize_code_line_feed later (List.not_mem_nil (a := '\n'))
  have lead : leadText [] = [] := rfl
  rw [List.nil_append, lead, join_code_no_lead, trim_end_body_text bare] at code
  exact code

namespace Text

section

variable {line : Text}

/-- What is left of a line that is not blank starts with the same character, whether both of its
ends are trimmed or only its start. -/
theorem trim_filled (filled : allBlank line = false) :
    ∃ c rest, trimStart line = c :: rest ∧ trim line = c :: trimEnd rest ∧ isBlank c = false := by
  obtain ⟨front, c, rest, rfl, blank, stops⟩ := exists_filled filled
  have start : trimStart (front ++ c :: rest) = c :: rest := (cut_eq blank (by simp [stops])).2
  refine ⟨c, rest, start, ?_, stops⟩
  rw [trim, strip]
  exact (congrArg _ start).trans (drop_end_append_cons_of_not [] rest stops)

theorem trim_end_starts (t : Text) : trimEnd t <+: t := by
  obtain ⟨back, whole, -⟩ := exists_drop_end_append isBlank t
  exact ⟨back, whole.symm⟩

theorem trim_end_trim_end (t : Text) : trimEnd (trimEnd t) = trimEnd t := by
  obtain ⟨back, whole, blank⟩ := exists_drop_end_append isBlank t
  conv_rhs => rw [whole, trimEnd, drop_end_append_of_all _ blank]
  rfl

theorem trim_trim_start (line : Text) : trim (trimStart line) = trim line := by
  obtain ⟨front, rest, rfl, blank, stops⟩ := exists_cut isBlank line
  rw [trimStart, (cut_eq blank stops).2, trim_blank_append _ blank]

end

end Text

def isComment (line : Text) : Bool := startsWith "#" (trimStart line)

section

variable {line : Text}

theorem lead_text_filled (filled : allBlank line = false) :
    leadText line = if isComment line then [] else trim line := by
  obtain ⟨c, rest, start, trimmed, -⟩ := trim_filled filled
  rw [isComment, start, trimmed]
  by_cases comment : c = '#'
  · subst comment
    rw [leadText, trimmed]
    rfl
  · have other : startsWith "#" (c :: rest) = false := by
      simp [startsWith, after?, Ne.symm comment]
    rw [other, lead_text_of_ne trimmed comment]
    rfl

theorem lead_text_trim_start (line : Text) : leadText (trimStart line) = leadText line := by
  rw [leadText, trim_trim_start, leadText]

theorem normalize_code_join_lines (below : List Text) (one : '\n' ∉ line) :
    normalizeCode (joinLines (line :: below)) =
      joinCode (leadText line) (bodyText (joinLines below)) := by
  by_cases last : below = []
  · subst last
    have whole : joinLines [line] = line := List.append_nil line
    have none : laterLines line = [] := by
      rw [laterLines, List.dropWhile_eq_nil_iff.mpr (by simpa using fun c m => feed_free one c m)]
      rfl
    rw [whole, normalizeCode, first_line_line one, none]
    rfl
  · rw [join_lines_cons line last, normalize_code_line_feed _ one]

theorem normalize_code_trim_start (lines : List Text) (whole : ∀ line ∈ lines, '\n' ∉ line) :
    normalizeCode (trimStart (joinLines lines)) =
      match lines.dropWhile allBlank with
      | [] => []
      | first :: below => joinCode (leadText first) (bodyText (joinLines below)) := by
  rw [trim_start_join_lines]
  cases kept : lines.dropWhile allBlank with
  | nil => rfl
  | cons first below =>
    have listed : first ∈ lines :=
      (List.dropWhile_sublist allBlank).subset (kept ▸ List.mem_cons_self)
    have one : '\n' ∉ trimStart first := fun member =>
      whole first listed ((List.dropWhile_sublist isBlank).subset member)
    dsimp only
    rw [normalize_code_join_lines below one, lead_text_trim_start]

end

end EmbeddedTests
