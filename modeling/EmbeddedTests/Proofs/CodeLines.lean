import EmbeddedTests.Proofs.FirstLine

/-!
# Lines with code

The lines of a text that are not blank, how far in each of them stands, and what is written there.
Blanks and line feeds around the text change nothing of that, and taking away the shared margin
moves all of them by the same width.
-/
namespace EmbeddedTests.Text

section

variable {front back line : Text}

theorem depth_blank_append (line : Text) (blank : ∀ c ∈ front, isBlank c = true) :
    depth (front ++ line) = front.length + depth line := by
  rw [depth, List.takeWhile_append_of_pos blank, List.length_append, depth]

theorem trim_blank_append (line : Text) (blank : ∀ c ∈ front, isBlank c = true) :
    trim (front ++ line) = trim line := by
  rw [trim, strip, List.dropWhile_append_of_pos blank, trim, strip]

theorem exists_filled (filled : allBlank line = false) :
    ∃ front c rest, line = front ++ c :: rest ∧ (∀ d ∈ front, isBlank d = true) ∧
      isBlank c = false := by
  obtain ⟨front, rest, rfl, blank, stops⟩ := exists_cut isBlank line
  cases rest with
  | nil =>
    rw [List.append_nil, allBlank, List.all_eq_true.mpr blank] at filled
    cases filled
  | cons c rest => exact ⟨front, c, rest, rfl, blank, stops c rfl⟩

theorem depth_filled_append (later : Text) (filled : allBlank line = false) :
    depth (line ++ later) = depth line := by
  obtain ⟨front, c, rest, rfl, blank, stops⟩ := exists_filled filled
  rw [List.append_assoc, List.cons_append, depth_blank_append _ blank,
    depth_blank_append _ blank, depth, depth, List.takeWhile_cons, List.takeWhile_cons]
  simp [stops]

theorem trim_append_blank (line : Text) (blank : ∀ c ∈ back, isBlank c = true) :
    trim (line ++ back) = trim line := by
  obtain ⟨front, rest, rfl, before, stops⟩ := exists_cut isBlank line
  rw [List.append_assoc, trim_blank_append _ before, trim_blank_append _ before]
  cases rest with
  | nil =>
    have none := trim_blank_append [] blank
    rwa [List.append_nil] at none
  | cons c rest =>
    have here : isBlank c = false := stops c rfl
    have kept (t : Text) : trim (c :: t) = dropEnd isBlank (c :: t) := by
      rw [trim, strip, List.dropWhile_cons_of_neg (by simp [here])]
    rw [List.cons_append, kept, kept, ← List.cons_append, drop_end_append_of_all _ blank]

theorem trim_end_of_blank {t : Text} (blank : allBlank t = true) : trimEnd t = [] :=
  drop_end_append_of_all [] (List.all_eq_true.mp blank)

theorem trim_end_append_filled {t : Text} (front : Text) (filled : allBlank t = false) :
    trimEnd (front ++ t) = front ++ trimEnd t := by
  obtain ⟨before, c, rest, rfl, -, stops⟩ := exists_filled filled
  rw [← List.append_assoc, trimEnd, trimEnd, drop_end_append_cons_of_not _ _ stops,
    drop_end_append_cons_of_not _ _ stops, List.append_assoc]

def placement (line : Text) : Nat × Text := (depth line, trim line)

theorem placement_append_blank (filled : allBlank line = false)
    (blank : ∀ c ∈ back, isBlank c = true) : placement (line ++ back) = placement line := by
  rw [placement, depth_filled_append back filled, trim_append_blank line blank, placement]

theorem all_blank_blank_append (line : Text) (blank : ∀ c ∈ front, isBlank c = true) :
    allBlank (front ++ line) = allBlank line := by
  rw [allBlank, List.all_append, List.all_eq_true.mpr blank, Bool.true_and, allBlank]

theorem all_blank_append_blank (line : Text) (blank : ∀ c ∈ back, isBlank c = true) :
    allBlank (line ++ back) = allBlank line := by
  rw [allBlank, List.all_append, List.all_eq_true.mpr blank, Bool.and_true, allBlank]

/-- The characters of a text that are not blank. -/
def ink (t : Text) : Text := t.filter (!isBlank ·)

theorem ink_append (s t : Text) : ink (s ++ t) = ink s ++ ink t :=
  List.filter_append s t

theorem ink_of_blank (blank : ∀ c ∈ back, isBlank c = true) : ink back = [] := by
  simpa [ink] using blank

theorem all_blank_eq_ink (t : Text) : allBlank t = (ink t).isEmpty := by
  rw [Bool.eq_iff_iff, List.isEmpty_iff]
  simp [allBlank, ink]

theorem ink_trim_start (t : Text) : ink (trimStart t) = ink t := by
  obtain ⟨front, rest, rfl, blank, stops⟩ := exists_cut isBlank t
  rw [trimStart, (cut_eq blank stops).2, ink_append, ink_of_blank blank, List.nil_append]

theorem ink_trim (t : Text) : ink (trim t) = ink t := by
  obtain ⟨back, whole, blank⟩ := exists_drop_end_append isBlank (t.dropWhile isBlank)
  have cut := ink_append (trim t) back
  rw [ink_of_blank blank, List.append_nil] at cut
  rw [← cut, ← ink_trim_start t]
  exact congrArg ink whole.symm

end

/-- The lines of a text that are not blank. -/
def codeLines (t : Text) : List Text := (splitOn '\n' t).filter (!allBlank ·)

theorem code_lines_line {line : Text} (one : '\n' ∉ line) :
    codeLines line = [line].filter (!allBlank ·) := by
  rw [codeLines, split_on_line one]

theorem code_lines_line_feed {line : Text} (later : Text) (one : '\n' ∉ line) :
    codeLines (line ++ '\n' :: later) = codeLines line ++ codeLines later := by
  rw [code_lines_line one, codeLines, split_on_line_feed later one, ← List.singleton_append,
    List.filter_append, codeLines]

theorem code_lines_join_lines {lines : List Text} (whole : ∀ line ∈ lines, '\n' ∉ line) :
    codeLines (joinLines lines) = lines.filter (!allBlank ·) := by
  by_cases none : lines = []
  · subst none
    rfl
  · rw [codeLines, split_on_join_lines whole none]

theorem placements_append_char {c : Char} (t : Text) (blank : isBlank c = true) :
    (codeLines (t ++ [c])).map placement = (codeLines t).map placement := by
  by_cases feed : c = '\n'
  · subst feed
    rw [codeLines, split_on_append_feed, List.filter_append, codeLines]
    exact congrArg _ (List.append_nil _)
  · have one : ∀ d ∈ [c], isBlank d = true := by simpa using blank
    -- The blank goes to the end of the last line.
    induction t using lines_induction with
    | last line whole =>
      have whole' : '\n' ∉ line ++ [c] := by simp [whole, Ne.symm feed]
      rw [code_lines_line whole, code_lines_line whole']
      cases filled : allBlank line with
      | true => simp [all_blank_append_blank line one, filled]
      | false => simp [all_blank_append_blank line one, filled, placement_append_blank filled one]
    | more line rest whole ih =>
      rw [List.append_assoc, List.cons_append, code_lines_line_feed _ whole, List.map_append, ih,
        code_lines_line_feed _ whole, List.map_append]

theorem placements_append_blank {back : Text} (t : Text) (blank : ∀ c ∈ back, isBlank c = true) :
    (codeLines (t ++ back)).map placement = (codeLines t).map placement := by
  induction back generalizing t with
  | nil => rw [List.append_nil]
  | cons c back ih =>
    have later : ∀ d ∈ back, isBlank d = true := fun d member =>
      blank d (List.mem_cons_of_mem c member)
    rw [← List.singleton_append, ← List.append_assoc, ih _ later,
      placements_append_char t (blank c List.mem_cons_self)]

theorem placements_drop_end {p : Char → Bool} (blank : ∀ c, p c = true → isBlank c = true)
    (t : Text) : (codeLines (dropEnd p t)).map placement = (codeLines t).map placement := by
  obtain ⟨back, whole, all⟩ := exists_drop_end_append p t
  have cut := placements_append_blank (dropEnd p t) fun c member => blank c (all c member)
  rw [← cut, ← whole]

theorem is_blank_of_feed (c : Char) (feed : (c == '\n') = true) : isBlank c = true := by
  rw [eq_of_beq feed]
  rfl

theorem trim_end_drop_end_feed (t : Text) : trimEnd (dropEnd (· == '\n') t) = trimEnd t := by
  obtain ⟨back, whole, feeds⟩ := exists_drop_end_append (· == '\n') t
  have blank : ∀ c ∈ back, isBlank c = true := fun c member => is_blank_of_feed c (feeds c member)
  conv_rhs => rw [whole, trimEnd, drop_end_append_of_all _ blank]
  rfl

theorem code_lines_drop_while_feed (t : Text) :
    codeLines (t.dropWhile (· == '\n')) = codeLines t := by
  induction t with
  | nil => rfl
  | cons c t ih =>
    by_cases feed : c = '\n'
    · subst feed
      have empty : codeLines [] = [] := rfl
      have below := code_lines_line_feed t (List.not_mem_nil (a := '\n'))
      rw [empty, List.nil_append, List.nil_append] at below
      rw [List.dropWhile_cons_of_pos (by simp), ih, below]
    · rw [List.dropWhile_cons_of_neg (by simpa using feed)]

theorem placements_strip_feed (t : Text) :
    (codeLines (strip (· == '\n') t)).map placement = (codeLines t).map placement := by
  rw [strip, placements_drop_end is_blank_of_feed, code_lines_drop_while_feed]

theorem code_lines_of_blank {t : Text} (blank : allBlank t = true) : codeLines t = [] := by
  have none : dropEnd isBlank t = [] := drop_end_append_of_all [] (List.all_eq_true.mp blank)
  have cut := placements_drop_end (fun _ => id) t
  rw [none] at cut
  exact List.map_eq_nil_iff.mp cut.symm

theorem common_start_starts (s t : Text) : commonStart s t <+: s ∧ commonStart s t <+: t := by
  induction s generalizing t with
  | nil => simp [commonStart]
  | cons c s ih =>
    cases t with
    | nil => simp [commonStart]
    | cons d t =>
      by_cases same : c = d
      · simpa [commonStart, same, List.cons_prefix_cons] using ih t
      · simp [commonStart, same]

theorem foldl_common_start_starts (others : List Text) (first : Text) :
    others.foldl commonStart first <+: first ∧
      ∀ m ∈ others, others.foldl commonStart first <+: m := by
  induction others generalizing first with
  | nil => simp
  | cons next others ih =>
    obtain ⟨start, each⟩ := ih (commonStart first next)
    obtain ⟨left, right⟩ := common_start_starts first next
    refine ⟨start.trans left, fun m member => ?_⟩
    rcases List.mem_cons.mp member with rfl | later
    · exact start.trans right
    · exact each m later

theorem common_margin_starts {margins : List Text} {m : Text} (member : m ∈ margins) :
    commonMargin margins <+: m := by
  cases margins with
  | nil => cases member
  | cons first others =>
    obtain ⟨start, each⟩ := foldl_common_start_starts others first
    rcases List.mem_cons.mp member with rfl | later
    · exact start
    · exact each m later

/-- How much of every line that is not bare is taken away. -/
def sharedWidth (lines : List Text) : Nat :=
  (commonMargin ((lines.filter (!isBare ·)).map margin)).length

def dedentLine (lines : List Text) (line : Text) : Text :=
  if isBare line then [] else line.drop (sharedWidth lines)

theorem dedent_lines_eq (lines : List Text) : dedentLines lines = lines.map (dedentLine lines) := rfl

section

variable {lines : List Text} {line : Text}

theorem exists_margin (member : line ∈ lines) (written : isBare line = false) :
    ∃ front, line = front ++ line.drop (sharedWidth lines) ∧
      (∀ c ∈ front, isBlank c = true) ∧ front.length = sharedWidth lines := by
  have listed : margin line ∈ (lines.filter (!isBare ·)).map margin :=
    List.mem_map.mpr ⟨line, List.mem_filter.mpr ⟨member, by simp [written]⟩, rfl⟩
  have start : commonMargin ((lines.filter (!isBare ·)).map margin) <+: line :=
    (common_margin_starts listed).trans (List.takeWhile_prefix _)
  obtain ⟨rest, whole⟩ := start
  refine ⟨_, ?_, ?_, rfl⟩
  · rw [sharedWidth]
    conv_rhs => rw [← whole, List.drop_left]
    exact whole.symm
  · intro c member
    have inside := (common_margin_starts listed).subset member
    exact is_blank_of_is_margin (List.mem_takeWhile_imp inside)

theorem all_blank_of_bare (bare : isBare line = true) : allBlank line = true :=
  List.all_eq_true.mpr fun c member => is_blank_of_is_margin (List.all_eq_true.mp bare c member)

theorem filled_is_written (filled : allBlank line = false) : isBare line = false := by
  cases bare : isBare line with
  | false => rfl
  | true => rw [all_blank_of_bare bare] at filled; exact filled

theorem shared_width_le_depth (member : line ∈ lines) (filled : allBlank line = false) :
    sharedWidth lines ≤ depth line := by
  obtain ⟨front, whole, blank, width⟩ := exists_margin member (filled_is_written filled)
  rw [whole, depth_blank_append _ blank, width]
  exact Nat.le_add_right _ _

theorem placement_dedent_line (member : line ∈ lines) (filled : allBlank line = false) :
    placement (dedentLine lines line) = (depth line - sharedWidth lines, trim line) := by
  have written := filled_is_written filled
  obtain ⟨front, whole, blank, width⟩ := exists_margin member written
  have deep := depth_blank_append (line.drop (sharedWidth lines)) blank
  have told := trim_blank_append (line.drop (sharedWidth lines)) blank
  rw [← whole, width] at deep
  rw [← whole] at told
  rw [dedentLine, if_neg (by simp [written]), placement, deep, told, Nat.add_sub_cancel_left]

theorem all_blank_dedent_line (member : line ∈ lines) :
    allBlank (dedentLine lines line) = allBlank line := by
  unfold dedentLine
  cases bare : isBare line with
  | true => rw [all_blank_of_bare bare]; rfl
  | false =>
    obtain ⟨front, whole, blank, -⟩ := exists_margin member bare
    have cut := all_blank_blank_append (line.drop (sharedWidth lines)) blank
    rw [← whole] at cut
    exact cut.symm

end

theorem placements_dedented (lines : List Text) :
    ((dedentLines lines).filter (!allBlank ·)).map placement =
      (lines.filter (!allBlank ·)).map fun line =>
        (depth line - sharedWidth lines, trim line) := by
  have kept : lines.filter ((!allBlank ·) ∘ dedentLine lines) = lines.filter (!allBlank ·) :=
    List.filter_congr fun line member => congrArg (!·) (all_blank_dedent_line member)
  rw [dedent_lines_eq, List.filter_map, kept, List.map_map]
  refine List.map_congr_left fun line member => ?_
  obtain ⟨given, filled⟩ := List.mem_filter.mp member
  exact placement_dedent_line given (by simpa using filled)

theorem head_d_split_on (t : Text) : (splitOn '\n' t).headD [] = firstLine t := by
  induction t using lines_induction with
  | last line whole => rw [split_on_line whole, first_line_line whole]; rfl
  | more line rest whole _ =>
    rw [split_on_line_feed rest whole, first_line_line_feed rest whole]
    rfl

theorem code_lines_eq_cons {t : Text} (filled : allBlank (firstLine t) = false) :
    ∃ later, codeLines t = firstLine t :: later := by
  obtain ⟨first, later, lines⟩ := List.exists_cons_of_ne_nil (split_on_ne_nil '\n' t)
  have head := head_d_split_on t
  rw [lines, List.headD_cons] at head
  exact ⟨_, by rw [codeLines, lines, head, List.filter_cons_of_pos (by simp [filled])]⟩

theorem first_line_trim_end_filled {line : Text} (later : Text) (one : '\n' ∉ line)
    (filled : allBlank line = false) :
    allBlank (firstLine (trimEnd (line ++ later))) = false := by
  obtain ⟨front, c, rest, rfl, blank, stops⟩ := exists_filled filled
  have kept : trimEnd ((front ++ c :: rest) ++ later) =
      (front ++ [c]) ++ dropEnd isBlank (rest ++ later) := by
    rw [trimEnd, List.append_assoc, List.cons_append, drop_end_append_cons_of_not _ _ stops]
    simp
  have inside : ∀ d ∈ front ++ [c], decide (d ≠ '\n') = true := by
    intro d member
    refine decide_eq_true fun feed => one ?_
    rw [← feed]
    rcases List.mem_append.mp member with before | here
    · exact List.mem_append_left _ before
    · rw [List.mem_singleton.mp here]
      simp
  rw [kept, firstLine, List.takeWhile_append_of_pos inside, allBlank]
  simp [stops]

theorem first_line_strip_filled {t : Text} (filled : allBlank t = false)
    (clean : ∀ line ∈ splitOn '\n' t, allBlank line = true → line = []) :
    allBlank (firstLine (trimEnd (strip (· == '\n') t))) = false := by
  rw [strip, trim_end_drop_end_feed]
  induction t using lines_induction with
  | last line whole =>
    have kept : line.dropWhile (· == '\n') = line := by
      rw [List.dropWhile_eq_self_iff]
      intro some feed
      exact whole (eq_of_beq feed ▸ List.getElem_mem some)
    have front := first_line_trim_end_filled [] whole filled
    rwa [List.append_nil, ← kept] at front
  | more line rest whole ih =>
    rw [split_on_line_feed rest whole] at clean
    -- An empty line goes with the line feeds at the start; any other has code and stays.
    by_cases none : line = []
    · subst none
      have below : allBlank rest = false := by simpa [allBlank, isBlank] using filled
      rw [List.nil_append, List.dropWhile_cons_of_pos (by simp)]
      exact ih below fun line member => clean line (List.mem_cons_of_mem _ member)
    · have written : allBlank line = false :=
        Bool.eq_false_iff.mpr fun blank => none (clean line List.mem_cons_self blank)
      obtain ⟨c, start, rfl⟩ := List.exists_cons_of_ne_nil none
      have other : c ≠ '\n' := fun feed => whole (feed ▸ List.mem_cons_self)
      rw [List.cons_append, List.dropWhile_cons_of_neg (by simpa using other), ← List.cons_append]
      exact first_line_trim_end_filled _ whole written

end EmbeddedTests.Text
