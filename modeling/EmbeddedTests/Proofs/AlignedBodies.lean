import EmbeddedTests.Proofs.BodyCode
import Mathlib.Tactic.MkIffOfInductiveProp

/-!
# Bodies whose first line can stand on its own

A first line of its own is trimmed, and the lines below it lose the margin that they share. For
which bodies is the code then what it is when all lines lose one margin? The first line has to be
no comment, and the lines below have to be written in its column, or one step further in if it
opens a statement.
-/
namespace EmbeddedTests

open Text

namespace Text

theorem common_start_nil (s : Text) : commonStart s [] = [] := by
  cases s <;> rfl

theorem common_start_assoc (s t u : Text) :
    commonStart (commonStart s t) u = commonStart s (commonStart t u) := by
  induction s generalizing t u with
  | nil => simp [commonStart]
  | cons c s ih =>
    cases t with
    | nil => simp [commonStart]
    | cons d t =>
      cases u with
      | nil => rw [common_start_nil, common_start_nil, common_start_nil]
      | cons e u =>
        by_cases left : c = d
        · by_cases right : d = e
          · simp [commonStart, left, right, ih]
          · simp [commonStart, left, right]
        · by_cases right : d = e
          · simp [commonStart, left, ← right]
          · simp [commonStart, left, right]

theorem common_start_of_starts {s t : Text} (h : s <+: t) : commonStart s t = s := by
  obtain ⟨rest, rfl⟩ := h
  have kept := common_start_append s [] rest
  have none : commonStart [] rest = [] := by simp [commonStart]
  rwa [none, List.append_nil] at kept

theorem common_margin_cons (m : Text) {margins : List Text} (some : margins ≠ []) :
    commonMargin (m :: margins) = commonStart m (commonMargin margins) := by
  obtain ⟨next, others, rfl⟩ := List.exists_cons_of_ne_nil some
  clear some
  change others.foldl commonStart (commonStart m next) =
    commonStart m (others.foldl commonStart next)
  induction others generalizing next with
  | nil => rfl
  | cons other others ih => rw [List.foldl_cons, List.foldl_cons, common_start_assoc, ih]

/-- The margin that all lines share that are not bare. -/
def sharedMargin (lines : List Text) : Text :=
  commonMargin ((lines.filter (!isBare ·)).map margin)

theorem shared_width_eq (lines : List Text) : sharedWidth lines = (sharedMargin lines).length := rfl

/-- No blanks but spaces and tabs are in the line. -/
def Spaced (line : Text) : Prop := ∀ c ∈ line, isBlank c = true → isMargin c = true

instance (line : Text) : Decidable (Spaced line) :=
  decidable_of_iff (line.all (fun c => !isBlank c || isMargin c) = true) (by
    rw [List.all_eq_true]
    refine forall₂_congr fun c _ => ?_
    cases isBlank c <;> simp)

section

variable {first line : Text} {below lines : List Text}

theorem shared_margin_starts (member : line ∈ lines) (written : isBare line = false) :
    sharedMargin lines <+: margin line :=
  common_margin_starts (List.mem_map_of_mem (List.mem_filter.mpr ⟨member, by simp [written]⟩))

theorem shared_margin_cons (written : isBare first = false) (member : line ∈ below)
    (written' : isBare line = false) :
    sharedMargin (first :: below) = commonStart (margin first) (sharedMargin below) := by
  have some : (below.filter (!isBare ·)).map margin ≠ [] :=
    List.ne_nil_of_mem (List.mem_map_of_mem (List.mem_filter.mpr ⟨member, by simp [written']⟩))
  rw [sharedMargin, List.filter_cons_of_pos (by simp [written]), List.map_cons,
    common_margin_cons _ some, sharedMargin]

theorem Spaced.bare (h : Spaced line) (blank : allBlank line = true) : isBare line = true :=
  List.all_eq_true.mpr fun c member => h c member (List.all_eq_true.mp blank c member)

theorem Spaced.cut (h : Spaced line) : line = margin line ++ trimStart line ∧
    (margin line).length = depth line := by
  obtain ⟨front, rest, rfl, blank, stops⟩ := exists_cut isBlank line
  have spaces : ∀ c ∈ front, isMargin c = true := fun c member =>
    h c (List.mem_append_left _ member) (blank c member)
  have stops' : ∀ c ∈ rest.head?, isMargin c = false := by
    intro c head
    have visible := stops c head
    refine Bool.eq_false_iff.mpr fun space => ?_
    rw [is_blank_of_is_margin space] at visible
    cases visible
  rw [margin, trimStart, depth, (cut_eq spaces stops').1, (cut_eq blank stops).1,
    (cut_eq blank stops).2]
  exact ⟨rfl, rfl⟩

theorem Spaced.drop_margin (h : Spaced line) : line.drop (margin line).length = trimStart line :=
  (congrArg (List.drop (margin line).length) h.cut.1).trans List.drop_left

end

end Text

/-- The first line of a body that is not blank, and the lines below it. No blanks but spaces and
tabs are on any of them. -/
structure BodyLines (first : Text) (below : List Text) : Prop where
  filled : allBlank first = false
  whole : ∀ line ∈ first :: below, '\n' ∉ line
  spaced : ∀ line ∈ first :: below, Spaced line

def opensBody (line : Text) : Bool := endsWith ":" (trim line)

def stepBelow (first : Text) : Text := if opensBody first then "    " else []

theorem depth_below_trim (first : Text) (lines : List Text) (width : Nat) (line : Text) :
    depthBelow (trim first) lines width line =
      if opensBody first && isOuterClause lines line then 0
      else (stepBelow first).length + (depth line - width) := by
  have lead : endsWith ":" (trim first) = opensBody first := rfl
  rw [depthBelow, stepBelow, lead]
  cases opensBody first with
  | false => simp
  | true => cases isOuterClause lines line <;> simp

/-- The lines below stand as they do in the code that has the first line as one of its own. -/
@[mk_iff]
structure Aligned (first : Text) (below : List Text) : Prop where
  ends : trimEnd first = first
  directly : allBlank (below.headD []) = false
  margins : sharedMargin below = margin first ++ stepBelow first
  clauses : opensBody first = true → ∀ line ∈ below.filter (!allBlank ·),
    isOuterClause (below.filter (!allBlank ·)) line = false

instance (first : Text) (below : List Text) : Decidable (Aligned first below) :=
  decidable_of_iff _ (aligned_iff first below).symm

/-- Do these lines, the first of which is not blank, make the same code when the first one stands on
its own? -/
def StandsAlike : List Text → Prop
  | [] => True
  | first :: below => isComment first = false ∧
      ((∀ line ∈ below, allBlank line = true) ∨ Aligned first below)

instance : (lines : List Text) → Decidable (StandsAlike lines)
  | [] => isTrue trivial
  | _ :: _ => inferInstanceAs (Decidable (_ ∧ (_ ∨ _)))

/-- The code of a body is the same whether all of its lines lose one margin, or the first line that
is not blank is a first line of its own. -/
def FormsAgree (lines : List Text) : Prop := StandsAlike (lines.dropWhile allBlank)

instance (lines : List Text) : Decidable (FormsAgree lines) :=
  inferInstanceAs (Decidable (StandsAlike _))

namespace BodyLines

variable {first : Text} {below : List Text} (h : BodyLines first below)

include h

theorem split_on_joined : splitOn '\n' (joinLines (first :: below)) = first :: below :=
  split_on_join_lines h.whole (List.cons_ne_nil _ _)

theorem lead_uncommented (uncommented : isComment first = false) :
    leadText first = trim first := by
  rw [lead_text_filled h.filled, uncommented]
  rfl

theorem code_lines_below : codeLines (joinLines below) = below.filter (!allBlank ·) :=
  code_lines_join_lines fun line member => h.whole line (List.mem_cons_of_mem first member)

theorem bare : ∀ line ∈ first :: below, allBlank line = true → isBare line = true :=
  fun line member => (h.spaced line member).bare

theorem body_code_eq : bodyCode (first :: below) =
    trimEnd (joinLines ((first :: below).map (dedentLine (first :: below)))) := by
  rw [bodyCode, List.dropWhile_cons_of_neg (by simp [h.filled]), dedent_lines_eq]

theorem joined_code :
    bodyCode (first :: below) = trimEnd (bodyText (joinLines (first :: below))) := by
  rw [trim_end_body_text, h.split_on_joined]
  rw [h.split_on_joined]
  exact h.bare

theorem comment_differs (comment : isComment first = true) :
    joinCode (leadText first) (bodyText (joinLines below)) ≠ bodyCode (first :: below) := by
  intro same
  have counted (later : Text) : (codeLines (trimEnd (bodyText later))).length =
      (codeLines later).length := by
    have placed := congrArg List.length (placements_trim_end_body_text later)
    rwa [List.length_map, List.length_map] at placed
  rw [lead_text_filled h.filled, if_pos comment, join_code_no_lead, h.joined_code] at same
  have lengths := congrArg (fun t => (codeLines t).length) same
  rw [counted, counted] at lengths
  rw [code_lines_join_lines h.whole, h.code_lines_below,
    List.filter_cons_of_pos (by simp [h.filled]), List.length_cons] at lengths
  omega

theorem alone (blank : ∀ line ∈ below, allBlank line = true)
    (uncommented : isComment first = false) :
    joinCode (leadText first) (bodyText (joinLines below)) = bodyCode (first :: below) := by
  have none : allBlank (bodyText (joinLines below)) = true := by
    refine List.all_eq_true.mpr fun c member => ?_
    rcases mem_body_text member with inside | rfl
    · exact List.all_eq_true.mp (all_blank_join_lines blank) c inside
    · rfl
  have others : below.filter (!isBare ·) = [] := by
    refine List.filter_eq_nil_iff.mpr fun line member => ?_
    simp [h.bare line (List.mem_cons_of_mem first member) (blank line member)]
  have shared : sharedMargin (first :: below) = margin first := by
    rw [sharedMargin, List.filter_cons_of_pos (by simp [filled_is_written h.filled]), others]
    rfl
  have left : dedentLine (first :: below) first = trimStart first := by
    rw [dedentLine, if_neg (by simp [filled_is_written h.filled]), shared_width_eq, shared]
    exact (h.spaced first List.mem_cons_self).drop_margin
  have emptied : ∀ other ∈ below.map (dedentLine (first :: below)), allBlank other = true := by
    intro other member
    obtain ⟨line, listed, rfl⟩ := List.mem_map.mp member
    rw [all_blank_dedent_line (List.mem_cons_of_mem first listed), blank line listed]
  have written : allBlank (trimStart first) = false := by rw [all_blank_trim_start, h.filled]
  rw [h.lead_uncommented uncommented, joinCode, if_pos none, h.body_code_eq, List.map_cons, left,
    ← List.nil_append (trimStart first :: _), trim_end_join_lines [] written emptied]
  exact (List.append_nil _).symm

end BodyLines

def codeBelow (first : Text) (below : List Text) : Text :=
  if opensBody first then joinLines (nestLines (splitOn '\n' (bodyCode below))) else bodyCode below

def restBelow (first : Text) (below : List Text) : Text :=
  trimEnd (joinLines (below.map (dedentLine (first :: below))))

/-- A body that has code below its first line too. -/
structure LongBody (first : Text) (below : List Text) : Prop extends BodyLines first below where
  goesOn : ∃ line ∈ below, allBlank line = false

namespace LongBody

variable {first : Text} {below : List Text} (h : LongBody first below)

include h

theorem below_ne_nil : below ≠ [] := by
  obtain ⟨line, member, -⟩ := h.goesOn
  exact List.ne_nil_of_mem member

theorem split_on_below : splitOn '\n' (joinLines below) = below :=
  split_on_join_lines (fun line member => h.whole line (List.mem_cons_of_mem first member))
    h.below_ne_nil

theorem below_bare : ∀ line ∈ splitOn '\n' (joinLines below),
    allBlank line = true → isBare line = true := by
  rw [h.split_on_below]
  exact fun line member => h.bare line (List.mem_cons_of_mem first member)

theorem body_code_below : trimEnd (bodyText (joinLines below)) = bodyCode below := by
  rw [trim_end_body_text h.below_bare, h.split_on_below]

theorem below_filled : allBlank (bodyText (joinLines below)) = false := by
  refine Bool.eq_false_iff.mpr fun blank => ?_
  have placed := placements_body_text (joinLines below)
  rw [code_lines_of_blank blank, h.code_lines_below] at placed
  obtain ⟨line, member, filled⟩ := h.goesOn
  have none := List.filter_eq_nil_iff.mp (List.map_eq_nil_iff.mp placed.symm) line member
  rw [filled] at none
  exact none rfl

theorem own_code (uncommented : isComment first = false) :
    joinCode (leadText first) (bodyText (joinLines below)) =
      trim first ++ '\n' :: codeBelow first below := by
  obtain ⟨c, rest, -, trimmed, -⟩ := trim_filled h.filled
  have some : (trim first).isEmpty = false := by
    rw [trimmed]
    rfl
  rw [h.lead_uncommented uncommented, joinCode, if_neg (by simp [h.below_filled]),
    if_neg (by simp [some]), h.body_code_below, codeBelow, opensBody]
  split <;> simp

theorem dedented_whole : ∀ line ∈ below.map (dedentLine (first :: below)), '\n' ∉ line := by
  intro line member
  have listed : line ∈ splitOn '\n' (dedent (joinLines (first :: below))) := by
    rw [split_on_dedent, h.split_on_joined, dedent_lines_eq, List.map_cons]
    exact List.mem_cons_of_mem _ member
  exact not_mem_of_mem_split_on listed

theorem written : isBare first = false := filled_is_written h.filled

theorem rest_below_filled :
    allBlank (joinLines (below.map (dedentLine (first :: below)))) = false := by
  refine Bool.eq_false_iff.mpr fun blank => ?_
  have none := code_lines_of_blank blank
  rw [code_lines_join_lines h.dedented_whole] at none
  obtain ⟨line, member, filled⟩ := h.goesOn
  have left := List.filter_eq_nil_iff.mp none _ (List.mem_map_of_mem member)
  rw [all_blank_dedent_line (List.mem_cons_of_mem first member), filled] at left
  exact left rfl

theorem shared_code : bodyCode (first :: below) =
    first.drop (sharedWidth (first :: below)) ++ '\n' :: restBelow first below := by
  have some : below.map (dedentLine (first :: below)) ≠ [] := by simp [h.below_ne_nil]
  have left : dedentLine (first :: below) first = first.drop (sharedWidth (first :: below)) :=
    if_neg (by simp [h.written])
  rw [h.body_code_eq, List.map_cons, join_lines_cons _ some, left, List.append_cons,
    trim_end_append_filled _ h.rest_below_filled, ← List.append_cons, restBelow]

theorem shared_margin_eq :
    sharedMargin (first :: below) = commonStart (margin first) (sharedMargin below) := by
  obtain ⟨line, member, filled⟩ := h.goesOn
  exact shared_margin_cons h.written member (filled_is_written filled)

theorem whole_margin_iff :
    sharedWidth (first :: below) = depth first ↔ margin first <+: sharedMargin below := by
  have deep := (h.spaced first List.mem_cons_self).cut.2
  rw [shared_width_eq, h.shared_margin_eq, ← deep]
  obtain ⟨left, right⟩ := common_start_starts (margin first) (sharedMargin below)
  constructor
  · intro long
    rwa [left.eq_of_length long] at right
  · intro starts
    rw [common_start_of_starts starts]

theorem first_alike_iff : trim first = first.drop (sharedWidth (first :: below)) ↔
    trimEnd first = first ∧ sharedWidth (first :: below) = depth first := by
  have spaced := h.spaced first List.mem_cons_self
  have trimmed : trim first = trimEnd (trimStart first) := rfl
  have filled : allBlank (trimStart first) = false := by rw [all_blank_trim_start, h.filled]
  constructor
  · intro same
    obtain ⟨front, whole, blank, width⟩ := exists_margin (List.mem_cons_self (l := below)) h.written
    rw [← same] at whole
    obtain ⟨c, rest, -, start, visible⟩ := trim_filled h.filled
    have outermost : depth (trim first) = 0 := by
      rw [start, depth, List.takeWhile_cons_of_neg (by simp [visible])]
      rfl
    have deep := depth_blank_append (trim first) blank
    rw [← whole, width, outermost] at deep
    have ended := trim_end_append_filled front (t := trim first) (by simp [start, allBlank, visible])
    rw [trimmed, trim_end_trim_end, ← trimmed, ← whole] at ended
    exact ⟨ended, deep.symm⟩
  · rintro ⟨ends, width⟩
    have deep := spaced.cut.2
    rw [width, ← deep, spaced.drop_margin, trimmed]
    have kept := trim_end_append_filled (margin first) filled
    rw [← spaced.cut.1, ends] at kept
    exact List.append_cancel_left (kept.symm.trans spaced.cut.1)

theorem unbroken {line : Text} {c : Char} (listed : line ∈ splitOn '\n' (bodyCode below))
    (member : c ∈ line) : endsLine c = false := by
  have feed : c ≠ '\n' := fun same => not_mem_of_mem_split_on listed (same ▸ member)
  have inside : c ∈ bodyText (joinLines below) := by
    have kept := mem_of_mem_split_on listed member
    rw [← h.body_code_below] at kept
    exact mem_of_mem_drop_end kept
  refine Bool.eq_false_iff.mpr fun ends => ?_
  rcases mem_join_with ((mem_body_text inside).resolve_right feed) with between | ⟨given, row, here⟩
  · exact feed (List.mem_singleton.mp between)
  · have space := h.spaced given (List.mem_cons_of_mem first row) c here (is_blank_of_ends_line ends)
    rcases margin_cases space with rfl | rfl <;> cases ends

theorem first_line_filled : allBlank (firstLine (bodyCode below)) = false := by
  rw [← h.body_code_below]
  exact first_line_body_text_filled h.below_bare h.below_filled

theorem nest_lines_unclaused (clauses : ∀ line ∈ below.filter (!allBlank ·),
      isOuterClause (below.filter (!allBlank ·)) line = false) :
    nestLines (splitOn '\n' (bodyCode below)) =
      (splitOn '\n' (bodyCode below)).map (indentPart "    ") := by
  refine List.map_congr_left fun line listed => ?_
  rw [nest_line_eq, head_d_split_on, indent_unbroken fun c => h.unbroken listed, if_neg]
  rintro ⟨deeper, clause⟩
  have filled : allBlank line = false := by
    refine Bool.eq_false_iff.mpr fun blank => ?_
    rw [trim, strip, List.dropWhile_eq_nil_iff.mpr (List.all_eq_true.mp blank)] at clause
    cases clause
  have placed : placement line ∈ (codeLines (bodyCode below)).map placement :=
    List.mem_map_of_mem (List.mem_filter.mpr ⟨listed, by simp [filled]⟩)
  rw [← h.body_code_below, placements_trim_end_body_text, h.code_lines_below,
    h.split_on_below] at placed
  obtain ⟨given, row, same⟩ := List.mem_map.mp placed
  obtain ⟨deep, told⟩ := Prod.mk.inj same
  have top := depth_first_line_body_text h.below_bare h.below_filled
  rw [h.body_code_below, h.code_lines_below, h.split_on_below] at top
  rw [← told, is_clause_trim] at clause
  have outer := clauses given row
  rw [isOuterClause, clause, Bool.and_true, decide_eq_false_iff_not] at outer
  omega

theorem drop_while_below (directly : allBlank (below.headD []) = false) :
    below.dropWhile allBlank = below := by
  obtain ⟨line, later, rfl⟩ := List.exists_cons_of_ne_nil h.below_ne_nil
  exact List.dropWhile_cons_of_neg (by simpa using directly)

theorem dedented_step {line : Text} (member : line ∈ below)
    (margins : sharedMargin below = margin first ++ stepBelow first) :
    dedentLine (first :: below) line = indentPart (stepBelow first) (dedentLine below line) := by
  have starts : margin first <+: sharedMargin below := margins ▸ List.prefix_append _ _
  have width : sharedWidth (first :: below) = (margin first).length := by
    rw [shared_width_eq, h.shared_margin_eq, common_start_of_starts starts]
  cases bare : isBare line with
  | true =>
    rw [dedentLine, dedentLine, if_pos bare, if_pos bare]
    rfl
  | false =>
    have filled : allBlank line = false := by
      refine Bool.eq_false_iff.mpr fun blank => ?_
      rw [h.bare line (List.mem_cons_of_mem first member) blank] at bare
      cases bare
    obtain ⟨rest, whole⟩ := (shared_margin_starts member bare).trans (List.takeWhile_prefix _)
    have left : dedentLine below line = rest := by
      rw [dedentLine, if_neg (by simp [bare]), shared_width_eq]
      conv_lhs => rw [← whole, List.drop_left]
    have written : allBlank rest = false := by
      rw [← left, all_blank_dedent_line member, filled]
    rw [left, indent_part_filled written, dedentLine, if_neg (by simp [bare]), width, ← whole,
      margins, List.append_assoc, List.drop_left]

theorem below_alike_of_aligned (aligned : Aligned first below) :
    codeBelow first below = restBelow first below := by
  obtain ⟨line, member, filled⟩ := h.goesOn
  have rest : below.map (dedentLine (first :: below)) =
      (dedentLines below).map (indentPart (stepBelow first)) := by
    rw [dedent_lines_eq, List.map_map]
    exact List.map_congr_left fun line member => h.dedented_step member aligned.margins
  have code : bodyCode below = trimEnd (joinLines (dedentLines below)) := by
    rw [bodyCode, h.drop_while_below aligned.directly]
  rw [codeBelow, restBelow, rest]
  cases opens : opensBody first with
  | false =>
    have step : stepBelow first = [] := by simp [stepBelow, opens]
    have kept : (dedentLines below).map (indentPart []) = dedentLines below :=
      (List.map_congr_left fun line _ => indent_part_nil line).trans (List.map_id _)
    rw [step, kept, code]
    rfl
  | true =>
    have step : stepBelow first = "    " := by simp [stepBelow, opens]
    have whole : ∀ line ∈ dedentLines below, '\n' ∉ line := by
      rw [← h.split_on_below, ← split_on_dedent]
      exact fun line => not_mem_of_mem_split_on
    have listed : dedentLine below line ∈ dedentLines below := by
      rw [dedent_lines_eq]
      exact List.mem_map_of_mem member
    have written : allBlank (dedentLine below line) = false := by
      rw [all_blank_dedent_line member, filled]
    rw [step, if_pos rfl, h.nest_lines_unclaused (aligned.clauses opens), code,
      indented_trim_end whole listed written]

theorem standings_below :
    (codeLines (codeBelow first below)).map standing =
      standingsBelow (trim first) (joinLines below) := by
  unfold codeBelow
  cases opens : opensBody first with
  | false =>
    have standings := standings_plain (joinLines below) opens
    rwa [h.body_code_below] at standings
  | true =>
    have standings := standings_opened opens h.below_bare h.below_filled
    rwa [h.body_code_below] at standings

theorem standings_rest :
    (codeLines (restBelow first below)).map standing =
      (below.filter (!allBlank ·)).map fun line =>
        (depth line - sharedWidth (first :: below), ink line) := by
  have placed : (codeLines (restBelow first below)).map placement =
      (below.filter (!allBlank ·)).map fun line =>
        (depth line - sharedWidth (first :: below), trim line) := by
    have all := placements_dedented (first :: below)
    have head : allBlank (dedentLine (first :: below) first) = false := by
      rw [all_blank_dedent_line List.mem_cons_self, h.filled]
    rw [dedent_lines_eq, List.map_cons, List.filter_cons_of_pos (by simp [head]),
      List.filter_cons_of_pos (by simp [h.filled]), List.map_cons, List.map_cons] at all
    rw [restBelow, trimEnd, placements_drop_end fun _ => id, code_lines_join_lines h.dedented_whole]
    exact List.tail_eq_of_cons_eq all
  exact standings_of_placements placed

theorem depths_alike (same : codeBelow first below = restBelow first below) :
    ∀ line ∈ below.filter (!allBlank ·),
      depthBelow (trim first) (below.filter (!allBlank ·)) (sharedWidth below) line =
        depth line - sharedWidth (first :: below) := by
  have standings := h.standings_below
  rw [same, h.standings_rest, standingsBelow, h.code_lines_below, h.split_on_below] at standings
  intro line listed
  exact (congrArg Prod.fst (List.map_inj_left.mp standings line listed)).symm

theorem first_line_code_below :
    firstLine (codeBelow first below) = stepBelow first ++ firstLine (bodyCode below) := by
  unfold codeBelow stepBelow
  cases opensBody first with
  | false => rfl
  | true =>
    have listed : firstLine (bodyCode below) ∈ splitOn '\n' (bodyCode below) := by
      obtain ⟨line, later, lines⟩ :=
        List.exists_cons_of_ne_nil (split_on_ne_nil '\n' (bodyCode below))
      rw [← head_d_split_on, lines]
      exact List.mem_cons_self
    rw [if_pos rfl, if_pos rfl, first_line_nested, indent_unbroken fun c => h.unbroken listed,
      indent_part_filled h.first_line_filled]

theorem directly_of_alike (same : codeBelow first below = restBelow first below) :
    allBlank (below.headD []) = false := by
  have top := h.first_line_code_below
  have kept := h.rest_below_filled
  obtain ⟨line, member, filled⟩ := h.goesOn
  cases below with
  | nil => cases member
  | cons head later =>
    refine Bool.eq_false_iff.mpr fun (blank : allBlank head = true) => ?_
    have more : later.map (dedentLine (first :: head :: later)) ≠ [] := by
      intro none
      rw [List.map_eq_nil_iff.mp none, List.mem_singleton] at member
      rw [member, blank] at filled
      cases filled
    have emptied : dedentLine (first :: head :: later) head = [] :=
      if_pos (h.bare head (by simp) blank)
    rw [List.map_cons, emptied, join_lines_cons [] more] at kept
    have rest : restBelow first (head :: later) =
        '\n' :: trimEnd (joinLines (later.map (dedentLine (first :: head :: later)))) := by
      rw [restBelow, List.map_cons, emptied, join_lines_cons [] more]
      have feed : ∀ c ∈ ['\n'], isBlank c = true := List.forall_mem_singleton.mpr rfl
      exact trim_end_append_filled ['\n'] ((all_blank_blank_append _ feed).symm.trans kept)
    have none (t : Text) : firstLine ('\n' :: t) = [] := by simp [firstLine]
    rw [same, rest, none] at top
    have empty := (List.append_eq_nil_iff.mp top.symm).2
    have some := h.first_line_filled
    rw [empty] at some
    cases some

theorem step_starts_rest (same : codeBelow first below = restBelow first below) :
    stepBelow first <+: joinLines (below.map (dedentLine (first :: below))) := by
  have start : stepBelow first <+: firstLine (codeBelow first below) :=
    h.first_line_code_below ▸ List.prefix_append _ _
  have whole := start.trans (List.takeWhile_prefix _)
  rw [same, restBelow] at whole
  exact whole.trans (trim_end_starts _)

theorem margins_of_alike (same : codeBelow first below = restBelow first below)
    (width : sharedWidth (first :: below) = depth first) :
    sharedMargin below = margin first ++ stepBelow first := by
  have directly := h.directly_of_alike same
  have alike := h.depths_alike same
  have left := h.step_starts_rest same
  have deep := (h.spaced first List.mem_cons_self).cut.2
  obtain ⟨s, margins⟩ := h.whole_margin_iff.mp width
  have wide : sharedWidth below = depth first + s.length := by
    rw [shared_width_eq, ← margins, List.length_append, deep]
  cases below with
  | nil => cases directly
  | cons head later =>
    have filled : allBlank head = false := directly
    have listed : head ∈ (head :: later).filter (!allBlank ·) :=
      List.mem_filter.mpr ⟨List.mem_cons_self, by simp [filled]⟩
    have within : sharedWidth (head :: later) ≤ depth head :=
      shared_width_le_depth List.mem_cons_self filled
    have inner : isOuterClause ((head :: later).filter (!allBlank ·)) head = false := by
      rw [List.filter_cons_of_pos (by simp [filled]), isOuterClause, List.headD_cons]
      simp
    have level := alike head listed
    rw [depth_below_trim, inner, Bool.and_false, if_neg Bool.false_ne_true] at level
    have long : s.length = (stepBelow first).length := by omega
    -- The lines below start with it too, when they have lost the first line's margin.
    have right : s <+: joinLines ((head :: later).map (dedentLine (first :: head :: later))) := by
      have bare := filled_is_written filled
      obtain ⟨rest, whole⟩ := (shared_margin_starts (List.mem_cons_self (l := later)) bare).trans
        (List.takeWhile_prefix _)
      rw [← margins, List.append_assoc] at whole
      have cut : dedentLine (first :: head :: later) head = s ++ rest := by
        rw [dedentLine, if_neg (by simp [bare]), width, ← deep, ← whole, List.drop_left]
      rw [List.map_cons, cut]
      exact (List.prefix_append _ _).trans (prefix_join_lines _ _)
    rw [← margins, (List.prefix_of_prefix_length_le right left long.le).eq_of_length long]

theorem aligned_of_alike (same : codeBelow first below = restBelow first below)
    (ends : trimEnd first = first) (width : sharedWidth (first :: below) = depth first) :
    Aligned first below := by
  have margins := h.margins_of_alike same width
  refine ⟨ends, h.directly_of_alike same, margins, fun opens line listed => ?_⟩
  refine Bool.eq_false_iff.mpr fun outer => ?_
  obtain ⟨member, filled⟩ := List.mem_filter.mp listed
  have level := h.depths_alike same line listed
  rw [depth_below_trim, opens, outer, Bool.and_true, if_pos rfl] at level
  -- An outer clause would stand at the first line's depth, but it stands further in.
  have within := shared_width_le_depth member (by simpa using filled)
  have deep := (h.spaced first List.mem_cons_self).cut.2
  have step : (stepBelow first).length = 4 := by
    rw [stepBelow, if_pos opens]
    rfl
  rw [shared_width_eq, margins, List.length_append, step] at within
  omega

end LongBody

theorem code_is_same_iff {lines : List Text} (whole : ∀ line ∈ lines, '\n' ∉ line)
    (spaced : ∀ line ∈ lines, Spaced line) :
    normalizeCode (trimStart (joinLines lines)) = bodyCode lines ↔ FormsAgree lines := by
  rw [normalize_code_trim_start lines whole, FormsAgree]
  cases kept : lines.dropWhile allBlank with
  | nil =>
    rw [bodyCode, kept]
    exact iff_of_true rfl trivial
  | cons first below =>
    have listed : ∀ line ∈ first :: below, line ∈ lines := fun line member =>
      (List.dropWhile_sublist allBlank).subset (kept ▸ member)
    have filled : allBlank first = false := by
      have stops := List.head?_dropWhile_not allBlank lines
      rwa [kept] at stops
    have h : BodyLines first below := ⟨filled, fun line member => whole line (listed line member),
      fun line member => spaced line (listed line member)⟩
    have code : bodyCode lines = bodyCode (first :: below) := by
      rw [bodyCode, kept, bodyCode, List.dropWhile_cons_of_neg (by simp [filled])]
    dsimp only
    rw [code]
    cases comment : isComment first with
    | true =>
      have disagree : ¬ StandsAlike (first :: below) := fun agree => by
        rw [agree.1] at comment
        cases comment
      exact iff_of_false (h.comment_differs comment) disagree
    | false =>
      by_cases blank : ∀ line ∈ below, allBlank line = true
      · exact iff_of_true (h.alone blank comment) ⟨comment, .inl blank⟩
      · have long : LongBody first below := ⟨h, by simpa using blank⟩
        have one : '\n' ∉ first := whole first (listed first List.mem_cons_self)
        rw [long.own_code comment, long.shared_code,
          line_feed_inj (fun member => one (mem_of_mem_trim member))
            (fun member => one (List.mem_of_mem_drop member)), long.first_alike_iff]
        constructor
        · rintro ⟨⟨ends, width⟩, same⟩
          exact ⟨comment, .inr (long.aligned_of_alike same ends width)⟩
        · rintro ⟨-, absent | aligned⟩
          · exact absurd absent blank
          · have starts : margin first <+: sharedMargin below :=
              aligned.margins ▸ List.prefix_append _ _
            exact ⟨⟨aligned.ends, long.whole_margin_iff.mpr starts⟩,
              long.below_alike_of_aligned aligned⟩

end EmbeddedTests
