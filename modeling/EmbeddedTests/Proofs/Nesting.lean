import EmbeddedTests.Proofs.CodeLines
import Mathlib.Data.List.Forall2

/-!
# Lines below a line that opens a statement

The lines of a text that have code on them are lines of the code that it makes, in the same order.
How far in each of them stands there depends on how far in it stands in the text, on the margin that
is taken away, and below a line that opens a statement on whether it is a clause that is taken for
one of that statement.
-/
namespace EmbeddedTests

open Text

namespace Text

theorem after_append_blank {word back : Text} (t : Text) (letters : ∀ c ∈ word, isBlank c = false)
    (blank : ∀ c ∈ back, isBlank c = true) :
    after? word (t ++ back) = (after? word t).map (· ++ back) := by
  induction word generalizing t with
  | nil => simp [after?]
  | cons c word ih =>
    have here : isBlank c = false := letters c List.mem_cons_self
    cases t with
    | nil =>
      cases back with
      | nil => rfl
      | cons d back =>
        have other : c ≠ d := by
          intro same
          rw [same, blank d List.mem_cons_self] at here
          cases here
        simp [after?, other]
    | cons d t =>
      have later := ih t fun e member => letters e (List.mem_cons_of_mem c member)
      by_cases same : c = d
      · simpa [after?, same] using later
      · simp [after?, same]

def blankCodePoints : List Nat :=
  List.range' 9 5 ++ List.range' 28 5 ++ List.range' 0x2000 11 ++
    [0x85, 0xa0, 0x1680, 0x2028, 0x2029, 0x202f, 0x205f, 0x3000]

theorem code_point_of_blank {c : Char} (h : isBlank c = true) : c.toNat ∈ blankCodePoints := by
  simp only [isBlank, Bool.or_eq_true, Bool.and_eq_true, decide_eq_true_eq, beq_iff_eq] at h
  simp only [blankCodePoints, List.mem_append, List.mem_range'_1, List.mem_cons, List.not_mem_nil,
    or_false]
  omega

theorem not_word_of_blank {c : Char} (h : isBlank c = true) : isWordChar c = false := by
  have apart : ∀ n ∈ blankCodePoints, CodePoints.insideAt alphanumeric.changes n = false := by
    decide +kernel
  have other : c ≠ '_' := by
    rintro rfl
    cases h
  rw [isWordChar, beq_eq_false_iff_ne.mpr other, Bool.false_or]
  exact apart _ (code_point_of_blank h)

end Text

theorem is_clause_append_blank {back : Text} (t : Text) (blank : ∀ c ∈ back, isBlank c = true) :
    isClause (t ++ back) = isClause t := by
  have told {word : Text} {goesOn : Text → Bool} (letters : word.any isBlank = false)
      (same : ∀ rest, goesOn (rest ++ back) = goesOn rest) :
      (after? word (t ++ back)).elim false goesOn = (after? word t).elim false goesOn := by
    rw [after_append_blank t (by simpa using letters) blank]
    cases after? word t with
    | none => rfl
    | some rest => exact same rest
  unfold isClause
  refine congrArg₂ or (congrArg₂ or (congrArg₂ or (told (by decide) ?word) (told (by decide) ?colon))
    (told (by decide) ?word')) (told (by decide) ?colon')
  case word | word' =>
    intro rest
    cases rest with
    | cons c rest => rfl
    | nil =>
      cases back with
      | nil => rfl
      | cons d back => simp [not_word_of_blank (blank d List.mem_cons_self)]
  case colon | colon' =>
    intro rest
    cases start : trimStart rest with
    | nil =>
      have none : trimStart back = [] := List.dropWhile_eq_nil_iff.mpr blank
      simp only [trim_start_blank_append back start, none]
    | cons c after =>
      have longer := trim_start_append back (t := rest) (by simp [start])
      rw [start, List.cons_append] at longer
      simp only [longer]
      by_cases colon : c = ':'
      · subst colon
        rfl
      · simp [colon]

theorem is_clause_trim (line : Text) : isClause (trim line) = isClause (trimStart line) := by
  obtain ⟨back, whole, blank⟩ := exists_drop_end_append isBlank (line.dropWhile isBlank)
  rw [trimStart, whole, is_clause_append_blank _ blank, trim, strip]

namespace Text

theorem broken_lines_flatten (t : Text) : (brokenLines t).flatten = t := by
  fun_induction brokenLines t with
  | case1 => rfl
  | case2 rest ih => simp [ih]
  | case3 c rest other ends ih => simp [ih]
  | case4 c rest other goes none ih =>
    rw [none] at ih
    simp [← ih]
  | case5 c rest other goes line lines broken ih =>
    rw [broken] at ih
    simpa using ih

section

variable {c : Char} {t line : Text} {lines : List Text}

theorem broken_lines_ends (other : c = '\r' → t.head? ≠ some '\n') (ends : endsLine c = true) :
    brokenLines (c :: t) = [c] :: brokenLines t := by
  rw [brokenLines, if_pos ends]
  rintro rest rfl rfl
  exact other rfl rfl

theorem broken_lines_goes_on (goes : endsLine c = false) (broken : brokenLines t = line :: lines) :
    brokenLines (c :: t) = (c :: line) :: lines := by
  rw [brokenLines, if_neg (by simp [goes]), broken]
  rintro rest rfl
  cases goes

end

theorem is_blank_of_ends_line {c : Char} (h : endsLine c = true) : isBlank c = true := by
  simp only [endsLine, isBlank, Bool.or_eq_true, Bool.and_eq_true, decide_eq_true_eq,
    beq_iff_eq] at h ⊢
  omega

theorem broken_lines_unbroken {t : Text} (whole : ∀ c ∈ t, endsLine c = false) (some : t ≠ []) :
    brokenLines t = [t] := by
  induction t with
  | nil => exact absurd rfl some
  | cons c t ih =>
    have here : endsLine c = false := whole c List.mem_cons_self
    by_cases none : t = []
    · subst none
      rw [brokenLines, if_neg (by simp [here])]
      · rfl
      · rintro rest rfl
        cases here
    · have later := ih (fun d member => whole d (List.mem_cons_of_mem c member)) none
      exact broken_lines_goes_on here later

theorem broken_lines_line_feed (t later : Text) : ∃ parts last,
    brokenLines (t ++ '\n' :: later) = parts ++ (last ++ ['\n']) :: brokenLines later := by
  fun_induction brokenLines t with
  | case1 => exact ⟨[], [], broken_lines_ends (fun same => absurd same (by decide)) rfl⟩
  | case2 rest ih =>
    obtain ⟨parts, last, broken⟩ := ih
    exact ⟨['\r', '\n'] :: parts, last, by simp [brokenLines, broken]⟩
  | case3 c rest other ends ih =>
    obtain ⟨parts, last, broken⟩ := ih
    by_cases alone : c = '\r' ∧ rest = []
    · obtain ⟨rfl, rfl⟩ := alone
      exact ⟨[], ['\r'], by simp [brokenLines]⟩
    · have apart : c = '\r' → (rest ++ '\n' :: later).head? ≠ some '\n' := by
        rintro rfl
        cases rest with
        | nil => exact absurd ⟨rfl, rfl⟩ alone
        | cons d rest =>
          intro feed
          cases feed
          exact other _ rfl rfl
      exact ⟨[c] :: parts, last, by rw [List.cons_append, broken_lines_ends apart ends, broken]; rfl⟩
  | case4 c rest other goes none ih | case5 c rest other goes line lines found ih =>
    obtain ⟨parts, last, broken⟩ := ih
    have goes : endsLine c = false := Bool.eq_false_iff.mpr goes
    cases parts with
    | nil => exact ⟨[], c :: last, broken_lines_goes_on goes broken⟩
    | cons part parts => exact ⟨(c :: part) :: parts, last, broken_lines_goes_on goes broken⟩

section

variable {front : Text}

def indentPart (front part : Text) : Text := if allBlank part then part else front ++ part

theorem indent_eq (front t : Text) :
    indent front t = ((brokenLines t).map (indentPart front)).flatten := rfl

theorem indent_unbroken {t : Text} (whole : ∀ c ∈ t, endsLine c = false) :
    indent front t = indentPart front t := by
  by_cases none : t = []
  · rw [none]
    rfl
  · rw [indent_eq, broken_lines_unbroken whole none]
    exact List.append_nil _

theorem indent_line_feed (t later : Text) :
    ∃ before, indent front (t ++ '\n' :: later) = before ++ '\n' :: indent front later := by
  obtain ⟨parts, last, broken⟩ := broken_lines_line_feed t later
  have kept : ∃ start, indentPart front (last ++ ['\n']) = start ++ ['\n'] := by
    unfold indentPart
    split
    · exact ⟨last, rfl⟩
    · exact ⟨front ++ last, (List.append_assoc _ _ _).symm⟩
  obtain ⟨start, ended⟩ := kept
  refine ⟨(parts.map (indentPart front)).flatten ++ start, ?_⟩
  rw [indent_eq, broken, indent_eq, List.map_append, List.map_cons, ended]
  simp

theorem mem_of_mem_indent {t : Text} {c : Char} (h : c ∈ indent front t) : c ∈ front ∨ c ∈ t := by
  obtain ⟨part, listed, inside⟩ := List.mem_flatten.mp h
  obtain ⟨given, broken, rfl⟩ := List.mem_map.mp listed
  have kept (there : c ∈ given) : c ∈ t := by
    rw [← broken_lines_flatten t]
    exact List.mem_flatten.mpr ⟨given, broken, there⟩
  split at inside
  · exact .inr (kept inside)
  · exact (List.mem_append.mp inside).imp_right kept

variable (blank : ∀ c ∈ front, isBlank c = true)

include blank

theorem ink_indent_part (part : Text) : ink (indentPart front part) = ink part := by
  unfold indentPart
  split
  · rfl
  · rw [ink_append, ink_of_blank blank, List.nil_append]

theorem ink_indent (t : Text) : ink (indent front t) = ink t := by
  have inside (parts : List Text) :
      ink (parts.map (indentPart front)).flatten = ink parts.flatten := by
    induction parts with
    | nil => rfl
    | cons part parts ih =>
      rw [List.map_cons, List.flatten_cons, List.flatten_cons, ink_append, ink_append, ih,
        ink_indent_part blank]
  rw [indent_eq, inside, broken_lines_flatten]

theorem depth_indent {t : Text} (filled : allBlank t = false) :
    depth (indent front t) = front.length + depth t := by
  have inside (parts : List Text) (filled : allBlank parts.flatten = false) :
      depth (parts.map (indentPart front)).flatten = front.length + depth parts.flatten := by
    induction parts with
    | nil => cases filled
    | cons part parts ih =>
      rw [List.map_cons, List.flatten_cons, List.flatten_cons]
      -- Nothing is put before a blank part, which itself stands before all that follows.
      cases none : allBlank part with
      | true =>
        have before : ∀ c ∈ part, isBlank c = true := List.all_eq_true.mp none
        have below : allBlank parts.flatten = false := by
          rwa [List.flatten_cons, all_blank_blank_append _ before] at filled
        rw [indentPart, if_pos none, depth_blank_append _ before, ih below,
          depth_blank_append _ before]
        omega
      | false =>
        have written : indentPart front part = front ++ part := by simp [indentPart, none]
        rw [written, List.append_assoc, depth_blank_append _ blank,
          depth_filled_append _ none, depth_filled_append _ none]
  have broken := inside (brokenLines t)
  rw [broken_lines_flatten] at broken
  rw [indent_eq, broken filled]

end

theorem depth_trim_start (t : Text) : depth (trimStart t) = 0 := by
  obtain ⟨front, rest, rfl, blank, stops⟩ := exists_cut isBlank t
  have none : rest.takeWhile isBlank = [] := (cut_eq (fun _ => List.not_mem_nil.elim) stops).1
  rw [trimStart, (cut_eq blank stops).2, depth, none]
  rfl

/-- How far in a line stands, and its characters that are not blank. -/
def standing (line : Text) : Nat × Text := (depth line, ink line)

/-- How a line with this placement stands below a line that opens a statement whose body starts at
this depth. -/
def nested (bodyDepth : Nat) (placed : Nat × Text) : Nat × Text :=
  (if placed.1 < bodyDepth ∧ isClause placed.2 = true then 0 else 4 + placed.1, ink placed.2)

end Text

section

variable {bodyDepth : Nat}

theorem blank_step : ∀ c ∈ ("    " : Text), isBlank c = true :=
  List.all_eq_true.mp (by decide)

theorem nest_line_eq (line : Text) :
    nestLine bodyDepth line =
      if depth line < bodyDepth ∧ isClause (trim line) = true then trimStart line
      else indent "    " line := by
  rw [is_clause_trim, nestLine]
  cases trimStart line with
  | nil =>
    have none : isClause [] = false := rfl
    simp [none]
  | cons c rest => simp

theorem mem_of_mem_nest_line {line : Text} {c : Char} (h : c ∈ nestLine bodyDepth line) :
    c ∈ ("    " : Text) ∨ c ∈ line := by
  rw [nest_line_eq] at h
  split at h
  · exact .inr ((List.dropWhile_sublist isBlank).subset h)
  · exact mem_of_mem_indent h

theorem ink_nest_line (line : Text) : ink (nestLine bodyDepth line) = ink line := by
  rw [nest_line_eq]
  split
  · exact ink_trim_start line
  · exact ink_indent blank_step line

theorem standing_nest_line {line : Text} (filled : allBlank line = false) :
    standing (nestLine bodyDepth line) = nested bodyDepth (placement line) := by
  have deep : depth (nestLine bodyDepth line) =
      if depth line < bodyDepth ∧ isClause (trim line) = true then 0 else 4 + depth line := by
    rw [nest_line_eq]
    split
    · exact depth_trim_start line
    · exact depth_indent blank_step filled
  rw [standing, deep, ink_nest_line, nested, placement, ink_trim]

theorem nest_lines_whole {lines : List Text} (whole : ∀ line ∈ lines, '\n' ∉ line) :
    ∀ line ∈ nestLines lines, '\n' ∉ line := by
  intro line member feed
  obtain ⟨given, listed, rfl⟩ := List.mem_map.mp member
  rcases mem_of_mem_nest_line feed with front | inside
  · exact absurd front (by decide)
  · exact whole given listed inside

/-- Nesting keeps the lines with code and their order, and settles how each of them stands. -/
theorem standings_nested {lines : List Text} (whole : ∀ line ∈ lines, '\n' ∉ line) :
    (codeLines (joinLines (nestLines lines))).map standing =
      ((lines.filter (!allBlank ·)).map placement).map (nested (depth (lines.headD []))) := by
  -- Nesting moves blanks only, so the lines with code stay the same.
  have kept : lines.filter ((!allBlank ·) ∘ nestLine (depth (lines.headD []))) =
      lines.filter (!allBlank ·) :=
    List.filter_congr fun line _ => by
      rw [Function.comp_apply, all_blank_eq_ink, ink_nest_line, ← all_blank_eq_ink]
  rw [code_lines_join_lines (nest_lines_whole whole), nestLines, List.filter_map, kept, List.map_map,
    List.map_map]
  refine List.map_congr_left fun line member => ?_
  have filled : allBlank line = false := by simpa using (List.mem_filter.mp member).2
  exact standing_nest_line filled

end

theorem split_on_dedent (later : Text) :
    splitOn '\n' (dedent later) = dedentLines (splitOn '\n' later) := by
  apply split_on_join_lines
  · intro line member feed
    obtain ⟨given, listed, rfl⟩ := List.mem_map.mp member
    split at feed
    · cases feed
    · exact not_mem_of_mem_split_on listed (List.mem_of_mem_drop feed)
  · simp [dedentLines, split_on_ne_nil]

theorem placements_body_text (later : Text) :
    (codeLines (bodyText later)).map placement =
      (codeLines later).map fun line =>
        (depth line - sharedWidth (splitOn '\n' later), trim line) := by
  rw [bodyText, placements_strip_feed, codeLines, split_on_dedent, placements_dedented, codeLines]

theorem placements_trim_end_body_text (later : Text) :
    (codeLines (trimEnd (bodyText later))).map placement =
      (codeLines later).map fun line =>
        (depth line - sharedWidth (splitOn '\n' later), trim line) := by
  rw [trimEnd, placements_drop_end (fun _ => id), placements_body_text]

section

variable {later : Text}

theorem blank_body_text (blank : allBlank (dedent later) = true) :
    allBlank (bodyText later) = true :=
  List.all_eq_true.mpr fun c member =>
    List.all_eq_true.mp blank c ((List.dropWhile_sublist _).subset (mem_of_mem_drop_end member))

theorem first_line_body_text_filled
    (bare : ∀ line ∈ splitOn '\n' later, allBlank line = true → isBare line = true)
    (filled : allBlank (bodyText later) = false) :
    allBlank (firstLine (trimEnd (bodyText later))) = false := by
  have filled' : allBlank (dedent later) = false :=
    Bool.eq_false_iff.mpr fun blank => by rw [blank_body_text blank] at filled; cases filled
  have clean : ∀ line ∈ splitOn '\n' (dedent later), allBlank line = true → line = [] := by
    intro line member blank
    rw [split_on_dedent, dedent_lines_eq] at member
    obtain ⟨given, listed, rfl⟩ := List.mem_map.mp member
    exact if_pos (bare given listed (all_blank_dedent_line listed ▸ blank))
  exact first_line_strip_filled filled' clean

theorem depth_first_line_body_text
    (bare : ∀ line ∈ splitOn '\n' later, allBlank line = true → isBare line = true)
    (filled : allBlank (bodyText later) = false) :
    depth (firstLine (trimEnd (bodyText later))) =
      depth ((codeLines later).headD []) - sharedWidth (splitOn '\n' later) := by
  obtain ⟨others, lines⟩ := code_lines_eq_cons (first_line_body_text_filled bare filled)
  have placed := placements_trim_end_body_text later
  rw [lines] at placed
  cases given : codeLines later with
  | nil =>
    rw [given] at placed
    cases placed
  | cons line rest =>
    rw [given, List.map_cons, List.map_cons] at placed
    exact congrArg Prod.fst (List.head_eq_of_cons_eq placed)

end

/-- A clause that is written less far in than the first of the lines. -/
def isOuterClause (lines : List Text) (line : Text) : Bool :=
  depth line < depth (lines.headD []) && isClause (trimStart line)

def depthBelow (lead : Text) (lines : List Text) (width : Nat) (line : Text) : Nat :=
  if endsWith ":" lead then
    if isOuterClause lines line then 0 else 4 + (depth line - width)
  else depth line - width

def standingsBelow (lead later : Text) : List (Nat × Text) :=
  (codeLines later).map fun line =>
    (depthBelow lead (codeLines later) (sharedWidth (splitOn '\n' later)) line, ink line)

section

variable {lead later : Text}

theorem standing_eq (line : Text) :
    standing line = ((placement line).1, ink (placement line).2) := by
  rw [placement, ink_trim, standing]

theorem standings_of_placements {placed given : List Text} {deep : Text → Nat}
    (placements : placed.map placement = given.map fun line => (deep line, trim line)) :
    placed.map standing = given.map fun line => (deep line, ink line) := by
  have inked := congrArg (List.map fun p : Nat × Text => (p.1, ink p.2)) placements
  rw [List.map_map, List.map_map] at inked
  rw [List.map_congr_left fun line _ => standing_eq line]
  refine inked.trans (List.map_congr_left fun line _ => ?_)
  rw [Function.comp_apply, ink_trim]

theorem standings_plain (later : Text) (plain : endsWith ":" lead = false) :
    (codeLines (trimEnd (bodyText later))).map standing = standingsBelow lead later := by
  rw [standings_of_placements (placements_trim_end_body_text later)]
  refine List.map_congr_left fun line _ => ?_
  rw [depthBelow, plain]
  rfl

theorem nested_of_member {line : Text} (member : line ∈ codeLines later) :
    nested (depth ((codeLines later).headD []) - sharedWidth (splitOn '\n' later))
        (depth line - sharedWidth (splitOn '\n' later), trim line) =
      (if isOuterClause (codeLines later) line then 0
        else 4 + (depth line - sharedWidth (splitOn '\n' later)), ink line) := by
  obtain ⟨listed, filled⟩ := List.mem_filter.mp member
  have within : sharedWidth (splitOn '\n' later) ≤ depth line :=
    shared_width_le_depth listed (by simpa using filled)
  -- Which lines are outer clauses is the same before the width is taken away.
  have outer : depth line - sharedWidth (splitOn '\n' later) <
        depth ((codeLines later).headD []) - sharedWidth (splitOn '\n' later) ↔
      depth line < depth ((codeLines later).headD []) := by omega
  simp only [nested, outer, is_clause_trim, ink_trim, isOuterClause, Bool.and_eq_true,
    decide_eq_true_eq]

theorem standings_opened (opens : endsWith ":" lead = true)
    (bare : ∀ line ∈ splitOn '\n' later, allBlank line = true → isBare line = true)
    (filled : allBlank (bodyText later) = false) :
    (codeLines (joinLines (nestLines (splitOn '\n' (trimEnd (bodyText later)))))).map standing =
      standingsBelow lead later := by
  have whole : ∀ line ∈ splitOn '\n' (trimEnd (bodyText later)), '\n' ∉ line :=
    fun line member => not_mem_of_mem_split_on member
  rw [standings_nested whole, head_d_split_on, depth_first_line_body_text bare filled, ← codeLines,
    placements_trim_end_body_text, List.map_map]
  refine List.map_congr_left fun line member => ?_
  rw [Function.comp_apply, nested_of_member member, depthBelow, if_pos opens]

/-- Each line with code of a text is one of the code that it makes below the first line. -/
theorem join_code_standings (one : '\n' ∉ lead)
    (bare : ∀ line ∈ splitOn '\n' later, allBlank line = true → isBare line = true) :
    ∃ placed, codeLines (joinCode lead (bodyText later)) = codeLines lead ++ placed ∧
      placed.map standing = standingsBelow lead later := by
  have below (body : Text) : codeLines (lead ++ "\n" ++ body) = codeLines lead ++ codeLines body := by
    rw [List.append_assoc]
    exact code_lines_line_feed body one
  cases blank : allBlank (bodyText later) with
  | true =>
    have none := placements_body_text later
    rw [code_lines_of_blank blank] at none
    have none : codeLines later = [] := List.map_eq_nil_iff.mp none.symm
    rw [joinCode, if_pos blank, standingsBelow, none]
    exact ⟨[], (List.append_nil _).symm, rfl⟩
  | false =>
    cases opens : endsWith ":" lead with
    | true =>
      have some : lead.isEmpty = false := by
        cases lead with
        | nil => cases opens
        | cons c rest => rfl
      rw [joinCode, if_neg (by simp [blank]), if_neg (by simp [some]), if_pos opens, below]
      exact ⟨_, rfl, standings_opened opens bare blank⟩
    | false =>
      refine ⟨codeLines (trimEnd (bodyText later)), ?_, standings_plain later opens⟩
      rw [joinCode, if_neg (by simp [blank])]
      split
      · rename_i empty
        rw [List.isEmpty_iff.mp empty]
        rfl
      · rw [if_neg (Bool.eq_false_iff.mp opens), below]

end

theorem lead_text_on_one_line {line : Text} (one : '\n' ∉ line) : '\n' ∉ leadText line := by
  intro member
  unfold leadText at member
  split at member
  · cases member
  · exact one (mem_of_mem_trim member)

theorem lead_text_of_ne {line rest : Text} {c : Char} (trimmed : trim line = c :: rest)
    (other : c ≠ '#') : leadText line = c :: rest := by
  unfold leadText
  rw [trimmed]
  split
  · rename_i comment
    exact absurd (List.cons.inj comment).1 other
  · rfl

theorem moved_of_standings {lead later : Text} {placed : List Text}
    (standings : placed.map standing = standingsBelow lead later) :
    placed.map ink = (codeLines later).map ink ∧
      ∀ a ∈ (codeLines later).zip placed,
        depth a.2 = depthBelow lead (codeLines later) (sharedWidth (splitOn '\n' later)) a.1 := by
  unfold standingsBelow at standings
  constructor
  · have inks := congrArg (List.map Prod.snd) standings
    rw [List.map_map, List.map_map] at inks
    exact inks
  · intro a listed
    have matched := List.forall₂_eq_eq_eq.symm ▸ standings.symm
    rw [List.forall₂_map_left_iff, List.forall₂_map_right_iff] at matched
    exact congrArg Prod.fst ((List.forall₂_iff_zip.mp matched).2 listed).symm

/-- Lines with code that stand equally far in do so in the code as well, unless the first line opens
a statement and just one of the two is an outer clause. -/
theorem siblings_part_iff_one_is_outer_clause {t : Text}
    (bare : ∀ line ∈ splitOn '\n' (laterLines t), allBlank line = true → isBare line = true) :
    let lead := leadText (firstLine t)
    let given := codeLines (laterLines t)
    ∃ placed, codeLines (normalizeCode t) = codeLines lead ++ placed ∧
      placed.map ink = given.map ink ∧
      ∀ a ∈ given.zip placed, ∀ b ∈ given.zip placed, depth a.1 = depth b.1 →
        (depth a.2 = depth b.2 ↔ (endsWith ":" lead = true →
          isOuterClause given a.1 = isOuterClause given b.1)) := by
  intro lead given
  have one := lead_text_on_one_line (first_line_on_one_line t)
  obtain ⟨placed, lines, standings⟩ := join_code_standings one bare
  obtain ⟨inks, depths⟩ := moved_of_standings standings
  refine ⟨placed, lines, inks, fun a listed b listed' level => ?_⟩
  rw [depths a listed, depths b listed', depthBelow, depthBelow, level]
  cases endsWith ":" lead with
  | false => simp
  | true =>
    -- Outer clauses have no blanks before them, all other lines have four at least.
    cases isOuterClause given a.1 <;> cases isOuterClause given b.1 <;> simp
    omega

/-- The `else` of a statement that stands in a branch further out than the first one. -/
def lateElse : Text :=
  " if a:\n        x = 1\n   else:\n     if b:\n       y = 1\n     else:\n       y = 2"

/-- Of the lines of this text, both `else` are outer clauses, though one stands with its `if`. -/
theorem siblings_of_late_else :
    let given := codeLines (laterLines lateElse)
    (∀ line ∈ splitOn '\n' (laterLines lateElse), allBlank line = true → isBare line = true) ∧
      given.map (isOuterClause given) = [false, true, false, false, true, false] ∧
      ∃ placed, codeLines (normalizeCode lateElse) = codeLines "if a:" ++ placed ∧
        placed.map ink = given.map ink ∧
        ∀ a ∈ given.zip placed, ∀ b ∈ given.zip placed, depth a.1 = depth b.1 →
          (depth a.2 = depth b.2 ↔ (endsWith ":" ("if a:" : Text) = true →
            isOuterClause given a.1 = isOuterClause given b.1)) := by
  have bare : ∀ line ∈ splitOn '\n' (laterLines lateElse),
      allBlank line = true → isBare line = true := by decide
  have lead : leadText (firstLine lateElse) = "if a:" := by decide
  refine ⟨bare, by decide, ?_⟩
  rw [← lead]
  exact siblings_part_iff_one_is_outer_clause bare

/-- An `else` that is not the first line's is taken for one, and its `if` stays without it. -/
theorem nested_else_leaves_its_if :
    endsWith ":" (firstLine lateElse) = true ∧
      (∀ line ∈ splitOn '\n' (laterLines lateElse),
        line.takeWhile isBlank = line.takeWhile (· = ' ')) ∧
      (splitOn '\n' (laterLines lateElse)).map depth = [8, 3, 5, 7, 5, 7] ∧
      normalizeCode lateElse =
        "if a:\n         x = 1\nelse:\n      if b:\n        y = 1\nelse:\n        y = 2" ∧
      (splitOn '\n' (normalizeCode lateElse)).tail.map depth = [9, 0, 6, 8, 0, 8] := by
  decide

end EmbeddedTests
