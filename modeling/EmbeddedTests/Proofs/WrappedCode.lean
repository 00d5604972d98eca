import EmbeddedTests.Proofs.Nesting
import EmbeddedTests.Snippet.BlockSource

/-!
# Code in its function

The code of a block is indented in the function that runs it, and taking its lines out of the
function again gives the code back, as long as it has no end of a line but the line feed with
something to read on both sides: `indent` puts the margin after the others too, inside the line.
-/
namespace EmbeddedTests

open Text

namespace Text

section

variable {front h r : Text} {e : Char}

theorem broken_lines_break (whole : ∀ c ∈ h, endsLine c = false) (ends : endsLine e = true)
    (other : e = '\r' → r.head? ≠ some '\n') :
    brokenLines (h ++ e :: r) = (h ++ [e]) :: brokenLines r := by
  induction h with
  | nil => exact broken_lines_ends other ends
  | cons c h ih =>
    have later := ih fun d member => whole d (List.mem_cons_of_mem c member)
    exact broken_lines_goes_on (whole c List.mem_cons_self) later

theorem broken_lines_return_feed (whole : ∀ c ∈ h, endsLine c = false) :
    brokenLines (h ++ '\r' :: '\n' :: r) = (h ++ ['\r', '\n']) :: brokenLines r := by
  induction h with
  | nil => rw [List.nil_append, brokenLines]; rfl
  | cons c h ih =>
    have later := ih fun d member => whole d (List.mem_cons_of_mem c member)
    exact broken_lines_goes_on (whole c List.mem_cons_self) later

theorem indent_part_append_blank (h : Text) {back : Text} (blank : allBlank back = true) :
    indentPart front (h ++ back) = indentPart front h ++ back := by
  unfold indentPart
  rw [all_blank_append_blank h (List.all_eq_true.mp blank)]
  split
  · rfl
  · rw [List.append_assoc]

theorem indent_break (whole : ∀ c ∈ h, endsLine c = false) (ends : endsLine e = true) :
    indent front (h ++ e :: r) = indentPart front h ++ e :: indent front r := by
  by_cases both : e = '\r' ∧ r.head? = some '\n'
  · obtain ⟨rfl, feed⟩ := both
    obtain ⟨rest, rfl⟩ := List.head?_eq_some_iff.mp feed
    have alone : brokenLines ('\n' :: rest) = ['\n'] :: brokenLines rest :=
      broken_lines_ends (fun same => absurd same (by decide)) rfl
    rw [indent_eq, broken_lines_return_feed whole, indent_eq, alone, List.map_cons, List.map_cons,
      indent_part_append_blank h (by decide)]
    simp [indentPart, allBlank, isBlank]
  · have other : e = '\r' → r.head? ≠ some '\n' := fun same feed => both ⟨same, feed⟩
    have blank : allBlank [e] = true := by simp [allBlank, is_blank_of_ends_line ends]
    rw [indent_eq, broken_lines_break whole ends other, indent_eq, List.map_cons,
      indent_part_append_blank h blank]
    simp

end

theorem first_break (t : Text) : (∀ c ∈ t, endsLine c = false) ∨
    ∃ h e r, t = h ++ e :: r ∧ (∀ c ∈ h, endsLine c = false) ∧ endsLine e = true := by
  obtain ⟨h, rest, rfl, whole, stops⟩ := exists_cut (!endsLine ·) t
  have whole : ∀ c ∈ h, endsLine c = false := fun c member => by simpa using whole c member
  cases rest with
  | nil => exact .inl (by simpa using whole)
  | cons e r => exact .inr ⟨h, e, r, rfl, whole, by simpa using stops e rfl⟩

theorem indent_lines (front line later : Text) :
    indent front (line ++ '\n' :: later) = indent front line ++ '\n' :: indent front later := by
  rcases first_break line with whole | ⟨h, e, r, rfl, whole, ends⟩
  · rw [indent_break whole rfl, indent_unbroken whole]
  · have below := indent_lines front r later
    rw [List.append_assoc, List.cons_append, indent_break whole ends, indent_break whole ends,
      below, List.append_assoc, List.cons_append]
termination_by line.length
decreasing_by simp_all; omega

theorem indent_of_blank (front : Text) {t : Text} (blank : allBlank t = true) :
    indent front t = t := by
  have kept : (brokenLines t).map (indentPart front) = brokenLines t := by
    apply (List.map_congr_left _).trans (List.map_id _)
    intro part listed
    have inside : allBlank part = true := by
      apply List.all_eq_true.mpr
      intro c member
      apply List.all_eq_true.mp blank
      rw [← broken_lines_flatten t]
      exact List.mem_flatten.mpr ⟨part, listed, member⟩
    rw [indentPart, if_pos inside, id]
  rw [indent_eq, kept, broken_lines_flatten]

/-- There is something to read before the first end of a line in the text, and nothing after it. -/
def isOneLine (t : Text) : Bool :=
  !allBlank (t.takeWhile (!endsLine ·)) && allBlank (t.dropWhile (!endsLine ·))

section

variable {front t : Text} (blank : ∀ c ∈ front, isBlank c = true) (some : front ≠ [])

include blank some

theorem indent_ne_self (filled : allBlank t = false) : indent front t ≠ t := by
  intro same
  have deeper := depth_indent blank filled
  rw [same] at deeper
  have := List.length_pos_iff.mpr some
  omega

theorem indent_eq_self_iff : indent front t = t ↔ allBlank t = true := by
  cases filled : allBlank t with
  | true => simp [indent_of_blank front filled]
  | false => simp [indent_ne_self blank some filled]

theorem indent_eq_append_iff (plain : ∀ c ∈ front, endsLine c = false)
    (filled : allBlank t = false) : indent front t = front ++ t ↔ isOneLine t = true := by
  have cut {h : Text} (rest : Text) (whole : ∀ c ∈ h, endsLine c = false)
      (stops : ∀ c ∈ rest.head?, endsLine c = true) :
      (h ++ rest).takeWhile (!endsLine ·) = h ∧ (h ++ rest).dropWhile (!endsLine ·) = rest :=
    cut_eq (fun c member => by simp [whole c member]) fun c first => by simp [stops c first]
  rcases first_break t with whole | ⟨h, e, r, rfl, whole, ends⟩
  · obtain ⟨all, none⟩ := cut [] whole (by simp)
    rw [List.append_nil] at all none
    rw [indent_unbroken whole, isOneLine, all, none, filled, indentPart, filled]
    simp [allBlank]
  · have stops : ∀ c ∈ (e :: r).head?, endsLine c = true := by simpa using ends
    obtain ⟨first, later⟩ := cut _ whole stops
    have last : allBlank (e :: r) = allBlank r := by simp [allBlank, is_blank_of_ends_line ends]
    rw [indent_break whole ends, isOneLine, first, later, last]
    cases none : allBlank h with
    | true =>
      -- The margin stands after the first end of a line, so not at the start of the text.
      have apart : h ++ e :: indent front r ≠ front ++ (h ++ e :: r) := by
        intro same
        have inside : ∀ c ∈ front ++ h, endsLine c = false := by
          intro c member
          exact (List.mem_append.mp member).elim (plain c) (whole c)
        have same := congrArg (List.takeWhile (!endsLine ·)) same
        rw [(cut _ whole (by simpa using ends)).1, ← List.append_assoc,
          (cut _ inside stops).1] at same
        exact some (List.self_eq_append_left.mp same)
      simpa [indentPart, none] using apart
    | false =>
      have kept : indent front r = r ↔ allBlank r = true := indent_eq_self_iff blank some
      simpa [indentPart, none] using kept

end

end Text

namespace Snippet

def openingLine : Text := "    try:"

def closingLine : Text := "    finally:"

/-- The lines between the last two lines that open and close the code. -/
def codeLinesOf (source : Text) : List Text :=
  (((splitOn '\n' source).reverse.dropWhile (· ≠ closingLine)).tail.takeWhile
    (· ≠ openingLine)).reverse

/-- A line that is not blank loses the margin of code. -/
def withoutMargin (line : Text) : Text :=
  if allBlank line then line else (after? bodyMargin line).getD line

/-- The code that a function was made of. -/
def unwrap (source : Text) : Text := joinLines ((codeLinesOf source).map withoutMargin)

theorem margin_blank : ∀ c ∈ bodyMargin, isBlank c = true :=
  List.all_eq_true.mp (by decide)

theorem margin_unbroken : ∀ c ∈ bodyMargin, endsLine c = false := by
  intro c member
  rw [List.eq_of_mem_replicate member]
  rfl

theorem feed_not_mem_indent {line : Text} (h : '\n' ∉ line) : '\n' ∉ indent bodyMargin line := by
  intro member
  rcases mem_of_mem_indent member with inside | inside
  · exact absurd inside (by decide)
  · exact h inside

/-- No line of code is taken for the line that it stands below. -/
theorem indent_ne_opening_line (line : Text) : indent bodyMargin line ≠ openingLine := by
  intro same
  have depths : depth openingLine = 4 := by decide
  cases filled : allBlank line with
  | true =>
    rw [indent_of_blank bodyMargin filled] at same
    rw [same] at filled
    cases filled
  | false =>
    have deep := depth_indent margin_blank filled
    rw [same, depths] at deep
    have : bodyMargin.length = 8 := rfl
    omega

theorem indent_join_lines (lines : List Text) :
    indent bodyMargin (joinLines lines) = joinLines (lines.map (indent bodyMargin)) := by
  induction lines with
  | nil => rfl
  | cons line rest ih =>
    by_cases none : rest = []
    · subst none
      simp [joinLines, joinWith]
    · rw [join_lines_cons line none, indent_lines, ih, List.map_cons,
        join_lines_cons _ (by simpa using none)]

def closingLines : List Text := (splitOn '\n' writeBack).tail

theorem split_on_write_back : splitOn '\n' writeBack = closingLine :: closingLines := by
  decide

theorem closing_not_mem : closingLine ∉ closingLines := by decide

theorem split_on_append_cons (front rest : Text) :
    splitOn '\n' (front ++ '\n' :: rest) = splitOn '\n' front ++ splitOn '\n' rest := by
  induction front using lines_induction with
  | last line whole => rw [split_on_line_feed rest whole, split_on_line whole, List.singleton_append]
  | more line below whole ih =>
    rw [List.append_assoc, List.cons_append, split_on_line_feed _ whole, ih,
      split_on_line_feed _ whole, List.cons_append]

def heading (names : List Text) : Text :=
  "def " ++ blockFunction ++ "(" ++ joinWith ", " (stateName :: names) ++ "):"

def belowHeading (code : Text) : Text :=
  openingLine ++ '\n' ::
    (indent bodyMargin (if allBlank code then "pass" else code) ++ '\n' :: writeBack)

theorem block_source_eq (code : Text) (names : List Text) :
    blockSource code names = heading names ++ '\n' :: belowHeading code := by
  have heads : ("):\n" : Text) = "):" ++ ['\n'] := rfl
  have opens : ("    try:\n" : Text) = openingLine ++ ['\n'] := rfl
  have ends : ("\n" : Text) = ['\n'] := rfl
  unfold blockSource heading belowHeading
  rw [heads, opens, ends]
  simp only [List.append_assoc, List.cons_append, List.nil_append]

theorem code_lines_of_block_source {code : Text} (names : List Text)
    (filled : allBlank code = false) :
    codeLinesOf (blockSource code names) = (splitOn '\n' code).map (indent bodyMargin) := by
  have whole : ∀ line ∈ splitOn '\n' code, '\n' ∉ line := fun line => not_mem_of_mem_split_on
  have split : splitOn '\n' (indent bodyMargin code) =
      (splitOn '\n' code).map (indent bodyMargin) := by
    conv_lhs => rw [← join_lines_split_on code, indent_join_lines]
    apply split_on_join_lines
    · intro line listed
      obtain ⟨given, member, rfl⟩ := List.mem_map.mp listed
      exact feed_not_mem_indent (whole given member)
    · simpa using split_on_ne_nil '\n' code
  have opening : splitOn '\n' openingLine = [openingLine] := by decide
  have lines : splitOn '\n' (blockSource code names) = splitOn '\n' (heading names) ++
      openingLine :: ((splitOn '\n' code).map (indent bodyMargin) ++
        closingLine :: closingLines) := by
    rw [block_source_eq, belowHeading, if_neg (by simp [filled]), split_on_append_cons,
      split_on_append_cons, opening, split_on_append_cons, split, split_on_write_back,
      List.singleton_append]
  have after (line) (listed : line ∈ closingLines.reverse) :
      (line ≠ closingLine : Bool) = true := by
    have apart : line ≠ closingLine := by
      rintro rfl
      exact closing_not_mem (List.mem_reverse.mp listed)
    simpa using apart
  have before (line) (listed : line ∈ ((splitOn '\n' code).map (indent bodyMargin)).reverse) :
      (line ≠ openingLine : Bool) = true := by
    obtain ⟨given, -, rfl⟩ := List.mem_map.mp (List.mem_reverse.mp listed)
    simpa using indent_ne_opening_line given
  have turned : (splitOn '\n' (blockSource code names)).reverse = closingLines.reverse ++
      closingLine :: (((splitOn '\n' code).map (indent bodyMargin)).reverse ++
        openingLine :: (splitOn '\n' (heading names)).reverse) := by
    rw [lines]
    simp
  rw [codeLinesOf, turned, List.dropWhile_append_of_pos after,
    List.dropWhile_cons_of_neg (by simp), List.tail_cons, List.takeWhile_append_of_pos before,
    List.takeWhile_cons_of_neg (by simp), List.append_nil, List.reverse_reverse]

theorem feed_not_mem_without_margin {line : Text} (h : '\n' ∉ line) :
    '\n' ∉ withoutMargin (indent bodyMargin line) := by
  have inside := feed_not_mem_indent h
  unfold withoutMargin
  split
  · exact inside
  · cases found : after? bodyMargin (indent bodyMargin line) with
    | none => exact inside
    | some rest =>
      rw [after_eq_some_iff.mp found] at inside
      exact fun member => inside (List.mem_append_right _ member)

theorem all_blank_indent (line : Text) : allBlank (indent bodyMargin line) = allBlank line := by
  rw [all_blank_eq_ink, ink_indent margin_blank, ← all_blank_eq_ink]

theorem without_margin_indent_iff (line : Text) :
    withoutMargin (indent bodyMargin line) = line ↔
      allBlank line = true ∨ isOneLine line = true := by
  unfold withoutMargin
  rw [all_blank_indent]
  cases filled : allBlank line with
  | true => simp [indent_of_blank bodyMargin filled]
  | false =>
    have some : bodyMargin ≠ [] := by decide
    rw [← indent_eq_append_iff margin_blank some margin_unbroken filled]
    cases found : after? bodyMargin (indent bodyMargin line) with
    | none =>
      have apart : indent bodyMargin line ≠ bodyMargin ++ line := by
        intro same
        rw [same, after_append] at found
        cases found
      simp [apart, indent_ne_self margin_blank some filled]
    | some rest => simp [after_eq_some_iff.mp found]

/-- Code with something to read is given back by its function, whatever the names, exactly if each
of its lines is blank or has no other end of a line in it before which and after which there is
something to read. -/
theorem wrapped_code_is_kept_iff (code : Text) (names : List Text)
    (filled : allBlank code = false) :
    unwrap (blockSource code names) = code ↔
      ∀ line ∈ splitOn '\n' code, allBlank line = true ∨ isOneLine line = true := by
  have whole : ∀ line ∈ splitOn '\n' code, '\n' ∉ line := fun line => not_mem_of_mem_split_on
  have split : splitOn '\n' (unwrap (blockSource code names)) =
      (splitOn '\n' code).map fun line => withoutMargin (indent bodyMargin line) := by
    rw [unwrap, code_lines_of_block_source names filled, List.map_map]
    apply split_on_join_lines
    · intro line listed
      obtain ⟨given, member, rfl⟩ := List.mem_map.mp listed
      exact feed_not_mem_without_margin (whole given member)
    · simpa using split_on_ne_nil '\n' code
  have lines : unwrap (blockSource code names) = code ↔
      splitOn '\n' (unwrap (blockSource code names)) = splitOn '\n' code := by
    constructor
    · exact congrArg (splitOn '\n')
    · intro same
      rw [← join_lines_split_on (unwrap _), same, join_lines_split_on]
  have kept : splitOn '\n' code = (splitOn '\n' code).map id := (List.map_id _).symm
  rw [lines, split]
  conv_lhs => rhs; rw [kept]
  rw [List.map_inj_left]
  exact forall₂_congr fun line _ => without_margin_indent_iff line

theorem condition_is_kept :
    allBlank "if x:\n    y = [\n\n]" = false ∧
      unwrap (blockSource "if x:\n    y = [\n\n]" ["x".toList]) =
        "if x:\n    y = [\n\n]".toList := by
  have filled : allBlank "if x:\n    y = [\n\n]" = false := by decide
  exact ⟨filled, (wrapped_code_is_kept_iff _ _ filled).mpr (by decide)⟩

/-- A line separator in a literal is taken for the end of a line, and the margin of the next one
goes into the literal. -/
theorem separator_widens_literal :
    allBlank "x = 'a\u2028b'" = false ∧
      unwrap (blockSource "x = 'a\u2028b'" []) = "x = 'a\u2028        b'".toList := by
  decide

end Snippet
end EmbeddedTests
