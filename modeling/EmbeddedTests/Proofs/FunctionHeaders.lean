import EmbeddedTests.Proofs.Identifiers

/-!
# First lines of functions

`FunctionLine` says how the first line of a function is written, without a word about how its parts
are found. From such a line the name, the outputs and the parameters are read as they are written,
with one exception: a tab right before the name hides it.
-/
namespace EmbeddedTests

open Text

namespace Text

section

variable {p : Char → Bool}

theorem cut_at_last_append {back : Text} (t : Text) (none : ∀ c ∈ back, p c = false) :
    cutAtLast? p (t ++ back) =
      (cutAtLast? p t).map fun (before, after) => (before, after ++ back) := by
  induction t with
  | nil =>
    induction back with
    | nil => rfl
    | cons c back ih =>
      have here : p c = false := none c List.mem_cons_self
      have later := ih fun d member => none d (List.mem_cons_of_mem c member)
      rw [List.nil_append] at later ⊢
      simp [cutAtLast?, later, here]
  | cons c t ih =>
    rw [List.cons_append, cutAtLast?, cutAtLast?, ih]
    cases cutAtLast? p t with
    | none => cases p c <;> rfl
    | some parts => rfl

theorem cut_at_last_concat {sep : Char} (t : Text) (cuts : p sep = true) :
    cutAtLast? p (t ++ [sep]) = some (t, []) := by
  induction t with
  | nil => simp [cutAtLast?, cuts]
  | cons c t ih => simp [cutAtLast?, ih]

theorem strip_enclosed {first last : Char} (t : Text) (left : p first = false)
    (right : p last = false) : strip p (first :: (t ++ [last])) = first :: (t ++ [last]) := by
  rw [strip, List.dropWhile_cons_of_neg (by simp [left]), ← List.cons_append,
    drop_end_append_cons_of_not _ [] right]
  rfl

theorem drop_end_of_none {t : Text} (kept : ∀ c ∈ t, p c = false) : dropEnd p t = t := by
  rcases List.eq_nil_or_concat t with rfl | ⟨start, last, rfl⟩
  · rfl
  · rw [List.concat_eq_append] at kept ⊢
    exact drop_end_append_cons_of_not start [] (kept last (by simp))

theorem strip_surrounded {front inner back : Text} (before : ∀ c ∈ front, p c = true)
    (kept : ∀ c ∈ inner, p c = false) (after : ∀ c ∈ back, p c = true) :
    strip p (front ++ (inner ++ back)) = inner := by
  rw [strip, List.dropWhile_append_of_pos before]
  cases inner with
  | nil =>
    rw [List.nil_append, List.dropWhile_eq_nil_iff.mpr after]
    rfl
  | cons c inner =>
    have here : p c = false := kept c List.mem_cons_self
    rw [List.cons_append, List.dropWhile_cons_of_neg (by simp [here]), ← List.cons_append,
      drop_end_append_of_all _ after, drop_end_of_none kept]

theorem split_where_append_separators {back : Text} (t : Text) (all : ∀ c ∈ back, p c = true) :
    splitWhere p (t ++ back) = splitWhere p t ++ List.replicate back.length [] := by
  induction t with
  | nil =>
    induction back with
    | nil => rfl
    | cons c back ih =>
      have here : p c = true := all c List.mem_cons_self
      have later := ih fun d member => all d (List.mem_cons_of_mem c member)
      rw [List.nil_append] at later ⊢
      simp [splitWhere, here, later, List.replicate_succ]
  | cons c t ih =>
    rw [List.cons_append, splitWhere, splitWhere, ih]
    obtain ⟨piece, pieces, split⟩ := List.exists_cons_of_ne_nil (split_where_ne_nil p t)
    rw [split]
    cases p c <;> rfl

theorem runs_of_append_separators {back : Text} (t : Text) (all : ∀ c ∈ back, p c = true) :
    runsOf p (t ++ back) = runsOf p t := by
  rw [runsOf, split_where_append_separators t all, List.filter_append]
  simp [runsOf]

end

end Text

theorem names_trim (t : Text) : names (trim t) = names t := by
  have separates : ∀ c, isBlank c = true → isNameSeparator c = true := by
    intro c blank
    simp [isNameSeparator, blank]
  obtain ⟨front, rest, rfl, before, stops⟩ := exists_cut isBlank t
  obtain ⟨back, whole, after⟩ := exists_drop_end_append isBlank rest
  have inside : trim (front ++ rest) = dropEnd isBlank rest := by
    rw [trim, strip, (cut_eq before stops).2]
  rw [inside, names, names,
    runs_of_separators_append _ fun c member => separates c (before c member)]
  conv_rhs => rw [whole, runs_of_append_separators _ fun c member => separates c (after c member)]

/-- Names with spaces, tabs and commas between them. -/
inductive NamesText : List Text → Text → Prop where
  | empty : NamesText [] []
  | last {name} (named : isIdentifier name = true) : NamesText [name] name
  | more {name gap next later t} (named : isIdentifier name = true) (some : gap ≠ [])
      (apart : ∀ c ∈ gap, isMargin c = true ∨ c = ',') (rest : NamesText (next :: later) t) :
      NamesText (name :: next :: later) (name ++ (gap ++ t))

/-- The outputs of a function, in square brackets or without. -/
inductive OutputsText (outputs : List Text) : Text → Prop where
  | bare {t} (listed : NamesText outputs t) : OutputsText outputs t
  | bracketed {left t right} (listed : NamesText outputs t)
      (margins : ∀ c ∈ left ++ right, isMargin c = true) :
      OutputsText outputs ('[' :: (left ++ (t ++ right) ++ [']']))

/-- What stands before the name of a function, and blanks directly before it: outputs with an
equals sign, or nothing. -/
inductive FrontText : List Text → Text → Prop where
  | plain : FrontText [] []
  | declares {outputs lead t space} (some : lead ≠ [])
      (margins : ∀ c ∈ lead ++ space, isMargin c = true) (written : OutputsText outputs t) :
      FrontText outputs (lead ++ (t ++ space) ++ ['='])

structure FunctionLine where
  outputs : List Text
  front : Text
  gap : Text
  name : Text
  space : Text
  parameters : Text
  declared : FrontText outputs front
  margins : ∀ c ∈ gap ++ space, isMargin c = true
  apart : front ++ gap ≠ []
  named : isIdentifier name = true
  opened : parameters.head? = some '('
  closed : parameters.getLast? = some ')'

namespace FunctionLine

def start (h : FunctionLine) : Text := "function" ++ (h.front ++ h.gap)

def text (h : FunctionLine) : Text := h.start ++ (h.name ++ (h.space ++ h.parameters))

end FunctionLine

theorem margin_sign {c : Char} (h : isMargin c = true) : c ∉ nameSigns := by
  rcases margin_cases h with rfl | rfl <;> decide

theorem separator_of_margin {c : Char} (h : isMargin c = true) : isNameSeparator c = true := by
  simp [isNameSeparator, is_blank_of_is_margin h]

theorem not_separator {name : Text} {c : Char} (named : isIdentifier name = true)
    (member : c ∈ name) : isNameSeparator c = false := by
  obtain ⟨visible, plain⟩ := plain_of_identifier named member
  have other : c ≠ ',' := fun comma => plain (comma ▸ by decide)
  simp [isNameSeparator, visible, other]

theorem identifier_ne_nil {name : Text} (named : isIdentifier name = true) : name ≠ [] := by
  rintro rfl
  cases named

section

variable {outputs : List Text} {t : Text}

theorem NamesText.names {front back : Text} (h : NamesText outputs t)
    (before : ∀ c ∈ front, isNameSeparator c = true)
    (after : ∀ c ∈ back, isNameSeparator c = true) :
    EmbeddedTests.names (front ++ (t ++ back)) = outputs := by
  induction h generalizing front with
  | empty =>
    have none := runs_of_separators_append [] after
    rw [List.append_nil] at none
    rw [EmbeddedTests.names, runs_of_separators_append _ before, List.nil_append, none]
    rfl
  | last named =>
    exact runs_of_surrounded before (fun c => not_separator named) after (identifier_ne_nil named)
  | @more name gap next later t named some apart rest ih =>
    have between : ∀ c ∈ gap, isNameSeparator c = true := by
      intro c member
      rcases apart c member with margin | rfl
      · exact separator_of_margin margin
      · rfl
    obtain ⟨sep, gap, rfl⟩ := List.exists_cons_of_ne_nil some
    have below : EmbeddedTests.names (sep :: (gap ++ (t ++ back))) = next :: later := ih between
    have first := runs_of_first (gap ++ (t ++ back)) before (fun c => not_separator named)
      (between sep List.mem_cons_self) (identifier_ne_nil named)
    have whole : front ++ (name ++ (sep :: gap ++ t) ++ back) =
        front ++ (name ++ sep :: (gap ++ (t ++ back))) := by simp
    rw [EmbeddedTests.names, whole, first]
    exact congrArg (name :: ·) below

theorem NamesText.named (h : NamesText outputs t) : ∀ name ∈ outputs, isIdentifier name = true := by
  induction h with
  | empty => simp
  | last named => simpa using named
  | more named some apart rest ih => exact List.forall_mem_cons.mpr ⟨named, ih⟩

theorem NamesText.sign (h : NamesText outputs t) : ∀ c ∈ t, c ∈ nameSigns → c = ',' := by
  induction h with
  | empty => simp
  | last named => exact fun c member sign => absurd sign (plain_of_identifier named member).2
  | more named some apart rest ih =>
    intro c member sign
    rcases List.mem_append.mp member with here | member
    · exact absurd sign (plain_of_identifier named here).2
    rcases List.mem_append.mp member with between | later
    · exact (apart c between).resolve_left fun margin => margin_sign margin sign
    · exact ih c later sign

def isBracket (c : Char) : Bool := c == '[' || c == ']'

theorem NamesText.no_bracket {left right : Text} (h : NamesText outputs t)
    (margins : ∀ c ∈ left ++ right, isMargin c = true) :
    ∀ c ∈ left ++ (t ++ right), isBracket c = false := by
  intro c member
  refine Bool.eq_false_iff.mpr fun bracket => ?_
  have sign : c ∈ nameSigns ∧ c ≠ ',' := by
    have : c = '[' ∨ c = ']' := by simpa [isBracket] using bracket
    rcases this with rfl | rfl <;> decide
  simp only [List.mem_append] at member margins
  rcases member with before | inside | after
  · exact margin_sign (margins c (.inl before)) sign.1
  · exact sign.2 (h.sign c inside sign.1)
  · exact margin_sign (margins c (.inr after)) sign.1

theorem OutputsText.sign (h : OutputsText outputs t) :
    ∀ c ∈ t, c ∈ nameSigns → c = ',' ∨ isBracket c = true := by
  intro c member sign
  cases h with
  | bare listed => exact .inl (listed.sign c member sign)
  | @bracketed left t right listed margins =>
    simp only [List.mem_cons, List.mem_append, List.not_mem_nil, or_false] at member margins
    rcases member with rfl | (before | inside | after) | rfl
    · exact .inr rfl
    · exact absurd sign (margin_sign (margins c (.inl before)))
    · exact .inl (listed.sign c inside sign)
    · exact absurd sign (margin_sign (margins c (.inr after)))
    · exact .inr rfl

theorem OutputsText.apart {lead space : Text} {c : Char} (h : OutputsText outputs t)
    (margins : ∀ c ∈ lead ++ space, isMargin c = true) (sign : c ∈ nameSigns)
    (other : ¬ (c = ',' ∨ isBracket c = true)) : c ∉ lead ++ (t ++ space) := by
  intro member
  simp only [List.mem_append] at member margins
  rcases member with before | inside | after
  · exact margin_sign (margins c (.inl before)) sign
  · exact other (h.sign c inside sign)
  · exact margin_sign (margins c (.inr after)) sign

theorem OutputsText.names {lead space : Text} (h : OutputsText outputs t)
    (margins : ∀ c ∈ lead ++ space, isMargin c = true) :
    EmbeddedTests.names (strip isBracket (trim (lead ++ (t ++ space)))) = outputs := by
  obtain ⟨left, right⟩ := List.forall_mem_append.mp margins
  cases h with
  | bare listed =>
    have none : ∀ c ∈ trim (lead ++ (t ++ space)), isBracket c = false := fun c member =>
      listed.no_bracket margins c (mem_of_mem_trim member)
    have whole : strip isBracket ([] ++ (trim (lead ++ (t ++ space)) ++ [])) = _ :=
      strip_surrounded (by simp) none (by simp)
    rw [List.nil_append, List.append_nil] at whole
    rw [whole, names_trim]
    exact listed.names (fun c member => separator_of_margin (left c member))
      fun c member => separator_of_margin (right c member)
  | @bracketed before t after listed inner =>
    have trimmed : trim (lead ++ ('[' :: (before ++ (t ++ after) ++ [']']) ++ space)) =
        '[' :: (before ++ (t ++ after) ++ [']']) := by
      rw [trim_blank_append _ fun c member => is_blank_of_is_margin (left c member),
        trim_append_blank _ fun c member => is_blank_of_is_margin (right c member)]
      exact strip_enclosed _ rfl rfl
    have stripped : strip isBracket (['['] ++ (before ++ (t ++ after) ++ [']'])) =
        before ++ (t ++ after) :=
      strip_surrounded (List.forall_mem_singleton.mpr rfl) (listed.no_bracket inner)
        (List.forall_mem_singleton.mpr rfl)
    obtain ⟨first, last⟩ := List.forall_mem_append.mp inner
    rw [trimmed]
    refine (congrArg EmbeddedTests.names stripped).trans ?_
    exact listed.names (fun c member => separator_of_margin (first c member))
      fun c member => separator_of_margin (last c member)

end

section

variable {outputs : List Text} {front gap : Text}

theorem FrontText.named (h : FrontText outputs front) :
    ∀ name ∈ outputs, isIdentifier name = true := by
  cases h with
  | plain => simp
  | declares some margins written =>
    cases written with
    | bare listed => exact listed.named
    | bracketed listed inner => exact listed.named

theorem FrontText.no_parenthesis (h : FrontText outputs front) : '(' ∉ front := by
  cases h with
  | plain => exact List.not_mem_nil
  | declares some margins written =>
    intro member
    rcases List.mem_append.mp member with inside | last
    · exact written.apart margins (by decide) (by decide) inside
    · exact absurd last (by decide)

theorem FrontText.function_outputs (h : FrontText outputs front)
    (margins : ∀ c ∈ gap, isMargin c = true) :
    EmbeddedTests.functionOutputs ("function" ++ (front ++ gap)) = outputs := by
  have sign : '=' ∈ nameSigns := by decide
  have rest : ("function" ++ (front ++ gap) : Text).drop ("function" : String).length =
      front ++ gap := List.drop_left
  rw [EmbeddedTests.functionOutputs, rest]
  cases h with
  | plain =>
    have none : '=' ∉ gap := fun member => margin_sign (margins _ member) sign
    rw [List.nil_append, cut_at_eq_none none]
  | @declares _ lead t space some inner written =>
    have first : '=' ∉ lead ++ (t ++ space) := written.apart inner sign (by decide)
    rw [List.append_assoc, List.singleton_append, cut_at_append_cons gap first]
    exact written.names inner

theorem FrontText.starts (h : FrontText outputs front) (margins : ∀ c ∈ gap, isMargin c = true)
    (some : front ++ gap ≠ []) : ∃ c rest, front ++ gap = c :: rest ∧ isMargin c = true := by
  cases h with
  | plain =>
    obtain ⟨c, gap, rfl⟩ := List.exists_cons_of_ne_nil some
    exact ⟨c, gap, rfl, margins c List.mem_cons_self⟩
  | declares lead inner =>
    obtain ⟨c, lead, rfl⟩ := List.exists_cons_of_ne_nil lead
    exact ⟨c, _, rfl, inner c List.mem_cons_self⟩

theorem FrontText.ends (h : FrontText outputs front) (margins : ∀ c ∈ gap, isMargin c = true)
    (some : front ++ gap ≠ []) : ∃ before last, front ++ gap = before ++ [last] ∧
      if gap.getLast? = Option.some '\t' then last = '\t' else last = ' ' ∨ last = '=' := by
  rcases List.eq_nil_or_concat gap with rfl | ⟨before, last, rfl⟩
  · rw [List.append_nil] at some ⊢
    cases h with
    | plain => exact absurd rfl some
    | declares => exact ⟨_, _, rfl, .inr rfl⟩
  · rw [List.concat_eq_append] at margins ⊢
    have margin := margin_cases (margins last (by simp))
    refine ⟨front ++ before, last, (List.append_assoc _ _ _).symm, ?_⟩
    rw [List.getLast?_concat]
    rcases margin with rfl | rfl
    · exact .inl rfl
    · rfl

end

namespace FunctionLine

variable (h : FunctionLine)

theorem gap_margin : ∀ c ∈ h.gap, isMargin c = true :=
  (List.forall_mem_append.mp h.margins).1

theorem space_margin : ∀ c ∈ h.space, isMargin c = true :=
  (List.forall_mem_append.mp h.margins).2

theorem exists_parameters : ∃ inner, h.parameters = '(' :: (inner ++ [')']) := by
  obtain ⟨rest, whole⟩ := List.head?_eq_some_iff.mp h.opened
  have last := h.closed
  rcases List.eq_nil_or_concat rest with rfl | ⟨inner, c, rfl⟩
  · rw [whole] at last
    cases last
  · rw [whole, List.concat_eq_append, ← List.cons_append, List.getLast?_concat] at last
    cases last
    exact ⟨inner, by rw [whole, List.concat_eq_append]⟩

theorem trim_parameters : trim (h.space ++ h.parameters) = h.parameters := by
  obtain ⟨inner, whole⟩ := h.exists_parameters
  rw [trim_blank_append _ fun c member => is_blank_of_is_margin (h.space_margin c member), whole]
  exact strip_enclosed inner rfl rfl

theorem no_parenthesis : '(' ∉ h.start ++ (h.name ++ h.space) := by
  have sign : '(' ∈ nameSigns := by decide
  have front : '(' ∉ h.front := h.declared.no_parenthesis
  have name : '(' ∉ h.name := fun member => (plain_of_identifier h.named member).2 sign
  have gap : '(' ∉ h.gap := fun member => margin_sign (h.gap_margin _ member) sign
  have space : '(' ∉ h.space := fun member => margin_sign (h.space_margin _ member) sign
  have word : '(' ∉ ("function" : Text) := by decide
  unfold start
  rw [List.mem_append, List.mem_append, List.mem_append, List.mem_append]
  rintro ((inside | inside | inside) | inside | inside)
  all_goals contradiction

theorem trim_end_name : trimEnd (h.start ++ (h.name ++ h.space)) = h.start ++ h.name := by
  have blank : ∀ c ∈ h.space, isBlank c = true := fun c member =>
    is_blank_of_is_margin (h.space_margin c member)
  rcases List.eq_nil_or_concat h.name with none | ⟨before, last, whole⟩
  · exact absurd none (identifier_ne_nil h.named)
  · have visible : isBlank last = false := (plain_of_identifier h.named (by simp [whole])).1
    rw [← List.append_assoc, trimEnd, drop_end_append_of_all _ blank, whole, List.concat_eq_append,
      ← List.append_assoc, drop_end_append_cons_of_not _ [] visible]
    rfl

theorem name_uncut : ∀ c ∈ h.name, (c == ' ' || c == '=') = false := by
  intro c member
  obtain ⟨visible, plain⟩ := plain_of_identifier h.named member
  have space : c ≠ ' ' := by
    rintro rfl
    cases visible
  have equals : c ≠ '=' := fun same => plain (same ▸ by decide)
  simp [space, equals]

/-- The name is found where it stands, unless there is a tab before it. -/
theorem function_parts_text : functionParts? h.text =
    if h.gap.getLast? = some '\t' then none
    else some (h.start, h.name, h.space ++ h.parameters) := by
  obtain ⟨inner, written⟩ := h.exists_parameters
  have opened : cutAt? '(' h.text = some (h.start ++ (h.name ++ h.space), inner ++ [')']) := by
    have whole : h.text = h.start ++ (h.name ++ h.space) ++ '(' :: (inner ++ [')']) := by
      simp [text, written]
    rw [whole, cut_at_append_cons _ h.no_parenthesis]
  obtain ⟨before, last, start, ends⟩ := h.declared.ends h.gap_margin h.apart
  have whole : h.start = ("function" ++ before) ++ [last] :=
    (congrArg _ start).trans (List.append_assoc _ before [last]).symm
  unfold functionParts?
  rw [opened]
  dsimp only
  rw [h.trim_end_name, cut_at_last_append _ h.name_uncut]
  by_cases tab : h.gap.getLast? = some '\t'
  · rw [if_pos tab] at ends ⊢
    subst ends
    rw [whole, cut_at_last_append _ (List.forall_mem_singleton.mpr rfl)]
    -- The tab stays with the name, which is no identifier with it.
    cases cutAtLast? (fun c => c == ' ' || c == '=') ("function" ++ before) with
    | none => rfl
    | some parts =>
      have other : isIdentifier (parts.2 ++ '\t' :: h.name) = false :=
        Bool.eq_false_iff.mpr fun named =>
          absurd (plain_of_identifier (c := '\t') named (by simp)).1 (by decide)
      simp [other]
  · rw [if_neg tab] at ends ⊢
    have cuts : (last == ' ' || last == '=') = true := by simpa using ends
    have cut : cutAtLast? (fun c => c == ' ' || c == '=') h.start =
        some ("function" ++ before, []) := by
      rw [whole, cut_at_last_concat _ cuts]
    have long : h.start.length = ("function" ++ before : Text).length + 1 := by
      rw [whole]
      exact List.length_append
    have rest : h.text.drop (h.start ++ h.name).length = h.space ++ h.parameters := by
      rw [text, ← List.append_assoc, List.drop_left]
    rw [cut]
    dsimp only [Option.map_some, List.nil_append]
    rw [if_pos h.named, ← long, List.take_left, rest]

theorem outputs_start : functionOutputs h.start = h.outputs :=
  h.declared.function_outputs h.gap_margin

theorem keyword_text : keyword h.text = "function" := by
  obtain ⟨c, rest, start, margin⟩ := h.declared.starts h.gap_margin h.apart
  have letter : isKeywordChar c = false := by
    rcases margin_cases margin with rfl | rfl <;> rfl
  have whole : h.text = "function" ++ (h.front ++ h.gap ++ (h.name ++ (h.space ++ h.parameters))) :=
    List.append_assoc ("function" : Text) (h.front ++ h.gap) _
  rw [whole, start]
  exact take_while_append_cons_of_not _ (List.all_eq_true.mp (by decide)) letter

theorem keyword_of_first {raw : Text} (first : firstLine raw = h.text) :
    keyword raw = "function" := by
  rcases first_line_and_later raw with whole | ⟨later, whole⟩
  · rw [whole, first, h.keyword_text]
  · rw [whole, first, keyword_line_feed, h.keyword_text]

theorem parameters_kept :
    trimEnd (dropEnd (· == ':') (trim (h.space ++ h.parameters))) = h.parameters := by
  rw [h.trim_parameters]
  obtain ⟨inner, written⟩ := h.exists_parameters
  have closed {p : Char → Bool} (stops : p ')' = false) :
      dropEnd p h.parameters = h.parameters := by
    rw [written, ← List.cons_append]
    exact drop_end_append_cons_of_not _ [] stops
  have parenthesis : (')' == ':') = false := by decide
  rw [closed parenthesis, trimEnd, closed rfl]

end FunctionLine

/-- The statement that ends a function with these outputs. -/
def returnLine (outputs : List Text) : Text := "    return " ++ joinWith ", " outputs

theorem indent_return {outputs : List Text} (named : ∀ name ∈ outputs, isIdentifier name = true) :
    indent "    " ("return " ++ joinWith ", " outputs) = returnLine outputs := by
  have whole : ∀ c ∈ ("return " ++ joinWith ", " outputs : Text), endsLine c = false := by
    intro c member
    rcases List.mem_append.mp member with word | member
    · exact none_of_all (t := "return ") (by decide) c word
    rcases mem_join_with member with between | ⟨name, listed, inside⟩
    · have here : c = ',' ∨ c = ' ' := by simpa using between
      rcases here with rfl | rfl <;> rfl
    · refine Bool.eq_false_iff.mpr fun ends => ?_
      have visible := (plain_of_identifier (named name listed) inside).1
      rw [is_blank_of_ends_line ends] at visible
      cases visible
  rw [indent_unbroken whole]
  rfl

theorem indent_last_line {outputs : List Text} (lines : List Text)
    (named : ∀ name ∈ outputs, isIdentifier name = true) :
    '\n' :: returnLine outputs <:+
      '\n' :: indent "    " (joinLines (lines ++ ["return " ++ joinWith ", " outputs])) := by
  have alone : joinLines ["return " ++ joinWith ", " outputs] =
      "return " ++ joinWith ", " outputs := List.append_nil _
  by_cases none : lines = []
  · have only : indent "    " (joinLines (lines ++ ["return " ++ joinWith ", " outputs])) =
        returnLine outputs := by
      rw [none, List.nil_append, alone, indent_return named]
    exact ⟨[], (congrArg ('\n' :: ·) only).symm⟩
  · rw [join_lines_append lines (List.cons_ne_nil _ _), feed_each_eq none, alone, List.append_assoc]
    obtain ⟨before, written⟩ : ∃ before, indent "    "
        (joinLines lines ++ '\n' :: ("return " ++ joinWith ", " outputs)) = _ :=
      indent_line_feed _ _
    exact ⟨'\n' :: before, by rw [← indent_return named]; exact congrArg _ written.symm⟩

section

variable {name given parameters body : Text} {outputs : List Text}

theorem function_code_shape (kept : trimEnd (dropEnd (· == ':') (trim given)) = parameters)
    (named : ∀ name ∈ outputs, isIdentifier name = true) :
    ("def " ++ name ++ parameters ++ ":" : Text) <+: functionCode name given outputs body ∧
      (outputs ≠ [] → '\n' :: returnLine outputs <:+ functionCode name given outputs body) := by
  have shape : ∃ lines, functionCode name given outputs body =
      "def " ++ name ++ parameters ++ ":" ++ '\n' :: indent "    " (joinLines lines) ∧
        (outputs ≠ [] → ∃ before, lines = before ++ ["return " ++ joinWith ", " outputs]) := by
    have opens (front rest : Text) : front ++ ":\n" ++ rest = front ++ ":" ++ '\n' :: rest := by
      simp
    unfold functionCode
    rw [kept]
    refine ⟨_, opens _ _, fun some => ?_⟩
    have full : ¬ outputs.isEmpty = true := by simpa using some
    rw [if_neg full]
    cases allBlank (bodyText body) with
    | true => exact ⟨[], rfl⟩
    | false => exact ⟨[bodyText body], rfl⟩
  obtain ⟨lines, code, last⟩ := shape
  rw [code]
  refine ⟨List.prefix_append _ _, fun some => ?_⟩
  obtain ⟨before, rfl⟩ := last some
  exact (indent_last_line before named).trans (List.suffix_append _ _)

end

/-- A function whose first line is written in this way has the name and the outputs that stand
there, and is defined with these parameters and the outputs as its result, unless there is a tab
right before its name. Then it has no name. -/
theorem function_is_recognised_unless_after_tab (h : FunctionLine) {raw : Text}
    (first : firstLine raw = h.text) :
    if h.gap.getLast? = some '\t' then (parseBlock raw).content = .function none []
    else ∃ code, (parseBlock raw).content = .function (some ⟨h.name, h.outputs⟩) code ∧
      ("def " ++ h.name ++ h.parameters ++ ":" : Text) <+: code ∧
      (h.outputs ≠ [] → '\n' :: returnLine h.outputs <:+ code) := by
  have known : keywordKind? (keyword raw) = some .function := by
    rw [h.keyword_of_first first]
    rfl
  have content : (parseBlock raw).content = functionContent raw := classify_of_function known
  rw [content, functionContent, first, h.function_parts_text]
  by_cases tab : h.gap.getLast? = some '\t'
  · rw [if_pos tab, if_pos tab]
  · rw [if_neg tab, if_neg tab]
    dsimp only
    rw [h.outputs_start]
    exact ⟨_, rfl, function_code_shape h.parameters_kept h.declared.named⟩

/-- Two outputs in brackets, and a default value among the parameters. -/
def swapLine : FunctionLine where
  outputs := ["a", "b"]
  front := "\t[ a,\tb]\t="
  gap := "\t "
  name := "swap"
  space := " "
  parameters := "(a, b=(1, 2))"
  declared := by
    have last : NamesText ["b"] "b" := .last (by decide)
    have listed : NamesText ["a", "b"] ("a".toList ++ ([',', '\t'] ++ "b".toList)) :=
      .more (by decide) (by decide)
        (List.forall_mem_cons.mpr ⟨.inr rfl, List.forall_mem_singleton.mpr (.inl rfl)⟩) last
    have written : OutputsText ["a", "b"] ('[' :: ([' '] ++ ("a,\tb".toList ++ []) ++ [']'])) :=
      .bracketed listed (List.all_eq_true.mp (by decide))
    exact (FrontText.declares (by decide) (List.all_eq_true.mp (by decide)) written :
      FrontText _ (['\t'] ++ ("[ a,\tb]".toList ++ ['\t']) ++ ['=']))
  margins := List.all_eq_true.mp (by decide)
  apart := by decide
  named := by decide
  opened := rfl
  closed := rfl

theorem swap_is_recognised :
    let raw : Text := "function\t[ a,\tb]\t=\t swap (a, b=(1, 2))\n  a, b = b, a"
    firstLine raw = swapLine.text ∧ swapLine.gap.getLast? ≠ some '\t' ∧
      ∃ code, (parseBlock raw).content = .function (some ⟨"swap", ["a", "b"]⟩) code ∧
        ("def swap(a, b=(1, 2)):" : Text) <+: code ∧ ("\n    return a, b" : Text) <:+ code := by
  intro raw
  have first : firstLine raw = swapLine.text := by decide
  have spaced : swapLine.gap.getLast? ≠ some '\t' := by decide
  have read := function_is_recognised_unless_after_tab swapLine first
  rw [if_neg spaced] at read
  obtain ⟨code, content, starts, ends⟩ := read
  exact ⟨first, spaced, code, content, starts, ends (by decide)⟩

/-- A tab is all that stands between the keyword and the name. -/
def tabLine : FunctionLine where
  outputs := []
  front := []
  gap := "\t"
  name := "f"
  space := []
  parameters := "(x)"
  declared := .plain
  margins := List.all_eq_true.mp (by decide)
  apart := by decide
  named := by decide
  opened := rfl
  closed := rfl

/-- With the tab the name is not found, and the block has an error in place of a definition. -/
theorem tab_hides_the_name :
    let raw : Text := "function\tf(x)\n  return x"
    firstLine raw = tabLine.text ∧ (tabLine.name, tabLine.outputs) = ("f".toList, []) ∧
      (parseBlock raw).content = .function none [] ∧
      (parseBlock "function f(x)\n  return x").content =
        .function (some ⟨"f", []⟩) "def f(x):\n    return x" := by
  intro raw
  have code : functionCode "f" "(x)" [] "  return x" = "def f(x):\n    return x" := by
    decide
  exact ⟨by decide, rfl, rfl, congrArg (Content.function (some ⟨"f", []⟩)) code⟩

end EmbeddedTests
