import EmbeddedTests.Header
import EmbeddedTests.Proofs.Cuts

/-!
# Headers read back

A header that was read has features of letters, digits and underscores, a condition without
semicolon and without blanks at its ends, and a bug without angle brackets and blanks. Of every such
header the written form is read as that header again, also where the condition has angle brackets of
its own: the shortest condition is the whole one.
-/
namespace EmbeddedTests

open Text

namespace BugTag

/-- What stands between the angle brackets. -/
def tag (bug : BugTag) : Text := if bug.fixed then '*' :: bug.id else bug.id

theorem render_eq (bug : BugTag) : bug.render = '<' :: (bug.tag ++ ['>']) := by
  cases fixed : bug.fixed <;> simp [render, tag, fixed]

theorem of_text_tag {bug : BugTag} (unfixed : bug.fixed = false → bug.id.head? ≠ some '*') :
    ofText bug.tag = bug := by
  obtain ⟨id, fixed⟩ := bug
  cases fixed with
  | true => rfl
  | false =>
    have first := unfixed rfl
    cases id with
    | nil => rfl
    | cons c rest =>
      have plain : c ≠ '*' := by simpa using first
      simp [tag, ofText, plain]

theorem tag_chars (bug : BugTag) (h : ∀ c ∈ bug.id, Header.isBugChar c = true) :
    ∀ c ∈ bug.tag, Header.isBugChar c = true := by
  unfold tag
  split
  · intro c member
    rcases List.mem_cons.mp member with rfl | member
    · decide
    · exact h c member
  · exact h

theorem of_text_chars {tag : Text} (h : ∀ c ∈ tag, Header.isBugChar c = true) :
    (∀ c ∈ (ofText tag).id, Header.isBugChar c = true) ∧
      ((ofText tag).fixed = false → (ofText tag).id.head? ≠ some '*') := by
  unfold ofText
  split
  · rename_i id
    exact ⟨fun c member => h c (List.mem_cons_of_mem '*' member), fun not => by cases not⟩
  · rename_i plain
    refine ⟨h, fun _ first => ?_⟩
    obtain ⟨rest, starred⟩ := List.head?_eq_some_iff.mp first
    exact plain rest starred

end BugTag

namespace Header

structure Sayable (h : Header) : Prop where
  features : ∀ name ∈ h.features, ∀ c ∈ name, isNamePart c = true
  condition : ';' ∉ h.condition
  begins : ∀ c ∈ h.condition.head?, isBlank c = false
  ends : ∀ c ∈ h.condition.getLast?, isBlank c = false
  bug : ∀ c ∈ h.bug.id, isBugChar c = true
  unfixed : h.bug.fixed = false → h.bug.id.head? ≠ some '*'

theorem plain_of_kind {kind : Char → Bool} {c : Char} (h : kind c = true)
    (semicolon : kind ';' = false) (less : kind '<' = false) : endsFeatures c = false := by
  cases ending : endsFeatures c with
  | false => rfl
  | true =>
    have sign : c = ';' ∨ c = '<' := by simpa [endsFeatures] using ending
    rcases sign with rfl | rfl
    · exact absurd h (by simp [semicolon])
    · exact absurd h (by simp [less])

theorem name_part_plain {c : Char} (h : isNamePart c = true) :
    isMargin c = false ∧ c ≠ ',' ∧ endsFeatures c = false := by
  refine ⟨?_, ?_, ?_⟩
  · cases margin : isMargin c with
    | false => rfl
    | true =>
      rcases margin_cases margin with rfl | rfl <;> exact absurd h (by decide)
  · rintro rfl
    exact absurd h (by decide)
  · exact plain_of_kind h (by decide) (by decide)

theorem margin_plain {c : Char} (h : isMargin c = true) : c ≠ ',' ∧ endsFeatures c = false := by
  rcases margin_cases h with rfl | rfl <;> exact ⟨by decide, by decide⟩

theorem is_name_parts {name : Text} (h : isName name = true) :
    name ≠ [] ∧ ∀ c ∈ name, isNamePart c = true := by
  cases name with
  | nil => cases h
  | cons first rest =>
    simp only [isName, Bool.and_eq_true, List.all_eq_true] at h
    obtain ⟨start, parts⟩ := h
    refine ⟨List.cons_ne_nil _ _, ?_⟩
    intro c member
    rcases List.mem_cons.mp member with rfl | later
    · simp only [isNameStart, Bool.or_eq_true] at start
      simp only [isNamePart, Char.isAlphanum, Bool.or_eq_true]
      exact start.imp .inl id
    · exact parts c later

theorem is_name_long {name : Text} (h : ∀ c ∈ name, isNamePart c = true) :
    isName ("HAVE_" ++ name) = true := by
  have start : isNameStart 'H' = true := by decide
  have rest : (['A', 'V', 'E', '_'] ++ name).all isNamePart = true := by
    rw [List.all_append, List.all_eq_true.mpr h]
    decide
  exact Bool.and_eq_true_iff.mpr ⟨start, rest⟩

theorem parts_of_names (front : Text) {back : Text} {names : List Text}
    (before : ∀ c ∈ front, isMargin c = true) (after : ∀ c ∈ back, isMargin c = true)
    (named : ∀ name ∈ names, isName name = true) (some : names ≠ []) :
    (splitOn ',' (front ++ (joinWith ", " names ++ back))).map (runsOf isMargin) =
      names.map ([·]) := by
  induction names generalizing front with
  | nil => exact absurd rfl some
  | cons name rest ih =>
    obtain ⟨written, parts⟩ := is_name_parts (named name List.mem_cons_self)
    have inside : ∀ c ∈ name, isMargin c = false := fun c member =>
      (name_part_plain (parts c member)).1
    cases rest with
    | nil =>
      have whole : ∀ c ∈ front ++ (name ++ back), (c == ',') = false := by
        intro c member
        simp only [List.mem_append] at member
        rcases member with member | member | member
        · simpa using (margin_plain (before c member)).1
        · simpa using (name_part_plain (parts c member)).2.1
        · simpa using (margin_plain (after c member)).1
      have last : joinWith ", " [name] = name := by simp [joinWith]
      rw [last, splitOn, split_where_of_none whole]
      simp [runs_of_surrounded before inside after written]
    | cons next rest =>
      have whole : ∀ c ∈ front ++ name, (c == ',') = false := by
        intro c member
        rcases List.mem_append.mp member with member | member
        · simpa using (margin_plain (before c member)).1
        · simpa using (name_part_plain (parts c member)).2.1
      have joined : front ++ (joinWith ", " (name :: next :: rest) ++ back) =
          (front ++ name) ++ ',' :: ([' '] ++ (joinWith ", " (next :: rest) ++ back)) := by
        simp [joinWith, List.intercalate_cons_cons]
      have later := ih [' '] (List.forall_mem_singleton.mpr (by decide))
        (fun name member => named name (List.mem_cons_of_mem _ member)) (List.cons_ne_nil _ _)
      have here : runsOf isMargin (front ++ (name ++ [])) = [name] :=
        runs_of_surrounded before inside (by simp) written
      rw [List.append_nil] at here
      rw [splitOn] at later ⊢
      rw [joined, split_where_append_cons _ whole rfl, List.map_cons, here, later]
      rfl

theorem read_features_written {back : Text} {names : List Text}
    (after : ∀ c ∈ back, isMargin c = true) (named : ∀ name ∈ names, isName name = true) :
    readFeatures? (joinWith ", " names ++ back) = some names := by
  by_cases some : names = []
  · subst some
    have whole : ∀ c ∈ back, (c == ',') = false := fun c member => by
      simpa using (margin_plain (after c member)).1
    have blank : runsOf isMargin back = [] := by
      have front := runs_of_separators_append [] after
      rwa [List.append_nil] at front
    simp [readFeatures?, joinWith, splitOn, split_where_of_none whole, blank]
  · have parts := parts_of_names [] (by simp) after named some
    rw [List.nil_append] at parts
    simp only [readFeatures?, parts]
    have checked : (names.map ([·])).all (·.all isName) = true := by
      simpa using named
    have filled : (names.map ([·])).all (!·.isEmpty) = true := by simp
    rw [checked, filled]
    simp [← List.flatMap_def]

theorem read_features_named {t : Text} {names : List Text} (h : readFeatures? t = some names) :
    ∀ name ∈ names, isName name = true := by
  unfold readFeatures? at h
  dsimp only at h
  split at h
  · rename_i checked
    rw [Bool.and_eq_true, List.all_eq_true] at checked
    cases h
    intro name member
    obtain ⟨part, inside, here⟩ := List.mem_flatten.mp member
    exact List.all_eq_true.mp (checked.1 part inside) name here
  · cases h

theorem read_bug_written {tag : Text} (rest : Text) (h : ∀ c ∈ tag, isBugChar c = true) :
    readBug? (tag ++ '>' :: rest) = some (BugTag.ofText tag, rest) := by
  have stops : isBugChar '>' = false := by decide
  unfold readBug?
  rw [take_while_append_cons_of_not rest h stops, drop_while_append_cons_of_not tag rest stops,
    List.dropWhile_eq_nil_iff.mpr h]
  rfl

theorem read_end_written {space : Char → Bool} (front : Text) {tag : Text}
    (bracket : space '<' = false) (before : ∀ c ∈ front, space c = true)
    (h : ∀ c ∈ tag, isBugChar c = true) :
    readEnd? space (front ++ '<' :: (tag ++ ['>'])) = some (BugTag.ofText tag) := by
  unfold readEnd?
  rw [drop_while_append_cons_of_not front _ bracket, List.dropWhile_eq_nil_iff.mpr before]
  simp [read_bug_written [] h]

theorem read_bug_before_another {t rest tail : Text} {bug : BugTag}
    (h : readBug? (t ++ ' ' :: '<' :: tail) = some (bug, rest)) : '<' ∈ rest := by
  have stops : isBugChar ' ' = false := by decide
  unfold readBug? at h
  rw [drop_while_append_cons_of_not t _ stops] at h
  split at h
  · rename_i closed
    cases h
    cases left : t.dropWhile isBugChar with
    | nil => simp [left] at closed
    | cons c later =>
      rw [left, List.cons_append] at closed
      rw [← (List.cons.inj closed).2]
      simp
  · cases h

theorem read_end_before_another {t tail : Text}
    (h : (readEnd? isBlank (t ++ ' ' :: '<' :: tail)).isSome = true) :
    ∀ c ∈ t, isBlank c = true := by
  apply List.dropWhile_eq_nil_iff.mp
  cases left : t.dropWhile isBlank with
  | nil => rfl
  | cons first later =>
    exfalso
    unfold readEnd? at h
    rw [List.dropWhile_append, left] at h
    simp only [List.isEmpty_cons, Bool.false_eq_true, if_false, List.cons_append] at h
    split at h
    · rename_i none
      cases none
    · rename_i rest tagged
      obtain ⟨-, rfl⟩ := List.cons.inj tagged
      split at h
      · rename_i bug rest read
        have bracket := read_bug_before_another read
        split at h
        · rename_i blank
          have := List.all_eq_true.mp blank '<' bracket
          exact absurd this (by decide)
        · cases h
      · cases h
    · cases h

theorem read_end_sayable {space : Char → Bool} {t : Text} {bug : BugTag}
    (h : readEnd? space t = some bug) :
    (∀ c ∈ bug.id, isBugChar c = true) ∧ (bug.fixed = false → bug.id.head? ≠ some '*') := by
  unfold readEnd? at h
  split at h
  · cases h
    simp
  · rename_i rest _
    split at h
    · rename_i read
      split at h
      · cases h
        unfold readBug? at read
        split at read
        · cases read
          exact BugTag.of_text_chars fun c member => List.mem_takeWhile_imp member
        · cases read
      · cases h
    · cases h
  · cases h

/-- The shortest condition before a blank and a bug tag is all that stands there. -/
theorem read_condition_written {condition tail : Text} (plain : ';' ∉ condition)
    (ends : ∀ c ∈ condition.getLast?, isBlank c = false)
    (tagged : (readEnd? isBlank (' ' :: '<' :: tail)).isSome = true) :
    readCondition? (condition ++ ' ' :: '<' :: tail) = some (condition, ' ' :: '<' :: tail) := by
  induction condition with
  | nil =>
    rw [List.nil_append, readCondition?, if_pos tagged]
  | cons c rest ih =>
    have open_ : (readEnd? isBlank (c :: rest ++ ' ' :: '<' :: tail)).isSome = false := by
      apply Bool.eq_false_iff.mpr
      intro ended
      have blank := read_end_before_another ended
      obtain ⟨last, final⟩ : ∃ last, (c :: rest).getLast? = some last :=
        Option.ne_none_iff_exists'.mp (by simp)
      have visible := ends last final
      rw [blank last (List.mem_of_getLast? final)] at visible
      cases visible
    have here : c ≠ ';' := fun semicolon => plain (semicolon ▸ List.mem_cons_self)
    have later : ∀ d ∈ rest.getLast?, isBlank d = false := by
      intro d last
      apply ends d
      rw [List.getLast?_cons, last]
      rfl
    have read := ih (fun member => plain (List.mem_cons_of_mem c member)) later
    rw [List.cons_append] at open_ ⊢
    rw [readCondition?, open_, read]
    simp [here]

/-- What was read as a condition has no semicolon and ends without a blank; a blank there could have
been left to the end of the header. -/
theorem read_condition_sayable {t condition tail : Text}
    (h : readCondition? t = some (condition, tail)) :
    ';' ∉ condition ∧ (∀ c ∈ condition.getLast?, isBlank c = false) ∧
      t = condition ++ tail ∧ (readEnd? isBlank tail).isSome = true := by
  induction t generalizing condition with
  | nil =>
    cases h
    simp [readEnd?]
  | cons c rest ih =>
    unfold readCondition? at h
    split at h
    · rename_i ended
      cases h
      simp [ended]
    · rename_i going
      split at h
      · cases h
      · rename_i plain
        obtain ⟨⟨later, end_⟩, read, parts⟩ := Option.map_eq_some_iff.mp h
        cases parts
        obtain ⟨whole, closed, rfl, ended⟩ := ih read
        refine ⟨by simp [whole, Ne.symm plain], ?_, rfl, ended⟩
        cases later with
        | nil =>
          intro d last
          obtain rfl : c = d := by simpa using last
          cases blank : isBlank c with
          | false => rfl
          | true =>
            refine absurd ?_ going
            simpa [readEnd?, blank] using ended
        | cons d later =>
          rw [List.getLast?_cons_cons]
          exact closed

theorem read_guard_written {condition tag : Text} (plain : ';' ∉ condition)
    (begins : ∀ c ∈ condition.head?, isBlank c = false)
    (ends : ∀ c ∈ condition.getLast?, isBlank c = false) (some : condition ≠ [])
    (h : ∀ c ∈ tag, isBugChar c = true) :
    readGuard? (' ' :: (condition ++ ' ' :: '<' :: (tag ++ ['>']))) =
      .some (condition, BugTag.ofText tag) := by
  have bug (space : Char → Bool) (bracket : space '<' = false) (blank : space ' ' = true) :
      readEnd? space (' ' :: '<' :: (tag ++ ['>'])) = .some (BugTag.ofText tag) :=
    read_end_written [' '] bracket (by simpa using blank) h
  have tagged := bug isBlank (by decide) (by decide)
  cases condition with
  | nil => exact absurd rfl some
  | cons c rest =>
    have visible : isBlank c = false := begins c rfl
    have here : c ≠ ';' := fun semicolon => plain (semicolon ▸ List.mem_cons_self)
    have outside : isMargin c = false :=
      Bool.eq_false_iff.mpr fun margin => by simp [is_blank_of_is_margin margin] at visible
    have later : ∀ d ∈ rest.getLast?, isBlank d = false := by
      intro d last
      apply ends d
      rw [List.getLast?_cons, last]
      rfl
    have read := read_condition_written (fun member => plain (List.mem_cons_of_mem c member)) later
      (Option.isSome_of_eq_some tagged)
    have margin : isMargin ' ' = true := by decide
    unfold readGuard?
    simp [margin, outside, here, visible, read, bug isMargin (by decide) margin]

theorem read_guard_sayable {t condition : Text} {bug : BugTag}
    (h : readGuard? t = some (condition, bug)) :
    ';' ∉ condition ∧ (∀ c ∈ condition.head?, isBlank c = false) ∧
      (∀ c ∈ condition.getLast?, isBlank c = false) ∧
      ∃ tail, readEnd? isMargin tail = some bug := by
  unfold readGuard? at h
  split at h
  · cases h
  · rename_i c rest _
    split at h
    · cases h
    · rename_i starts
      obtain ⟨here, visible⟩ : c ≠ ';' ∧ isBlank c = false := by simpa using starts
      split at h
      · cases h
      · rename_i later tail read
        obtain ⟨end_, ended, parts⟩ := Option.map_eq_some_iff.mp h
        cases parts
        obtain ⟨whole, closed, -, -⟩ := read_condition_sayable read
        refine ⟨by simp [whole, Ne.symm here], ?_, ?_, tail, ended⟩
        · intro d first
          cases first
          exact visible
        · cases later with
          | nil =>
            intro d last
            cases last
            exact visible
          | cons d later =>
            rw [List.getLast?_cons_cons]
            exact closed

theorem feature_name_long (name : Text) : featureName ("HAVE_" ++ name) = name := by
  rw [featureName, after_append]
  rfl

theorem feature_name_parts {name : Text} (h : ∀ c ∈ name, isNamePart c = true) :
    ∀ c ∈ featureName name, isNamePart c = true := by
  unfold featureName
  cases long : after? "HAVE_" name with
  | none => exact h
  | some rest =>
    rw [after_eq_some_iff] at long
    subst long
    exact fun c member => h c (List.mem_append_right _ member)

def longNames (h : Header) : List Text := h.features.map fun name => "HAVE_" ++ name

theorem long_names_named {h : Header} (sayable : h.Sayable) :
    ∀ name ∈ h.longNames, isName name = true := by
  intro name member
  obtain ⟨short, listed, rfl⟩ := List.mem_map.mp member
  exact is_name_long (sayable.features short listed)

theorem feature_name_long_names (h : Header) : h.longNames.map featureName = h.features := by
  rw [longNames, List.map_map]
  exact (List.map_congr_left fun name _ => feature_name_long name).trans (List.map_id _)

theorem joined_names_plain {names : List Text} (named : ∀ name ∈ names, isName name = true) :
    ∀ c ∈ joinWith ", " names, endsFeatures c = false := by
  intro c member
  rcases mem_join_with member with between | ⟨name, listed, inside⟩
  · have here : c = ',' ∨ c = ' ' := by simpa using between
    rcases here with rfl | rfl <;> rfl
  · exact (name_part_plain ((is_name_parts (named name listed)).2 c inside)).2.2

theorem features_end {names : List Text} {back : Text} (ending : Char) (rest : Text)
    (named : ∀ name ∈ names, isName name = true) (margins : ∀ c ∈ back, isMargin c = true)
    (ends : endsFeatures ending = true) :
    let t := joinWith ", " names ++ back ++ ending :: rest
    t.takeWhile (!endsFeatures ·) = joinWith ", " names ++ back ∧
      t.dropWhile (!endsFeatures ·) = ending :: rest := by
  intro t
  have plain : ∀ c ∈ joinWith ", " names ++ back, (!endsFeatures c) = true := by
    intro c member
    rcases List.mem_append.mp member with member | member
    · simp [joined_names_plain named c member]
    · simp [(margin_plain (margins c member)).2]
  have stops : (!endsFeatures ending) = false := by simp [ends]
  refine ⟨take_while_append_cons_of_not rest plain stops, ?_⟩
  rw [drop_while_append_cons_of_not _ rest stops, List.dropWhile_eq_nil_iff.mpr plain]
  rfl

theorem read_unconditional {names : List Text} {back tag : Text}
    (named : ∀ name ∈ names, isName name = true) (margins : ∀ c ∈ back, isMargin c = true)
    (h : ∀ c ∈ tag, isBugChar c = true) :
    read? (joinWith ", " names ++ back ++ '<' :: (tag ++ ['>'])) =
      some ⟨names.map featureName, [], BugTag.ofText tag⟩ := by
  obtain ⟨front, tail⟩ := features_end '<' (tag ++ ['>']) named margins (by decide)
  have bug : readEnd? isMargin ([] ++ '<' :: (tag ++ ['>'])) = some (BugTag.ofText tag) :=
    read_end_written [] (by decide) (by simp) h
  rw [List.nil_append] at bug
  unfold read?
  rw [front, tail, read_features_written margins named]
  simp [bug]

theorem read_conditional {names : List Text} {condition tag : Text}
    (named : ∀ name ∈ names, isName name = true) (plain : ';' ∉ condition)
    (begins : ∀ c ∈ condition.head?, isBlank c = false)
    (ends : ∀ c ∈ condition.getLast?, isBlank c = false) (written : condition ≠ [])
    (h : ∀ c ∈ tag, isBugChar c = true) :
    read? (joinWith ", " names ++ ';' :: ' ' :: (condition ++ ' ' :: '<' :: (tag ++ ['>']))) =
      some ⟨names.map featureName, condition, BugTag.ofText tag⟩ := by
  have margins : ∀ c ∈ ([] : Text), isMargin c = true := by simp
  obtain ⟨front, tail⟩ := features_end ';' (' ' :: (condition ++ ' ' :: '<' :: (tag ++ ['>'])))
    named margins (by decide)
  have features := read_features_written margins named
  rw [List.append_nil] at front tail features
  unfold read?
  rw [front, tail, features]
  simp [read_guard_written plain begins ends written h]

/-- A written header ends with a bracket, so that only blanks at its start are trimmed. -/
theorem trim_closed (t : Text) : trim (t ++ ['>']) = t.dropWhile isBlank ++ ['>'] := by
  have visible : isBlank '>' = false := by decide
  rw [trim, strip, drop_while_append_cons_of_not t [] visible]
  exact drop_end_append_cons_of_not _ [] visible

theorem trim_render (h : Header) :
    trim h.render = joinWith ", " h.longNames ++
      if h.condition = [] then
        (if h.features = [] then [] else [' ']) ++ '<' :: (h.bug.tag ++ ['>'])
      else ';' :: ' ' :: (h.condition ++ ' ' :: '<' :: (h.bug.tag ++ ['>'])) := by
  obtain ⟨features, condition, bug⟩ := h
  let names := joinWith ", " (longNames ⟨features, condition, bug⟩)
  let middle : Text := if condition = [] then [] else ';' :: ' ' :: condition
  have written : render ⟨features, condition, bug⟩ =
      names ++ (middle ++ ' ' :: '<' :: bug.tag) ++ ['>'] := by
    simp [render, names, middle, longNames, bug.render_eq]
  have space : isBlank ' ' = true := by decide
  have bracket : isBlank '<' = false := by decide
  have semicolon : isBlank ';' = false := by decide
  rw [written, trim_closed]
  cases features with
  | nil =>
    have none : names = [] := rfl
    by_cases free : condition = []
    · simp [none, names, middle, free, space, bracket, joinWith, longNames]
    · simp [none, names, middle, free, semicolon, joinWith, longNames]
  | cons name rest =>
    obtain ⟨later, first⟩ : ∃ later, names = 'H' :: later := by
      cases rest <;> exact ⟨_, rfl⟩
    have visible : isBlank 'H' = false := by decide
    have kept : (names ++ (middle ++ ' ' :: '<' :: bug.tag)).dropWhile isBlank =
        names ++ (middle ++ ' ' :: '<' :: bug.tag) := by
      simp [first, visible]
    rw [kept]
    by_cases free : condition = []
    · simp [names, middle, free]
    · simp [names, middle, free]

theorem parse_written {h : Header} (sayable : h.Sayable) : parse h.render = .ok h := by
  have named := long_names_named sayable
  have chars := h.bug.tag_chars sayable.bug
  have same :
      (⟨h.longNames.map featureName, h.condition, BugTag.ofText h.bug.tag⟩ : Header) = h := by
    rw [feature_name_long_names, BugTag.of_text_tag sayable.unfixed]
  suffices read : read? (trim h.render) =
      some ⟨h.longNames.map featureName, h.condition, BugTag.ofText h.bug.tag⟩ by
    rw [parse, read, same]
  rw [trim_render]
  by_cases free : h.condition = []
  · have margins : ∀ c ∈ (if h.features = [] then [] else [' '] : Text), isMargin c = true := by
      split
      · exact List.forall_mem_nil _
      · exact List.forall_mem_singleton.mpr (by decide)
    rw [if_pos free, free, ← List.append_assoc]
    exact read_unconditional named margins chars
  · rw [if_neg free]
    exact read_conditional named sayable.condition sayable.begins sayable.ends free chars

theorem parsed_is_sayable {line : Text} {h : Header} (read : parse line = .ok h) : h.Sayable := by
  unfold parse at read
  split at read
  · rename_i header done
    cases read
    unfold read? at done
    simp only [Option.bind_eq_bind, Option.bind_eq_some_iff] at done
    obtain ⟨names, listed, done⟩ := done
    have features : ∀ name ∈ names.map featureName, ∀ c ∈ name, isNamePart c = true := by
      intro name member
      obtain ⟨long, inside, rfl⟩ := List.mem_map.mp member
      exact feature_name_parts (is_name_parts (read_features_named listed long inside)).2
    split at done
    · obtain ⟨⟨condition, bug⟩, guarded, done⟩ := Option.bind_eq_some_iff.mp done
      cases done
      obtain ⟨plain, begins, ends, tail, ended⟩ := read_guard_sayable guarded
      obtain ⟨chars, unfixed⟩ := read_end_sayable ended
      exact ⟨features, plain, begins, ends, chars, unfixed⟩
    · obtain ⟨bug, ended, done⟩ := Option.bind_eq_some_iff.mp done
      cases done
      obtain ⟨chars, unfixed⟩ := read_end_sayable ended
      exact ⟨features, by simp, by simp, by simp, chars, unfixed⟩
  · cases read

/-- Headers that can be said are those that are read from some line, and each is read from its
written form: writing and reading undo each other. -/
theorem headers_are_read_as_written (h : Header) :
    (h.Sayable ↔ parse h.render = .ok h) ∧ (h.Sayable ↔ ∃ line, parse line = .ok h) :=
  ⟨⟨parse_written, parsed_is_sayable⟩,
    ⟨fun sayable => ⟨h.render, parse_written sayable⟩, fun ⟨_, read⟩ => parsed_is_sayable read⟩⟩

end Header
end EmbeddedTests
