import EmbeddedTests.Proofs.FeatureLists
import Mathlib.Tactic.Tauto

/-!
# Which lines are headers

A header is a list of features, a condition after a semicolon and a bug tag, the last two only where
there are any. `Written` says so of a text without a word about how it is read. A line is read
exactly if it is written that way between the blanks at its ends.
-/
namespace EmbeddedTests.Header

open Text

def guardText (gap : Text) (condition : Option Text) : Text :=
  condition.elim [] fun condition => ';' :: (gap ++ condition)

def tagText (bug : Option BugTag) : Text := bug.elim [] BugTag.render

/-- The text is a header with these names, and with a condition and a bug tag if there are any.
Blanks are free between the parts. -/
structure Written (names : List Text) (condition : Option Text) (bug : Option BugTag) (t : Text) :
    Prop where
  parts : ∃ list front gap back,
    t = list ++ front ++ (guardText gap condition ++ (back ++ tagText bug)) ∧
      ListsNames names list ∧ ∀ c ∈ front ++ (gap ++ back), isBlank c = true
  condition : ∀ e ∈ condition, e ≠ [] ∧ ';' ∉ e ∧ ∀ c ∈ e.head?, isBlank c = false
  bug : ∀ b ∈ bug, ∀ c ∈ b.id, isBugChar c = true

theorem blank_plain {c : Char} (h : isBlank c = true) : endsFeatures c = false :=
  plain_of_kind h (by decide) (by decide)

theorem ListsNames.plain {names : List Text} {list : Text} (h : ListsNames names list) :
    ∀ c ∈ list, endsFeatures c = false := by
  have name_plain {name : Text} (named : isName name = true) : ∀ c ∈ name, endsFeatures c = false :=
    fun c member => (name_part_plain ((is_name_parts named).2 c member)).2.2
  induction h with
  | empty => simp
  | last named => exact name_plain named
  | @more name gap next later t named separated rest ih =>
    intro c member
    rcases List.mem_append.mp member with member | member
    · exact name_plain named c member
    rcases List.mem_append.mp member with member | member
    · rcases separated.plain c member with blank | rfl
      · exact blank_plain blank
      · decide
    · exact ih c member

theorem cut_at_ending {front tail : Text} (plain : ∀ c ∈ front, endsFeatures c = false)
    (stops : ∀ c ∈ tail.head?, endsFeatures c = true) :
    (front ++ tail).takeWhile (!endsFeatures ·) = front ∧
      (front ++ tail).dropWhile (!endsFeatures ·) = tail :=
  cut_eq (by simpa using plain) (by simpa using stops)

theorem read_end_of_tag {space : Char → Bool} (bracket : space '<' = false) {gap : Text}
    (before : ∀ c ∈ gap, space c = true) {bug : Option BugTag}
    (chars : ∀ b ∈ bug, ∀ c ∈ b.id, isBugChar c = true) :
    ∃ read, readEnd? space (gap ++ tagText bug) = some read := by
  cases bug with
  | none =>
    refine ⟨{}, ?_⟩
    simp [tagText, readEnd?, List.dropWhile_eq_nil_iff.mpr before]
  | some b =>
    refine ⟨BugTag.ofText b.tag, ?_⟩
    rw [tagText, Option.elim_some, b.render_eq]
    exact read_end_written gap bracket before (b.tag_chars (chars b rfl))

theorem read_end_eq_some {space : Char → Bool} {t : Text} {bug : BugTag}
    (h : readEnd? space t = some bug) :
    (∀ c ∈ t, space c = true) ∨ ∃ gap tag back, t = gap ++ '<' :: (tag ++ '>' :: back) ∧
      (∀ c ∈ gap, space c = true) ∧ (∀ c ∈ tag, isBugChar c = true) ∧
      ∀ c ∈ back, space c = true := by
  obtain ⟨gap, rest, rfl, before, starts⟩ := exists_cut space t
  unfold readEnd? at h
  rw [(cut_eq before starts).2] at h
  split at h
  · left
    simpa using before
  · rename_i inner
    right
    split at h
    · rename_i read back tagged
      split at h
      · rename_i blank
        unfold readBug? at tagged
        split at tagged
        · rename_i after closed
          cases tagged
          refine ⟨gap, inner.takeWhile isBugChar, back, ?_, before, ?_, ?_⟩
          · rw [← closed, List.takeWhile_append_dropWhile]
          · exact fun c member => List.mem_takeWhile_imp member
          · simpa using blank
        · cases tagged
      · cases h
    · cases h
  · cases h

/-- Where all blanks are margins, it does not matter which of both may stand around a bug tag. -/
theorem read_end_margin {t : Text} (margins : ∀ c ∈ t, isBlank c = true → isMargin c = true)
    (h : (readEnd? isBlank t).isSome = true) : ∃ bug, readEnd? isMargin t = some bug := by
  obtain ⟨bug, read⟩ := Option.isSome_iff_exists.mp h
  rcases read_end_eq_some read with blank | ⟨gap, tag, back, rfl, before, chars, after⟩
  · have all : ∃ read, readEnd? isMargin (t ++ tagText none) = some read :=
      read_end_of_tag (by decide) (fun c member => margins c member (blank c member)) (by simp)
    simpa [tagText] using all
  · have before : ∀ c ∈ gap, isMargin c = true := fun c member =>
      margins c (by simp [member]) (before c member)
    have after : ∀ c ∈ back, isMargin c = true := fun c member =>
      margins c (by simp [member]) (after c member)
    refine ⟨BugTag.ofText tag, ?_⟩
    unfold readEnd?
    rw [drop_while_append_cons_of_not gap _ (by decide), List.dropWhile_eq_nil_iff.mpr before]
    simpa [read_bug_written back chars] using after

theorem read_condition_is_some {front back : Text} (plain : ';' ∉ front)
    (ended : (readEnd? isBlank back).isSome = true) :
    ∃ condition tail, readCondition? (front ++ back) = some (condition, tail) := by
  induction front with
  | nil =>
    cases back with
    | nil => exact ⟨[], [], rfl⟩
    | cons c back => exact ⟨[], c :: back, by rw [List.nil_append, readCondition?, if_pos ended]⟩
  | cons c front ih =>
    obtain ⟨condition, tail, read⟩ := ih fun member => plain (List.mem_cons_of_mem c member)
    have here : c ≠ ';' := fun semicolon => plain (semicolon ▸ List.mem_cons_self)
    rw [List.cons_append, readCondition?]
    split
    · exact ⟨_, _, rfl⟩
    · simp [read]

theorem read_guard_is_some {gap condition back : Text} (some : condition ≠ [])
    (plain : ';' ∉ condition) (begins : ∀ c ∈ condition.head?, isBlank c = false)
    (before : ∀ c ∈ gap, isBlank c = true) (ended : (readEnd? isBlank back).isSome = true)
    (margins : ∀ c ∈ gap ++ (condition ++ back), isBlank c = true → isMargin c = true) :
    ∃ guard, readGuard? (gap ++ (condition ++ back)) = .some guard := by
  obtain ⟨c, rest, rfl⟩ := List.exists_cons_of_ne_nil some
  have visible : isBlank c = false := begins c rfl
  have outside : isMargin c = false :=
    Bool.eq_false_iff.mpr fun margin => by simp [is_blank_of_is_margin margin] at visible
  have here : c ≠ ';' := fun semicolon => plain (semicolon ▸ List.mem_cons_self)
  have before : ∀ c ∈ gap, isMargin c = true := fun c member =>
    margins c (by simp [member]) (before c member)
  obtain ⟨read, tail, condition⟩ :=
    read_condition_is_some (fun member => plain (List.mem_cons_of_mem c member)) ended
  obtain ⟨-, -, parts, tail_ended⟩ := read_condition_sayable condition
  obtain ⟨bug, tagged⟩ := read_end_margin (t := tail) (fun d member blank => by
    refine margins d ?_ blank
    have inside : d ∈ rest ++ back := parts ▸ List.mem_append_right read member
    simp only [List.mem_append, List.mem_cons] at inside ⊢
    exact .inr (inside.imp_left .inr)) tail_ended
  unfold readGuard?
  rw [List.cons_append, drop_while_append_cons_of_not gap _ outside,
    List.dropWhile_eq_nil_iff.mpr before]
  simp [here, visible, condition, tagged]

theorem read_of_written {names : List Text} {condition : Option Text} {bug : Option BugTag}
    {t : Text} (written : Written names condition bug t)
    (margins : ∀ c ∈ t, isBlank c = true → isMargin c = true) :
    ∃ h, read? t = some h ∧ h.features = names.map featureName := by
  obtain ⟨⟨list, front, gap, back, rfl, listed, blank⟩, conditional, chars⟩ := written
  have blank_front : ∀ c ∈ front, isBlank c = true := fun c member => blank c (by simp [member])
  have blank_back : ∀ c ∈ back, isBlank c = true := fun c member => blank c (by simp [member])
  have margin_front : ∀ c ∈ front, isMargin c = true := fun c member =>
    margins c (by simp [member]) (blank_front c member)
  have margin_list : ∀ c ∈ list, isBlank c = true → isMargin c = true := fun c member =>
    margins c (by simp [member])
  have plain (space : Text) (all : ∀ c ∈ space, isBlank c = true) :
      ∀ c ∈ list ++ space, endsFeatures c = false := by
    intro c member
    rcases List.mem_append.mp member with member | member
    · exact listed.plain c member
    · exact blank_plain (all c member)
  cases condition with
  | none =>
    have spaced : ∀ c ∈ front ++ back, isBlank c = true := by
      simpa [or_imp, forall_and] using And.intro blank_front blank_back
    have margin_back : ∀ c ∈ front ++ back, isMargin c = true := fun c member =>
      margins c (by simp only [List.mem_append] at member ⊢; tauto) (spaced c member)
    have stops : ∀ c ∈ (tagText bug).head?, endsFeatures c = true := by
      cases bug with
      | none => simp [tagText]
      | some b => simpa [tagText, b.render_eq] using (by decide : endsFeatures '<' = true)
    have text : list ++ front ++ (guardText gap none ++ (back ++ tagText bug)) =
        list ++ (front ++ back) ++ tagText bug := by simp [guardText]
    obtain ⟨taken, dropped⟩ := cut_at_ending (plain _ spaced) stops
    have tagged : ∃ read, readEnd? isMargin ([] ++ tagText bug) = some read :=
      read_end_of_tag (by decide) (by simp) chars
    obtain ⟨read, ended⟩ := tagged
    rw [List.nil_append] at ended
    refine ⟨⟨names.map featureName, [], read⟩, ?_, rfl⟩
    unfold read?
    rw [text, taken, dropped, read_features_of_listed listed margin_list margin_back]
    cases bug with
    | none => simp [tagText] at ended ⊢; simp [ended]
    | some b => simp [tagText, b.render_eq] at ended ⊢; simp [ended]
  | some e =>
    obtain ⟨filled, whole, begins⟩ := conditional e rfl
    have text : list ++ front ++ (guardText gap (some e) ++ (back ++ tagText bug)) =
        list ++ front ++ ';' :: (gap ++ (e ++ (back ++ tagText bug))) := by simp [guardText]
    have stops : ∀ c ∈ (';' :: (gap ++ (e ++ (back ++ tagText bug)))).head?,
        endsFeatures c = true := by simpa using (by decide : endsFeatures ';' = true)
    obtain ⟨taken, dropped⟩ := cut_at_ending (plain _ blank_front) stops
    have bracket : isBlank '<' = false := by decide
    obtain ⟨read, ended⟩ := read_end_of_tag bracket blank_back chars
    rw [text] at margins
    obtain ⟨⟨condition, bug⟩, guarded⟩ := read_guard_is_some filled whole begins
      (fun c member => blank c (by simp [member])) (Option.isSome_of_eq_some ended)
      (fun c member => margins c (List.mem_append_right _ (List.mem_cons_of_mem _ member)))
    refine ⟨⟨names.map featureName, condition, bug⟩, ?_, rfl⟩
    unfold read?
    rw [text, taken, dropped, read_features_of_listed listed margin_list margin_front]
    simp [guarded]

theorem read_guard_eq_some {t condition : Text} {bug : BugTag}
    (h : readGuard? t = some (condition, bug)) :
    ∃ gap tail, t = gap ++ (condition ++ tail) ∧ (∀ c ∈ gap, isMargin c = true) ∧
      condition ≠ [] ∧ readEnd? isMargin tail = some bug := by
  obtain ⟨gap, rest, rfl, before, starts⟩ := exists_cut isMargin t
  unfold readGuard? at h
  rw [(cut_eq before starts).2] at h
  split at h
  · cases h
  · rename_i c rest
    split at h
    · cases h
    split at h
    · cases h
    · rename_i later tail read
      obtain ⟨bug, ended, parts⟩ := Option.map_eq_some_iff.mp h
      cases parts
      obtain ⟨-, -, rfl, -⟩ := read_condition_sayable read
      exact ⟨gap, tail, rfl, before, List.cons_ne_nil _ _, ended⟩

theorem tag_of_read_end {front tail : Text} {bug : BugTag} (h : readEnd? isMargin tail = some bug)
    (ends : ∀ c ∈ (front ++ tail).getLast?, isBlank c = false) :
    ∃ gap read, tail = gap ++ tagText read ∧ (∀ c ∈ gap, isBlank c = true) ∧
      ∀ b ∈ read, ∀ c ∈ b.id, isBugChar c = true := by
  rcases read_end_eq_some h with blank | ⟨gap, tag, back, rfl, before, chars, after⟩
  · exact ⟨tail, none, by simp [tagText], fun c member => is_blank_of_is_margin (blank c member),
      by simp⟩
  · have none : back = [] := by
      cases last : back.getLast? with
      | none => simpa using last
      | some c =>
        have text : front ++ (gap ++ '<' :: (tag ++ '>' :: back)) =
            front ++ (gap ++ '<' :: (tag ++ ['>'])) ++ back := by simp
        rw [text, List.getLast?_append, last] at ends
        have visible : isBlank c = false := ends c rfl
        have blank := is_blank_of_is_margin (after c (List.mem_of_getLast? last))
        simp [visible] at blank
    subst none
    refine ⟨gap, some ⟨tag, false⟩, ?_, fun c member => is_blank_of_is_margin (before c member), ?_⟩
    · simp [tagText, BugTag.render_eq, BugTag.tag]
    · simpa using chars

theorem written_of_read {t : Text} {h : Header} (begins : ∀ c ∈ t.head?, isBlank c = false)
    (ends : ∀ c ∈ t.getLast?, isBlank c = false) (read : read? t = some h) :
    ∃ names condition bug, Written names condition bug t ∧ h.features = names.map featureName := by
  unfold read? at read
  simp only [Option.bind_eq_bind, Option.bind_eq_some_iff] at read
  obtain ⟨names, listed, read⟩ := read
  have parts : t.takeWhile (!endsFeatures ·) ++ t.dropWhile (!endsFeatures ·) = t :=
    List.takeWhile_append_dropWhile
  generalize t.takeWhile (!endsFeatures ·) = features at listed parts
  generalize t.dropWhile (!endsFeatures ·) = tail at read parts
  subst parts
  obtain ⟨front, list, back, rfl, lists, before, after⟩ := spreads_of_read_features listed
  have unblank : front = [] := by
    cases front with
    | nil => rfl
    | cons c front =>
      have blank := is_blank_of_is_margin (before c List.mem_cons_self)
      simp [begins c rfl] at blank
  subst unblank
  have after : ∀ c ∈ back, isBlank c = true := fun c member => is_blank_of_is_margin (after c member)
  rw [List.nil_append] at ends ⊢
  split at read
  · rename_i rest
    obtain ⟨⟨condition, bug⟩, guarded, made⟩ := Option.bind_eq_some_iff.mp read
    cases made
    obtain ⟨whole, starts, -, -⟩ := read_guard_sayable guarded
    obtain ⟨gap, tail, rfl, margins, filled, ended⟩ := read_guard_eq_some guarded
    have closes : ∀ c ∈ (list ++ back ++ ';' :: (gap ++ condition) ++ tail).getLast?,
        isBlank c = false := by simpa using ends
    obtain ⟨gap', tag, rfl, blank, chars⟩ := tag_of_read_end ended closes
    refine ⟨names, some condition, tag, ⟨⟨list, back, gap, gap', ?_, lists, ?_⟩, ?_, chars⟩, rfl⟩
    · simp [guardText]
    · intro c member
      simp only [List.mem_append] at member
      rcases member with member | member | member
      · exact after c member
      · exact is_blank_of_is_margin (margins c member)
      · exact blank c member
    · rintro e ⟨rfl⟩
      exact ⟨filled, whole, starts⟩
  · obtain ⟨bug, ended, made⟩ := Option.bind_eq_some_iff.mp read
    cases made
    obtain ⟨gap, tag, rfl, blank, chars⟩ := tag_of_read_end ended ends
    refine ⟨names, none, tag, ⟨⟨list, back, [], gap, ?_, lists, ?_⟩, by simp, chars⟩, rfl⟩
    · simp [guardText]
    · intro c member
      simp only [List.nil_append, List.mem_append] at member
      exact member.elim (after c) (blank c)

/-- Where the blanks of a line are spaces and tabs, the line is read as a header exactly if what is
left of it between the blanks at its ends is written as a header; and the features are the names in
their order, without the beginning of the long form. -/
theorem header_is_read_iff_written {line : Text}
    (spaced : ∀ c ∈ line, isBlank c = true → c = ' ' ∨ c = '\t') :
    ((∃ h, parse line = .ok h) ↔ ∃ names condition bug, Written names condition bug (trim line)) ∧
    ∀ names condition bug, Written names condition bug (trim line) →
      ∀ h, parse line = .ok h → h.features = names.map featureName := by
  have margins : ∀ c ∈ trim line, isBlank c = true → isMargin c = true := by
    intro c member blank
    have : c = ' ' ∨ c = '\t' := spaced c (mem_of_mem_trim member) blank
    simpa [isMargin] using this
  have parsed (h : Header) : parse line = .ok h ↔ read? (trim line) = some h := by
    unfold parse
    cases read? (trim line) <;> simp
  simp only [parsed]
  refine ⟨⟨?_, ?_⟩, ?_⟩
  · rintro ⟨h, read⟩
    obtain ⟨names, condition, bug, written, -⟩ :=
      written_of_read (fun c => head_trim) (fun c => get_last_trim) read
    exact ⟨names, condition, bug, written⟩
  · rintro ⟨names, condition, bug, written⟩
    obtain ⟨h, read, -⟩ := read_of_written written margins
    exact ⟨h, read⟩
  · intro names condition bug written h read
    obtain ⟨other, same, features⟩ := read_of_written written margins
    rw [read] at same
    cases same
    exact features

theorem header_of_three_features : ∃ h, parse "\t a HAVE_b,c <*1;2>".toList = .ok h ∧
    h.features = ["a".toList, "b".toList, "c".toList] := by
  have blanks : trim "\t a HAVE_b,c <*1;2>".toList = "a HAVE_b,c <*1;2>".toList := by decide
  have comma : Separates [','] := ⟨by decide, List.forall_mem_singleton.mpr (by decide), by decide⟩
  have blank : Separates [' '] := ⟨by decide, List.forall_mem_singleton.mpr (by decide), by decide⟩
  have last_two : ListsNames ["HAVE_b".toList, "c".toList]
      ("HAVE_b".toList ++ ([','] ++ "c".toList)) := .more (by decide) comma (.last (by decide))
  have listed : ListsNames ["a".toList, "HAVE_b".toList, "c".toList]
      ("a".toList ++ ([' '] ++ ("HAVE_b".toList ++ ([','] ++ "c".toList)))) :=
    .more (by decide) blank last_two
  have written : Written ["a".toList, "HAVE_b".toList, "c".toList] none (some ⟨"1;2".toList, true⟩)
      (trim "\t a HAVE_b,c <*1;2>".toList) := by
    refine ⟨?_, nofun, ?_⟩
    · rw [blanks]
      exact ⟨_, [], [], [' '], by decide, listed, List.forall_mem_singleton.mpr (by decide)⟩
    · rintro b ⟨⟩
      exact List.all_eq_true.mp (by decide)
  have spaced : ∀ c ∈ "\t a HAVE_b,c <*1;2>".toList, isBlank c = true → c = ' ' ∨ c = '\t' := by
    have checked : "\t a HAVE_b,c <*1;2>".toList.all
        (fun c => !isBlank c || c == ' ' || c == '\t') = true := by decide
    intro c member space
    have here := List.all_eq_true.mp checked c member
    simpa [space] using here
  obtain ⟨iff_written, features⟩ := header_is_read_iff_written spaced
  obtain ⟨h, read⟩ := iff_written.mpr ⟨_, _, _, written⟩
  exact ⟨h, read, (features _ _ _ written h read).trans (by decide)⟩

end EmbeddedTests.Header
