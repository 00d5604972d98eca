import EmbeddedTests.Proofs.Headers

/-!
# Lists of features

A list of names has blanks between them, and one comma among the blanks at most. The features of a
header are read from exactly these lists: what is read is listed, and what is listed is read.
-/
namespace EmbeddedTests.Header

open Text

/-- What stands between two names: blanks, and one comma among them at most. -/
structure Separates (gap : Text) : Prop where
  some : gap ≠ []
  plain : ∀ c ∈ gap, isBlank c = true ∨ c = ','
  once : gap.count ',' ≤ 1

inductive ListsNames : List Text → Text → Prop where
  | empty : ListsNames [] []
  | last {name} (named : isName name = true) : ListsNames [name] name
  | more {name gap next later t} (named : isName name = true) (separated : Separates gap)
      (rest : ListsNames (next :: later) t) :
      ListsNames (name :: next :: later) (name ++ (gap ++ t))

theorem ListsNames.named {names : List Text} {list : Text} (h : ListsNames names list) :
    ∀ name ∈ names, isName name = true := by
  induction h with
  | empty => simp
  | last named => simpa using named
  | more named separated rest ih => exact List.forall_mem_cons.mpr ⟨named, ih⟩

theorem ListsNames.text_of_none {list : Text} (h : ListsNames [] list) : list = [] := by
  cases h
  rfl

theorem ListsNames.append {name next gap front back : Text} {first later : List Text}
    (h : ListsNames (name :: first) front) (separated : Separates gap)
    (k : ListsNames (next :: later) back) :
    ListsNames (name :: first ++ next :: later) (front ++ (gap ++ back)) := by
  generalize whole : name :: first = names at h
  induction h generalizing name first with
  | empty => cases whole
  | last named => exact .more named separated k
  | @more head between following rest t named between_separates tail ih =>
    have more := ListsNames.more named between_separates (ih rfl)
    simpa using more

theorem Separates.cases {gap : Text} (h : Separates gap) :
    (∀ c ∈ gap, isBlank c = true) ∨ ∃ front back, gap = front ++ ',' :: back ∧
      (∀ c ∈ front, isBlank c = true) ∧ ∀ c ∈ back, isBlank c = true := by
  by_cases comma : ',' ∈ gap
  · right
    obtain ⟨front, back, rfl⟩ := List.mem_iff_append.mp comma
    have counted := h.once
    rw [List.count_append, List.count_cons_self] at counted
    have none_front : ',' ∉ front := List.count_eq_zero.mp (by omega)
    have none_back : ',' ∉ back := List.count_eq_zero.mp (by omega)
    refine ⟨front, back, rfl, ?_, ?_⟩
    · intro c member
      refine (h.plain c (List.mem_append_left _ member)).resolve_right ?_
      rintro rfl
      exact none_front member
    · intro c member
      refine (h.plain c (List.mem_append_right _ (List.mem_cons_of_mem _ member))).resolve_right ?_
      rintro rfl
      exact none_back member
  · left
    intro c member
    refine (h.plain c member).resolve_right ?_
    rintro rfl
    exact comma member

def Spreads (names : List Text) (t : Text) : Prop :=
  ∃ front list back, t = front ++ (list ++ back) ∧ ListsNames names list ∧
    (∀ c ∈ front, isMargin c = true) ∧ ∀ c ∈ back, isMargin c = true

theorem separates_margin {c : Char} {gap : Text} (first : isMargin c = true)
    (all : ∀ d ∈ gap, isMargin d = true) : Separates (c :: gap) where
  some := List.cons_ne_nil _ _
  plain d member := by
    rcases List.mem_cons.mp member with rfl | later
    · exact .inl (is_blank_of_is_margin first)
    · exact .inl (is_blank_of_is_margin (all d later))
  once := by
    have none : gap.count ',' = 0 :=
      List.count_eq_zero.mpr fun comma => (margin_plain (all _ comma)).1 rfl
    rw [List.count_cons_of_ne (margin_plain first).1, none]
    exact Nat.zero_le 1

theorem separates_comma {front back : Text} (before : ∀ c ∈ front, isMargin c = true)
    (after : ∀ c ∈ back, isMargin c = true) : Separates (front ++ ',' :: back) where
  some := by simp
  plain c member := by
    rcases List.mem_append.mp member with here | here
    · exact .inl (is_blank_of_is_margin (before c here))
    · rcases List.mem_cons.mp here with rfl | here
      · exact .inr rfl
      · exact .inl (is_blank_of_is_margin (after c here))
  once := by
    have none {t : Text} (margins : ∀ c ∈ t, isMargin c = true) : t.count ',' = 0 :=
      List.count_eq_zero.mpr fun comma => (margin_plain (margins _ comma)).1 rfl
    simp [List.count_append, none before, none after]

theorem spreads_of_runs {names : List Text} {t : Text} (runs : runsOf isMargin t = names)
    (named : ∀ name ∈ names, isName name = true) : Spreads names t := by
  induction hn : t.length using Nat.strong_induction_on generalizing t names with
  | _ n ih =>
  obtain ⟨front, rest, rfl, before, starts⟩ := exists_cut isMargin t
  rw [runs_of_separators_append rest before] at runs
  obtain ⟨word, later, rfl, inside, stops⟩ := exists_cut (!isMargin ·) rest
  have inside : ∀ c ∈ word, isMargin c = false := by simpa using inside
  cases later with
  | nil =>
    rw [List.append_nil, runs_of_of_none inside] at runs
    subst runs
    cases word with
    | nil => exact ⟨front, [], [], rfl, .empty, before, by simp⟩
    | cons c word => exact ⟨front, c :: word, [], rfl, .last (named _ (by simp)), before, by simp⟩
  | cons gap later =>
    have ends : isMargin gap = true := by simpa using stops gap rfl
    have some : word ≠ [] := by
      rintro rfl
      have outside : isMargin gap = false := starts gap rfl
      simp [ends] at outside
    rw [runs_of_append_cons later inside ends] at runs
    subst runs
    have first : isName word = true := named word (by simp [some])
    obtain ⟨between, list, back, rfl, lists, margins, after⟩ :=
      ih later.length (by simp [← hn]; omega) rfl
        (fun name member => named name (List.mem_append_right _ member)) rfl
    have filled : [word].filter (!·.isEmpty) = [word] := by simp [some]
    rw [filled]
    generalize runsOf isMargin (between ++ (list ++ back)) = others at lists
    cases others with
    | nil =>
      have none := lists.text_of_none
      subst none
      refine ⟨front, word, gap :: (between ++ back), by simp, .last first, before, ?_⟩
      exact List.forall_mem_cons.mpr ⟨ends, List.forall_mem_append.mpr ⟨margins, after⟩⟩
    | cons next others =>
      refine ⟨front, word ++ (gap :: between ++ list), back, by simp, ?_, before, after⟩
      exact .more first (separates_margin ends margins) lists

theorem spreads_joined {pieces : List Text} (some : pieces ≠ [])
    (named : ∀ piece ∈ pieces, ∀ name ∈ runsOf isMargin piece, isName name = true)
    (filled : pieces.length ≠ 1 → ∀ piece ∈ pieces, runsOf isMargin piece ≠ []) :
    Spreads (pieces.map (runsOf isMargin)).flatten (List.intercalate [','] pieces) := by
  induction pieces with
  | nil => exact absurd rfl some
  | cons piece later ih =>
    have here : Spreads (runsOf isMargin piece) piece :=
      spreads_of_runs rfl (named piece List.mem_cons_self)
    cases later with
    | nil => simpa using here
    | cons next rest =>
      have filled := filled (by simp)
      have others := ih (List.cons_ne_nil _ _)
        (fun piece member => named piece (List.mem_cons_of_mem _ member))
        (fun _ piece member => filled piece (List.mem_cons_of_mem _ member))
      rw [List.intercalate_cons_cons, List.map_cons, List.flatten_cons]
      obtain ⟨name, names, first⟩ := List.exists_cons_of_ne_nil (filled piece List.mem_cons_self)
      obtain ⟨name', names', second⟩ : ∃ name' names',
          ((next :: rest).map (runsOf isMargin)).flatten = name' :: names' := by
        obtain ⟨name', names', second⟩ := List.exists_cons_of_ne_nil (filled next (by simp))
        exact ⟨name', _, by rw [List.map_cons, List.flatten_cons, second]; rfl⟩
      rw [first] at here ⊢
      rw [second] at others ⊢
      obtain ⟨front, list, between, rfl, lists, before, margins⟩ := here
      obtain ⟨between', list', back, joined, lists', margins', after⟩ := others
      rw [joined]
      refine ⟨front, list ++ (between ++ ',' :: between' ++ list'), back, by simp, ?_, before,
        after⟩
      exact lists.append (separates_comma margins margins') lists'

theorem spreads_of_read_features {t : Text} {names : List Text} (h : readFeatures? t = some names) :
    Spreads names t := by
  have named := read_features_named h
  unfold readFeatures? at h
  dsimp only at h
  split at h
  · rename_i checked
    cases h
    rw [Bool.and_eq_true, Bool.or_eq_true, beq_iff_eq, List.length_map] at checked
    have joined : List.intercalate [','] (splitOn ',' t) = t := by
      rw [split_on_eq]
      exact List.intercalate_splitOn ','
    have spread := spreads_joined (split_on_ne_nil ',' t)
      (fun piece member name run =>
        named name (List.mem_flatten.mpr ⟨_, List.mem_map_of_mem member, run⟩))
      (fun several piece member => by
        have filled := checked.2.resolve_left several
        simpa using List.all_eq_true.mp filled _ (List.mem_map_of_mem member))
    rwa [joined] at spread
  · cases h

theorem parts_of_listed {names : List Text} {list back : Text} (listed : ListsNames names list)
    (some : names ≠ []) (margins : ∀ c ∈ list, isBlank c = true → isMargin c = true)
    (after : ∀ c ∈ back, isMargin c = true) {front : Text}
    (before : ∀ c ∈ front, isMargin c = true) :
    ((splitOn ',' (front ++ (list ++ back))).map (runsOf isMargin)).flatten = names ∧
      ∀ part ∈ (splitOn ',' (front ++ (list ++ back))).map (runsOf isMargin), part ≠ [] := by
  induction listed generalizing front with
  | empty => exact absurd rfl some
  | @last name named =>
    have single : ∀ n ∈ [name], isName n = true := by simpa using named
    have parts := parts_of_names front before after single (by simp)
    have alone : joinWith ", " [name] = name := by simp [joinWith]
    rw [alone] at parts
    simp [parts]
  | @more name gap next later t named separated rest ih =>
    obtain ⟨written, chars⟩ := is_name_parts named
    have inside : ∀ c ∈ name, isMargin c = false := fun c member =>
      (name_part_plain (chars c member)).1
    have whole : ∀ c ∈ front ++ name, (c == ',') = false := by
      intro c member
      rcases List.mem_append.mp member with member | member
      · simpa using (margin_plain (before c member)).1
      · simpa using (name_part_plain (chars c member)).2.1
    have marginal {part : Text} (sub : ∀ c ∈ part, c ∈ gap) (blank : ∀ c ∈ part, isBlank c = true) :
        ∀ c ∈ part, isMargin c = true := fun c member =>
      margins c (List.mem_append_right _ (List.mem_append_left _ (sub c member))) (blank c member)
    have ih := fun {front} => @ih (List.cons_ne_nil _ _)
      (fun c member => margins c (List.mem_append_right _ (List.mem_append_right _ member))) front
    rcases separated.cases with blank | ⟨ahead, behind, rfl, blank, blank'⟩
    · have marginal := marginal (fun c member => member) blank
      obtain ⟨c, gap, rfl⟩ := List.exists_cons_of_ne_nil separated.some
      have ends : isMargin c = true := marginal c List.mem_cons_self
      obtain ⟨first, more, split⟩ := List.exists_cons_of_ne_nil
        (split_on_ne_nil ',' (gap ++ (t ++ back)))
      have split := split_on_cons_of_ne (margin_plain ends).1 split
      obtain ⟨flat, filled⟩ := ih marginal
      rw [List.cons_append, split, List.map_cons, List.flatten_cons] at flat
      rw [List.cons_append, split, List.map_cons, List.forall_mem_cons] at filled
      have text : front ++ (name ++ (c :: gap ++ t) ++ back) =
          front ++ name ++ c :: (gap ++ (t ++ back)) := by simp
      rw [text, split_on_append whole split, List.map_cons, List.flatten_cons, List.forall_mem_cons,
        List.append_assoc, runs_of_first first before inside ends written]
      exact ⟨congrArg (name :: ·) flat, List.cons_ne_nil _ _, filled.2⟩
    · have ahead_margin : ∀ c ∈ ahead, isMargin c = true :=
        marginal (by simp +contextual) blank
      have behind_margin : ∀ c ∈ behind, isMargin c = true :=
        marginal (by simp +contextual) blank'
      obtain ⟨flat, filled⟩ := ih behind_margin
      have text : front ++ (name ++ (ahead ++ ',' :: behind ++ t) ++ back) =
          front ++ (name ++ ahead) ++ ',' :: (behind ++ (t ++ back)) := by simp
      have plain : ∀ c ∈ front ++ (name ++ ahead), (c == ',') = false := by
        intro c member
        rw [← List.append_assoc] at member
        rcases List.mem_append.mp member with member | member
        · exact whole c member
        · simpa using (margin_plain (ahead_margin c member)).1
      rw [splitOn] at flat filled ⊢
      rw [text, split_where_append_cons _ plain rfl, List.map_cons, List.flatten_cons,
        List.forall_mem_cons, runs_of_surrounded before inside ahead_margin written]
      exact ⟨congrArg (name :: ·) flat, List.cons_ne_nil _ _, filled⟩

theorem read_features_of_listed {names : List Text} {list back : Text}
    (listed : ListsNames names list) (margins : ∀ c ∈ list, isBlank c = true → isMargin c = true)
    (after : ∀ c ∈ back, isMargin c = true) : readFeatures? (list ++ back) = some names := by
  by_cases some : names = []
  · subst some
    rw [listed.text_of_none]
    have unnamed : ∀ name ∈ ([] : List Text), isName name = true := nofun
    exact read_features_written after unnamed
  · have before : ∀ c ∈ ([] : Text), isMargin c = true := nofun
    obtain ⟨flat, filled⟩ := parts_of_listed listed some margins after before
    rw [List.nil_append] at flat filled
    have checked :
        ((splitOn ',' (list ++ back)).map (runsOf isMargin)).all (·.all isName) = true := by
      rw [List.all_eq_true]
      intro part member
      rw [List.all_eq_true]
      intro name here
      apply listed.named
      rw [← flat]
      exact List.mem_flatten.mpr ⟨part, member, here⟩
    have nonempty :
        ((splitOn ',' (list ++ back)).map (runsOf isMargin)).all (!·.isEmpty) = true := by
      rw [List.all_eq_true]
      intro part member
      simpa using filled part member
    simp only [readFeatures?, checked, nonempty, Bool.or_true, Bool.and_self, if_true, flat]

end EmbeddedTests.Header
