import EmbeddedTests.Proofs.Tags
import EmbeddedTests.Proofs.TestScan

/-!
# What the first line of a block tells

The kind of a block can be told from its first line. So can all else that a block has besides its
code, for most first lines. Where a tag may stand and the first line is blank from there on, or has
the beginning of a tag and not its end, the tag is read from the lines below.
-/
namespace EmbeddedTests

open Text

namespace Text

theorem first_line_and_later (t : Text) :
    t = firstLine t ∨ ∃ later, t = firstLine t ++ '\n' :: later := by
  induction t using lines_induction with
  | last line whole => exact .inl (first_line_line whole).symm
  | more line rest whole _ => exact .inr ⟨rest, by rw [first_line_line_feed rest whole]⟩

end Text

theorem keyword_line_feed (line later : Text) : keyword (line ++ '\n' :: later) = keyword line :=
  take_while_append_cons line later rfl

/-- What follows the keyword on its line. -/
def afterKeyword (raw : Text) : Text := raw.drop (keyword raw).length

theorem after_keyword_line_feed (line later : Text) :
    afterKeyword (line ++ '\n' :: later) = afterKeyword line ++ '\n' :: later := by
  have inside : (keyword line).length ≤ line.length := (List.takeWhile_prefix _).length_le
  rw [afterKeyword, keyword_line_feed, List.drop_append_of_le_length inside, afterKeyword]

theorem classify_of_no_keyword {raw : Text} (unknown : keywordKind? (keyword raw) = none) :
    classify raw = if raw.head? = some '#' then .comment else .unknown (keyword raw) := by
  unfold classify
  simp only [unknown]
  split
  · rfl
  · rename_i other
    rw [if_neg]
    intro hash
    obtain ⟨rest, start⟩ := List.head?_eq_some_iff.mp hash
    exact other rest start

theorem classify_line_feed_of_no_keyword {line : Text} (later : Text)
    (unknown : keywordKind? (keyword line) = none) :
    classify (line ++ '\n' :: later) = classify line := by
  have below : keywordKind? (keyword (line ++ '\n' :: later)) = none := by
    rw [keyword_line_feed, unknown]
  rw [classify_of_no_keyword unknown, classify_of_no_keyword below, keyword_line_feed]
  cases line <;> simp

theorem keyword_of_kind {raw : Text} {kind : BlockKind} (h : (parseBlock raw).kind = kind)
    (told : kind ≠ .comment ∧ kind ≠ .unknown) : keywordKind? (keyword raw) = some kind := by
  change (classify raw).kind = kind at h
  cases known : keywordKind? (keyword raw) with
  | none =>
    rw [classify_of_no_keyword known] at h
    split at h
    · exact absurd h.symm told.1
    · exact absurd h.symm told.2
  | some other => rw [← h, kind_of_keyword known]

theorem kind_line_feed (line later : Text) :
    (parseBlock (line ++ '\n' :: later)).kind = (parseBlock line).kind := by
  change (classify _).kind = (classify _).kind
  cases known : keywordKind? (keyword line) with
  | none => rw [classify_line_feed_of_no_keyword later known]
  | some kind =>
    have below : keywordKind? (keyword (line ++ '\n' :: later)) = some kind := by
      rw [keyword_line_feed, known]
    rw [kind_of_keyword known, kind_of_keyword below]

/-- What a block is, its code apart. -/
def Content.facts : Content → Content
  | .shared names _ => .shared names []
  | .function signature _ => .function signature []
  | .functionEnd => .functionEnd
  | .check kind bug _ => .check kind bug []
  | .expect kind target _ => .expect kind target []
  | .guarded header _ => .guarded header []
  | .demo _ => .demo []
  | .comment => .comment
  | .unknown keyword => .unknown keyword

section

variable {raw : Text}

theorem facts_of_check {kind : CheckKind}
    (known : keywordKind? (keyword raw) = some (.ofCheck kind)) :
    (classify raw).facts = .check kind (takeBug (afterKeyword raw)).1 [] := by
  unfold classify
  cases kind <;> simp only [known, BlockKind.ofCheck] <;> rfl

theorem facts_of_expect {kind : ExpectKind}
    (known : keywordKind? (keyword raw) = some (.ofExpect kind)) :
    (classify raw).facts = .expect kind (takeExpectation (afterKeyword raw)).1 [] := by
  unfold classify
  cases kind <;> simp only [known, BlockKind.ofExpect] <;> rfl

theorem classify_of_shared (known : keywordKind? (keyword raw) = some .shared) :
    classify raw = sharedContent (afterKeyword raw) := by
  unfold classify
  simp only [known]
  rfl

theorem classify_of_guarded (known : keywordKind? (keyword raw) = some .testif) :
    classify raw = guardedContent (afterKeyword raw) := by
  unfold classify
  simp only [known]
  rfl

theorem classify_of_function (known : keywordKind? (keyword raw) = some .function) :
    classify raw = functionContent raw := by
  unfold classify
  simp only [known]

theorem facts_of_shared (known : keywordKind? (keyword raw) = some .shared) :
    (classify raw).facts =
      .shared (names (trim (beforeComment (firstLine (afterKeyword raw))))) [] := by
  rw [classify_of_shared known]
  rfl

theorem facts_of_guarded (known : keywordKind? (keyword raw) = some .testif) :
    (classify raw).facts =
      .guarded (Header.parse (beforeComment (firstLine (afterKeyword raw)))) [] := by
  rw [classify_of_guarded known]
  rfl

theorem facts_of_function (known : keywordKind? (keyword raw) = some .function) :
    (classify raw).facts =
      .function ((functionParts? (firstLine raw)).map fun (front, name, _) =>
        ⟨name, functionOutputs front⟩) [] := by
  rw [classify_of_function known, functionContent]
  cases functionParts? (firstLine raw) <;> rfl

theorem facts_of_endfunction (known : keywordKind? (keyword raw) = some .endfunction) :
    (classify raw).facts = .functionEnd := by
  unfold classify
  simp only [known]
  rfl

theorem facts_of_demo (known : keywordKind? (keyword raw) = some .demo) :
    (classify raw).facts = .demo [] := by
  unfold classify
  simp only [known]
  rfl

end

def showsTag (t : Text) : Bool :=
  match trimStart t with
  | [] => false
  | '<' :: rest => '>' ∈ rest
  | _ => true

def showsId (t : Text) : Bool :=
  match after? "id=" (trimStart t) with
  | some rest => trimStart rest ≠ []
  | none => true

section

variable {t : Text}

theorem shows_tag_eq_false_iff : showsTag t = false ↔ IsOpen t := by
  unfold showsTag
  constructor
  · intro unshown
    rcases tag_cases t with undecided | ⟨tag, rest, start, _⟩ | ⟨c, rest, start, other⟩
    · exact undecided
    · simp [start] at unshown
    · simp [start, other] at unshown
  · intro undecided
    cases undecided with
    | blank none => simp [none]
    | unclosed rest start opened => simp [start, opened]

theorem take_bug_line_feed (later : Text) (shown : showsTag t = true) :
    (takeBug (t ++ '\n' :: later)).1 = (takeBug t).1 := by
  rcases tag_cases t with undecided | ⟨tag, rest, tagged⟩ | ⟨c, rest, start, other⟩
  · exact absurd shown (Bool.eq_false_iff.mp (shows_tag_eq_false_iff.mpr undecided))
  · rw [take_bug_tagged tagged, take_bug_tagged (tagged.line_feed later)]
  · have longer := trim_start_append ('\n' :: later) (t := t) (by simp [start])
    rw [start, List.cons_append] at longer
    rw [take_bug_untagged start other, take_bug_untagged longer other]

theorem take_expectation_line_feed (later : Text) (shown : showsTag t = true)
    (identified : showsId t = true) :
    (takeExpectation (t ++ '\n' :: later)).1 = (takeExpectation t).1 := by
  rcases tag_cases t with undecided | ⟨tag, rest, tagged⟩ | ⟨c, rest, start, other⟩
  · exact absurd shown (Bool.eq_false_iff.mp (shows_tag_eq_false_iff.mpr undecided))
  · rw [take_expectation_tagged tagged, take_expectation_tagged (tagged.line_feed later)]
  · have longer := trim_start_append ('\n' :: later) (t := t) (by simp [start])
    cases named : after? "id=" (trimStart t) with
    | some id =>
      rw [showsId, named] at identified
      have filled : trimStart id ≠ [] := of_decide_eq_true identified
      obtain ⟨word, _, _, first, first'⟩ := first_word_line_feed later filled
      have parts := after_eq_some_iff.mp named
      rw [parts, List.append_assoc] at longer
      rw [take_expectation_identified parts first, take_expectation_identified longer first']
    | none =>
      have nameless : startsWith "id=" (trimStart t) = false := by
        rw [startsWith, named]
        rfl
      have nameless' : startsWith "id=" (trimStart (t ++ '\n' :: later)) = false := by
        rw [longer, starts_with_line_feed later (by decide), nameless]
      rw [start, List.cons_append] at longer
      rw [take_expectation_untagged start other nameless,
        take_expectation_untagged longer other nameless']

theorem exists_bug_below (unshown : showsTag t = false) :
    ∃ later, '\n' ∉ later ∧ IsContinuation later ∧
      (takeBug (t ++ '\n' :: later)).1 ≠ (takeBug t).1 := by
  have undecided := shows_tag_eq_false_iff.mp unshown
  obtain ⟨later, tag, line, continues, tagged, written, -⟩ := undecided.tag_below
  refine ⟨later, line, continues, ?_⟩
  rw [take_bug_tagged tagged, take_bug_open undecided]
  exact BugTag.of_text_ne written

theorem exists_expectation_below (unshown : (showsTag t && showsId t) = false) :
    ∃ later, '\n' ∉ later ∧ IsContinuation later ∧
      (takeExpectation (t ++ '\n' :: later)).1 ≠ (takeExpectation t).1 := by
  rcases Bool.and_eq_false_iff.mp unshown with unshown | unnamed
  · have undecided := shows_tag_eq_false_iff.mp unshown
    obtain ⟨later, tag, line, continues, tagged, -, other⟩ := undecided.tag_below
    refine ⟨later, line, continues, ?_⟩
    rw [take_expectation_tagged tagged, take_expectation_open undecided]
    simpa using other
  · cases named : after? "id=" (trimStart t) with
    | none =>
      rw [showsId, named] at unnamed
      cases unnamed
    | some id =>
      rw [showsId, named] at unnamed
      have blank : trimStart id = [] := by simpa using unnamed
      have parts := after_eq_some_iff.mp named
      have longer := trim_start_append "\n x" (t := t) (by simp [parts])
      rw [parts, List.append_assoc] at longer
      have first : trimStart (id ++ "\n x") = 'x' :: [] := by
        rw [trim_start_blank_append _ blank]
        rfl
      refine ⟨" x", by decide, by decide, ?_⟩
      rw [take_expectation_nameless parts blank]
      change (takeExpectation (t ++ "\n x")).1 ≠ _
      rw [take_expectation_identified longer (first_word_eq_some first)]
      simp

end

/-- Can all of a block but its code be told from its first line? -/
def settles (line : Text) : Bool :=
  let rest := afterKeyword line
  match keywordKind? (keyword line) with
  | some .assert | some .fail | some .test | some .xtest => showsTag rest
  | some .error | some .warning => showsTag rest && showsId rest
  | _ => true

section

variable {line : Text}

theorem settles_of_check {kind : CheckKind}
    (known : keywordKind? (keyword line) = some (.ofCheck kind)) :
    settles line = showsTag (afterKeyword line) := by
  unfold settles
  cases kind <;> simp only [known, BlockKind.ofCheck]

theorem settles_of_expect {kind : ExpectKind}
    (known : keywordKind? (keyword line) = some (.ofExpect kind)) :
    settles line = (showsTag (afterKeyword line) && showsId (afterKeyword line)) := by
  unfold settles
  cases kind <;> simp only [known, BlockKind.ofExpect]

/-- A line that does not settle what is below it starts a block with a bug tag or an expectation. -/
theorem kind_of_unsettled (unsettled : settles line = false) :
    (∃ kind, keywordKind? (keyword line) = some (.ofCheck kind)) ∨
      ∃ kind, keywordKind? (keyword line) = some (.ofExpect kind) := by
  unfold settles at unsettled
  dsimp only at unsettled
  split at unsettled
  case h_1 known => exact .inl ⟨.assert, known⟩
  case h_2 known => exact .inl ⟨.fail, known⟩
  case h_3 known => exact .inl ⟨.test, known⟩
  case h_4 known => exact .inl ⟨.xtest, known⟩
  case h_5 known => exact .inr ⟨.error, known⟩
  case h_6 known => exact .inr ⟨.warning, known⟩
  case h_7 => cases unsettled

theorem facts_line_feed (later : Text) (one : '\n' ∉ line) (settled : settles line = true) :
    (classify (line ++ '\n' :: later)).facts = (classify line).facts := by
  cases known : keywordKind? (keyword line) with
  | none => rw [classify_line_feed_of_no_keyword later known]
  | some kind =>
    have below : keywordKind? (keyword (line ++ '\n' :: later)) = some kind := by
      rw [keyword_line_feed, known]
    have rest := after_keyword_line_feed line later
    have plain : '\n' ∉ afterKeyword line := fun member => one (List.mem_of_mem_drop member)
    have checked (check : CheckKind) (same : kind = .ofCheck check) :
        (classify (line ++ '\n' :: later)).facts = (classify line).facts := by
      subst same
      rw [settles_of_check known] at settled
      rw [facts_of_check known, facts_of_check below, rest, take_bug_line_feed later settled]
    have expected (expect : ExpectKind) (same : kind = .ofExpect expect) :
        (classify (line ++ '\n' :: later)).facts = (classify line).facts := by
      subst same
      obtain ⟨shown, identified⟩ := Bool.and_eq_true_iff.mp (settles_of_expect known ▸ settled)
      rw [facts_of_expect known, facts_of_expect below, rest,
        take_expectation_line_feed later shown identified]
    cases kind with
    | assert => exact checked .assert rfl
    | fail => exact checked .fail rfl
    | test => exact checked .test rfl
    | xtest => exact checked .xtest rfl
    | error => exact expected .error rfl
    | warning => exact expected .warning rfl
    | shared =>
      rw [facts_of_shared known, facts_of_shared below, rest, first_line_line_feed later plain,
        first_line_line plain]
    | testif =>
      rw [facts_of_guarded known, facts_of_guarded below, rest, first_line_line_feed later plain,
        first_line_line plain]
    | function =>
      rw [facts_of_function known, facts_of_function below, first_line_line_feed later one,
        first_line_line one]
    | endfunction => rw [facts_of_endfunction known, facts_of_endfunction below]
    | demo => rw [facts_of_demo known, facts_of_demo below]
    | comment | unknown =>
      have listed := List.mem_of_find?_eq_some known
      exact absurd listed (by decide)

theorem starts_of_keyword {raw : Text} {kind : BlockKind}
    (known : keywordKind? (keyword raw) = some kind) : startsBlock raw = true := by
  obtain ⟨rest, whole⟩ : keyword raw <+: raw := List.takeWhile_prefix _
  rw [← whole, ← keyword_kind_name known]
  cases kind <;> rfl

theorem exists_facts_below (unsettled : settles line = false) :
    ∃ later, '\n' ∉ later ∧ IsContinuation later ∧
      (classify (line ++ '\n' :: later)).facts ≠ (classify line).facts := by
  rcases kind_of_unsettled unsettled with ⟨kind, known⟩ | ⟨kind, known⟩
  · rw [settles_of_check known] at unsettled
    obtain ⟨later, plain, continues, differs⟩ := exists_bug_below unsettled
    refine ⟨later, plain, continues, ?_⟩
    rw [facts_of_check known, facts_of_check (by rw [keyword_line_feed, known]),
      after_keyword_line_feed]
    simpa using differs
  · rw [settles_of_expect known] at unsettled
    obtain ⟨later, plain, continues, differs⟩ := exists_expectation_below unsettled
    refine ⟨later, plain, continues, ?_⟩
    rw [facts_of_expect known, facts_of_expect (by rw [keyword_line_feed, known]),
      after_keyword_line_feed]
    simpa using differs

end

/-- Blocks with one first line have the same kind. They are alike in all but their code too, unless
the first line leaves open whether there is a tag, or has `id=` and no identifier: then there are
blocks with that first line that differ. -/
theorem first_line_settles_classification {line : Text} (one : '\n' ∉ line) :
    (∀ raw raw', firstLine raw = line → firstLine raw' = line →
      (parseBlock raw).kind = (parseBlock raw').kind ∧
        (settles line = true →
          (parseBlock raw).content.facts = (parseBlock raw').content.facts)) ∧
      (settles line = false → ∃ raw raw', IsBlockText raw ∧ IsBlockText raw' ∧
        firstLine raw = line ∧ firstLine raw' = line ∧
          (parseBlock raw).content.facts ≠ (parseBlock raw').content.facts) := by
  have told (raw : Text) (first : firstLine raw = line) :
      (parseBlock raw).kind = (parseBlock line).kind ∧
        (settles line = true → (parseBlock raw).content.facts = (classify line).facts) := by
    rcases first_line_and_later raw with whole | ⟨later, whole⟩
    · rw [whole, first]
      exact ⟨rfl, fun _ => rfl⟩
    · rw [whole, first]
      exact ⟨kind_line_feed line later, facts_line_feed later one⟩
  constructor
  · intro raw raw' first first'
    obtain ⟨kind, facts⟩ := told raw first
    obtain ⟨kind', facts'⟩ := told raw' first'
    exact ⟨kind.trans kind'.symm, fun settled => (facts settled).trans (facts' settled).symm⟩
  · intro unsettled
    obtain ⟨later, plain, continues, differs⟩ := exists_facts_below unsettled
    have starts : startsBlock line = true := by
      rcases kind_of_unsettled unsettled with ⟨kind, known⟩ | ⟨kind, known⟩
      · exact starts_of_keyword known
      · exact starts_of_keyword known
    refine ⟨line ++ '\n' :: later, line, ?_, ?_, first_line_line_feed later one,
      first_line_line one, differs⟩
    · rw [is_block_text_iff_is_group, split_on_line_feed later one, split_on_line plain]
      exact ⟨starts, by simpa using continues⟩
    · rw [is_block_text_iff_is_group, split_on_line one]
      exact ⟨starts, by simp⟩

/-- A tag that ends on its line settles it. -/
theorem tag_on_first_line_stays : '\n' ∉ ("test <12> x = 3" : Text) ∧
    (parseBlock "test <12> x = 3\n  y > 2").content.facts =
      (parseBlock "test <12> x = 3").content.facts := by
  have one : '\n' ∉ ("test <12> x = 3" : Text) := by decide
  have alike := (first_line_settles_classification one).1
  exact ⟨one, (alike "test <12> x = 3\n  y > 2" "test <12> x = 3" rfl rfl).2 rfl⟩

/-- A comparison on the second line closes the bracket on the first one, so the block gets a bug tag
out of its code. A block with the same first line gets none. -/
theorem bug_tag_ends_on_later_line :
    let line : Text := "test <12"
    let compared := line ++ "\n  x = 3 > 2"
    let passing := line ++ "\n  pass"
    IsBlockText compared ∧ IsBlockText passing ∧ firstLine compared = firstLine passing ∧
      (parseBlock compared).content = .check .test ⟨"12\n  x = 3 ", false⟩ "2" ∧
      (parseBlock passing).content.facts = .check .test {} [] := by
  intro line compared passing
  exact ⟨by decide, by decide, rfl, rfl, rfl⟩

end EmbeddedTests
