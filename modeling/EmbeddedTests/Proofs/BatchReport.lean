import EmbeddedTests.Proofs.BatchCourse
import EmbeddedTests.Proofs.CombinedResults

/-!
# What the report of a batch shows

A category with a count in the total has one in some file. The file's text has a line for it, unless
the file has neither tests nor errors: then its text is an empty line, whatever else was counted.
-/
namespace EmbeddedTests

open Text

namespace Text

theorem mem_split_on_between (front back : Text) {line : Text} (whole : '\n' ∉ line) :
    line ∈ splitOn '\n' (front ++ '\n' :: (line ++ '\n' :: back)) := by
  induction front using lines_induction with
  | last first plain =>
    rw [split_on_line_feed _ plain, split_on_line_feed _ whole]
    exact List.mem_cons_of_mem _ List.mem_cons_self
  | more first rest plain ih =>
    rw [List.append_assoc, List.cons_append, split_on_line_feed _ plain]
    exact List.mem_cons_of_mem _ ih

theorem of_int_on_one_line (n : Int) : '\n' ∉ ofInt n := by
  have digits (k : Nat) : '\n' ∉ ofNat k := by
    intro feed
    have digit := Nat.isDigit_of_mem_toDigits (by decide) (by decide) feed
    revert digit
    decide
  cases n with
  | ofNat k => exact digits k
  | negSucc k => simp [ofInt, digits]

theorem pad_left_on_one_line {fill : Char} {t : Text} (width : Nat) (filled : fill ≠ '\n')
    (whole : '\n' ∉ t) : '\n' ∉ padLeft width fill t := by
  simp [padLeft, whole, filled.symm]

theorem feed_each_append (first later : List Text) :
    feedEach (first ++ later) = feedEach first ++ feedEach later := by
  simp [feedEach]

end Text

namespace Batch

/-- The categories by what is counted in them. -/
def categoryCounts : List (Text × (RunResult → Int)) :=
  [("FAIL ", RunResult.reallyFailed), ("(setup) ERROR", RunResult.errors),
    ("REGRESSION", RunResult.xregression), ("(reported bug) XFAIL", RunResult.xbug),
    ("(expected failure) XFAIL", RunResult.xfail), ("(missing feature) SKIP", RunResult.xskip),
    ("(run-time condition) SKIP", RunResult.xrtskip)]

theorem categories_eq (r : RunResult) :
    categories r = categoryCounts.map fun (label, count) => (label, count r) := rfl

variable {label : Text} {count : RunResult → Int}

theorem label_on_one_line (known : (label, count) ∈ categoryCounts) : '\n' ∉ label := by
  have labels : ∀ label ∈ categoryCounts.map Prod.fst, '\n' ∉ label := by decide
  exact labels label (List.mem_map_of_mem known)

theorem category_on_one_line (known : (label, count) ∈ categoryCounts) (n : Int) :
    '\n' ∉ categoryLine label n := by
  have blank : ' ' ≠ '\n' := by decide
  have left := pad_left_on_one_line 71 blank (label_on_one_line known)
  have right := pad_left_on_one_line 3 blank (of_int_on_one_line n)
  simp [categoryLine, left, right]

theorem count_combine (known : (label, count) ∈ categoryCounts) (results : List RunResult) :
    count (.combine results) = (results.map count).sum := by
  simp only [categoryCounts, List.mem_cons, Prod.mk.injEq, List.not_mem_nil, or_false] at known
  rcases known with ⟨-, rfl⟩ | ⟨-, rfl⟩ | ⟨-, rfl⟩ | ⟨-, rfl⟩ | ⟨-, rfl⟩ | ⟨-, rfl⟩ | ⟨-, rfl⟩
  · exact RunResult.additive_combine rfl RunResult.really_failed_add results
  all_goals
    apply RunResult.counter_combine
    simp [RunResult.allCounters, RunResult.softCounters]

theorem exists_counted (known : (label, count) ∈ categoryCounts) {results : List RunResult}
    (counted : 0 < count (.combine results)) : ∃ r ∈ results, 0 < count r := by
  rw [count_combine known] at counted
  apply List.exists_lt_of_sum_lt (fun _ => 0) count
  simpa using counted

theorem category_ne_nil (label : Text) (n : Int) : categoryLine label n ≠ [] := by
  simp [categoryLine]

theorem category_between {r : RunResult} (shown : r.tests ≠ 0 ∨ r.errors ≠ 0)
    (known : (label, count) ∈ categoryCounts) (counted : 0 < count r) :
    ∃ front back, passFail r = front ++ '\n' :: (categoryLine label (count r) ++ '\n' :: back) := by
  have filled : ¬ (r.tests = 0 ∧ r.errors = 0) := by
    rintro ⟨tests, errors⟩
    rcases shown with other | other
    · exact other tests
    · exact other errors
  unfold passFail
  rw [if_neg filled]
  dsimp only
  generalize written : (categories r).filterMap _ = lines
  have listed : categoryLine label (count r) ∈ lines := by
    rw [← written, categories_eq]
    exact List.mem_filterMap.mpr ⟨(label, count r), List.mem_map_of_mem known, if_pos counted⟩
  obtain ⟨before, after, rfl⟩ := List.append_of_mem listed
  generalize " PASS   ".toList ++ padLeft 4 ' ' (ofInt r.successes) ++ '/' ::
    padRight 4 ' ' (ofInt r.tests) = head
  refine ⟨joinLines (head :: before), feedEach after, ?_⟩
  have ended (later : List Text) := feed_each_eq (List.cons_ne_nil head later)
  calc joinLines (head :: (before ++ categoryLine label (count r) :: after)) ++ ['\n']
    _ = feedEach ((head :: before) ++ categoryLine label (count r) :: after) := (ended _).symm
    _ = feedEach (head :: before) ++ feedEach (categoryLine label (count r) :: after) :=
      feed_each_append _ _
    _ = joinLines (head :: before) ++
          '\n' :: (categoryLine label (count r) ++ '\n' :: feedEach after) := by
      rw [ended]
      simp [feedEach]

/-- A category that counts has its line in the text about a file if there are tests or errors. -/
theorem category_in_pass_fail_iff {r : RunResult} (known : (label, count) ∈ categoryCounts)
    (counted : 0 < count r) :
    categoryLine label (count r) ∈ splitOn '\n' (passFail r) ↔ r.tests ≠ 0 ∨ r.errors ≠ 0 := by
  constructor
  · intro shown
    by_contra hidden
    rw [not_or, not_not, not_not] at hidden
    have empty : passFail r = ['\n'] := if_pos hidden
    have lines : splitOn '\n' ['\n'] = [[], []] := rfl
    rw [empty, lines] at shown
    exact category_ne_nil label (count r) (by simpa using shown)
  · intro shown
    obtain ⟨front, back, parts⟩ := category_between shown known counted
    rw [parts]
    exact mem_split_on_between front back (category_on_one_line known _)

theorem close_out {σ : Type} (b : BatchRun σ) : b.out <+: b.close.out := by
  unfold BatchRun.close
  split
  · exact List.prefix_refl _
  · exact List.prefix_append _ _

/-- Whatever the runner gives, a category that counts in the total counts in some file, and each
file in which it counts has a text of its own in what is written. The category has its line there,
and so in the whole, if and only if tests or errors count in the file too. -/
theorem category_shown_iff_tests_or_errors {σ : Type} (disk : Disk) (config : Config)
    (runner : FileRunner σ) (files : List Text) (s : Session σ) {results : List RunResult}
    (returned : (run disk config runner files s).results = .ok results)
    (known : (label, count) ∈ categoryCounts) (counted : 0 < count (.combine results)) :
    let out := (run disk config runner files s).out
    (∃ r ∈ results, 0 < count r) ∧
      ∀ r ∈ results, 0 < count r → ∃ file ∈ files, announcement file ++ passFail r <:+: out ∧
        (categoryLine label (count r) ∈ splitOn '\n' (passFail r) ↔ r.tests ≠ 0 ∨ r.errors ≠ 0) ∧
        (r.tests ≠ 0 ∨ r.errors ≠ 0 → categoryLine label (count r) ∈ splitOn '\n' out) := by
  intro out
  refine ⟨exists_counted known counted, ?_⟩
  intro r member here
  rw [run, close_results] at returned
  have completes := run_files_completes returned
  have written : (runFiles disk config runner (ordered config files) s).out <+: out := close_out _
  rcases completes.section_of_result member with ⟨file, rfl⟩ | ⟨file, among, inside⟩
  · have nothing : ∀ category ∈ categoryCounts, category.2 { filesProcessed := [file] } = 0 := by
      simp [categoryCounts, RunResult.reallyFailed]
    exact absurd (nothing _ known) here.ne'
  · have shown := inside.trans written.isInfix
    refine ⟨file, (ordered_perm config files).subset among, shown,
      category_in_pass_fail_iff known here, ?_⟩
    intro tests
    obtain ⟨front, back, parts⟩ := category_between tests known here
    obtain ⟨before, after, whole⟩ := shown
    have text : out = (before ++ announcement file ++ front) ++
        '\n' :: (categoryLine label (count r) ++ '\n' :: (back ++ after)) := by
      rw [← whole, parts]
      simp
    rw [text]
    exact mem_split_on_between _ _ (category_on_one_line known _)

def passedAndKnown (file : Text) : RunResult :=
  { tests := 1, successes := 1, xfail := 2, filesProcessed := [file], filesWithTests := [file] }

def passedAndKnownEach : FileRunner Unit := fun file s => (.ok (passedAndKnown file), s)

theorem known_failures_shown :
    ∃ results, (run testAndSetup {} passedAndKnownEach ["a.py", "setup.py"]
        { world := { state := () } }).results = .ok results ∧
      ("(expected failure) XFAIL".toList, RunResult.xfail) ∈ categoryCounts ∧
      0 < (RunResult.combine results).xfail ∧
      categoryLine "(expected failure) XFAIL" 2 ∈
        splitOn '\n' (run testAndSetup {} passedAndKnownEach ["a.py", "setup.py"]
          { world := { state := () } }).out := by
  have known : ("(expected failure) XFAIL".toList, RunResult.xfail) ∈ categoryCounts := by
    simp [categoryCounts]
  have returned : (run testAndSetup {} passedAndKnownEach ["a.py", "setup.py"]
      { world := { state := () } }).results =
        .ok [passedAndKnown "a.py", { filesProcessed := ["setup.py"] }] := ok_of_to_option (by decide)
  have counted : 0 < (RunResult.combine
      [passedAndKnown "a.py", { filesProcessed := ["setup.py"] }]).xfail := by decide
  obtain ⟨-, each⟩ := category_shown_iff_tests_or_errors _ _ _ _ _ returned known counted
  obtain ⟨-, -, -, -, shown⟩ := each (passedAndKnown "a.py") List.mem_cons_self (by decide)
  exact ⟨_, returned, known, counted, shown (.inl (by decide))⟩

/-- A file whose only test is known to fail. -/
def knownFailure : Disk := diskOf [("a.py", "#!xtest 1 // 0\n")]

/-- The known failure counts in the total, and is not shown for any file. -/
theorem known_failure_is_not_shown :
    let setting : Setting Snippet.Machine := { host := Snippet.host, config := {} }
    let batch := run knownFailure setting.config
      (fileRunner setting knownFailure { state := {} }) ["a.py"] { world := { state := {} } }
    (∃ total, batch.total = .ok total ∧ total.xfail = 1) ∧ occursIn "XFAIL" batch.out = false := by
  intro setting batch
  have ends : batch.total =
      .ok { xfail := 1, filesProcessed := ["a.py"], filesWithTests := ["a.py"] } :=
    ok_of_to_option (by decide +kernel)
  exact ⟨⟨_, ends, rfl⟩, by decide +kernel⟩

end Batch
end EmbeddedTests
