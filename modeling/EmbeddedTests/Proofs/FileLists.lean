import EmbeddedTests.Proofs.BatchCourse
import EmbeddedTests.Proofs.FileOrder

/-!
# The lists of files of a batch

A file that was tested is either one with tests or one without. A file that the scan passes over is
in neither list, so it is not named among the files without tests.
-/
namespace EmbeddedTests

open Text

namespace Path

theorem parts_joined {names : List Text} (plain : ∀ n ∈ names, isIdle n = false ∧ '/' ∉ n) :
    (parts (joinWith "/" names)).filter (!isIdle ·) = names := by
  by_cases none : names = []
  · subst none
    rfl
  · have split : parts (joinWith "/" names) = names := by
      rw [parts, split_on_eq]
      exact List.splitOn_intercalate '/' (fun n member => (plain n member).2) none
    rw [split, List.filter_eq_self]
    intro n member
    simp [(plain n member).1]

theorem joined_head {names : List Text} (plain : ∀ n ∈ names, isIdle n = false ∧ '/' ∉ n) :
    ∀ c ∈ (joinWith "/" names).head?, (c == '/') = false := by
  intro c first
  rcases names with _ | ⟨_ | ⟨d, n⟩, later⟩
  · cases first
  · cases (plain [] List.mem_cons_self).1
  · have same : c = d := by
      cases later with
      | nil => simpa [joinWith, eq_comm] using first
      | cons next rest => simpa [joinWith, List.intercalate_cons_cons, eq_comm] using first
    have inside := (plain (d :: n) List.mem_cons_self).2
    rw [same]
    exact beq_false_of_ne fun slash => inside (slash ▸ List.mem_cons_self)

theorem tidy_root_cases (path : Text) :
    tidyRoot path = [] ∨ tidyRoot path = ['/'] ∨ tidyRoot path = ['/', '/'] := by
  unfold tidyRoot
  split
  · exact .inl rfl
  · exact .inr (.inr rfl)
  · exact .inr (.inl rfl)

theorem tidy_joined {root : Text} {names : List Text}
    (known : root = [] ∨ root = ['/'] ∨ root = ['/', '/'])
    (plain : ∀ n ∈ names, isIdle n = false ∧ '/' ∉ n) (filled : root ++ joinWith "/" names ≠ []) :
    tidy (root ++ joinWith "/" names) = root ++ joinWith "/" names := by
  have slashes : ∀ c ∈ root, (c == '/') = true := by
    rcases known with rfl | rfl | rfl <;> simp
  have rooted : tidyRoot (root ++ joinWith "/" names) = root := by
    unfold tidyRoot
    rw [(cut_eq slashes (joined_head plain)).1]
    rcases known with rfl | rfl | rfl <;> rfl
  have named : (parts (root ++ joinWith "/" names)).filter (!isIdle ·) = names := by
    have rest := parts_joined plain
    unfold parts at rest ⊢
    rcases known with rfl | rfl | rfl
    · exact rest
    · rw [List.singleton_append, split_on_cons_self]
      exact rest
    · rw [List.cons_append, List.singleton_append, split_on_cons_self, split_on_cons_self]
      exact rest
  unfold tidy
  rw [rooted, named]
  split
  · contradiction
  · rfl

theorem tidy_tidy (path : Text) : tidy (tidy path) = tidy path := by
  have plain : ∀ n ∈ (parts path).filter (!isIdle ·), isIdle n = false ∧ '/' ∉ n := by
    intro n member
    obtain ⟨inside, busy⟩ := List.mem_filter.mp member
    exact ⟨by simpa using busy, not_mem_of_mem_split_on inside⟩
  by_cases none : tidyRoot path ++ joinWith "/" ((parts path).filter (!isIdle ·)) = []
  · have here : tidy path = ['.'] := by
      unfold tidy
      rw [none]
      rfl
    rw [here]
    decide
  · have here : tidy path = tidyRoot path ++ joinWith "/" ((parts path).filter (!isIdle ·)) := by
      unfold tidy
      split
      · contradiction
      · rfl
    rw [here]
    exact tidy_joined (tidy_root_cases path) plain none

end Path

variable {σ : Type}

namespace RunResult

/-- The file alone is listed, as one with tests if the result has some and else as one without. -/
structure OfFile (r : RunResult) (file : Text) : Prop where
  processed : r.filesProcessed = [file]
  withTests : r.filesWithTests = if r.hasTests then [file] else []
  withNoTests : r.filesWithNoTests = if r.hasTests then [] else [file]

theorem classify_unlisted {r : RunResult} (unlisted : ∀ list ∈ fileLists, list r = [])
    (file : Text) (threshold : Int) :
    r.classify file threshold =
      if r.hasTests then
        { r with
          filesProcessed := [file], filesWithTests := [file]
          failedFiles := if r.hardFailures > threshold then [file] else [] }
      else { r with filesProcessed := [file], filesWithNoTests := [file] } := by
  have processed : r.filesProcessed = [] := unlisted _ (by simp [fileLists])
  have withTests : r.filesWithTests = [] := unlisted _ (by simp [fileLists])
  have withNoTests : r.filesWithNoTests = [] := unlisted _ (by simp [fileLists])
  have failed : r.failedFiles = [] := unlisted _ (by simp [fileLists])
  have fresh : file ∉ r.filesProcessed := by simp [processed]
  unfold classify
  dsimp only
  rw [if_neg fresh]
  by_cases some : r.hasTests = true
  · have tested : ¬ (!r.hasTests) = true := by simp [some]
    rw [if_pos some]
    refine (if_neg tested).trans ?_
    simp only [processed, withTests, failed, List.nil_append]
    rfl
  · have untested : (!r.hasTests) = true := by simpa using some
    rw [if_neg some]
    refine (if_pos untested).trans ?_
    simp only [processed, withNoTests, List.nil_append]

theorem classify_of_file {r : RunResult} (unlisted : ∀ list ∈ fileLists, list r = []) (file : Text)
    (threshold : Int) : (r.classify file threshold).OfFile file := by
  have whole := has_tests_classify r file threshold
  have withTests : r.filesWithTests = [] := unlisted _ (by simp [fileLists])
  have withNoTests : r.filesWithNoTests = [] := unlisted _ (by simp [fileLists])
  rw [classify_unlisted unlisted] at whole ⊢
  by_cases some : r.hasTests = true
  · rw [if_pos some] at whole ⊢
    exact ⟨rfl, (if_pos (whole.trans some)).symm, (if_pos (whole.trans some)).symm ▸ withNoTests⟩
  · rw [if_neg some] at whole ⊢
    have none := mt whole.symm.trans some
    exact ⟨rfl, (if_neg none).symm ▸ withTests, (if_neg none).symm⟩

end RunResult

theorem FileTest.Takes.unlisted {t : FileTest σ} {options : EngineOptions} {file buffer : Text}
    {s : Session σ} {course : Course σ} (h : t.Takes options file buffer s (.ok course)) :
    ∀ list ∈ RunResult.fileLists, list course.counted = [] := by
  intro list listed
  simp only [RunResult.fileLists, List.mem_cons, List.not_mem_nil, or_false] at listed
  rcases listed with rfl | rfl | rfl | rfl
  all_goals exact counted_kept _ (fun o _ => by cases o <;> rfl) rfl h

namespace Batch

theorem has_found_tidy (disk : Disk) (marker file : Text) :
    hasFound disk marker (Path.tidy file) = hasFound disk marker file := by
  unfold hasFound scan
  dsimp only
  rw [Path.tidy_tidy]
  cases disk.readText (Path.tidy file) decodeUtf8 <;> rfl

variable {g : Setting σ} {disk : Disk} {world : World σ}

theorem single_output {file text : Text}
    (readable : disk.readText (Path.tidy file) decodeUtf8 = .ok text) :
    (single g disk world file).output =
      (FileTest.runBuffer ⟨g, .console, disk⟩ { verbose := -1, batch := true } (Path.tidy file)
        (extractTests g.config.marker (feedLines text)) { world := world }).1 := by
  let t : FileTest σ := ⟨g, .console, disk⟩
  obtain ⟨c, rest, filled⟩ := List.exists_cons_of_ne_nil (ne_nil_of_read_text readable)
  have asked : ({ name := some file, mode := TestMode.quiet.name, batch := true } :
      TestRequest).check = .ok (.quiet, file) := by
    subst filled
    rfl
  obtain ⟨bytes, -, read, -⟩ := read_of_read_text readable
  have located : g.host.locate (t.diskAt { world := world }) file { world := world } =
      (.ok (some (Path.tidy file)), { world := world }) := by
    simp [t, FileTest.diskAt, LogTarget.onto, Host.locate, is_file_iff.mpr ⟨bytes, read⟩]
  have buffer : (t.diskAt { world := world }).readTests (Path.tidy file) g.config.marker =
      .ok (extractTests g.config.marker (feedLines text)) :=
    read_tests_of_read_text g.config.marker readable
  have named (options : EngineOptions) : t.runNamed file (some options) { world := world } =
      t.runBuffer options (Path.tidy file) (extractTests g.config.marker (feedLines text))
        { world := world } := by
    unfold FileTest.runNamed
    rw [located]
    dsimp only
    rw [buffer]
  rw [← named]
  unfold single Setting.test
  rw [asked]
  rfl

theorem single_result_congr {file file' : Text} (same : Path.tidy file' = Path.tidy file)
    (found : hasFound disk g.config.marker file = true) :
    singleResult g disk world file' = singleResult g disk world file := by
  obtain ⟨text, readable, -⟩ := readable_of_scan found
  have readable' : disk.readText (Path.tidy file') decodeUtf8 = .ok text := by rw [same, readable]
  have output : (single g disk world file').output = (single g disk world file).output := by
    rw [single_output readable, single_output readable', same]
  rw [singleResult, singleResult, output]

/-- A result that a batch gets for a file is the one that the file comes to by itself. -/
theorem file_runner_given {file : Text} {s t : Session σ} {r : RunResult}
    (tested : fileRunner g disk world file s = (.ok r, t)) :
    r = singleResult g disk world file ∧
      ∃ output, (single g disk world file).output = .ok output := by
  have answer := congrArg Prod.fst tested
  change (single g disk world file).output.map _ = .ok r at answer
  rw [singleResult]
  cases output : (single g disk world file).output with
  | error e =>
    rw [output] at answer
    cases answer
  | ok given =>
    rw [output] at answer
    cases answer
    exact ⟨rfl, given, rfl⟩

/-- A file in which the scan finds a test is entered in the lists as the tested file it is. With a
marker of two characters on one line, it is a file with tests. -/
theorem single_of_file {file : Text} (found : hasFound disk g.config.marker file = true)
    {output : TestOutput σ} (returned : (single g disk world file).output = .ok output) :
    (singleResult g disk world file).OfFile (Path.tidy file) ∧
      (g.config.marker.length = 2 → '\n' ∉ g.config.marker →
        (singleResult g disk world file).hasTests = true) := by
  obtain ⟨text, readable, tests⟩ := readable_of_scan found
  obtain ⟨options, course, batch, takes, comes⟩ := course_of_readable (g := g) .quiet
    readable nofun nofun { world := world }
  change (single g disk world file).output = _ at comes
  cases course with
  | error escape =>
    rw [returned] at comes
    cases comes
  | ok course =>
    have result : singleResult g disk world file =
        course.counted.classify (Path.tidy file) g.config.failThreshold := by
      rw [singleResult, comes]
      rfl
    rw [result, RunResult.has_tests_classify]
    refine ⟨RunResult.classify_of_file takes.unlisted _ _, ?_⟩
    intro two whole
    obtain ⟨b, inside, test⟩ := test_block_of_has_tests two whole tests
    exact takes.has_tests_of_test batch inside test

theorem share_eq_some_iff {marker file : Text} {alone : Text → RunResult} {r : RunResult} :
    share disk marker alone file = some r ↔
      (hasFound disk marker file = true ∧ r = alone file) ∨
        (hasFound disk marker file = false ∧ looksTestable file = true ∧
          r = { filesProcessed := [file] }) := by
  unfold share
  by_cases found : hasFound disk marker file = true
  · simpa [found] using eq_comm
  · by_cases testable : looksTestable file = true
    · simpa [found, testable] using eq_comm
    · simp [found, testable]

section

variable {files : List Text} {s : Session σ} {results : List RunResult} {out : Text}
  (h : Completes disk g.config (fileRunner g disk world) files s results out)
include h

theorem mem_list_total {list : RunResult → List Text} (listed : list ∈ RunResult.fileLists)
    {path : Text} :
    path ∈ list (.combine results) ↔ ∃ file ∈ files, ∃ r,
      share disk g.config.marker (singleResult g disk world) file = some r ∧ path ∈ list r := by
  rw [RunResult.file_list_combine listed, h.results_eq fun _ _ _ _ tested =>
    (file_runner_given tested).1, List.mem_flatMap]
  constructor
  · rintro ⟨r, member, inside⟩
    obtain ⟨file, among, shared⟩ := List.mem_filterMap.mp member
    exact ⟨file, among, r, shared, inside⟩
  · rintro ⟨file, among, r, shared, inside⟩
    exact ⟨r, List.mem_filterMap.mpr ⟨file, among, shared⟩, inside⟩

theorem found_of_file {file : Text} (member : file ∈ files)
    (found : hasFound disk g.config.marker file = true) :
    (singleResult g disk world file).OfFile (Path.tidy file) ∧
      (g.config.marker.length = 2 → '\n' ∉ g.config.marker →
        (singleResult g disk world file).hasTests = true) := by
  obtain ⟨s, t, r, tested⟩ := h.tested_of_found member found
  obtain ⟨-, output, returned⟩ := file_runner_given tested
  exact single_of_file found returned

theorem mem_processed_iff {path : Text} :
    path ∈ (RunResult.combine results).filesProcessed ↔ ∃ file ∈ files,
      (hasFound disk g.config.marker file = true ∧ path = Path.tidy file) ∨
        (hasFound disk g.config.marker file = false ∧ looksTestable file = true ∧ path = file) := by
  rw [mem_list_total h (by simp [RunResult.fileLists])]
  refine exists_congr fun file => and_congr_right fun member => ?_
  constructor
  · rintro ⟨r, shared, inside⟩
    rcases share_eq_some_iff.mp shared with ⟨found, rfl⟩ | ⟨passed, testable, rfl⟩
    · rw [(found_of_file h member found).1.processed] at inside
      exact .inl ⟨found, List.mem_singleton.mp inside⟩
    · exact .inr ⟨passed, testable, List.mem_singleton.mp inside⟩
  · rintro (⟨found, rfl⟩ | ⟨passed, testable, rfl⟩)
    · refine ⟨_, share_eq_some_iff.mpr (.inl ⟨found, rfl⟩), ?_⟩
      rw [(found_of_file h member found).1.processed]
      exact List.mem_singleton_self _
    · exact ⟨_, share_eq_some_iff.mpr (.inr ⟨passed, testable, rfl⟩), List.mem_singleton_self _⟩

theorem mem_tested_iff {list : RunResult → List Text} (listed : list ∈ RunResult.fileLists)
    (unlisted : ∀ file, list { filesProcessed := [file] } = []) {path : Text} :
    path ∈ list (.combine results) ↔ ∃ file ∈ files, hasFound disk g.config.marker file = true ∧
      path ∈ list (singleResult g disk world file) := by
  rw [mem_list_total h listed]
  refine exists_congr fun file => and_congr_right fun member => ?_
  constructor
  · rintro ⟨r, shared, inside⟩
    rcases share_eq_some_iff.mp shared with ⟨found, rfl⟩ | ⟨-, -, rfl⟩
    · exact ⟨found, inside⟩
    · rw [unlisted file] at inside
      cases inside
  · rintro ⟨found, inside⟩
    exact ⟨_, share_eq_some_iff.mpr (.inl ⟨found, rfl⟩), inside⟩

theorem mem_with_tests_iff {path : Text} :
    path ∈ (RunResult.combine results).filesWithTests ↔ ∃ file ∈ files,
      hasFound disk g.config.marker file = true ∧
        (singleResult g disk world file).hasTests = true ∧ path = Path.tidy file := by
  rw [mem_tested_iff h (by simp [RunResult.fileLists]) fun _ => rfl]
  refine exists_congr fun file => and_congr_right fun member => and_congr_right fun found => ?_
  rw [(found_of_file h member found).1.withTests]
  by_cases some : (singleResult g disk world file).hasTests = true <;> simp [some]

theorem mem_with_no_tests_iff {path : Text} :
    path ∈ (RunResult.combine results).filesWithNoTests ↔ ∃ file ∈ files,
      hasFound disk g.config.marker file = true ∧
        ¬ (singleResult g disk world file).hasTests = true ∧ path = Path.tidy file := by
  rw [mem_tested_iff h (by simp [RunResult.fileLists]) fun _ => rfl]
  refine exists_congr fun file => and_congr_right fun member => and_congr_right fun found => ?_
  rw [(found_of_file h member found).1.withNoTests]
  by_cases some : (singleResult g disk world file).hasTests = true <;> simp [some]

end

/-- In a batch that is not left, a processed file is in exactly one of the lists of files with tests
and without if the scan finds a test in it; if the scan passes over it, it is in neither. So the
files without tests that are named at the end are never those that the scan passed over, and with a
marker of two characters on one line there are no others. -/
theorem processed_file_is_listed_if_found (g : Setting σ) (disk : Disk) (world : World σ)
    (files : List Text) (s : Session σ) {total : RunResult}
    (returned : (run disk g.config (fileRunner g disk world) files s).total = .ok total) :
    (∀ file ∈ total.filesProcessed,
      (hasFound disk g.config.marker file = true →
        Xor (file ∈ total.filesWithTests) (file ∈ total.filesWithNoTests)) ∧
      (hasFound disk g.config.marker file = false →
        file ∉ total.filesWithTests ∧ file ∉ total.filesWithNoTests)) ∧
    (∀ file ∈ files, looksTestable file = true → hasFound disk g.config.marker file = false →
      file ∈ total.filesProcessed) ∧
    (g.config.marker.length = 2 → '\n' ∉ g.config.marker →
      total.filesWithNoTests = [] ∧
        (run disk g.config (fileRunner g disk world) files s).out =
          (runFiles disk g.config (fileRunner g disk world) (ordered g.config files) s).out) := by
  obtain ⟨results, rfl, completes⟩ := completes_of_total returned
  have order := ordered_perm g.config files
  refine ⟨?_, ?_, ?_⟩
  · intro path processed
    constructor
    · intro scanned
      obtain ⟨file, member, ⟨found, rfl⟩ | ⟨passed, -, rfl⟩⟩ :=
        (mem_processed_iff completes).mp processed
      · by_cases some : (singleResult g disk world file).hasTests = true
        · refine .inl ⟨(mem_with_tests_iff completes).mpr ⟨file, member, found, some, rfl⟩, ?_⟩
          intro empty
          obtain ⟨other, -, -, none, same⟩ := (mem_with_no_tests_iff completes).mp empty
          rw [single_result_congr same.symm found] at none
          exact none some
        · refine .inr ⟨(mem_with_no_tests_iff completes).mpr ⟨file, member, found, some, rfl⟩, ?_⟩
          intro filled
          obtain ⟨other, -, -, tests, same⟩ := (mem_with_tests_iff completes).mp filled
          rw [single_result_congr same.symm found] at tests
          exact some tests
      · rw [passed] at scanned
        cases scanned
    · intro passed
      have elsewhere (file : Text) (found : hasFound disk g.config.marker file = true) :
          path ≠ Path.tidy file := by
        rintro rfl
        rw [has_found_tidy, found] at passed
        cases passed
      constructor
      · intro filled
        obtain ⟨file, -, found, -, same⟩ := (mem_with_tests_iff completes).mp filled
        exact elsewhere file found same
      · intro empty
        obtain ⟨file, -, found, -, same⟩ := (mem_with_no_tests_iff completes).mp empty
        exact elsewhere file found same
  · intro file member testable passed
    exact (mem_processed_iff completes).mpr
      ⟨file, order.mem_iff.mpr member, .inr ⟨passed, testable, rfl⟩⟩
  · intro two whole
    have none : (RunResult.combine results).filesWithNoTests = [] := by
      apply List.eq_nil_iff_forall_not_mem.mpr
      intro path empty
      obtain ⟨file, member, found, none, -⟩ := (mem_with_no_tests_iff completes).mp empty
      exact none ((found_of_file completes member found).2 two whole)
    refine ⟨none, ?_⟩
    rw [run, close_total] at returned
    rw [run, BatchRun.close, returned]
    simp [none, withoutTests]

theorem lists_of_test_and_setup :
    ∃ total, (run testAndSetup idleSetting.config
        (fileRunner idleSetting testAndSetup { state := [] }) ["a.py", "setup.py"]
        { world := { state := [] } }).total = .ok total ∧
      total.filesProcessed = ["a.py".toList, "setup.py"] ∧
      Xor ("a.py".toList ∈ total.filesWithTests) ("a.py".toList ∈ total.filesWithNoTests) ∧
      "setup.py".toList ∉ total.filesWithTests ∧ "setup.py".toList ∉ total.filesWithNoTests := by
  let total : RunResult :=
    { tests := 1, successes := 1, filesProcessed := ["a.py", "setup.py"]
      filesWithTests := ["a.py"] }
  have returned : (run testAndSetup idleSetting.config
      (fileRunner idleSetting testAndSetup { state := [] }) ["a.py", "setup.py"]
      { world := { state := [] } }).total = .ok total :=
    ok_of_to_option (by decide +kernel)
  have found : hasFound testAndSetup idleSetting.config.marker "a.py" = true := by decide
  have passed : hasFound testAndSetup idleSetting.config.marker "setup.py" = false := by
    decide
  obtain ⟨listed, -, -⟩ := processed_file_is_listed_if_found idleSetting testAndSetup
    { state := [] } ["a.py", "setup.py"] { world := { state := [] } } returned
  refine ⟨total, returned, rfl, ?_, ?_⟩
  · exact (listed "a.py" (by decide)).1 found
  · exact (listed "setup.py" (by decide)).2 passed

/-- A source file without any marked line. -/
def plainFile : Disk := diskOf [("plain.py", "x = 1\n")]

/-- It is processed, but named neither among the files with tests nor among those without. -/
theorem passed_over_file_is_in_no_list :
    ∃ total, (run plainFile idleSetting.config (fileRunner idleSetting plainFile { state := [] })
        ["plain.py"] { world := { state := [] } }).total = .ok total ∧
      "plain.py".toList ∈ total.filesProcessed ∧
      ¬ Xor ("plain.py".toList ∈ total.filesWithTests)
        ("plain.py".toList ∈ total.filesWithNoTests) ∧
      (run plainFile idleSetting.config (fileRunner idleSetting plainFile { state := [] })
        ["plain.py"] { world := { state := [] } }).out = [] := by
  refine ⟨{ filesProcessed := ["plain.py"] }, ?_, ?_, ?_, ?_⟩
  · exact ok_of_to_option (by decide)
  · decide
  · rintro (⟨filled, -⟩ | ⟨empty, -⟩)
    · cases filled
    · cases empty
  · decide

end Batch
end EmbeddedTests
