import EmbeddedTests.Proofs.FileLists

/-!
# How the file of one test is classified

A result has tests exactly if an outcome was counted, since counters only grow. So the lists that a
file is entered in can be read off what was reported about its blocks.
-/
namespace EmbeddedTests

open Text

variable {σ : Type}

namespace RunResult

/-- No counter that makes a file one with tests is below zero. -/
structure Grown (r : RunResult) : Prop where
  tests : 0 ≤ r.tests
  xfail : 0 ≤ r.xfail
  xbug : 0 ≤ r.xbug
  xskip : 0 ≤ r.xskip
  xrtskip : 0 ≤ r.xrtskip
  xregression : 0 ≤ r.xregression
  errors : 0 ≤ r.errors

theorem grown_empty : Grown {} := by constructor <;> decide

theorem Grown.tally {r : RunResult} (h : r.Grown) (o : Outcome) : (r.tally o).Grown := by
  obtain ⟨tests, xfail, xbug, xskip, xrtskip, xregression, errors⟩ := h
  cases o <;> constructor <;> simp only [RunResult.tally] <;> omega

theorem Grown.has_tests_tally {r : RunResult} (h : r.Grown) (o : Outcome) :
    (r.tally o).hasTests = true ↔ r.hasTests = true ∨ o ≠ .none := by
  obtain ⟨tests, xfail, xbug, xskip, xrtskip, xregression, errors⟩ := h
  cases o <;> simp [RunResult.tally, hasTests] <;> omega

theorem Grown.has_tests_tally_all {r : RunResult} (h : r.Grown) (outcomes : List Outcome) :
    (r.tallyAll outcomes).hasTests = true ↔ r.hasTests = true ∨ ∃ o ∈ outcomes, o ≠ .none := by
  induction outcomes generalizing r with
  | nil => simp [tallyAll]
  | cons o rest ih =>
    change ((r.tally o).tallyAll rest).hasTests = true ↔ _
    rw [ih (h.tally o), h.has_tests_tally o, or_assoc, List.exists_mem_cons_iff]

end RunResult

namespace Course

/-- A block came to something, or the file's own code failed. -/
def Counts : Course σ → Prop
  | untested => False
  | unprepared _ => True
  | ran steps => ∃ r ∈ steps.reports, r.outcome ≠ .none

/-- How many blocks failed; the failure of the file's own code is one. -/
def failures : Course σ → Nat
  | untested => 0
  | unprepared _ => 1
  | ran steps => steps.reports.countP fun r => r.outcome = .fail ∨ r.outcome = .error

/-- The result enters the file in the lists that the course of its tests puts it in. -/
structure Classifies (course : Course σ) (threshold : Int) (file : Text) (result : RunResult) :
    Prop where
  processed : result.filesProcessed = [file]
  apart : result.filesWithTests = [file] ∧ result.filesWithNoTests = [] ∨
    result.filesWithTests = [] ∧ result.filesWithNoTests = [file]
  tested_iff : result.filesWithTests = [file] ↔ course.Counts
  failed : course.Counts ∧ threshold < course.failures → result.failedFiles = [file]
  spared : ¬ (course.Counts ∧ threshold < course.failures) → result.failedFiles = []

end Course

namespace FileTest.Takes

variable {t : FileTest σ} {options : EngineOptions} {file buffer : Text} {s : Session σ}
  {course : Course σ}

theorem has_tests_iff (h : t.Takes options file buffer s (.ok course)) :
    course.counted.hasTests = true ↔ course.Counts := by
  cases h with
  | untested => exact iff_of_false Bool.false_ne_true id
  | unprepared => exact iff_of_true rfl trivial
  | ran marked ready whole =>
    rw [counted_ran whole, RunResult.grown_empty.has_tests_tally_all]
    simp [Course.Counts, Engine.Steps.outcomes, RunResult.hasTests]

theorem hard_failures_eq (h : t.Takes options file buffer s (.ok course)) :
    course.counted.hardFailures = course.failures := by
  cases h with
  | untested => rfl
  | unprepared => rfl
  | @ran evaluator w marked ready whole =>
    rw [counted_ran whole, RunResult.hard_failures_tally_all, Engine.Steps.outcomes,
      List.countP_map]
    have same : ∀ r : BlockReport, (Outcome.isHard ∘ (·.outcome)) r =
        decide (r.outcome = .fail ∨ r.outcome = .error) := by
      intro r
      cases outcome : r.outcome <;> simp [outcome, Outcome.isHard]
    rw [Course.failures, funext same]

theorem classifies (h : t.Takes options file buffer s (.ok course)) (threshold : Int) :
    course.Classifies threshold file (course.counted.classify file threshold) := by
  have withTests : course.counted.filesWithTests = [] :=
    h.unlisted (·.filesWithTests) (by simp [RunResult.fileLists])
  have withNoTests : course.counted.filesWithNoTests = [] :=
    h.unlisted (·.filesWithNoTests) (by simp [RunResult.fileLists])
  have failed : course.counted.failedFiles = [] :=
    h.unlisted (·.failedFiles) (by simp [RunResult.fileLists])
  rw [RunResult.classify_unlisted h.unlisted, h.hard_failures_eq]
  by_cases counts : course.counted.hasTests = true
  · have tests := h.has_tests_iff.mp counts
    rw [if_pos counts]
    exact {
      processed := rfl
      apart := .inl ⟨rfl, withNoTests⟩
      tested_iff := iff_of_true rfl tests
      failed := fun many => if_pos many.2
      spared := fun few => if_neg fun many => few ⟨tests, many⟩ }
  · have none := mt h.has_tests_iff.mpr counts
    rw [if_neg counts]
    exact {
      processed := rfl
      apart := .inr ⟨withTests, rfl⟩
      tested_iff := iff_of_false (by simp [withTests]) none
      failed := fun many => absurd many.1 none
      spared := fun _ => failed }

end FileTest.Takes

/-- The modes in which blocks are run. -/
def TestMode.running : List TestMode := [.normal, .quiet, .verbose]

/-- A test of a file that was found and that gives something back gives a result, which classifies
the file once: it is one with tests exactly if a block came to something or the file's own code
failed, and then it is a failed one exactly if more blocks failed than are let pass. -/
theorem file_is_classified_once (g : Setting σ) {r : TestRequest} (disk : Disk) {opened : Disk}
    {s u : Session σ} {mode : TestMode} {name file : Text} {output : TestOutput σ}
    (asked : r.check = .ok (mode, name)) (runs : mode ∈ TestMode.running)
    (start : r.log.start disk = .ok opened)
    (found : let t : FileTest σ := ⟨g, r.log, opened⟩
      let entry := t.announced name { s with report := [] }
      g.host.locate (t.diskAt entry) name entry = (.ok (some file), u))
    (returned : (g.test r disk s).output = .ok output) :
    let t : FileTest σ := ⟨g, r.log, opened⟩
    ∃ options buffer course result,
      (t.diskAt u).readTests file g.config.marker = .ok buffer ∧
        t.Takes options file buffer u (.ok course) ∧
        output = .tested file course result ∧
        course.Classifies g.config.failThreshold file result := by
  intro t
  have others : mode ≠ .explain ∧ mode ≠ .grabDemos := by
    constructor <;> rintro rfl <;> simp [TestMode.running] at runs
  obtain ⟨options, -, comes⟩ := test_of_found g disk asked others.1 others.2 start found
  rw [comes] at returned
  cases read : (t.diskAt u).readTests file g.config.marker with
  | error e =>
    simp only [t, read] at returned
    cases returned
  | ok buffer =>
    simp only [t, read] at returned
    obtain ⟨course, takes, given⟩ := t.run_buffer_takes options file buffer u
    change (t.runBuffer options file buffer u).1 = .ok output at returned
    rw [given] at returned
    cases course with
    | error escape => cases returned
    | ok course =>
      cases returned
      exact ⟨options, buffer, course, _, rfl, takes, rfl, takes.classifies _⟩

/-- A file with one block of no known kind, which fails. -/
def unknownBlock : Disk := Batch.diskOf [("a.py", "#!nothing known\n")]

/-- One failure is too many where fewer than none are let pass. -/
theorem unknown_block_is_classified :
    let g : Setting Script.Calls :=
      { Batch.idleSetting with config := { Batch.idleSetting.config with failThreshold := -1 } }
    let r : TestRequest := { name := some "a.py" }
    let s : Session Script.Calls := { world := { state := [] } }
    ∃ course result, (g.test r unknownBlock s).output = .ok (.tested "a.py" course result) ∧
      course.Classifies (-1) "a.py" result := by
  intro g r s
  have asked : r.check = .ok (.normal, "a.py") := rfl
  have located : unknownBlock.isFile "a.py" = true := by decide
  have found : g.host.locate unknownBlock "a.py" s = (.ok (some "a.py"), s) := by
    unfold Host.locate
    exact if_pos located
  have returns : (g.test r unknownBlock s).output.toOption.isSome = true := by decide +kernel
  cases output : (g.test r unknownBlock s).output with
  | error e =>
    rw [output] at returns
    cases returns
  | ok given =>
    have classified := file_is_classified_once g unknownBlock (s := s) asked (by decide) rfl found
      output
    obtain ⟨-, -, course, result, -, -, rfl, lists⟩ := classified
    exact ⟨course, result, rfl, lists⟩

end EmbeddedTests
