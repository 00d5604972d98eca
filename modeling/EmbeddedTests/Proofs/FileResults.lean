import EmbeddedTests.Batch
import EmbeddedTests.Proofs.FileCourse
import EmbeddedTests.Proofs.TestScan
import EmbeddedTests.Script
import EmbeddedTests.Snippet.Host

/-!
# The scan for tests and the result of a file

A file in which the scan finds a test is counted among the files with tests, however its run goes. A
file that it passes over comes to unknown blocks and failed set-ups at most.
-/
namespace EmbeddedTests

open Text

variable {σ : Type}

namespace RunResult

/-- The counters that neither a failed test nor a failed set-up raises. -/
def softCounters : List (RunResult → Int) :=
  [successes, xfail, xbug, xskip, xrtskip, xregression]

theorem soft_counter_of_tests {counter : RunResult → Int} (soft : counter ∈ softCounters)
    (n : Int) : counter { tests := n } = 0 := by
  simp only [softCounters, List.mem_cons, List.not_mem_nil, or_false] at soft
  rcases soft with rfl | rfl | rfl | rfl | rfl | rfl <;> rfl

theorem soft_counter_tally {counter : RunResult → Int} (soft : counter ∈ softCounters)
    {o : Outcome} (plain : o = .none ∨ o = .error ∨ o = .fail) (r : RunResult) :
    counter (r.tally o) = counter r := by
  simp only [softCounters, List.mem_cons, List.not_mem_nil, or_false] at soft
  rcases plain with rfl | rfl | rfl
  all_goals rcases soft with rfl | rfl | rfl | rfl | rfl | rfl <;> rfl

theorem tally_all_kept {β : Type} (quantity : RunResult → β) {outcomes : List Outcome}
    (kept : ∀ o ∈ outcomes, ∀ r, quantity (tally r o) = quantity r) (r : RunResult) :
    quantity (r.tallyAll outcomes) = quantity r := by
  induction outcomes generalizing r with
  | nil => rfl
  | cons o rest ih =>
    have later := ih (fun o member => kept o (List.mem_cons_of_mem _ member)) (r.tally o)
    exact later.trans (kept o List.mem_cons_self r)

theorem has_tests_of_attempted {r : RunResult} (h : r.attempted ≠ 0) : r.hasTests = true := by
  cases none : r.hasTests with
  | true => rfl
  | false =>
    simp only [hasTests, Bool.or_eq_false_iff, bne_eq_false_iff_eq] at none
    obtain ⟨⟨⟨⟨⟨⟨tests, xfail⟩, xbug⟩, xskip⟩, xrtskip⟩, xregression⟩, -⟩ := none
    exact absurd (by simp [attempted, *]) h

theorem classify_kept {β : Type} (quantity : RunResult → β)
    (blind : ∀ r processed tested empty failed, quantity { r with
      filesProcessed := processed, filesWithTests := tested, filesWithNoTests := empty,
      failedFiles := failed } = quantity r)
    (r : RunResult) (file : Text) (threshold : Int) :
    quantity (r.classify file threshold) = quantity r := by
  unfold classify
  dsimp only
  repeat' split
  all_goals exact blind r _ _ _ _

theorem has_tests_classify (r : RunResult) (file : Text) (threshold : Int) :
    (r.classify file threshold).hasTests = r.hasTests :=
  classify_kept hasTests (fun _ _ _ _ _ => rfl) r file threshold

theorem classify_with_tests {r : RunResult} (h : r.hasTests = true) (file : Text)
    (threshold : Int) :
    file ∈ (r.classify file threshold).filesWithTests ∧
      (r.classify file threshold).filesWithNoTests = r.filesWithNoTests := by
  have entered {u : RunResult} (same : u.hasTests = r.hasTests) : ¬(!u.hasTests) = true := by
    simp [same, h]
  unfold classify
  dsimp only
  split
  all_goals
    split
    · rename_i without
      exact absurd without (entered rfl)
    · exact ⟨List.mem_append_right _ (List.mem_singleton.mpr rfl), rfl⟩

end RunResult

def Course.counted (course : Course σ) : RunResult := course.result?.getD {}

theorem counted_ran {steps : Engine.Steps σ} (whole : steps.escape = none) :
    (Course.ran steps).counted = RunResult.tallyAll {} steps.outcomes := by
  simp [Course.counted, Course.result?, Engine.Steps.result?, whole]

namespace Engine

theorem content_of_unknown {c : Content} (h : c.kind = .unknown) : ∃ word, c = .unknown word := by
  cases c with
  | unknown word => exact ⟨word, rfl⟩
  | check kind => cases kind <;> cases h
  | expect kind => cases kind <;> cases h
  | _ => cases h

theorem outcome_of_unknown {e : Engine σ} {b : Block} {s t : Session σ} {r : BlockReport}
    (unknown : b.kind = .unknown) (h : e.step b s = (.ok r, t)) : r.outcome = .fail := by
  obtain ⟨verdict, u, executed, rfl, -⟩ := step_ok_iff.mp h
  obtain ⟨word, content⟩ := content_of_unknown unknown
  rw [content] at executed
  cases executed
  rfl

end Engine

namespace FileTest.Takes

variable {t : FileTest σ} {options : EngineOptions} {file buffer : Text} {s : Session σ}
  {course : Course σ}

theorem counted_kept {β : Type} (quantity : RunResult → β)
    (kept : ∀ o r, quantity (RunResult.tally r o) = quantity r)
    (failed : quantity { tests := 1 } = quantity {})
    (h : t.Takes options file buffer s (.ok course)) : quantity course.counted = quantity {} := by
  cases h with
  | untested => rfl
  | unprepared => exact failed
  | ran marked ready whole =>
    rw [counted_ran whole]
    exact RunResult.tally_all_kept quantity (fun o _ r => kept o r) {}

theorem no_file_without_tests (h : t.Takes options file buffer s (.ok course)) :
    course.counted.filesWithNoTests = [] :=
  counted_kept (·.filesWithNoTests) (fun o _ => by cases o <;> rfl) rfl h

theorem reports_all {steps : Engine.Steps σ} (batch : options.batch = true)
    (h : t.Takes options file buffer s (.ok (.ran steps))) :
    steps.reports.map (·.block) = parseBlocks buffer := by
  cases h with
  | ran marked ready whole =>
    apply Engine.run_reports_all whole
    rw [Engine.run_halted_eq]
    simp [engine, batch]

theorem has_tests_of_test (h : t.Takes options file buffer s (.ok course))
    (batch : options.batch = true) {b : Block} (inside : b ∈ parseBlocks buffer)
    (test : b.isTest = true) : course.counted.hasTests = true := by
  have all := h
  cases h with
  | untested empty =>
    subst empty
    cases inside
  | unprepared => rfl
  | ran marked ready whole =>
    rw [← reports_all batch all, List.mem_map] at inside
    obtain ⟨r, member, rfl⟩ := inside
    have counts : r.outcome.isOfTest = true := (Engine.reported_outcome member).trans test
    apply RunResult.has_tests_of_attempted
    rw [counted_ran whole, RunResult.attempted_tally_all]
    have some := List.countP_pos_iff.mpr ⟨r.outcome, List.mem_map_of_mem member, counts⟩
    exact_mod_cast some.ne'

/-- Where all tests are unknown blocks, nothing succeeds, is known to fail or is skipped. -/
theorem soft_counters_of_strays (h : t.Takes options file buffer s (.ok course))
    (batch : options.batch = true)
    (strays : ∀ b ∈ parseBlocks buffer, b.isTest = true → b.kind = .unknown) :
    ∀ counter ∈ RunResult.softCounters, counter course.counted = 0 := by
  intro counter soft
  have all := h
  cases h with
  | untested => exact RunResult.soft_counter_of_tests soft 0
  | unprepared => exact RunResult.soft_counter_of_tests soft 1
  | @ran evaluator w marked ready whole =>
    have outcomes : ∀ o ∈ (t.ranBy options file buffer s evaluator w).outcomes,
        o = .none ∨ o = .error ∨ o = .fail := by
      intro o member
      obtain ⟨r, reported, rfl⟩ := List.mem_map.mp member
      obtain ⟨u, v, step⟩ := Engine.reported_by_step reported
      cases test : r.block.isTest with
      | true =>
        have inside : r.block ∈ parseBlocks buffer := by
          rw [← reports_all batch all]
          exact List.mem_map_of_mem reported
        exact .inr (.inr (Engine.outcome_of_unknown (strays _ inside test) step))
      | false =>
        have other := (Engine.step_outcome step).trans test
        cases outcome : r.outcome <;> simp [outcome, Outcome.isOfTest] at other ⊢
    rw [counted_ran whole, RunResult.tally_all_kept counter _ {}]
    · exact RunResult.soft_counter_of_tests soft 0
    · exact fun o member r => RunResult.soft_counter_tally soft (outcomes o member) r

end FileTest.Takes

theorem course_of_readable {g : Setting σ} {disk : Disk} {file text : Text} (mode : TestMode)
    (readable : disk.readText (Path.tidy file) decodeUtf8 = .ok text)
    (explains : mode ≠ .explain) (collects : mode ≠ .grabDemos) (s : Session σ) :
    ∃ (options : EngineOptions) (course : Attempt (Course σ)), options.batch = true ∧
      FileTest.Takes ⟨g, .console, disk⟩ options (Path.tidy file)
        (extractTests g.config.marker (feedLines text)) { s with report := [] } course ∧
      (g.test { name := some file, mode := mode.name, batch := true } disk s).output =
        (course.map (FileTest.outputOf ⟨g, .console, disk⟩ (Path.tidy file))).mapError .escape := by
  obtain ⟨options, batch, output⟩ := test_of_readable (g := g) readable explains collects s
  obtain ⟨course, takes, result⟩ := FileTest.run_buffer_takes ⟨g, .console, disk⟩ options
    (Path.tidy file) (extractTests g.config.marker (feedLines text)) { s with report := [] }
  exact ⟨options, course, batch, takes, output.trans result⟩

namespace Batch

theorem readable_of_scan {disk : Disk} {marker file : Text}
    (found : (scan disk marker file).1 = true) :
    ∃ text, disk.readText (Path.tidy file) decodeUtf8 = .ok text ∧ hasTests marker text = true := by
  unfold scan at found
  cases read : disk.readText (Path.tidy file) decodeUtf8 with
  | error fault => simp [read] at found
  | ok text => exact ⟨text, rfl, by simpa [read] using found⟩

/-- The file's result counts tests, and lists the file as one that has some. -/
structure Counts (file : Text) (result : RunResult) : Prop where
  some : result.hasTests = true
  listed : Path.tidy file ∈ result.filesWithTests
  filled : Path.tidy file ∉ result.filesWithNoTests

theorem counts_of_test {t : FileTest σ} {options : EngineOptions} {file buffer : Text}
    {s : Session σ} {course : Course σ}
    (takes : t.Takes options (Path.tidy file) buffer s (.ok course)) (batch : options.batch = true)
    {b : Block} (inside : b ∈ parseBlocks buffer) (test : b.isTest = true) (threshold : Int) :
    Counts file (course.counted.classify (Path.tidy file) threshold) := by
  have counted := takes.has_tests_of_test batch inside test
  obtain ⟨listed, others⟩ := RunResult.classify_with_tests counted (Path.tidy file) threshold
  refine ⟨(RunResult.has_tests_classify _ _ _).trans counted, listed, ?_⟩
  rw [others, takes.no_file_without_tests]
  exact List.not_mem_nil

/-- With a marker of two characters on one line, a file in which the scan finds a test has a block
that is a test, and whatever result a test of it in batch mode comes to counts tests. -/
theorem found_tests_are_counted (g : Setting σ) {disk : Disk} {file : Text}
    (two : g.config.marker.length = 2) (whole : '\n' ∉ g.config.marker)
    (found : (scan disk g.config.marker file).1 = true) :
    (∃ buffer, disk.readTests (Path.tidy file) g.config.marker = .ok buffer ∧
      ∃ b ∈ parseBlocks buffer, b.isTest = true) ∧
    (∀ mode s output, mode ≠ TestMode.explain → mode ≠ TestMode.grabDemos →
      (g.test { name := some file, mode := mode.name, batch := true } disk s).output = .ok output →
      ∃ course result, output = .tested (Path.tidy file) course result ∧ Counts file result) ∧
    ∀ world s result, (fileRunner g disk world file s).1 = .ok result → Counts file result := by
  obtain ⟨text, readable, tests⟩ := readable_of_scan found
  obtain ⟨b, inside, test⟩ := test_block_of_has_tests two whole tests
  have tested (mode : TestMode) (s : Session σ) (output : TestOutput σ)
      (explains : mode ≠ .explain) (collects : mode ≠ .grabDemos)
      (returned : (g.test { name := some file, mode := mode.name, batch := true } disk s).output =
        .ok output) :
      ∃ course result, output = .tested (Path.tidy file) course result ∧ Counts file result := by
    obtain ⟨options, course, batch, takes, output⟩ :=
      course_of_readable (g := g) mode readable explains collects s
    rw [output] at returned
    cases course with
    | error escape => cases returned
    | ok course =>
      cases returned
      exact ⟨course, _, rfl, counts_of_test takes batch inside test g.config.failThreshold⟩
  refine ⟨⟨_, read_tests_of_read_text _ readable, b, inside, test⟩, tested, ?_⟩
  intro world s result returned
  change (TestRun.output _).map _ = _ at returned
  cases output : (g.test { name := some file, mode := TestMode.quiet.name, batch := true } disk
      { world := world }).output with
  | error e =>
    rw [show "quiet".toList = TestMode.quiet.name from rfl, output] at returned
    cases returned
  | ok given =>
    rw [show "quiet".toList = TestMode.quiet.name from rfl, output] at returned
    obtain ⟨course, counted, rfl, counts⟩ := tested .quiet _ given nofun nofun output
    cases returned
    exact counts

def idleSetting : Setting Script.Calls :=
  { host := Snippet.hostWith (Script.evaluator fun _ => {}), config := {} }

def diskOf (files : List (Text × Text)) : Disk :=
  { files := files.map fun (name, t) => ([name], encodeUtf8 t) }

/-- What follows an interpreter line only starts like a known test. -/
def unknownTest : Disk := diskOf [("a.py", "#!/bin/sh\n#!testable\n")]

theorem unknown_test_is_counted :
    (scan unknownTest idleSetting.config.marker "./a.py").1 = true ∧
      ∃ result, (fileRunner idleSetting unknownTest { state := [] } "./a.py"
        { world := { state := [] } }).1 = .ok result ∧ Counts "./a.py" result := by
  have found : (scan unknownTest idleSetting.config.marker "./a.py").1 = true := by decide
  have returns : (fileRunner idleSetting unknownTest { state := [] } "./a.py"
      { world := { state := [] } }).1.toOption.isSome = true := by decide +kernel
  cases output : (fileRunner idleSetting unknownTest { state := [] } "./a.py"
      { world := { state := [] } }).1 with
  | error e =>
    rw [output] at returns
    cases returns
  | ok result =>
    have sound := found_tests_are_counted idleSetting rfl (by decide) found
    exact ⟨found, result, rfl, sound.2.2 _ _ result output⟩

end Batch
end EmbeddedTests
