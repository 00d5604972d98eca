import EmbeddedTests.Proofs.FileOrder
import Mathlib.Algebra.Order.BigOperators.Group.List
import Mathlib.Algebra.Order.Group.Int

/-!
# Failures in combined results

The failures of a result are a difference of two counters, so in a sum the surplus of one result
could hide the failures of another. There is no surplus: a result that was reached by counting
outcomes has no more successes than tests, and adding results up keeps that.
-/
namespace EmbeddedTests

namespace RunResult

/-- No failure of the result is a negative number of failures. -/
structure Sound (r : RunResult) : Prop where
  successes : 0 ≤ r.successes
  among : r.successes ≤ r.tests
  errors : 0 ≤ r.errors

theorem sound_empty : Sound {} := by
  constructor <;> decide

theorem Sound.tally {r : RunResult} (h : r.Sound) (o : Outcome) : (r.tally o).Sound := by
  obtain ⟨successes, among, errors⟩ := h
  cases o
  case pass =>
    constructor
    · change 0 ≤ r.successes + 1
      omega
    · change r.successes + 1 ≤ r.tests + 1
      omega
    · exact errors
  case fail =>
    refine ⟨successes, ?_, errors⟩
    change r.successes ≤ r.tests + 1
    omega
  case error =>
    refine ⟨successes, among, ?_⟩
    change 0 ≤ r.errors + 1
    omega
  all_goals exact ⟨successes, among, errors⟩

theorem Sound.tally_all {r : RunResult} (h : r.Sound) (outcomes : List Outcome) :
    (r.tallyAll outcomes).Sound := by
  induction outcomes generalizing r with
  | nil => exact h
  | cons o rest ih => exact ih (h.tally o)

theorem Sound.classify {r : RunResult} (h : r.Sound) (file : Text) (threshold : Int) :
    (r.classify file threshold).Sound := by
  have kept {counter : RunResult → Int} (counted : counter ∈ allCounters) :=
    counter_classify counted r file threshold
  have successes : (r.classify file threshold).successes = r.successes :=
    kept (by simp [allCounters, softCounters])
  have tests : (r.classify file threshold).tests = r.tests := kept (by simp [allCounters])
  have errors : (r.classify file threshold).errors = r.errors := kept (by simp [allCounters])
  constructor
  · rw [successes]
    exact h.successes
  · rw [successes, tests]
    exact h.among
  · rw [errors]
    exact h.errors

theorem Sound.add {a b : RunResult} (ha : a.Sound) (hb : b.Sound) : (a + b).Sound := by
  obtain ⟨successes, among, errors⟩ := ha
  obtain ⟨successes', among', errors'⟩ := hb
  constructor
  · change 0 ≤ a.successes + b.successes
    omega
  · change a.successes + b.successes ≤ a.tests + b.tests
    omega
  · change 0 ≤ a.errors + b.errors
    omega

theorem Sound.combine {results : List RunResult} (h : ∀ r ∈ results, r.Sound) :
    (RunResult.combine results).Sound := by
  have added {start : RunResult} (sound : start.Sound) : (results.foldl (· + ·) start).Sound := by
    induction results generalizing start with
    | nil => exact sound
    | cons r rest ih =>
      have here := h r List.mem_cons_self
      exact ih (fun r member => h r (List.mem_cons_of_mem _ member)) (sound.add here)
  exact added sound_empty

theorem Sound.hard_failures {r : RunResult} (h : r.Sound) : 0 ≤ r.hardFailures := by
  obtain ⟨successes, among, errors⟩ := h
  unfold hardFailures reallyFailed
  omega

theorem really_failed_add (a b : RunResult) :
    (a + b).reallyFailed = a.reallyFailed + b.reallyFailed := by
  change a.tests + b.tests - (a.successes + b.successes) = _
  unfold reallyFailed
  omega

theorem hard_failures_add (a b : RunResult) :
    (a + b).hardFailures = a.hardFailures + b.hardFailures := by
  have errors : (a + b).errors = a.errors + b.errors := rfl
  unfold hardFailures
  rw [really_failed_add, errors]
  omega

theorem hard_failures_combine (results : List RunResult) :
    (combine results).hardFailures = (results.map hardFailures).sum :=
  additive_combine rfl hard_failures_add results

theorem success_iff (r : RunResult) : r.success = true ↔ r.hardFailures = 0 := beq_iff_eq

/-- Where no result has failures to give away, none are lost in the sum. -/
theorem success_combine_iff {results : List RunResult} (sound : ∀ r ∈ results, r.Sound) :
    (combine results).success = true ↔ ∀ r ∈ results, r.success = true := by
  rw [success_iff, hard_failures_combine]
  constructor
  · intro none r member
    have nonnegative : ∀ n ∈ results.map hardFailures, 0 ≤ n := by
      intro n listed
      obtain ⟨r, member, rfl⟩ := List.mem_map.mp listed
      exact (sound r member).hard_failures
    have here := List.all_zero_of_le_zero_le_of_sum_eq_zero nonnegative none
      (List.mem_map_of_mem member)
    exact (success_iff r).mpr here
  · intro all
    apply List.sum_eq_zero
    intro n listed
    obtain ⟨r, member, rfl⟩ := List.mem_map.mp listed
    exact (success_iff r).mp (all r member)

/-- The outcomes of a file's blocks, and the file with the number of failures that is let pass. -/
structure CountedFile where
  outcomes : List Outcome
  file : Text
  threshold : Int

/-- The outcomes are counted one after another, and then the file is entered in its lists. -/
def CountedFile.result (c : CountedFile) : RunResult :=
  (RunResult.tallyAll {} c.outcomes).classify c.file c.threshold

theorem CountedFile.sound (c : CountedFile) : c.result.Sound :=
  (sound_empty.tally_all c.outcomes).classify c.file c.threshold

/-- However many files are added up, what succeeded is among the tests, the hard failures are those
of the files together, and there are none only if no file has any. -/
theorem failures_are_not_cancelled (files : List CountedFile) :
    let results := files.map CountedFile.result
    let total := combine results
    0 ≤ total.successes ∧ total.successes ≤ total.tests ∧
      total.hardFailures = (results.map hardFailures).sum ∧
      (total.success = true ↔ ∀ r ∈ results, r.success = true) ∧
      total.failedFiles = results.flatMap failedFiles := by
  intro results total
  have sound : ∀ r ∈ results, r.Sound := by
    intro r member
    obtain ⟨c, -, rfl⟩ := List.mem_map.mp member
    exact c.sound
  have added : total.Sound := .combine sound
  have listed : failedFiles ∈ fileLists := by simp [fileLists]
  exact ⟨added.successes, added.among, hard_failures_combine results, success_combine_iff sound,
    file_list_combine listed results⟩

end RunResult
end EmbeddedTests
