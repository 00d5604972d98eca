import EmbeddedTests.Proofs.BatchTotals

/-!
# The course of a batch

`Completes` has one constructor for each thing that becomes of a file in a batch that is not left,
so a fact about results and about what is written is an induction on it.
-/
namespace EmbeddedTests.Batch

open Text

variable {σ : Type} {disk : Disk} {config : Config} {runner : FileRunner σ}

/-- The results of a batch of files, and what is written about them. -/
inductive Completes (disk : Disk) (config : Config) (runner : FileRunner σ) :
    List Text → Session σ → List RunResult → Text → Prop where
  | done (s) : Completes disk config runner [] s [] []
  | processed {file later s results out} (passed : hasFound disk config.marker file = false)
      (testable : looksTestable file = true)
      (rest : Completes disk config runner later (scanned disk config file s) results out) :
      Completes disk config runner (file :: later) s ({ filesProcessed := [file] } :: results) out
  | ignored {file later s results out} (passed : hasFound disk config.marker file = false)
      (other : looksTestable file = false)
      (rest : Completes disk config runner later (scanned disk config file s) results out) :
      Completes disk config runner (file :: later) s results out
  | ran {file later s t r results out} (found : hasFound disk config.marker file = true)
      (tested : runner file (scanned disk config file s) = (.ok r, t))
      (rest : Completes disk config runner later t results out) :
      Completes disk config runner (file :: later) s (r :: results)
        (announcement file ++ passFail r ++ out)

theorem results_of_before {later : BatchRun σ} {out : Text} {r : RunResult}
    {results : List RunResult} (h : (later.before out r).results = .ok results) :
    ∃ rest, later.results = .ok rest ∧ results = r :: rest := by
  change later.results.map (r :: ·) = .ok results at h
  cases given : later.results with
  | error e =>
    rw [given] at h
    cases h
  | ok rest =>
    rw [given] at h
    cases h
    exact ⟨rest, rfl, rfl⟩

theorem run_files_completes {files : List Text} {s : Session σ} {results : List RunResult}
    (returned : (runFiles disk config runner files s).results = .ok results) :
    Completes disk config runner files s results (runFiles disk config runner files s).out := by
  induction files generalizing s results with
  | nil =>
    cases returned
    exact .done s
  | cons file later ih =>
    cases found : hasFound disk config.marker file with
    | false =>
      rw [run_files_passed later found] at returned ⊢
      by_cases testable : looksTestable file = true
      · rw [if_pos testable] at returned ⊢
        obtain ⟨rest, given, rfl⟩ := results_of_before returned
        exact .processed found testable (ih given)
      · rw [if_neg testable] at returned ⊢
        exact .ignored found (Bool.eq_false_iff.mpr testable) (ih returned)
    | true =>
      rcases tested : runner file (scanned disk config file s) with ⟨e | r, t⟩
      · rw [run_files_left later found tested] at returned
        cases returned
      · rw [run_files_ran later found tested] at returned ⊢
        obtain ⟨rest, given, rfl⟩ := results_of_before returned
        exact .ran found tested (ih given)

theorem close_results (b : BatchRun σ) : b.close.results = b.results := by
  unfold BatchRun.close
  split <;> rfl

theorem completes_of_total {files : List Text} {s : Session σ} {total : RunResult}
    (returned : (run disk config runner files s).total = .ok total) :
    ∃ results, total = .combine results ∧
      Completes disk config runner (ordered config files) s results
        (runFiles disk config runner (ordered config files) s).out := by
  rw [run, close_total, BatchRun.total] at returned
  cases given : (runFiles disk config runner (ordered config files) s).results with
  | error e =>
    rw [given] at returned
    cases returned
  | ok results =>
    rw [given] at returned
    cases returned
    exact ⟨results, rfl, run_files_completes given⟩

namespace Completes

variable {files : List Text} {s : Session σ} {results : List RunResult} {out : Text}

theorem tested_of_found (h : Completes disk config runner files s results out) {file : Text}
    (member : file ∈ files) (found : hasFound disk config.marker file = true) :
    ∃ s t r, runner file s = (.ok r, t) := by
  induction h with
  | done => cases member
  | processed passed testable rest ih =>
    rcases List.mem_cons.mp member with rfl | later
    · exact absurd found (Bool.eq_false_iff.mp passed)
    · exact ih later
  | ignored passed other rest ih =>
    rcases List.mem_cons.mp member with rfl | later
    · exact absurd found (Bool.eq_false_iff.mp passed)
    · exact ih later
  | ran here tested rest ih =>
    rcases List.mem_cons.mp member with rfl | later
    · exact ⟨_, _, _, tested⟩
    · exact ih later

theorem results_eq (h : Completes disk config runner files s results out) {alone : Text → RunResult}
    (gives : ∀ file s t r, runner file s = (.ok r, t) → r = alone file) :
    results = files.filterMap (share disk config.marker alone) := by
  induction h with
  | done => rfl
  | processed passed testable rest ih => simp [share, passed, testable, ← ih]
  | ignored passed other rest ih => simp [share, passed, other, ← ih]
  | ran found tested rest ih => simp [share, found, ← ih, ← gives _ _ _ _ tested]

theorem section_of_result (h : Completes disk config runner files s results out) {r : RunResult}
    (member : r ∈ results) :
    (∃ file, r = { filesProcessed := [file] }) ∨
      ∃ file ∈ files, announcement file ++ passFail r <:+: out := by
  induction h with
  | done => cases member
  | @processed file _ _ _ _ passed testable rest ih =>
    rcases List.mem_cons.mp member with rfl | later
    · exact .inl ⟨file, rfl⟩
    · rcases ih later with processed | ⟨file, member, shown⟩
      · exact .inl processed
      · exact .inr ⟨file, List.mem_cons_of_mem _ member, shown⟩
  | ignored passed other rest ih =>
    rcases ih member with processed | ⟨file, member, shown⟩
    · exact .inl processed
    · exact .inr ⟨file, List.mem_cons_of_mem _ member, shown⟩
  | @ran file _ _ _ _ _ out found tested rest ih =>
    rcases List.mem_cons.mp member with rfl | later
    · exact .inr ⟨file, List.mem_cons_self, List.prefix_append _ out |>.isInfix⟩
    · rcases ih later with processed | ⟨file, member, shown⟩
      · exact .inl processed
      · exact .inr ⟨file, List.mem_cons_of_mem _ member,
          shown.trans (List.suffix_append _ out).isInfix⟩

end Completes
end EmbeddedTests.Batch
