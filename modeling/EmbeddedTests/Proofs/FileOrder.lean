import EmbeddedTests.Proofs.BatchTotals

/-!
# The order of the files of a batch

A seed puts the files in another order, and in the same number each. If every file comes to a result
of its own, the order is seen in nothing but the order of the lists of files: the counters are the
same, and every file with tests is given to the runner as often as it was added.
-/
namespace EmbeddedTests

variable {σ τ : Type}

namespace RunResult

def fileLists : List (RunResult → List Text) :=
  [filesProcessed, filesWithTests, filesWithNoTests, failedFiles]

theorem file_list_add {list : RunResult → List Text} (h : list ∈ fileLists) (a b : RunResult) :
    list (a + b) = list a ++ list b := by
  simp only [fileLists, List.mem_cons, List.not_mem_nil, or_false] at h
  rcases h with rfl | rfl | rfl | rfl <;> rfl

theorem file_list_empty {list : RunResult → List Text} (h : list ∈ fileLists) : list {} = [] := by
  simp only [fileLists, List.mem_cons, List.not_mem_nil, or_false] at h
  rcases h with rfl | rfl | rfl | rfl <;> rfl

theorem file_list_combine {list : RunResult → List Text} (h : list ∈ fileLists)
    (results : List RunResult) : list (combine results) = results.flatMap list := by
  have added (start : RunResult) :
      list (results.foldl (· + ·) start) = list start ++ results.flatMap list := by
    induction results generalizing start with
    | nil => simp
    | cons r rest ih =>
      rw [List.foldl_cons, ih, file_list_add h, List.flatMap_cons, List.append_assoc]
  rw [combine, added, file_list_empty h, List.nil_append]

end RunResult

def World.mapState (f : σ → τ) (w : World σ) : World τ := ⟨w.base, w.helpers, w.console, f w.state⟩

def Session.mapState (f : σ → τ) (s : Session σ) : Session τ :=
  ⟨s.world.mapState f, s.shared, s.functions, s.report, s.journal, s.pauses, s.leaks⟩

/-- A state with the files that were given to a runner so far. -/
structure Noted (σ : Type) where
  state : σ
  files : List Text := []

def Session.noted (s : Session σ) : Session (Noted σ) := s.mapState ({ state := · })

namespace Batch

def noting (runner : FileRunner σ) : FileRunner (Noted σ) := fun file s =>
  let (result, t) := runner file (s.mapState Noted.state)
  (result, t.mapState fun state => ⟨state, s.world.state.files ++ [file]⟩)

/-- The files that a batch gives to its runner. -/
def given (disk : Disk) (config : Config) (runner : FileRunner σ) (files : List Text)
    (s : Session σ) : List Text :=
  (run disk config (noting runner) files s.noted).session.world.state.files

section

variable {disk : Disk} {config : Config} {runner : FileRunner σ}

theorem noting_eq {file : Text} {s : Session (Noted σ)} {answer t}
    (ran : runner file (s.mapState Noted.state) = (answer, t)) :
    noting runner file s =
      (answer, t.mapState fun state => ⟨state, s.world.state.files ++ [file]⟩) := by
  rw [noting, ran]

theorem run_files_given {alone : Text → RunResult} {files : List Text}
    (returns : ∀ file ∈ files, ∀ s, (runner file s).1 = .ok (alone file)) (s : Session (Noted σ)) :
    (runFiles disk config (noting runner) files s).session.world.state.files =
      s.world.state.files ++ files.filter (hasFound disk config.marker) := by
  induction files generalizing s with
  | nil => simp [runFiles]
  | cons file later ih =>
    have rest := fun s => ih (fun file member => returns file (List.mem_cons_of_mem _ member)) s
    cases found : hasFound disk config.marker file with
    | false =>
      rw [run_files_passed later found, List.filter_cons_of_neg (by simp [found])]
      split
      · exact rest _
      · exact rest _
    | true =>
      rw [List.filter_cons_of_pos found]
      have here := returns file List.mem_cons_self (scanned disk config file (s.mapState Noted.state))
      rcases ran : runner file (scanned disk config file (s.mapState Noted.state)) with ⟨e | r, t⟩
      · simp [ran] at here
      · rw [run_files_ran later found (noting_eq (s := scanned disk config file s) ran)]
        refine (rest _).trans ?_
        simp [Session.mapState, World.mapState, scanned]

/-- The setting with another seed, or with none. -/
def seeded (config : Config) (seed : Option Int) : Config := { config with shuffleSeed := seed }

theorem close_session (b : BatchRun σ) : b.close.session = b.session := by
  unfold BatchRun.close
  split <;> rfl

theorem given_eq {alone : Text → RunResult} {files : List Text}
    (returns : ∀ file ∈ files, ∀ s, (runner file s).1 = .ok (alone file)) (s : Session σ) :
    given disk config runner files s =
      (ordered config files).filter (hasFound disk config.marker) := by
  have order := ordered_perm config files
  rw [given, run, close_session]
  exact run_files_given (fun file member => returns file (order.subset member)) s.noted

end

/-- If every file comes to a result of its own, whatever the state it is run in, then any two seeds,
or none, give the same counters and the same lists of files up to their order. The order itself has
every file as often as it was added, and so often it is given to the runner if it has tests. -/
theorem file_order_does_not_matter (disk : Disk) (config : Config) (runner : FileRunner σ)
    (alone : Text → RunResult) (files : List Text)
    (returns : ∀ file ∈ files, ∀ s, (runner file s).1 = .ok (alone file)) (seed seed' : Option Int)
    (s s' : Session σ) :
    (ordered (seeded config seed) files).Perm files ∧
    (∃ total total', (run disk (seeded config seed) runner files s).total = .ok total ∧
      (run disk (seeded config seed') runner files s').total = .ok total' ∧
      (∀ counter ∈ RunResult.allCounters, counter total = counter total') ∧
      ∀ list ∈ RunResult.fileLists, (list total).Perm (list total')) ∧
    ∀ file, (given disk (seeded config seed) runner files s).count file =
      if hasFound disk config.marker file then files.count file else 0 := by
  have order := ordered_perm (seeded config seed) files
  have both := order.trans (ordered_perm (seeded config seed') files).symm
  have shares := both.filterMap (share disk config.marker alone)
  refine ⟨order, ⟨_, _, run_total disk _ returns s, run_total disk _ returns s', ?_, ?_⟩, ?_⟩
  · intro counter counted
    rw [RunResult.counter_combine counted, RunResult.counter_combine counted]
    exact (shares.map counter).sum_eq
  · intro list listed
    rw [RunResult.file_list_combine listed, RunResult.file_list_combine listed]
    exact shares.flatMap_right list
  · intro file
    rw [given_eq returns]
    have same := (order.filter (hasFound disk config.marker)).count_eq file
    refine same.trans ?_
    cases found : hasFound disk config.marker file with
    | true => simp [found]
    | false => simp [found, List.count_eq_zero]

def oneTest (file : Text) : RunResult :=
  { tests := 1, successes := 1, filesProcessed := [file], filesWithTests := [file] }

def oneTestEach : FileRunner Unit := fun file s => (.ok (oneTest file), s)

/-- A file with a test that was added twice, with another one between. -/
theorem order_of_three_files :
    (∀ file ∈ ["a.py".toList, "setup.py", "a.py"], ∀ s,
      (oneTestEach file s).1 = .ok (oneTest file)) ∧
    (∃ total total',
      (run testAndSetup (seeded {} (some 7)) oneTestEach ["a.py", "setup.py", "a.py"]
        { world := { state := () } }).total = .ok total ∧
      (run testAndSetup (seeded {} none) oneTestEach ["a.py", "setup.py", "a.py"]
        { world := { state := () } }).total = .ok total' ∧
      total.tests = total'.tests) ∧
    (given testAndSetup (seeded {} (some 7)) oneTestEach ["a.py", "setup.py", "a.py"]
      { world := { state := () } }).count "a.py".toList = 2 := by
  have returns : ∀ file ∈ ["a.py".toList, "setup.py", "a.py"], ∀ s,
      (oneTestEach file s).1 = .ok (oneTest file) := fun file _ s => rfl
  obtain ⟨-, ⟨total, total', first, second, counters, -⟩, counts⟩ :=
    file_order_does_not_matter testAndSetup {} oneTestEach oneTest _ returns (some 7) none
      { world := { state := () } } { world := { state := () } }
  refine ⟨returns, ⟨total, total', first, second, counters _ List.mem_cons_self⟩, ?_⟩
  have found : hasFound testAndSetup ({} : Config).marker "a.py" = true := by decide
  exact (counts "a.py").trans (by rw [if_pos found]; decide)

end Batch
end EmbeddedTests
