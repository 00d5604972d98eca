import EmbeddedTests.Proofs.FileResults
import Mathlib.Algebra.BigOperators.Group.List.Basic
import Mathlib.Algebra.Ring.Int.Defs

/-!
# What a batch adds up

Whatever the order of its files, a batch comes to the sums of what they come to by themselves, as
far as the scan finds tests in them. A file that is passed over can only have added unknown blocks,
failed set-ups and its own failure to be prepared.
-/
namespace EmbeddedTests

open Text

variable {σ : Type}

namespace RunResult

def allCounters : List (RunResult → Int) := tests :: errors :: softCounters

theorem soft_is_counter {counter : RunResult → Int} (h : counter ∈ softCounters) :
    counter ∈ allCounters :=
  List.mem_cons_of_mem _ (List.mem_cons_of_mem _ h)

theorem counter_add {counter : RunResult → Int} (h : counter ∈ allCounters) (a b : RunResult) :
    counter (a + b) = counter a + counter b := by
  simp only [allCounters, softCounters, List.mem_cons, List.not_mem_nil, or_false] at h
  rcases h with rfl | rfl | rfl | rfl | rfl | rfl | rfl | rfl <;> rfl

theorem counter_of_processed {counter : RunResult → Int} (h : counter ∈ allCounters)
    (files : List Text) : counter { filesProcessed := files } = 0 := by
  simp only [allCounters, softCounters, List.mem_cons, List.not_mem_nil, or_false] at h
  rcases h with rfl | rfl | rfl | rfl | rfl | rfl | rfl | rfl <;> rfl

theorem counter_classify {counter : RunResult → Int} (h : counter ∈ allCounters) (r : RunResult)
    (file : Text) (threshold : Int) : counter (r.classify file threshold) = counter r := by
  apply classify_kept
  intro r processed tested empty failed
  simp only [allCounters, softCounters, List.mem_cons, List.not_mem_nil, or_false] at h
  rcases h with rfl | rfl | rfl | rfl | rfl | rfl | rfl | rfl <;> rfl

theorem additive_combine {quantity : RunResult → Int} (empty : quantity {} = 0)
    (adds : ∀ a b : RunResult, quantity (a + b) = quantity a + quantity b)
    (results : List RunResult) : quantity (combine results) = (results.map quantity).sum := by
  have added (start : RunResult) :
      quantity (results.foldl (· + ·) start) = quantity start + (results.map quantity).sum := by
    induction results generalizing start with
    | nil => simp
    | cons r rest ih => rw [List.foldl_cons, ih, adds, List.map_cons, List.sum_cons]; omega
  rw [combine, added, empty]
  exact Int.zero_add _

theorem counter_combine {counter : RunResult → Int} (h : counter ∈ allCounters)
    (results : List RunResult) : counter (combine results) = (results.map counter).sum :=
  additive_combine (counter_of_processed h []) (counter_add h) results

end RunResult

namespace Shuffle

variable {α : Type}

theorem exchange_perm (items : Array α) (i j : Nat) : (exchange items i j).Perm items := by
  unfold exchange Array.swapIfInBounds
  split
  · split
    · exact Array.swap_perm _ _
    · exact .refl items
  · exact .refl items

theorem shuffle_from_perm (i : Nat) (items : Array α) (t : Twister) :
    (shuffleFrom i items t).Perm items := by
  induction i generalizing items t with
  | zero => exact .refl items
  | succ i ih => exact (ih _ _).trans (exchange_perm items (i + 1) _)

end Shuffle

theorem shuffle_perm {α : Type} (seed : Int) (items : List α) : (shuffle seed items).Perm items :=
  Array.perm_iff_toList_perm.mp (Shuffle.shuffle_from_perm _ items.toArray _)

namespace Batch

theorem ordered_perm (config : Config) (files : List Text) : (ordered config files).Perm files := by
  unfold ordered
  split
  · exact .refl files
  · exact shuffle_perm _ files

/-- Does the scan find a test in the file? -/
def hasFound (disk : Disk) (marker file : Text) : Bool := (scan disk marker file).1

def share (disk : Disk) (marker : Text) (alone : Text → RunResult) (file : Text) :
    Option RunResult :=
  if hasFound disk marker file then some (alone file)
  else if looksTestable file then some { filesProcessed := [file] }
  else none

def scanned (disk : Disk) (config : Config) (file : Text) (s : Session σ) : Session σ :=
  { s with journal := s.journal ++ (scan disk config.marker file).2 }

section

variable {disk : Disk} {config : Config} {runner : FileRunner σ} {file : Text} (later : List Text)

theorem run_files_passed (h : hasFound disk config.marker file = false) (s : Session σ) :
    runFiles disk config runner (file :: later) s =
      if looksTestable file then
        (runFiles disk config runner later (scanned disk config file s)).before []
          { filesProcessed := [file] }
      else runFiles disk config runner later (scanned disk config file s) := by
  simp only [hasFound] at h
  simp only [runFiles, h, scanned, Bool.false_eq_true, if_false]

theorem run_files_ran (h : hasFound disk config.marker file = true) {s t : Session σ} {r : RunResult}
    (ran : runner file (scanned disk config file s) = (.ok r, t)) :
    runFiles disk config runner (file :: later) s =
      (runFiles disk config runner later t).before (announcement file ++ passFail r) r := by
  simp only [hasFound] at h
  simp only [scanned] at ran
  simp only [runFiles, h, ran, if_true]

theorem run_files_left (h : hasFound disk config.marker file = true) {s t : Session σ} {e : TestError}
    (left : runner file (scanned disk config file s) = (.error e, t)) :
    runFiles disk config runner (file :: later) s = ⟨.error e, announcement file, t⟩ := by
  simp only [hasFound] at h
  simp only [scanned] at left
  simp only [runFiles, h, left, if_true]

end

theorem run_files_results (disk : Disk) (config : Config) {runner : FileRunner σ}
    {alone : Text → RunResult} {files : List Text}
    (returns : ∀ file ∈ files, ∀ s, (runner file s).1 = .ok (alone file)) (s : Session σ) :
    (runFiles disk config runner files s).results =
      .ok (files.filterMap (share disk config.marker alone)) := by
  induction files generalizing s with
  | nil => rfl
  | cons file later ih =>
    have rest := ih fun file member => returns file (List.mem_cons_of_mem _ member)
    cases found : hasFound disk config.marker file with
    | false =>
      rw [run_files_passed later found]
      cases testable : looksTestable file with
      | true => simp [share, found, testable, BatchRun.before, rest, Except.map]
      | false => simp [share, found, testable, rest]
    | true =>
      have here := returns file List.mem_cons_self (scanned disk config file s)
      rcases ran : runner file (scanned disk config file s) with ⟨e | r, u⟩
      · rw [ran] at here
        cases here
      · rw [ran] at here
        cases here
        rw [run_files_ran later found ran]
        simp [share, found, BatchRun.before, rest, Except.map]

theorem sum_shares {counter : RunResult → Int} (h : counter ∈ RunResult.allCounters) (disk : Disk)
    (marker : Text) (alone : Text → RunResult) (files : List Text) :
    ((files.filterMap (share disk marker alone)).map counter).sum =
      ((files.filter (hasFound disk marker)).map fun file => counter (alone file)).sum := by
  induction files with
  | nil => rfl
  | cons file later ih =>
    cases found : hasFound disk marker file with
    | true => simp [share, found, ih]
    | false =>
      cases testable : looksTestable file with
      | true => simp [share, found, testable, ih, RunResult.counter_of_processed h]
      | false => simp [share, found, testable, ih]

theorem close_total (b : BatchRun σ) : b.close.total = b.total := by
  unfold BatchRun.close
  split <;> rfl

theorem run_total (disk : Disk) (config : Config) {runner : FileRunner σ}
    {alone : Text → RunResult} {files : List Text}
    (returns : ∀ file ∈ files, ∀ s, (runner file s).1 = .ok (alone file)) (s : Session σ) :
    (run disk config runner files s).total =
      .ok (.combine ((ordered config files).filterMap (share disk config.marker alone))) := by
  have order := ordered_perm config files
  have results := run_files_results disk config
    (fun file member => returns file (order.subset member)) s
  rw [run, close_total, BatchRun.total, results]
  rfl

/-- If each file comes to a result by itself, the batch comes to the sums of those with tests. -/
theorem total_of_results (disk : Disk) (config : Config) {runner : FileRunner σ}
    {alone : Text → RunResult} {files : List Text}
    (returns : ∀ file ∈ files, ∀ s, (runner file s).1 = .ok (alone file)) (s : Session σ) :
    ∃ total, (run disk config runner files s).total = .ok total ∧
      ∀ counter ∈ RunResult.allCounters, counter total =
        ((files.filter (hasFound disk config.marker)).map fun file =>
          counter (alone file)).sum := by
  refine ⟨_, run_total disk config returns s, ?_⟩
  intro counter counted
  rw [RunResult.counter_combine counted, sum_shares counted]
  exact (((ordered_perm config files).filter _).map _).sum_eq

/-- A test of one file as in a batch. -/
def single (g : Setting σ) (disk : Disk) (world : World σ) (file : Text) : TestRun σ :=
  g.test { name := some file, mode := TestMode.quiet.name, batch := true } disk { world := world }

/-- What a file comes to by itself. -/
def singleResult (g : Setting σ) (disk : Disk) (world : World σ) (file : Text) : RunResult :=
  ((single g disk world file).output.toOption.bind TestOutput.result?).getD {}

theorem file_runner_of_single {g : Setting σ} {disk : Disk} {world : World σ} {file : Text}
    {course : Course σ} {result : RunResult}
    (output : (single g disk world file).output = .ok (.tested (Path.tidy file) course result))
    (s : Session σ) : (fileRunner g disk world file s).1 = .ok result := by
  change (single g disk world file).output.map _ = _
  rw [output]
  rfl

theorem single_of_readable {g : Setting σ} {disk : Disk} {world : World σ} {file text : Text}
    (readable : disk.readText (Path.tidy file) decodeUtf8 = .ok text)
    (stays : ∀ escape, (single g disk world file).output ≠ .error (.escape escape)) :
    ∃ course, (single g disk world file).output =
        .ok (.tested (Path.tidy file) course (singleResult g disk world file)) ∧
      (hasFound disk g.config.marker file = false →
        ∀ counter ∈ RunResult.softCounters, counter (singleResult g disk world file) = 0) := by
  obtain ⟨options, course, batch, takes, output⟩ := course_of_readable (g := g) .quiet
    readable nofun nofun { world := world }
  change (single g disk world file).output = _ at output
  cases course with
  | error escape => exact absurd output (stays escape)
  | ok course =>
    have result : singleResult g disk world file =
        course.counted.classify (Path.tidy file) g.config.failThreshold := by
      rw [singleResult, output]
      rfl
    refine ⟨course, result ▸ output, ?_⟩
    intro passed counter soft
    have unscanned : hasTests g.config.marker text = false := by
      simpa [hasFound, scan, readable] using passed
    rw [result, RunResult.counter_classify (RunResult.soft_is_counter soft)]
    exact takes.soft_counters_of_strays batch (fun b => kind_of_unscanned unscanned) counter soft

theorem sum_filter_of_zero {counter : Text → Int} {found : Text → Bool} {files : List Text}
    (zero : ∀ file ∈ files, found file = false → counter file = 0) :
    ((files.filter found).map counter).sum = (files.map counter).sum := by
  induction files with
  | nil => rfl
  | cons file later ih =>
    have rest := ih fun file member => zero file (List.mem_cons_of_mem _ member)
    cases here : found file with
    | true => simp [here, rest]
    | false => simp [here, rest, zero file List.mem_cons_self here]

/-- For readable files whose runs are not left, a batch comes to a result. Its counters are the sums
of those of the files in which the scan finds a test. The other files by themselves have no
successes, known failures, known bugs, skipped tests or regressions, so for these six counters the
sums over all files are the same. -/
theorem batch_adds_up_found_files (g : Setting σ) (disk : Disk) (world : World σ)
    (files : List Text) (s : Session σ)
    (readable : ∀ file ∈ files, ∃ text, disk.readText (Path.tidy file) decodeUtf8 = .ok text)
    (stays : ∀ file ∈ files, ∀ escape,
      (single g disk world file).output ≠ .error (.escape escape)) :
    ∃ total, (run disk g.config (fileRunner g disk world) files s).total = .ok total ∧
      (∀ file ∈ files, ∃ course, (single g disk world file).output =
        .ok (.tested (Path.tidy file) course (singleResult g disk world file))) ∧
      (∀ counter ∈ RunResult.allCounters, counter total =
        ((files.filter (hasFound disk g.config.marker)).map fun file =>
          counter (singleResult g disk world file)).sum) ∧
      (∀ file ∈ files, hasFound disk g.config.marker file = false →
        ∀ counter ∈ RunResult.softCounters, counter (singleResult g disk world file) = 0) ∧
      ∀ counter ∈ RunResult.softCounters, counter total =
        (files.map fun file => counter (singleResult g disk world file)).sum := by
  have each (file : Text) (member : file ∈ files) :=
    single_of_readable (readable file member).choose_spec (stays file member)
  have returns (file : Text) (member : file ∈ files) (s : Session σ) :
      (fileRunner g disk world file s).1 = .ok (singleResult g disk world file) := by
    obtain ⟨course, output, -⟩ := each file member
    exact file_runner_of_single output s
  obtain ⟨total, comes, sums⟩ := total_of_results disk g.config returns s
  have passed (file : Text) (member : file ∈ files)
      (h : hasFound disk g.config.marker file = false) (counter : RunResult → Int)
      (soft : counter ∈ RunResult.softCounters) :
      counter (singleResult g disk world file) = 0 := by
    obtain ⟨course, -, none⟩ := each file member
    exact none h counter soft
  refine ⟨total, comes, ?_, sums, passed, ?_⟩
  · intro file member
    obtain ⟨course, output, -⟩ := each file member
    exact ⟨course, output⟩
  · intro counter soft
    rw [sums counter (RunResult.soft_is_counter soft)]
    exact sum_filter_of_zero fun file member h => passed file member h counter soft

/-- A file with a test that passes, and one whose only block fails to set up shared variables. -/
def testAndSetup : Disk := diskOf [("a.py", "#!test\n"), ("setup.py", "#!shared 1\n")]

theorem not_left_of_output {g : Setting σ} {disk : Disk} {world : World σ} {file : Text}
    (h : (single g disk world file).output.toOption.isSome = true) (escape : Escape) :
    (single g disk world file).output ≠ .error (.escape escape) := by
  intro left
  rw [left] at h
  cases h

theorem ok_of_to_option {α : Type} {x : Except TestError α} {a : α} (h : x.toOption = some a) :
    x = .ok a := by
  cases x with
  | error e => cases h
  | ok b => exact congrArg Except.ok (Option.some.inj h)

theorem test_and_setup_add_up :
    (∀ file ∈ ["a.py".toList, "setup.py"], ∃ text,
      testAndSetup.readText (Path.tidy file) decodeUtf8 = .ok text) ∧
    (∀ file ∈ ["a.py".toList, "setup.py"], ∀ escape,
      (single idleSetting testAndSetup { state := [] } file).output ≠ .error (.escape escape)) ∧
    ∃ total, (run testAndSetup idleSetting.config
        (fileRunner idleSetting testAndSetup { state := [] }) ["a.py", "setup.py"]
        { world := { state := [] } }).total = .ok total ∧
      ∀ counter ∈ RunResult.softCounters, counter total =
        (["a.py".toList, "setup.py"].map fun file =>
          counter (singleResult idleSetting testAndSetup { state := [] } file)).sum := by
  have readable : ∀ file ∈ ["a.py".toList, "setup.py"], ∃ text,
      testAndSetup.readText (Path.tidy file) decodeUtf8 = .ok text := by
    simp only [List.mem_cons, List.not_mem_nil, or_false, forall_eq_or_imp, forall_eq]
    exact ⟨⟨_, rfl⟩, ⟨_, rfl⟩⟩
  have stays : ∀ file ∈ ["a.py".toList, "setup.py"], ∀ escape,
      (single idleSetting testAndSetup { state := [] } file).output ≠ .error (.escape escape) := by
    intro file member
    apply not_left_of_output
    revert file
    decide +kernel
  obtain ⟨total, comes, -, -, -, sums⟩ := batch_adds_up_found_files idleSetting testAndSetup
    { state := [] } ["a.py", "setup.py"] { world := { state := [] } } readable stays
  exact ⟨readable, stays, total, comes, sums⟩

/-- A failed set-up in a file without tests counts where the file is tested by itself, and is lost
in a batch. -/
theorem failed_setup_is_passed_over :
    (∃ text, testAndSetup.readText (Path.tidy "setup.py") decodeUtf8 = .ok text) ∧
    (∀ escape, (single idleSetting testAndSetup { state := [] } "setup.py").output ≠
      .error (.escape escape)) ∧
    (singleResult idleSetting testAndSetup { state := [] } "setup.py").errors = 1 ∧
    (run testAndSetup idleSetting.config (fileRunner idleSetting testAndSetup { state := [] })
      ["setup.py"] { world := { state := [] } }).total =
        .ok { filesProcessed := ["setup.py"] } := by
  refine ⟨⟨_, rfl⟩, not_left_of_output ?_, ?_, ok_of_to_option ?_⟩
  all_goals decide +kernel

end Batch
end EmbeddedTests
