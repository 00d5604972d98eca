import EmbeddedTests.Proofs.Sorting

/-!
# What a watch for leaks reports

A comparison is about two moments, that of the last snapshot and that of the comparison; what
happened between them counts only by what it left. Where the list of open files was refused at the
snapshot, a file that was open then is reported as if it were new.
-/
namespace EmbeddedTests

open Text

/-- Something happens, or the watch is asked what has appeared, with or without warnings. -/
inductive LeakOperation where
  | event (e : LeakEvent)
  | compare
  | check (file : Text)
  deriving DecidableEq, Repr

/-- What a watch answers: what has appeared, and the warnings about it. -/
structure LeakAnswer where
  report : LeakReport
  warnings : List Text
  deriving DecidableEq, Repr

namespace LeakWatch

/-- What an operation leaves, and what it is answered by. -/
def perform (w : LeakWatch) : LeakOperation → LeakWatch × Option LeakAnswer
  | .event e => (w.next e, none)
  | .compare => (w, w.compare?.map (⟨·, []⟩))
  | .check file => (w, w.compare?.map fun report => ⟨report, report.messages file⟩)

def performAll (w : LeakWatch) (operations : List LeakOperation) : LeakWatch :=
  operations.foldl (fun w operation => (w.perform operation).1) w

/-- The system refuses to list the open files. -/
def Denied (w : LeakWatch) : Prop := w.surroundings.openFiles = none

instance (w : LeakWatch) : Decidable w.Denied := inferInstanceAs (Decidable (_ = none))

/-- The files that are listed are those that are open. -/
def Consistent (w : LeakWatch) : Prop :=
  ∀ listed, w.surroundings.openFiles = some listed → listed = w.files

section

variable {w : LeakWatch}

theorem perform_all_append (w : LeakWatch) (early late : List LeakOperation) :
    w.performAll (early ++ late) = (w.performAll early).performAll late :=
  List.foldl_append

/-- A file is seen if it is open, unless the list is refused. -/
theorem Consistent.mem_seen (h : w.Consistent) {file : Text} :
    file ∈ w.surroundings.openFiles.getD [] ↔ ¬ w.Denied ∧ file ∈ w.files := by
  unfold Denied
  cases listed : w.surroundings.openFiles with
  | none => simp
  | some files => simp [h files listed]

theorem consistent_with_files (w : LeakWatch) (files : List Text) :
    (w.withFiles files).Consistent := by
  intro listed shown
  obtain ⟨-, -, rfl⟩ := Option.map_eq_some_iff.mp shown
  rfl

theorem Consistent.next (h : w.Consistent) (e : LeakEvent) : (w.next e).Consistent := by
  cases e with
  | openFile path => exact consistent_with_files w _
  | closeFile path => exact consistent_with_files w _
  | deny => exact nofun
  | allow =>
    intro listed shown
    exact (Option.some.inj shown).symm
  | snapshot => exact h
  | bindName name => exact h
  | unbindName name => exact h
  | bindBuiltin name => exact h
  | unbindBuiltin name => exact h

theorem Consistent.perform_all (h : w.Consistent) (operations : List LeakOperation) :
    (w.performAll operations).Consistent := by
  induction operations generalizing w with
  | nil => exact h
  | cons operation rest ih =>
    cases operation with
    | event e => exact ih (h.next e)
    | compare => exact ih h
    | check file => exact ih h

theorem before_perform {operation : LeakOperation} (other : operation ≠ .event .snapshot) :
    (w.perform operation).1.before = w.before := by
  cases operation with
  | event e =>
    cases e with
    | snapshot => exact absurd rfl other
    | _ => rfl
  | compare => rfl
  | check file => rfl

theorem before_perform_all {operations : List LeakOperation}
    (others : .event .snapshot ∉ operations) :
    (w.performAll operations).before = w.before := by
  induction operations generalizing w with
  | nil => rfl
  | cons operation rest ih =>
    have here : operation ≠ .event .snapshot := by
      rintro rfl
      exact others List.mem_cons_self
    exact (ih fun later => others (List.mem_cons_of_mem _ later)).trans (before_perform here)

end

/-- What is reported of two moments: each thing that is new, once and in order. A file counts as new
also if it could not be seen at the earlier one. -/
structure Tells (report : LeakReport) (earlier later : LeakWatch) : Prop where
  files : ∀ file, file ∈ report.files ↔
    ¬ later.Denied ∧ file ∈ later.files ∧ (earlier.Denied ∨ file ∉ earlier.files)
  names : ∀ name, name ∈ report.names ↔
    name ∈ later.surroundings.names ∧ name ∉ earlier.surroundings.names ∧ name ∉ sentinels
  builtins : ∀ name, name ∈ report.builtins ↔
    name ∈ later.surroundings.builtins ∧ name ∉ earlier.surroundings.builtins
  files_ascending : report.files.Pairwise (· < ·)
  names_ascending : report.names.Pairwise (· < ·)
  builtins_ascending : report.builtins.Pairwise (· < ·)

theorem tells_between {earlier later : LeakWatch} (h : earlier.Consistent)
    (h' : later.Consistent) :
    Tells (.between earlier.surroundings.snapshot later.surroundings.snapshot) earlier later where
  files file := by
    have new : file ∈ (LeakReport.between earlier.surroundings.snapshot
        later.surroundings.snapshot).files ↔
        file ∈ later.surroundings.openFiles.getD [] ∧
          file ∉ earlier.surroundings.openFiles.getD [] := mem_new_texts
    rw [new, h.mem_seen, h'.mem_seen]
    tauto
  names name := by
    have new : name ∈ (LeakReport.between earlier.surroundings.snapshot
        later.surroundings.snapshot).names ↔
        name ∈ later.surroundings.names ++ sentinels ∧
          name ∉ earlier.surroundings.names ++ sentinels := mem_new_texts
    rw [new, List.mem_append, List.mem_append]
    tauto
  builtins name := mem_new_texts
  files_ascending := new_texts_ascending _ _
  names_ascending := new_texts_ascending _ _
  builtins_ascending := new_texts_ascending _ _

/-- What a comparison says depends on the moment of the last snapshot and on its own: it tells what
is new, and a file that was open at the snapshot is reported exactly if the list of files was refused
then and is given now, with the file on it. Without a snapshot there is no answer. Asking changes
nothing, with or without warnings. -/
theorem report_tells_new {w : LeakWatch} (h : w.Consistent) (early late : List LeakOperation)
    (last : .event .snapshot ∉ late) :
    let earlier := w.performAll early
    let later := w.performAll (early ++ .event .snapshot :: late)
    (∃ report, later.compare? = some report ∧ Tells report earlier later ∧
      (∀ file ∈ earlier.files, file ∈ report.files ↔
        earlier.Denied ∧ ¬ later.Denied ∧ file ∈ later.files) ∧
      later.perform .compare = (later, some ⟨report, []⟩) ∧
      ∀ name, later.perform (.check name) = (later, some ⟨report, report.messages name⟩)) ∧
    (w.before = none → (w.performAll late).compare? = none) := by
  intro earlier later
  have taken : later.before = some earlier.surroundings.snapshot := by
    change (w.performAll (early ++ .event .snapshot :: late)).before = _
    rw [perform_all_append]
    exact before_perform_all last
  have compared : later.compare? =
      some (.between earlier.surroundings.snapshot later.surroundings.snapshot) := by
    unfold compare?
    rw [taken]
    rfl
  have tells := tells_between (h.perform_all early)
    (h.perform_all (early ++ .event .snapshot :: late))
  refine ⟨⟨_, compared, tells, ?_, ?_, ?_⟩, ?_⟩
  · intro file known
    rw [tells.files]
    tauto
  · unfold perform
    rw [compared]
    rfl
  · intro name
    unfold perform
    rw [compared]
    rfl
  · intro none
    unfold compare?
    rw [before_perform_all last, none]
    rfl

/-- A name that is bound after the snapshot is reported, in spite of a comparison in between. -/
theorem bound_name_is_told :
    let early : List LeakOperation := [.event (.bindName "x")]
    let late : List LeakOperation := [.compare, .event (.bindName "stray")]
    Consistent {} ∧ .event .snapshot ∉ late ∧
      ∃ report, (performAll {} (early ++ .event .snapshot :: late)).compare? = some report ∧
        "stray".toList ∈ report.names ∧ "x".toList ∉ report.names := by
  intro early late
  have start : Consistent {} := by
    intro listed shown
    exact (Option.some.inj shown).symm
  have last : .event .snapshot ∉ late := by decide
  obtain ⟨⟨report, compared, tells, -⟩, -⟩ := report_tells_new start early late last
  refine ⟨start, last, report, compared, ?_, ?_⟩
  · exact (tells.names "stray").mpr (by decide)
  · exact fun told => absurd ((tells.names "x").mp told) (by decide)

/-- Files are not listed while the snapshot is taken, and again afterwards: one that was open all the
time is reported. -/
theorem file_open_at_refused_snapshot_is_told :
    let early : List LeakOperation := [.event (.openFile "held.txt"), .event .deny]
    "held.txt".toList ∈ (performAll {} early).files ∧
      ∃ report, (performAll {} (early ++ [.event .snapshot, .event .allow])).compare? =
          some report ∧
        "held.txt".toList ∈ report.files :=
  ⟨by decide, _, rfl, mem_new_texts.mpr (by decide)⟩

end LeakWatch
end EmbeddedTests
