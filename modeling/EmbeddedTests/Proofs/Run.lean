import EmbeddedTests.Proofs.Execution

/-!
# Steps and runs

A run is a sequence of steps, each from the state that the one before it left. `Reaches` says which
block is stepped from which state; `Steps.transitions` lists the steps that were completed. What
every step does thereby holds of every transition, and a run is left exactly where a block that it
reaches is left.
-/
namespace EmbeddedTests

variable {σ : Type}

/-- The states differ in nothing but what was shown and logged. -/
structure Session.Alike (s t : Session σ) : Prop where
  shared : t.shared = s.shared
  functions : t.functions = s.functions
  pauses : t.pauses = s.pauses
  leaks : t.leaks = s.leaks
  base : t.world.base = s.world.base
  helpers : t.world.helpers = s.world.helpers
  state : t.world.state = s.world.state

theorem Session.Alike.refl (s : Session σ) : s.Alike s := ⟨rfl, rfl, rfl, rfl, rfl, rfl, rfl⟩

theorem Session.Alike.trans {s t u : Session σ} (h : s.Alike t) (k : t.Alike u) : s.Alike u :=
  ⟨k.shared.trans h.shared, k.functions.trans h.functions, k.pauses.trans h.pauses,
    k.leaks.trans h.leaks, k.base.trans h.base, k.helpers.trans h.helpers, k.state.trans h.state⟩

theorem log_alike (s : Session σ) (level origin message) : s.Alike (s.log level origin message) :=
  ⟨rfl, rfl, rfl, rfl, rfl, rfl, rfl⟩

theorem emit_alike (sink : Sink) (t : Text) (s : Session σ) : s.Alike (s.emit sink t) := by
  cases sink <;> exact ⟨rfl, rfl, rfl, rfl, rfl, rfl, rfl⟩

/-- The state in which the blocks of a file start to run. -/
def Session.begun (s : Session σ) : Session σ := { s with world := s.world.installHelpers }

theorem Session.begun_world (s : Session σ) : s.begun.world = s.world.installHelpers := rfl

/-- What of a world is apart from its names. -/
def World.rest (w : World σ) : σ × Text := (w.state, w.console)

theorem rest_unbind_all (w : World σ) (names : List Text) :
    (names.foldl World.unbind w).rest = w.rest := by
  induction names generalizing w with
  | nil => rfl
  | cons name later ih => exact ih (w.unbind name)

theorem rest_install_helpers (w : World σ) : w.installHelpers.rest = w.rest := by
  have one (u : World σ) (b : Builtin) : (u.installHelper b).rest = u.rest := by
    unfold World.installHelper
    split <;> rfl
  unfold World.installHelpers
  generalize helperFunctions = helpers
  induction helpers generalizing w with
  | nil => rfl
  | cons b later ih => exact (ih (w.installHelper b)).trans (one w b)

theorem rest_tear_down (s : Session σ) : s.tearDown.world.rest = s.world.rest := by
  change (List.foldl World.unbind _ _).rest = _
  rw [rest_unbind_all, rest_unbind_all]

namespace Engine

theorem echo_alike (e : Engine σ) (b : Block) (s : Session σ) : s.Alike (e.echo b s) :=
  emit_alike _ _ s

theorem tell_alike (e : Engine σ) (r : BlockReport) (s : Session σ) : s.Alike (e.tell r s) := by
  unfold tell
  split
  · split
    · exact (e.echo_alike r.block s).trans (emit_alike _ _ _)
    · exact emit_alike _ _ s
  · exact .refl s

inductive Reports (e : Engine σ) (r : BlockReport) (s : Session σ) :
    Attempt Unit → Session σ → Prop where
  | plain (short : e.describes r s.shared = false) : Reports e r s (.ok ()) (e.tell r s)
  | left {escape w} (long : e.describes r s.shared = true)
      (described : Shared.describe e.evaluator s.shared (e.tell r s).world = (.error escape, w)) :
      Reports e r s (.error escape) { e.tell r s with world := w }
  | described {lines w} (long : e.describes r s.shared = true)
      (described : Shared.describe e.evaluator s.shared (e.tell r s).world = (.ok lines, w)) :
      Reports e r s (.ok ())
        (Session.emit e.sink (description lines) { e.tell r s with world := w })

theorem reports_iff {e : Engine σ} {r : BlockReport} {s t : Session σ} {a : Attempt Unit} :
    e.Reports r s a t ↔ e.emitReport r s = (a, t) := by
  unfold emitReport
  dsimp only
  constructor
  · intro h
    cases h with
    | plain short => simp only [short, Bool.false_eq_true, if_false]
    | left long described => simp only [long, described, if_true]
    | described long described => simp only [long, described, if_true]
  · intro h
    cases long : e.describes r s.shared with
    | false =>
      simp only [long, Bool.false_eq_true, if_false] at h
      cases h
      exact .plain long
    | true =>
      simp only [long, if_true] at h
      split at h
      · rename_i escape w described
        cases h
        exact .left long described
      · rename_i lines w described
        cases h
        exact .described long described

theorem emit_report_keeps {e : Engine σ} {r : BlockReport} {s t : Session σ} {a : Attempt Unit}
    (h : e.emitReport r s = (a, t)) :
    t.shared = s.shared ∧ t.functions = s.functions ∧ t.pauses = s.pauses ∧ t.leaks = s.leaks := by
  have told := e.tell_alike r s
  cases reports_iff.mpr h with
  | plain | left => exact ⟨told.shared, told.functions, told.pauses, told.leaks⟩
  | @described lines w =>
    have shown := emit_alike e.sink (description lines) { e.tell r s with world := w }
    exact ⟨shown.shared.trans told.shared, shown.functions.trans told.functions,
      shown.pauses.trans told.pauses, shown.leaks.trans told.leaks⟩

/-- The state in which a block is executed: it has been shown, if that was asked for. -/
def announced (e : Engine σ) (b : Block) (s : Session σ) : Session σ :=
  (if e.options.verbose > 0 then e.echo b s else s).log .debug .engine
    ("running " ++ b.kind.name ++ " block")

theorem announced_alike (e : Engine σ) (b : Block) (s : Session σ) : s.Alike (e.announced b s) := by
  unfold announced
  split
  · exact (e.echo_alike b s).trans (log_alike _ _ _ _)
  · exact log_alike _ _ _ _

def reportOf (e : Engine σ) (b : Block) (verdict : Verdict) : BlockReport :=
  ⟨b, verdict.1, verdict.2, verdict.1.isHard && !e.options.batch⟩

theorem step_eq (e : Engine σ) (b : Block) (s : Session σ) :
    e.step b s =
      match e.execute b (e.announced b s) with
      | (.error escape, u) => (.error escape, u)
      | (.ok verdict, u) =>
        let (told, t) := e.emitReport (e.reportOf b verdict) u
        (told.map fun _ => e.reportOf b verdict, t) := by
  rcases run : e.execute b (e.announced b s) with ⟨_ | verdict, u⟩
  all_goals
    unfold announced at run
    simp only [step, run, reportOf]

theorem step_ok_iff {e : Engine σ} {b : Block} {s t : Session σ} {r : BlockReport} :
    e.step b s = (.ok r, t) ↔
      ∃ verdict u, e.Executes (e.announced b s) b.content (.ok verdict) u ∧
        r = e.reportOf b verdict ∧ e.emitReport r u = (.ok (), t) := by
  rw [step_eq]
  rcases run : e.execute b (e.announced b s) with ⟨escape | verdict, u⟩
  · simp [executes_iff, run]
  · rcases told : e.emitReport (e.reportOf b verdict) u with ⟨escape | _, v⟩
    · simp only [executes_iff, run, told, Except.map]
      constructor
      · rintro ⟨⟩
      · rintro ⟨_, _, ⟨⟩, rfl, done⟩
        cases told.symm.trans done
    · simp only [executes_iff, run, told, Except.map]
      constructor
      · rintro ⟨⟩
        exact ⟨verdict, u, rfl, rfl, told⟩
      · rintro ⟨_, _, ⟨⟩, rfl, done⟩
        cases told.symm.trans done
        rfl

theorem step_error_iff {e : Engine σ} {b : Block} {s t : Session σ} {escape : Escape} :
    e.step b s = (.error escape, t) ↔
      e.Executes (e.announced b s) b.content (.error escape) t ∨
        ∃ verdict u, e.Executes (e.announced b s) b.content (.ok verdict) u ∧
          e.emitReport (e.reportOf b verdict) u = (.error escape, t) := by
  rw [step_eq]
  rcases run : e.execute b (e.announced b s) with ⟨left | verdict, u⟩
  · simp [executes_iff, run]
  · rcases told : e.emitReport (e.reportOf b verdict) u with ⟨left | _, v⟩
    · simp only [executes_iff, run, told, Except.map]
      constructor
      · rintro ⟨⟩
        exact .inr ⟨verdict, u, rfl, told⟩
      · rintro (⟨⟨⟩⟩ | ⟨_, _, ⟨⟩, done⟩)
        cases told.symm.trans done
        rfl
    · simp only [executes_iff, run, told, Except.map]
      constructor
      · rintro ⟨⟩
      · rintro (⟨⟨⟩⟩ | ⟨_, _, ⟨⟩, done⟩)
        cases told.symm.trans done

theorem step_report {e : Engine σ} {b : Block} {s t : Session σ} {r : BlockReport}
    (h : e.step b s = (.ok r, t)) :
    r.block = b ∧ r.halted = (r.outcome.isHard && !e.options.batch) := by
  obtain ⟨verdict, u, _, rfl, _⟩ := step_ok_iff.mp h
  exact ⟨rfl, rfl⟩

/-- When the blocks are run from a state, the block is stepped from the other state. -/
inductive Reaches (e : Engine σ) : List Block → Session σ → Block → Session σ → Prop where
  | here {b rest s} : Reaches e (b :: rest) s b s
  | later {b c rest s t u r} (done : e.step c s = (.ok r, t)) (goes : r.halted = false)
      (next : Reaches e rest t b u) : Reaches e (c :: rest) s b u

/-- One completed step: the states around it, and what was reported. -/
structure Transition (σ : Type) where
  before : Session σ
  report : BlockReport
  after : Session σ

def transitionsFrom : Session σ → List (BlockReport × Session σ) → List (Transition σ)
  | _, [] => []
  | s, (r, t) :: rest => ⟨s, r, t⟩ :: transitionsFrom t rest

/-- The completed steps of a run that started in the state. -/
def Steps.transitions (r : Steps σ) (start : Session σ) : List (Transition σ) :=
  transitionsFrom start r.done

theorem reports_transitions_from (s : Session σ) (done : List (BlockReport × Session σ)) :
    (transitionsFrom s done).map Transition.report = done.map (·.1) := by
  induction done generalizing s with
  | nil => rfl
  | cons first rest ih => simp [transitionsFrom, ih]

theorem reports_transitions (r : Steps σ) (start : Session σ) :
    (r.transitions start).map Transition.report = r.reports :=
  reports_transitions_from start r.done

theorem transition_is_step {e : Engine σ} {file : Text} {blocks : List Block} {s : Session σ}
    {t : Transition σ} (h : t ∈ (e.steps file blocks s).transitions s) :
    e.Reaches blocks s t.report.block t.before ∧
      e.step t.report.block t.before = (.ok t.report, t.after) := by
  induction blocks generalizing s with
  | nil => simp [steps, Steps.transitions, transitionsFrom] at h
  | cons b rest ih =>
    unfold steps at h
    rcases run : e.step b s with ⟨_ | r, u⟩
    · simp [run, Steps.transitions, transitionsFrom] at h
    · have hb : r.block = b := (step_report run).1
      have first : t = ⟨s, r, u⟩ → e.Reaches (b :: rest) s t.report.block t.before ∧
          e.step t.report.block t.before = (.ok t.report, t.after) := by
        rintro rfl
        subst hb
        exact ⟨.here, run⟩
      cases goes : r.halted with
      | true =>
        simp only [run, goes, if_true, Steps.transitions, transitionsFrom, List.mem_singleton] at h
        exact first h
      | false =>
        simp only [run, goes, Bool.false_eq_true, if_false, Steps.transitions, transitionsFrom,
          List.mem_cons] at h
        rcases h with h | h
        · exact first h
        · obtain ⟨reached, done⟩ := ih h
          exact ⟨.later run goes reached, done⟩

/-- A run is left exactly where a block that it reaches is left. -/
theorem steps_escape_iff {e : Engine σ} {file : Text} {blocks : List Block} {s : Session σ}
    {escape : Escape} :
    (e.steps file blocks s).escape = some escape ↔
      ∃ b t, e.Reaches blocks s b t ∧ (e.step b t).1 = .error escape := by
  induction blocks generalizing s with
  | nil =>
    constructor
    · intro h
      cases h
    · rintro ⟨b, t, reached, _⟩
      cases reached
  | cons b rest ih =>
    unfold steps
    rcases run : e.step b s with ⟨left | r, u⟩
    · constructor
      · intro h
        cases h
        exact ⟨b, s, .here, by rw [run]⟩
      · rintro ⟨c, t, reached, h⟩
        cases reached with
        | here =>
          rw [run] at h
          cases h
          rfl
        | later done => simp [run] at done
    · -- The first step is completed, so the run is left later or not at all.
      have here : (e.step b s).1 ≠ .error escape := by simp [run]
      cases goes : r.halted with
      | true =>
        simp only [goes, if_true]
        constructor
        · intro h
          cases h
        · rintro ⟨c, t, reached, h⟩
          cases reached with
          | here => exact absurd h here
          | later done open_ =>
            rw [run] at done
            cases done
            simp [goes] at open_
      | false =>
        simp only [goes, Bool.false_eq_true, if_false]
        rw [ih]
        constructor
        · rintro ⟨c, t, reached, h⟩
          exact ⟨c, t, .later run goes reached, h⟩
        · rintro ⟨c, t, reached, h⟩
          cases reached with
          | here => exact absurd h here
          | later done _ next =>
            rw [run] at done
            cases done
            exact ⟨c, t, next, h⟩

/-- A halted step is the last one, and its state that of the whole run. -/
theorem steps_of_halted {e : Engine σ} {file : Text} {blocks : List Block} {s t : Session σ}
    {r : BlockReport} (last : (e.steps file blocks s).done.getLast? = some (r, t))
    (halted : r.halted = true) :
    (e.steps file blocks s).escape = none ∧
      (e.steps file blocks s).last =
        t.log .info .engine (file ++ ": stopping after hard failure") := by
  induction blocks generalizing s with
  | nil => simp [steps] at last
  | cons b rest ih =>
    unfold steps at last ⊢
    rcases run : e.step b s with ⟨escape | first, u⟩
    · simp [run] at last
    · cases goes : first.halted with
      | true =>
        simp only [run, goes, if_true, List.getLast?_singleton, Option.some.injEq] at last
        cases last
        simp only [goes, if_true, true_and]
      | false =>
        simp only [run, goes, Bool.false_eq_true, if_false, List.getLast?_cons,
          Option.some.injEq] at last
        simp only [goes, Bool.false_eq_true, if_false]
        cases later : (e.steps file rest u).done.getLast? with
        | none =>
          -- Then the first step is the last one, but it is not halted.
          simp only [later, Option.getD_none] at last
          cases last
          simp [goes] at halted
        | some step =>
          simp only [later, Option.getD_some] at last
          exact ih (later.trans (congrArg some last))

/-- Looking for leaks only tells of them. -/
theorem check_leaks_eq (e : Engine σ) (file : Text) (before : LeakSnapshot) (s : Session σ) :
    let messages :=
      (LeakReport.between before (e.evaluator.surroundings s.world).snapshot).messages file
    e.checkLeaks file before s =
      { s with
        journal := s.journal ++ messages.map fun message => ⟨.warning, .leaks, message⟩
        leaks := s.leaks ++ messages } := by
  unfold checkLeaks
  dsimp only
  generalize (LeakReport.between before _).messages file = messages
  induction messages generalizing s with
  | nil => simp
  | cons message rest ih =>
    rw [List.foldl_cons, ih]
    simp [Session.log]

theorem check_leaks_world (e : Engine σ) (file : Text) (before : LeakSnapshot) (s : Session σ) :
    (e.checkLeaks file before s).world = s.world := by rw [check_leaks_eq]

theorem run_eq (e : Engine σ) (file : Text) (blocks : List Block) (s : Session σ) :
    e.run file blocks s = { e.steps file blocks s.begun with
      last := e.checkLeaks file (e.evaluator.surroundings s.world).snapshot
        (e.steps file blocks s.begun).last.tearDown } := rfl

theorem run_last_state (e : Engine σ) (file : Text) (blocks : List Block) (s : Session σ) :
    (e.run file blocks s).last.world.state = (e.steps file blocks s.begun).last.world.state := by
  rw [run_eq, check_leaks_world]
  exact congrArg Prod.fst (rest_tear_down _)

theorem reported_by_step {e : Engine σ} {file : Text} {blocks : List Block} {s : Session σ}
    {r : BlockReport} (h : r ∈ (e.run file blocks s).reports) :
    ∃ t u, e.step r.block t = (.ok r, u) := by
  change r ∈ (e.steps file blocks s.begun).reports at h
  rw [← reports_transitions _ s.begun, List.mem_map] at h
  obtain ⟨transition, member, rfl⟩ := h
  exact ⟨_, _, (transition_is_step member).2⟩

theorem steps_report_all {e : Engine σ} {file : Text} {blocks : List Block} {s : Session σ}
    (stays : (e.steps file blocks s).escape = none)
    (goes : (e.steps file blocks s).halted = false) :
    (e.steps file blocks s).reports.map (·.block) = blocks := by
  induction blocks generalizing s with
  | nil => rfl
  | cons b rest ih =>
    unfold steps at stays goes ⊢
    rcases run : e.step b s with ⟨escape | r, u⟩
    · simp [run] at stays
    · have here : r.block = b := (step_report run).1
      cases halted : r.halted with
      | true => simp [run, halted, Steps.halted, Steps.reports] at goes
      | false =>
        simp only [run, halted, Bool.false_eq_true, if_false] at stays goes ⊢
        have later : (e.steps file rest u).halted = false := by
          simpa [Steps.halted, Steps.reports, halted] using goes
        have all := ih stays later
        simpa [Steps.reports, here] using all

theorem run_reports_all {e : Engine σ} {file : Text} {blocks : List Block} {s : Session σ}
    (stays : (e.run file blocks s).escape = none) (goes : (e.run file blocks s).halted = false) :
    (e.run file blocks s).reports.map (·.block) = blocks :=
  steps_report_all stays goes

theorem run_halted_eq (e : Engine σ) (file : Text) (blocks : List Block) (s : Session σ) :
    (e.run file blocks s).halted =
      ((e.run file blocks s).reports.any (·.outcome.isHard) && !e.options.batch) := by
  have each : ∀ r ∈ (e.run file blocks s).reports,
      r.halted = (r.outcome.isHard && !e.options.batch) := by
    intro r member
    obtain ⟨t, u, step⟩ := reported_by_step member
    exact (step_report step).2
  unfold Steps.halted
  cases batch : e.options.batch with
  | true => simpa [batch] using each
  | false =>
    rw [Bool.not_false, Bool.and_true, Bool.eq_iff_iff, List.any_eq_true, List.any_eq_true]
    refine exists_congr fun r => and_congr_right fun member => ?_
    simp [each r member, batch]

end Engine
end EmbeddedTests
