import EmbeddedTests.Proofs.Simulation
import EmbeddedTests.Script

/-!
# What a run shows

With an evaluator that prints nothing itself, every step shows what its report makes of the options:
nothing, or the block, or the block with the message and what the shared variables say of themselves.
The other place for reports stays as it is.
-/
namespace EmbeddedTests

open Text

variable {σ : Type}

def Sink.shown (sink : Sink) (s : Session σ) : Text :=
  match sink with
  | .console => s.world.console
  | .apart => s.report

/-- Nothing is printed but what the engine shows. -/
structure Evaluator.Silent (ev : Evaluator σ) : Prop where
  executes : ∀ {w u code bindings record a},
    ev.execute code bindings record w = (a, u) → u.console = w.console
  evaluates : ∀ {w u expr bindings a}, ev.evaluate expr bindings w = (a, u) → u.console = w.console
  defines : ∀ {w u name source a}, ev.define name source w = (a, u) → u.console = w.console
  asks : ∀ {w u q v a}, ev.ask q v w = (a, u) → u.console = w.console

theorem Evaluator.Silent.mirrors {ev : Evaluator σ} (silent : ev.Silent) (console : Text) :
    ev.Mirrors (fun w w' => w' = w ∧ w.console = console) ev where
  executes := by
    rintro w _ u code bindings record a ⟨rfl, before⟩ run
    exact ⟨u, run, rfl, (silent.executes run).trans before⟩
  evaluates := by
    rintro w _ u expr bindings a ⟨rfl, before⟩ run
    exact ⟨u, run, rfl, (silent.evaluates run).trans before⟩
  defines := by
    rintro w _ u name source a ⟨rfl, before⟩ run
    exact ⟨u, run, rfl, (silent.defines run).trans before⟩
  asks := by
    rintro q v w _ a u ⟨rfl, before⟩ asked
    exact ⟨u, asked, rfl, (silent.asks asked).trans before⟩
  surroundings := by
    rintro w _ ⟨rfl, before⟩
    rfl

theorem script_silent (script : Script) : (Script.evaluator script).Silent where
  executes run := by
    simp only [Script.evaluator, Script.execute] at run
    split at run
    · cases run
      rfl
    · split at run <;> cases run <;> rfl
  evaluates run := by
    simp only [Script.evaluator, Script.evaluate] at run
    split at run
    · cases run
      rfl
    · split at run <;> cases run <;> rfl
  defines run := by
    simp only [Script.evaluator, Script.define] at run
    split at run
    · cases run
      rfl
    · split at run <;> cases run <;> rfl
  asks asked := by
    cases asked
    rfl

theorem shown_emit_self (sink : Sink) (t : Text) (s : Session σ) :
    sink.shown (s.emit sink t) = sink.shown s ++ t := by
  cases sink <;> rfl

theorem shown_emit_other {sink other : Sink} (h : other ≠ sink) (t : Text) (s : Session σ) :
    other.shown (s.emit sink t) = other.shown s := by
  cases sink <;> cases other <;> first | rfl | exact absurd rfl h

namespace Engine

variable {e : Engine σ}

def shownBlock (b : Block) : Text := Signal.block ++ b.raw ++ "\n"

def shownStep (options : EngineOptions) (r : BlockReport) (described : Text) : Text :=
  if r.message = [] then if options.verbose > 0 then shownBlock r.block else []
  else if options.verbose < 0 ∧ options.logfile = false then []
  else shownBlock r.block ++ (r.message ++ "\n" ++ described)

/-- What follows the message of a report: lines for the shared variables, where they belong to it. -/
inductive Described (e : Engine σ) (r : BlockReport) (shared : Shared) : Text → Prop where
  | plain (short : e.describes r shared = false) : Described e r shared []
  | lines {w lines u} (long : e.describes r shared = true)
      (asked : Shared.describe e.evaluator shared w = (.ok lines, u)) :
      Described e r shared (description lines)

def Shows (e : Engine σ) (step : BlockReport × Session σ) (t : Text) : Prop :=
  ∃ described, e.Described step.1 step.2.shared described ∧
    t = shownStep e.options step.1 described

def shownBefore (options : EngineOptions) (b : Block) : Text :=
  if options.verbose > 0 then shownBlock b else []

/-- The place keeps what it has, and what the engine shows is added to its own. -/
structure Adds (e : Engine σ) (added : Text) (s t : Session σ) : Prop where
  here : e.sink.shown t = e.sink.shown s ++ added
  elsewhere : ∀ other ≠ e.sink, other.shown t = other.shown s

namespace Adds

variable {s t u : Session σ}

theorem refl (s : Session σ) : e.Adds [] s s := ⟨(List.append_nil _).symm, fun _ _ => rfl⟩

theorem trans {first later : Text} (h : e.Adds first s t) (k : e.Adds later t u) :
    e.Adds (first ++ later) s u where
  here := by rw [k.here, h.here, List.append_assoc]
  elsewhere other apart := (k.elsewhere other apart).trans (h.elsewhere other apart)

theorem emit (t : Text) (s : Session σ) : e.Adds t s (s.emit e.sink t) :=
  ⟨shown_emit_self _ _ _, fun _ apart => shown_emit_other apart _ _⟩

theorem of_same (console : t.world.console = s.world.console) (report : t.report = s.report) :
    e.Adds [] s t := by
  have same (sink : Sink) : sink.shown t = sink.shown s := by
    cases sink
    · exact console
    · exact report
  exact ⟨by rw [same, List.append_nil], fun other _ => same other⟩

end Adds

theorem announced_adds (e : Engine σ) (b : Block) (s : Session σ) :
    e.Adds (shownBefore e.options b) s (e.announced b s) := by
  have logged (u : Session σ) :
      e.Adds [] u (u.log .debug .engine ("running " ++ b.kind.name ++ " block")) :=
    .of_same rfl rfl
  unfold announced shownBefore
  split
  · have both := (Adds.emit (e := e) (shownBlock b) s).trans (logged _)
    rwa [List.append_nil] at both
  · exact logged s

theorem executes_adds (silent : e.evaluator.Silent) {s t : Session σ} {c a}
    (h : e.Executes s c a t) : e.Adds [] s t := by
  have start : s.Mirrors (fun w w' => w' = w ∧ w.console = s.world.console)
      (fun report _ => report = s.report) s := ⟨⟨rfl, rfl⟩, rfl, rfl, rfl, rfl, rfl, rfl⟩
  have mirrored : ∃ t', e.Executes s c a t' ∧ t.Mirrors
      (fun w w' => w' = w ∧ w.console = s.world.console) (fun report _ => report = s.report) t' :=
    executes_mirrored (silent.mirrors _) start h
  obtain ⟨t', -, kept⟩ := mirrored
  exact .of_same kept.world.2 kept.report

def shownAfter (options : EngineOptions) (r : BlockReport) (described : Text) : Text :=
  if r.message = [] ∨ options.verbose < 0 ∧ options.logfile = false then []
  else (if options.verbose < 1 then shownBlock r.block else []) ++
    (r.message ++ "\n" ++ described)

/-- The block is shown either before or after it was executed. -/
theorem shown_step_eq (options : EngineOptions) (r : BlockReport) (described : Text) :
    shownBefore options r.block ++ shownAfter options r described =
      shownStep options r described := by
  unfold shownBefore shownAfter shownStep
  by_cases empty : r.message = []
  · simp [empty]
  by_cases hidden : options.verbose < 0 ∧ options.logfile = false
  · have quiet : ¬ options.verbose > 0 := by omega
    simp [empty, hidden, quiet]
  by_cases verbose : options.verbose > 0
  · have before : ¬ options.verbose < 1 := by omega
    simp [empty, hidden, verbose, before]
  · have before : options.verbose < 1 := by omega
    simp [empty, hidden, verbose, before]

theorem tells_iff {r : BlockReport} :
    e.tells r = true ↔ ¬(r.message = [] ∨ e.options.verbose < 0 ∧ e.options.logfile = false) := by
  unfold tells
  cases r.message <;> cases e.options.logfile <;> simp

theorem tell_adds (e : Engine σ) (r : BlockReport) (s : Session σ) :
    e.Adds (shownAfter e.options r []) s (e.tell r s) := by
  unfold tell shownAfter echo
  cases told : e.tells r with
  | false =>
    have untold : r.message = [] ∨ e.options.verbose < 0 ∧ e.options.logfile = false := by
      by_contra told'
      rw [tells_iff.mpr told'] at told
      cases told
    simpa [untold] using Adds.refl (e := e) s
  | true =>
    simp only [if_neg (tells_iff.mp told), if_true, List.append_nil]
    split
    · exact (Adds.emit (e := e) (shownBlock r.block) s).trans (.emit _ _)
    · exact .emit _ s

theorem emit_report_adds (silent : e.evaluator.Silent) {r : BlockReport} {s t : Session σ}
    {a : Attempt Unit} (h : e.emitReport r s = (a, t)) :
    ∃ described, e.Adds (shownAfter e.options r described) s t ∧
      match a with
      | .ok _ => e.Described r s.shared described
      | .error _ => described = [] := by
  have told := tell_adds e r s
  have asked {w answer} (described : Shared.describe e.evaluator s.shared (e.tell r s).world =
      (answer, w)) : e.Adds (shownAfter e.options r []) s { e.tell r s with world := w } := by
    have asks : e.evaluator.Asks (Shared.describe e.evaluator s.shared) :=
      fun alike => alike.describe s.shared
    have quiet : w.console = (e.tell r s).world.console :=
      asks.keeps (P := fun w => w.console = (e.tell r s).world.console)
        (fun asked before => (silent.asks asked).trans before) described rfl
    have both := told.trans (.of_same (t := { e.tell r s with world := w }) quiet rfl)
    rwa [List.append_nil] at both
  cases reports_iff.mpr h with
  | plain short => exact ⟨[], told, .plain short⟩
  | left long described => exact ⟨[], asked described, rfl⟩
  | @described lines w long described =>
    refine ⟨description lines, ?_, .lines long described⟩
    have tells : e.tells r = true := by
      simp only [describes, Bool.and_eq_true] at long
      exact long.1.1
    have both := (asked described).trans (.emit (description lines) _)
    simpa only [shownAfter, if_neg (tells_iff.mp tells), List.append_nil, List.append_assoc]
      using both

theorem step_adds (silent : e.evaluator.Silent) {b : Block} {s t : Session σ} {r : BlockReport}
    (h : e.step b s = (.ok r, t)) : ∃ shown, e.Shows (r, t) shown ∧ e.Adds shown s t := by
  obtain ⟨verdict, u, executed, rfl, told⟩ := step_ok_iff.mp h
  obtain ⟨described, adds, follows⟩ := emit_report_adds silent told
  rw [← (emit_report_keeps told).1] at follows
  refine ⟨_, ⟨described, follows, rfl⟩, ?_⟩
  have all := ((e.announced_adds b s).trans (executes_adds silent executed)).trans adds
  rw [List.append_nil] at all
  rwa [← shown_step_eq]

/-- What is shown of the block in which a run is left: that it is left in its execution, or when the
shared variables are described. -/
inductive ShownOfLeft (options : EngineOptions) (b : Block) : Text → Prop where
  | executing : ShownOfLeft options b (shownBefore options b)
  | describing {r : BlockReport} (block : r.block = b) :
      ShownOfLeft options b (shownStep options r [])

theorem step_left_adds (silent : e.evaluator.Silent) {b : Block} {s t : Session σ} {escape}
    (h : e.step b s = (.error escape, t)) :
    ∃ shown, ShownOfLeft e.options b shown ∧ e.Adds shown s t := by
  have announced := e.announced_adds b s
  rcases step_error_iff.mp h with left | ⟨verdict, u, executed, left⟩
  · have all := announced.trans (executes_adds silent left)
    rw [List.append_nil] at all
    exact ⟨_, .executing, all⟩
  · obtain ⟨_, adds, rfl⟩ := emit_report_adds silent left
    have all := (announced.trans (executes_adds silent executed)).trans adds
    rw [List.append_nil] at all
    exact ⟨_, .describing (r := e.reportOf b verdict) rfl, by rwa [← shown_step_eq]⟩

def ShownAtEnd (e : Engine σ) (blocks : List Block) (r : Steps σ) (t : Text) : Prop :=
  match r.escape, blocks[r.done.length]? with
  | some _, some b => ShownOfLeft e.options b t
  | _, _ => t = []

/-- The run shows the text: each completed step its own, and then what is shown of a block in which
the run was left. -/
def RunShows (e : Engine σ) (blocks : List Block) (r : Steps σ) (t : Text) : Prop :=
  ∃ shown rest, List.Forall₂ e.Shows r.done shown ∧ e.ShownAtEnd blocks r rest ∧
    t = shown.flatten ++ rest

theorem run_shows_nothing (quiet : e.options.verbose < 0) (unlogged : e.options.logfile = false)
    {blocks : List Block} {r : Steps σ} {t : Text} (shows : e.RunShows blocks r t) : t = [] := by
  have silent : ¬ e.options.verbose > 0 := by omega
  have step (report : BlockReport) (described : Text) :
      shownStep e.options report described = [] := by
    simp [shownStep, quiet, unlogged, silent]
  obtain ⟨shown, rest, each, ending, rfl⟩ := shows
  have none_shown {done : List (BlockReport × Session σ)} {shown : List Text}
      (each : List.Forall₂ e.Shows done shown) : shown.flatten = [] := by
    induction each with
    | nil => rfl
    | cons first _ ih =>
      obtain ⟨described, -, rfl⟩ := first
      rw [List.flatten_cons, step, ih]
      rfl
  have rest_empty : rest = [] := by
    unfold ShownAtEnd at ending
    split at ending
    · cases ending with
      | executing => simp [shownBefore, silent]
      | describing => exact step _ _
    · exact ending
  rw [none_shown each, rest_empty]
  rfl

theorem steps_adds (silent : e.evaluator.Silent) (file : Text) (blocks : List Block)
    (s : Session σ) :
    ∃ shown, e.RunShows blocks (e.steps file blocks s) shown ∧
      e.Adds shown s (e.steps file blocks s).last := by
  induction blocks generalizing s with
  | nil => exact ⟨[], ⟨[], [], .nil, rfl, rfl⟩, .refl s⟩
  | cons b rest ih =>
    unfold steps
    rcases stepped : e.step b s with ⟨escape | r, t⟩
    · obtain ⟨shown, left, adds⟩ := step_left_adds silent stepped
      exact ⟨shown, ⟨[], shown, .nil, left, rfl⟩, adds⟩
    · obtain ⟨shown, shows, first⟩ := step_adds silent stepped
      cases goes : r.halted with
      | true =>
        have logged : e.Adds [] t
            (t.log .info .engine (file ++ ": stopping after hard failure")) := .of_same rfl rfl
        simp only [goes, if_true]
        exact ⟨_, ⟨[shown], [], .cons shows .nil, rfl, by simp⟩, first.trans logged⟩
      | false =>
        obtain ⟨_, ⟨later, tail, each, ending, rfl⟩, adds⟩ := ih t
        simp only [goes, Bool.false_eq_true, if_false]
        refine ⟨_, ⟨shown :: later, tail, .cons shows each, ?_, ?_⟩, first.trans adds⟩
        · simpa only [ShownAtEnd, List.length_cons, List.getElem?_cons_succ] using ending
        · rw [List.flatten_cons, List.append_assoc]

theorem run_adds (silent : e.evaluator.Silent) (file : Text) (blocks : List Block)
    (s : Session σ) :
    ∃ shown, e.RunShows blocks (e.run file blocks s) shown ∧
      e.Adds shown s (e.run file blocks s).last := by
  have begun : e.Adds [] s s.begun := .of_same (congrArg Prod.snd (rest_install_helpers s.world)) rfl
  obtain ⟨shown, shows, ran⟩ := steps_adds silent file blocks s.begun
  have ended : e.Adds [] (e.steps file blocks s.begun).last (e.run file blocks s).last := by
    refine .of_same ?_ ?_
    · rw [run_eq, check_leaks_world]
      exact congrArg Prod.snd (rest_tear_down _)
    · rw [run_eq, check_leaks_eq]
      rfl
  have all := (begun.trans ran).trans ended
  rw [List.append_nil] at all
  exact ⟨shown, shows, all⟩

end Engine
end EmbeddedTests
