import EmbeddedTests.Proofs.Simulation

/-!
# Recording the calls of an evaluator

What a run asks of its evaluator, and of objects, is seen by running it with an evaluator that answers
in the same way and writes everything down. The record changes nothing: forgetting it gives the run
with the evaluator itself.
-/
namespace EmbeddedTests

variable {σ : Type}

/-- A call of an evaluator with what it was given, and the answer. -/
inductive Call where
  | execute (code : Text) (bindings : Bindings) (record : Bool) (answer : Attempt Evaluation)
  | evaluate (expr : Text) (bindings : Bindings) (answer : Attempt (Except Raised Value))
  | define (name source : Text) (answer : Attempt Evaluation)

/-- The variables that code is run with; a definition has none. -/
def Call.bindings? : Call → Option Bindings
  | .execute _ bindings _ _ | .evaluate _ bindings _ => some bindings
  | .define .. => none

/-- A question with what asking it raised, if it did. -/
structure Reply where
  question : Question
  object : Value
  escape : Option Escape

def leftBy? {α : Type} : Attempt α → Option Escape
  | .ok _ => none
  | .error escape => some escape

structure Recorded (σ : Type) where
  state : σ
  calls : List Call := []
  replies : List Reply := []

namespace World

def forget (w : World (Recorded σ)) : World σ :=
  ⟨w.base, w.helpers, w.console, w.state.state⟩

def withRecord (w : World σ) (calls : List Call) (replies : List Reply) : World (Recorded σ) :=
  ⟨w.base, w.helpers, w.console, ⟨w.state, calls, replies⟩⟩

def Forgets (w : World (Recorded σ)) (w' : World σ) : Prop := w' = w.forget

theorem forgets_rebinds : Rebinds (Forgets (σ := σ)) where
  base h := by rw [h]; rfl
  helpers h := by rw [h]; rfl
  change h base helpers := by rw [h]; rfl

end World

/-- An evaluator that also writes down its calls, and what objects are asked. -/
def Evaluator.recorded (ev : Evaluator σ) : Evaluator (Recorded σ) where
  execute code bindings record w :=
    let (answer, u) := ev.execute code bindings record w.forget
    (answer, u.withRecord (w.state.calls ++ [.execute code bindings record answer]) w.state.replies)
  evaluate expr bindings w :=
    let (answer, u) := ev.evaluate expr bindings w.forget
    (answer, u.withRecord (w.state.calls ++ [.evaluate expr bindings answer]) w.state.replies)
  define name source w :=
    let (answer, u) := ev.define name source w.forget
    (answer, u.withRecord (w.state.calls ++ [.define name source answer]) w.state.replies)
  ask q v w :=
    let (answer, u) := ev.ask q v w.forget
    (answer, u.withRecord w.state.calls (w.state.replies ++ [⟨q, v, leftBy? answer⟩]))
  openFiles w := ev.openFiles w.forget
  builtins w := ev.builtins w.forget

namespace Evaluator

variable {ev : Evaluator σ} {w u : World (Recorded σ)}

theorem recorded_execute {code bindings record answer}
    (h : ev.recorded.execute code bindings record w = (answer, u)) :
    ev.execute code bindings record w.forget = (answer, u.forget) ∧
      u.state.calls = w.state.calls ++ [.execute code bindings record answer] := by
  cases h
  exact ⟨rfl, rfl⟩

theorem recorded_evaluate {expr bindings answer}
    (h : ev.recorded.evaluate expr bindings w = (answer, u)) :
    ev.evaluate expr bindings w.forget = (answer, u.forget) ∧
      u.state.calls = w.state.calls ++ [.evaluate expr bindings answer] := by
  cases h
  exact ⟨rfl, rfl⟩

theorem recorded_define {name source answer}
    (h : ev.recorded.define name source w = (answer, u)) :
    ev.define name source w.forget = (answer, u.forget) ∧
      u.state.calls = w.state.calls ++ [.define name source answer] := by
  cases h
  exact ⟨rfl, rfl⟩

theorem recorded_asks : ev.recorded.AnsweredAlike World.Forgets ev := by
  rintro q v w _ a u rfl asked
  cases asked
  exact ⟨_, rfl, rfl⟩

theorem answered_of_recorded {α : Type} {f : World (Recorded σ) → α × World (Recorded σ)}
    {f' : World σ → α × World σ} (follows : World.Follow World.Forgets f f')
    (w : World (Recorded σ)) : f' w.forget = ((f w).1, (f w).2.forget) := by
  obtain ⟨_, answer, rfl⟩ := follows (rfl : w.forget = w.forget) rfl
  exact answer

theorem recorded_ask {q v answer} (h : ev.recorded.ask q v w = (answer, u)) :
    u.state.calls = w.state.calls := by
  cases h
  rfl

end Evaluator

namespace Session

def forget (s : Session (Recorded σ)) : Session σ :=
  ⟨s.world.forget, s.shared, s.functions, s.report, s.journal, s.pauses, s.leaks⟩

def calls (s : Session (Recorded σ)) : List Call := s.world.state.calls

/-- The state with an empty record. -/
def recorded (s : Session σ) : Session (Recorded σ) :=
  ⟨s.world.withRecord [] [], s.shared, s.functions, s.report, s.journal, s.pauses, s.leaks⟩

theorem forget_log (s : Session (Recorded σ)) (level origin message) :
    (s.log level origin message).forget = s.forget.log level origin message := rfl

theorem forget_emit (sink : Sink) (t : Text) (s : Session (Recorded σ)) :
    (s.emit sink t).forget = s.forget.emit sink t := by
  cases sink <;> rfl

theorem mirrors_forget_iff {s : Session (Recorded σ)} {s' : Session σ} :
    s.Mirrors World.Forgets Eq s' ↔ s' = s.forget := by
  constructor
  · intro m
    obtain ⟨world', shared', functions', report', journal', pauses', leaks'⟩ := s'
    obtain ⟨rfl, rfl, rfl, rfl, rfl, rfl, rfl⟩ := m
    rfl
  · rintro rfl
    exact ⟨rfl, rfl, rfl, rfl, rfl, rfl, rfl⟩

end Session

namespace Engine

/-- The engine with its calls recorded. -/
def recorded (e : Engine σ) : Engine (Recorded σ) :=
  ⟨e.evaluator.recorded, e.options, e.config, e.features, e.sink, e.library, e.pause⟩

def Steps.forget (r : Steps (Recorded σ)) : Steps σ :=
  ⟨r.done.map fun (report, s) => (report, s.forget), r.escape, r.last.forget⟩

def Transition.calls (t : Transition (Recorded σ)) : List Call :=
  t.after.calls.drop t.before.calls.length

variable {e : Engine σ}

theorem forget_echo (b : Block) (s : Session (Recorded σ)) :
    (e.recorded.echo b s).forget = e.echo b s.forget := Session.forget_emit _ _ s

theorem forget_announced (b : Block) (s : Session (Recorded σ)) :
    (e.recorded.announced b s).forget = e.announced b s.forget := by
  unfold announced
  rw [Session.forget_log, apply_ite Session.forget, forget_echo]
  rfl

theorem forget_tell (r : BlockReport) (s : Session (Recorded σ)) :
    (e.recorded.tell r s).forget = e.tell r s.forget := by
  unfold tell
  rw [apply_ite Session.forget, Session.forget_emit, apply_ite Session.forget, forget_echo]
  rfl

theorem recorded_mirrors (e : Engine σ) :
    e.recorded.Mirrors World.Forgets Eq (fun _ => True) e where
  played := rfl
  calls :=
    { executes := by
        rintro w _ u code bindings record a rfl run
        exact ⟨_, (Evaluator.recorded_execute run).1, rfl⟩
      evaluates := by
        rintro w _ u expr bindings a rfl asked
        exact ⟨_, (Evaluator.recorded_evaluate asked).1, rfl⟩
      defines := by
        rintro w _ u name source a rfl run
        exact ⟨_, (Evaluator.recorded_define run).1, rfl⟩
      asks := Evaluator.recorded_asks
      surroundings := by
        rintro w _ rfl
        rfl }
  rebinds := World.forgets_rebinds
  announces m b := by
    rw [Session.mirrors_forget_iff] at m ⊢
    rw [m, forget_announced]
  tells m told _ := by
    have asks : e.recorded.evaluator.AnsweredAlike World.Forgets e.evaluator :=
      Evaluator.recorded_asks
    refine emit_report_mirrored asks (fun _ => rfl) ?_ m.shared ?_ told
    · intro s s' m t
      rw [Session.mirrors_forget_iff] at m ⊢
      rw [m, Session.forget_emit]
      rfl
    · rw [Session.mirrors_forget_iff] at m ⊢
      rw [m, forget_tell]

theorem forget_step (b : Block) (s : Session (Recorded σ)) :
    e.step b s.forget = ((e.recorded.step b s).1, (e.recorded.step b s).2.forget) := by
  obtain ⟨answer, after⟩ := e.recorded_mirrors.step (Session.mirrors_forget_iff.mpr rfl) b
    fun _ _ _ => trivial
  exact Prod.ext answer (Session.mirrors_forget_iff.mp after)

theorem forget_emit_report (e : Engine σ) (r : BlockReport) (s : Session (Recorded σ)) :
    e.emitReport r s.forget =
      ((e.recorded.emitReport r s).1, (e.recorded.emitReport r s).2.forget) := by
  obtain ⟨t', told, after⟩ := e.recorded_mirrors.tells (s := s) (Session.mirrors_forget_iff.mpr rfl)
    (Prod.eta (e.recorded.emitReport r s)).symm fun _ => trivial
  rw [told, Session.mirrors_forget_iff.mp after]

/-- The calls that the step of a block makes. -/
def asks (e : Engine σ) (b : Block) (s : Session σ) : List Call :=
  (e.recorded.step b s.recorded).2.calls

/-- What objects are asked in the step of a block. -/
def replies (e : Engine σ) (b : Block) (s : Session σ) : List Reply :=
  (e.recorded.step b s.recorded).2.world.state.replies

theorem replies_announced (b : Block) (s : Session σ) :
    (e.recorded.announced b s.recorded).world.state.replies = [] :=
  congrArg Recorded.replies (e.recorded.announced_alike b s.recorded).state

theorem step_recorded {b : Block} {s : Session σ} {a t}
    (stepped : e.recorded.step b s.recorded = (a, t)) :
    (e.step b s).1 = a ∧ e.replies b s = t.world.state.replies := by
  have same := congrArg Prod.fst (forget_step (e := e) b s.recorded)
  rw [stepped] at same
  exact ⟨same, by rw [replies, stepped]⟩

theorem mirrors_forget {r : Steps (Recorded σ)} {r' : Steps σ}
    (m : r.Mirrors World.Forgets Eq r') : r' = r.forget := by
  obtain ⟨done, escape, last⟩ := r
  obtain ⟨done', escape', last'⟩ := r'
  obtain ⟨each, rfl, last⟩ := m
  rw [Session.mirrors_forget_iff] at last
  dsimp only at each last
  subst last
  have same : done' = done.map fun (report, s) => (report, s.forget) := by
    induction each with
    | nil => rfl
    | cons first rest ih =>
      obtain ⟨report, after⟩ := first
      rw [List.map_cons, ih]
      exact congrArg (· :: _) (Prod.ext report (Session.mirrors_forget_iff.mp after))
  rw [same]
  rfl

/-- Recording the calls of a run changes nothing else in it. -/
theorem forget_run (file : Text) (blocks : List Block) (s : Session (Recorded σ)) :
    (e.recorded.run file blocks s).forget = e.run file blocks s.forget :=
  (mirrors_forget (e.recorded_mirrors.run (Session.mirrors_forget_iff.mpr rfl) file blocks
    fun _ _ => trivial)).symm

section Calls

variable {s t : Session (Recorded σ)}

theorem asked_calls {α : Type} {f : World (Recorded σ) → α × World (Recorded σ)} {a : α}
    {w u : World (Recorded σ)} (asks : e.recorded.evaluator.Asks f) (run : f w = (a, u)) :
    u.state.calls = w.state.calls :=
  asks.keeps (P := fun u => u.state.calls = w.state.calls)
    (fun asked before => (Evaluator.recorded_ask asked).trans before) run rfl

theorem error_text_calls {result a} {w u : World (Recorded σ)}
    (told : e.recorded.evaluator.errorText result w = (a, u)) : u.state.calls = w.state.calls :=
  asked_calls (fun alike => alike.error_text result) told

theorem emit_report_calls {r a} (h : e.recorded.emitReport r s = (a, t)) : t.calls = s.calls := by
  have told := congrArg Recorded.calls (e.recorded.tell_alike r s).state
  have asked {w answer} (described : Shared.describe e.recorded.evaluator s.shared
      (e.recorded.tell r s).world = (answer, w)) : w.state.calls = s.calls :=
    (asked_calls (fun alike => alike.describe s.shared) described).trans told
  cases reports_iff.mpr h with
  | plain short => exact told
  | left long described => exact asked described
  | described long described =>
    exact (congrArg Recorded.calls (emit_alike _ _ _).state).trans (asked described)

end Calls

end Engine
end EmbeddedTests
