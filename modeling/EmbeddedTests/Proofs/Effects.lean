import EmbeddedTests.Proofs.Questions
import EmbeddedTests.Proofs.Run

/-!
# What calls do to the world

An effect says how the world may change while functions are defined. If it composes, and is not
disturbed by what is shown, then it is the effect of a whole run as soon as it is that of each call
of the evaluator. The functions that it depends on are those that the run has to unbind at its end.
-/
namespace EmbeddedTests

variable {σ : Type}

/-- How the world may change while functions of the names are defined. -/
abbrev Effect (σ : Type) := World σ → List Text → World σ → Prop

/-- Calls in a row have the effect if each of them has it. -/
structure Effect.Composes (effect : Effect σ) : Prop where
  /-- What is shown makes no difference. -/
  idle : ∀ {w u : World σ}, u.base = w.base → u.helpers = w.helpers → u.state = w.state →
    effect w [] u
  next : ∀ {w u v : World σ} {first later : List Text}, effect w first u → effect u later v →
    effect w (first ++ later) v

def definedBy (name : Text) : Attempt Evaluation → List Text
  | .ok result => if result.raised then [] else [name]
  | .error _ => []

structure Evaluator.Has (ev : Evaluator σ) (effect : Effect σ) : Prop where
  executes : ∀ code bindings record w, effect w [] (ev.execute code bindings record w).2
  evaluates : ∀ expr bindings w, effect w [] (ev.evaluate expr bindings w).2
  defines : ∀ name source w,
    effect w (definedBy name (ev.define name source w).1) (ev.define name source w).2
  asks : ∀ q v w, effect w [] (ev.ask q v w).2

namespace Evaluator.Has

variable {ev : Evaluator σ} {effect : Effect σ} {w u : World σ}

theorem executed (has : ev.Has effect) {code bindings record answer}
    (run : ev.execute code bindings record w = (answer, u)) : effect w [] u := by
  have call := has.executes code bindings record w
  rwa [run] at call

theorem evaluated (has : ev.Has effect) {expr bindings answer}
    (run : ev.evaluate expr bindings w = (answer, u)) : effect w [] u := by
  have call := has.evaluates expr bindings w
  rwa [run] at call

theorem defined (has : ev.Has effect) {name source answer}
    (run : ev.define name source w = (answer, u)) : effect w (definedBy name answer) u := by
  have call := has.defines name source w
  rwa [run] at call

theorem weaken {weaker : Effect σ} (has : ev.Has effect)
    (weakens : ∀ {w defined u}, effect w defined u → weaker w defined u) : ev.Has weaker where
  executes code bindings record w := weakens (has.executes code bindings record w)
  evaluates expr bindings w := weakens (has.evaluates expr bindings w)
  defines name source w := weakens (has.defines name source w)
  asks q object w := weakens (has.asks q object w)

theorem answered (has : ev.Has effect) {q v answer} (asked : ev.ask q v w = (answer, u)) :
    effect w [] u := by
  have call := has.asks q v w
  rwa [asked] at call

theorem asked (has : ev.Has effect) (composes : effect.Composes) {α : Type}
    {f : World σ → α × World σ} {a : α} (asks : ev.Asks f) (run : f w = (a, u)) : effect w [] u :=
  asks.keeps (P := effect w []) (fun asked before => composes.next before (has.answered asked)) run
    (composes.idle rfl rfl rfl)

end Evaluator.Has

/-- The function that a block has defined when it came to the outcome. -/
def Content.defined : Content → Outcome → List Text
  | .function (some signature) _, .none => [signature.name]
  | _, _ => []

def Content.definedIn (c : Content) : Attempt Verdict → List Text
  | .ok verdict => c.defined verdict.1
  | .error _ => []

/-- The functions that the completed steps have defined. -/
def Engine.Steps.defined (r : Steps σ) : List Text :=
  r.reports.flatMap fun report => report.block.content.defined report.outcome

/-- The world has changed by the effect, the functions are queued, and no leaks were noted. -/
structure Session.Changed (effect : Effect σ) (s : Session σ) (defined : List Text)
    (t : Session σ) : Prop where
  world : effect s.world defined t.world
  functions : t.functions = s.functions ++ defined
  leaks : t.leaks = s.leaks

namespace Session.Changed

variable {effect : Effect σ} {s t u : Session σ}

theorem of_alike (composes : effect.Composes) (h : s.Alike t) : Changed effect s [] t where
  world := composes.idle h.base h.helpers h.state
  functions := by rw [h.functions, List.append_nil]
  leaks := h.leaks

theorem trans (composes : effect.Composes) {first later : List Text}
    (h : Changed effect s first t) (k : Changed effect t later u) :
    Changed effect s (first ++ later) u where
  world := composes.next h.world k.world
  functions := by rw [k.functions, h.functions, List.append_assoc]
  leaks := k.leaks.trans h.leaks

end Session.Changed

namespace Engine

variable {e : Engine σ} {effect : Effect σ} {s t : Session σ}

theorem error_text_changed (composes : effect.Composes) (has : e.evaluator.Has effect)
    {w u v : World σ} {result a} (called : effect w [] u)
    (told : e.evaluator.errorText result u = (a, v)) : effect w [] v :=
  composes.next called (has.asked composes (fun alike => alike.error_text result) told)

theorem checks_code_changed (composes : effect.Composes) (has : e.evaluator.Has effect)
    {code known bug a}
    (h : e.ChecksCode s code known bug a t) : Session.Changed effect s [] t := by
  have called {u : World σ} (called : effect s.world [] u) (shared : Shared) :
      Session.Changed effect s [] { s with world := u, shared := shared } :=
    ⟨called, (List.append_nil _).symm, rfl⟩
  cases h with
  | left run => exact called (has.executed run) _
  | passed run clean => exact called (has.executed run) _
  | failed run raised classified told =>
    exact called (error_text_changed composes has (has.executed run) told) _
  | unnamed run raised refused => exact called (has.executed run) _

theorem executes_changed (composes : effect.Composes) (has : e.evaluator.Has effect) {c a}
    (h : e.Executes s c a t) : Session.Changed effect s (c.definedIn a) t := by
  have idle : effect s.world [] s.world := composes.idle rfl rfl rfl
  -- Only function blocks define anything; all others leave the queue as it is.
  have plain {u : World σ} {defined : List Text} (called : effect s.world [] u)
      (world : t.world = u) (functions : t.functions = s.functions) (leaks : t.leaks = s.leaks)
      (none : defined = []) : Session.Changed effect s defined t := by
    subst none
    exact ⟨world ▸ called, by rw [functions, List.append_nil], leaks⟩
  cases h with
  | demoIdle | functionEnd | comment | functionNameless | guardMalformed | guardMissing | unknown
  | sharedRefused | sharedEmpty => exact plain idle rfl rfl rfl rfl
  | demoLeft busy run => exact plain (has.executed run) rfl rfl rfl rfl
  | demoShown busy run =>
    cases e.pause s.pauses <;> exact plain (has.executed run) rfl rfl rfl rfl
  | @demoFailed _ _ _ said _ busy run raised told =>
    have called := error_text_changed composes has (has.executed run) told
    cases said <;> exact plain called rfl rfl rfl rfl
  | sharedLeft reset written run | sharedSet reset written run =>
    exact plain (has.executed run) rfl rfl rfl rfl
  | @sharedFailed _ _ _ _ _ said _ reset written run raised told =>
    have called := error_text_changed composes has (has.executed run) told
    cases said <;> exact plain called rfl rfl rfl rfl
  | functionLeft run => exact plain (has.defined run) rfl rfl rfl rfl
  | @functionFailed _ _ _ _ said _ run raised told =>
    have called := has.defined run
    simp only [definedBy, raised, if_true] at called
    have called := error_text_changed composes has called told
    cases said <;> exact plain called rfl rfl rfl rfl
  | functionDefined run clean =>
    have called := has.defined run
    simp only [definedBy, clean, Bool.false_eq_true, if_false] at called
    exact ⟨called, rfl, rfl⟩
  | expectLeft run => exact plain (has.executed run) rfl rfl rfl rfl
  | @expectJudged kind target code result w a u run judged =>
    have asked := has.asked composes
      (fun alike => judge_follows rfl alike kind target result) judged
    have called := composes.next (has.executed run) asked
    cases a <;> exact plain called rfl rfl rfl rfl
  | check run =>
    have checked := checks_code_changed composes has run
    cases a <;> exact checked
  | guardOpen available free run =>
    have checked := checks_code_changed composes has run
    cases a <;> exact ⟨checked.world, checked.functions, checked.leaks⟩
  | guardLeft available bound asked => exact plain (has.evaluated asked) rfl rfl rfl rfl
  | @guardRaised _ _ _ _ said _ available bound asked told =>
    have called := composes.next (has.evaluated asked) (has.answered told)
    cases said <;> exact plain called rfl rfl rfl rfl
  | guardUndecided available bound asked holds | guardClosed available bound asked holds =>
    exact plain (composes.next (has.evaluated asked) (has.answered holds)) rfl rfl rfl rfl
  | guardPassed available bound asked holds run =>
    have checked := checks_code_changed composes has run
    have called : effect s.world (([] ++ []) ++ []) t.world :=
      composes.next (composes.next (has.evaluated asked) (has.answered holds)) checked.world
    cases a <;> exact ⟨called, checked.functions, checked.leaks⟩

theorem undefined_of_told {c : Content} {verdict : Verdict} (h : e.Executes s c (.ok verdict) t)
    (told : verdict.2 ≠ []) : c.defined verdict.1 = [] := by
  generalize ha : (Except.ok verdict : Attempt Verdict) = a at h
  cases h with
  | functionDefined run clean =>
    cases ha
    exact absurd rfl told
  | @functionFailed _ _ _ _ said _ run raised =>
    cases said <;> cases ha
    rfl
  | functionNameless => rfl
  | functionLeft => cases ha
  | _ => rfl

theorem emit_report_changed (composes : effect.Composes) (has : e.evaluator.Has effect) {r a}
    (h : e.emitReport r s = (a, t)) : Session.Changed effect s [] t := by
  have told := Session.Changed.of_alike composes (e.tell_alike r s)
  have asked {w answer} (described : Shared.describe e.evaluator s.shared (e.tell r s).world =
      (answer, w)) : Session.Changed effect s [] { e.tell r s with world := w } :=
    have called := has.asked composes (fun alike => alike.describe s.shared) described
    ⟨composes.next told.world called, told.functions, told.leaks⟩
  cases reports_iff.mpr h with
  | plain short => exact told
  | left long described => exact asked described
  | described long described =>
    exact (asked described).trans composes (.of_alike composes (emit_alike _ _ _))

theorem step_ok_changed (composes : effect.Composes) (has : e.evaluator.Has effect) {b r}
    (h : e.step b s = (.ok r, t)) :
    Session.Changed effect s (r.block.content.defined r.outcome) t := by
  obtain ⟨verdict, u, executed, rfl, told⟩ := step_ok_iff.mp h
  have shown := Session.Changed.of_alike composes (e.announced_alike b s)
  have done := executes_changed composes has executed
  have told := emit_report_changed composes has told
  have all := (shown.trans composes done).trans composes told
  rwa [List.append_nil, List.nil_append] at all

theorem step_error_changed (composes : effect.Composes) (has : e.evaluator.Has effect) {b escape}
    (h : e.step b s = (.error escape, t)) : Session.Changed effect s [] t := by
  have shown := Session.Changed.of_alike composes (e.announced_alike b s)
  rcases step_error_iff.mp h with left | ⟨verdict, u, executed, left⟩
  · exact shown.trans composes (executes_changed composes has left)
  · have told : verdict.2 ≠ [] := by
      intro empty
      cases reports_iff.mpr left with
      | left long => simp [describes, tells, reportOf, empty] at long
    have done := executes_changed composes has executed
    rw [show b.content.definedIn (.ok verdict) = [] from undefined_of_told executed told] at done
    exact (shown.trans composes done).trans composes (emit_report_changed composes has left)

/-- However the steps of a run end, their effect is that of the calls. -/
theorem steps_changed (composes : effect.Composes) (has : e.evaluator.Has effect) (file : Text)
    (blocks : List Block) (s : Session σ) :
    Session.Changed effect s (e.steps file blocks s).defined (e.steps file blocks s).last := by
  induction blocks generalizing s with
  | nil => exact .of_alike composes (.refl s)
  | cons b rest ih =>
    unfold steps
    rcases run : e.step b s with ⟨escape | r, t⟩
    · exact step_error_changed composes has run
    · have first := step_ok_changed composes has run
      cases goes : r.halted with
      | true =>
        have logged := first.trans composes
          (.of_alike composes (log_alike t .info .engine (file ++ ": stopping after hard failure")))
        simpa [goes, Steps.defined, Steps.reports] using logged
      | false =>
        have all := first.trans composes (ih t)
        simpa [goes, Steps.defined, Steps.reports] using all

end Engine
end EmbeddedTests
