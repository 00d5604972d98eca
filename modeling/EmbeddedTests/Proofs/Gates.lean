import EmbeddedTests.Proofs.ExpectedFailures
import EmbeddedTests.Proofs.FirstLine

/-!
# The gates of a guarded test

A guarded test is stopped by its header, by a feature that is missing or by its condition, in this
order. Each gate is a case of `Executes`, taken with an evaluator that records its calls: what the
evaluator was asked up to there is nothing, the condition, and at last the code. The value of a
condition is an object, and so is what code raises: asking them whether they hold and what they say
may leave the run at any of the gates.
-/
namespace EmbeddedTests

open Text

variable {σ : Type}

namespace Evaluator

variable {ev : Evaluator σ} {w : World (Recorded σ)} {u : World σ}

theorem recorded_execute_of {code bindings record answer}
    (run : ev.execute code bindings record w.forget = (answer, u)) :
    ev.recorded.execute code bindings record w =
      (answer,
        u.withRecord (w.state.calls ++ [.execute code bindings record answer]) w.state.replies) := by
  simp only [recorded, run]

theorem recorded_evaluate_of {expr bindings answer}
    (asked : ev.evaluate expr bindings w.forget = (answer, u)) :
    ev.recorded.evaluate expr bindings w =
      (answer, u.withRecord (w.state.calls ++ [.evaluate expr bindings answer]) w.state.replies) := by
  simp only [recorded, asked]

end Evaluator

namespace Engine

theorem announced_recorded (e : Engine σ) (b : Block) (s : Session σ) :
    e.recorded.announced b s.recorded = (e.announced b s).recorded := by
  have echoed : e.recorded.echo b s.recorded = (e.echo b s).recorded := by
    unfold echo
    change s.recorded.emit e.sink _ = _
    cases e.sink <;> rfl
  unfold announced
  rw [echoed]
  change Session.log (if e.options.verbose > 0 then (e.echo b s).recorded else s.recorded) _ _ _ = _
  split <;> rfl

def reported (e : Engine σ) (b : Block) (s : Session σ) : Attempt Verdict → Attempt BlockReport
  | .error escape => .error escape
  | .ok verdict => (e.emitReport (e.reportOf b verdict) s).1.map fun _ => e.reportOf b verdict

/-- What executing a block comes to with the calls recorded is reported without the record; and the
step has asked what was recorded. -/
theorem step_of_recorded {e : Engine σ} {b : Block} {s : Session σ} {c : Content} {a u}
    (content : b.content = c) (h : e.recorded.Executes (e.announced b s).recorded c a u) :
    (e.step b s).1 = e.reported b u.forget a ∧ e.asks b s = u.calls := by
  rw [← announced_recorded, ← content] at h
  have stepped : e.step b s = ((e.recorded.step b s.recorded).1,
      (e.recorded.step b s.recorded).2.forget) := forget_step b s.recorded
  unfold asks
  rw [stepped, step_eq, executes_iff.mp h]
  cases a with
  | error escape => exact ⟨rfl, rfl⟩
  | ok verdict =>
    let r := e.recorded.reportOf b verdict
    refine ⟨?_, emit_report_calls (Prod.eta (e.recorded.emitReport r u)).symm⟩
    rw [reported, show e.reportOf b verdict = r from rfl, e.forget_emit_report r u]

theorem reported_without_shared {e : Engine σ} {b : Block} {s : Session σ}
    (plain : withoutShared b.kind = true) (a : Attempt Verdict) :
    e.reported b s a = a.map (e.reportOf b) := by
  cases a with
  | error escape => rfl
  | ok verdict =>
    have short : e.describes (e.reportOf b verdict) s.shared = false := by
      simp [describes, reportOf, plain]
    simp [reported, emitReport, short, Except.map]

/-- The outcome of a block's step, unless the step was left. -/
def stepOutcome (e : Engine σ) (b : Block) (s : Session σ) : Attempt Outcome :=
  (e.step b s).1.map BlockReport.outcome

theorem step_outcome_of_recorded {e : Engine σ} {b : Block} {s : Session σ} {header code a u}
    (content : b.content = .guarded header code)
    (h : e.recorded.Executes (e.announced b s).recorded (.guarded header code) a u) :
    e.stepOutcome b s = a.map Prod.fst ∧ e.asks b s = u.calls := by
  obtain ⟨answer, calls⟩ := step_of_recorded content h
  have plain : withoutShared b.kind = true := by
    rw [Block.kind, content]
    rfl
  refine ⟨?_, calls⟩
  rw [stepOutcome, answer, reported_without_shared plain]
  cases a <;> rfl

/-- What a test comes to once its code has been run. A failure is told with what was raised, which
is asked what it says. -/
def testOutcome (e : Engine σ) (bug : BugTag) :
    Attempt Evaluation × World σ → Attempt Outcome
  | (.error escape, _) => .error escape
  | (.ok result, w) =>
    if result.raised then
      match classifyFailure (!bug.id.isEmpty) bug e.config e.library.attributes with
      | .error fault => .error (.badTemplate fault)
      | .ok (outcome, _) => (e.evaluator.errorText result w).1.map fun _ => outcome
    else .ok .pass

theorem test_outcome_not_skipped {e : Engine σ} {bug : BugTag} {ran} {outcome : Outcome}
    (h : e.testOutcome bug ran = .ok outcome) : outcome ≠ .skip ∧ outcome ≠ .rtskip := by
  obtain ⟨escape | result, w⟩ := ran
  · cases h
  · unfold testOutcome at h
    dsimp only at h
    split at h
    · split at h
      · cases h
      · rename_i classified
        obtain ⟨_, -, rfl⟩ := map_eq_ok h
        rw [classify_failure_outcome classified]
        constructor
        all_goals
          repeat' split
          all_goals decide
    · cases h
      decide

theorem checks_code_recorded (e : Engine σ) (r : Session (Recorded σ)) (code : Text)
    (bug : BugTag) :
    let ran := e.evaluator.execute code r.shared false r.world.forget
    ∃ a t, e.recorded.ChecksCode r code (!bug.id.isEmpty) bug a t ∧
      a.map Prod.fst = e.testOutcome bug ran ∧
      t.calls = r.calls ++ [.execute code r.shared false ran.1] := by
  intro ran
  rcases executed : ran with ⟨answer, w⟩
  have run := Evaluator.recorded_execute_of executed
  rcases answer with escape | result
  · exact ⟨_, _, .left run, rfl, rfl⟩
  · cases raised : result.raised with
    | false =>
      refine ⟨_, _, .passed run raised, ?_, rfl⟩
      simp [testOutcome, raised, Except.map]
    | true =>
      cases classified : classifyFailure (!bug.id.isEmpty) bug e.config e.library.attributes with
      | error fault =>
        refine ⟨_, _, .unnamed run raised classified, ?_, rfl⟩
        simp [testOutcome, raised, classified, Except.map]
      | ok verdict =>
        obtain ⟨outcome, headline⟩ := verdict
        let v := w.withRecord (r.calls ++ [.execute code r.shared false (.ok result)])
          r.world.state.replies
        rcases told : e.recorded.evaluator.errorText result v with ⟨said, u⟩
        refine ⟨_, _, .failed run raised classified told, ?_, error_text_calls told⟩
        have same : (e.evaluator.errorText result w).1 = said := by
          rw [show w = v.forget from rfl,
            Evaluator.answered_of_recorded (Evaluator.recorded_asks.error_text result) v]
          exact congrArg Prod.fst told
        simp only [testOutcome, raised, classified, same, if_true]
        cases said <;> rfl

/-- After the calls, the code of the block is run once, in the world, and decides the outcome. -/
def RunsCode (e : Engine σ) (b : Block) (s : Session σ) (bug : BugTag) (before : List Call)
    (w : World σ) : Prop :=
  let ran := e.evaluator.execute b.content.code s.shared false w
  e.asks b s = before ++ [.execute b.content.code s.shared false ran.1] ∧
    e.stepOutcome b s = e.testOutcome bug ran

theorem all_available_iff (q : FeatureQuery) (features : List Text) :
    (q.allAvailable features).1 = true ↔ ∀ f ∈ features, q.available f = true := by
  induction features with
  | nil => simp [FeatureQuery.allAvailable]
  | cons f rest ih =>
    cases here : q.available f <;> simp [FeatureQuery.allAvailable, here, ih]

/-- How a conditional test goes on once its condition has been evaluated. -/
structure GoesByCondition (e : Engine σ) (b : Block) (s : Session σ) (header : Header)
    (answer : Attempt (Except Raised Value)) (w : World σ) : Prop where
  left : ∀ escape, answer = .error escape →
    e.stepOutcome b s = .error escape ∧
      e.asks b s = [.evaluate header.condition s.shared answer]
  /-- A condition that raises is a failure, told with what was raised. -/
  raised : ∀ raised, answer = .ok (.error raised) →
    e.stepOutcome b s = (e.evaluator.ask .formatted raised.value w).1.map (fun _ => .fail) ∧
      e.asks b s = [.evaluate header.condition s.shared answer]
  /-- Nothing guards the question whether the value holds. -/
  undecided : ∀ value escape, answer = .ok (.ok value) →
    (e.evaluator.ask .truth value w).1 = .error escape →
    e.stepOutcome b s = .error escape ∧
      e.asks b s = [.evaluate header.condition s.shared answer]
  closed : ∀ value, answer = .ok (.ok value) → (e.evaluator.ask .truth value w).1 = .ok false →
    e.stepOutcome b s = .ok .rtskip ∧
      e.asks b s = [.evaluate header.condition s.shared answer]
  passed : ∀ value, answer = .ok (.ok value) → (e.evaluator.ask .truth value w).1 = .ok true →
    e.RunsCode b s header.bug [.evaluate header.condition s.shared answer]
      (e.evaluator.ask .truth value w).2

section

variable {e : Engine σ} {b : Block} {s : Session σ} {header : Header} {code : Text}

theorem outcome_of_malformed {malformed : HeaderError}
    (content : b.content = .guarded (.error malformed) code) :
    e.stepOutcome b s = .ok .fail ∧ e.asks b s = [] :=
  step_outcome_of_recorded content .guardMalformed

variable (content : b.content = .guarded (.ok header) code)

include content

theorem outcome_of_missing (missing : ¬ ∀ f ∈ header.features, e.features.available f = true) :
    e.stepOutcome b s = .ok .skip ∧ e.asks b s = [] := by
  rw [← all_available_iff] at missing
  exact step_outcome_of_recorded content (.guardMissing (Bool.eq_false_iff.mpr missing))

variable (available : ∀ f ∈ header.features, e.features.available f = true)

include available

theorem runs_code_unconditional (free : header.condition = []) :
    e.RunsCode b s header.bug [] (e.announced b s).world := by
  obtain ⟨a, t, run, outcome, calls⟩ := checks_code_recorded e
    (e.recorded.askedFor header (e.announced b s).recorded) code header.bug
  obtain ⟨stepped, asked⟩ := step_outcome_of_recorded content
    (.guardOpen ((all_available_iff _ _).mpr available) free run)
  have shared : (e.announced b s).shared = s.shared := (e.announced_alike b s).shared
  rw [RunsCode, content, stepped, asked, outcome, calls, ← shared]
  exact ⟨rfl, rfl⟩

variable (bound : header.condition ≠ [])

include bound

theorem goes_by_condition :
    let asked := e.evaluator.evaluate header.condition s.shared (e.announced b s).world
    e.GoesByCondition b s header asked.1 asked.2 := by
  rcases evaluated : e.evaluator.evaluate header.condition s.shared (e.announced b s).world with
    ⟨answer, w⟩
  have open_ := (all_available_iff e.features header.features).mpr available
  have shared : (e.announced b s).shared = s.shared := (e.announced_alike b s).shared
  let asking : List Call := [.evaluate header.condition s.shared answer]
  have answered : e.recorded.evaluator.evaluate header.condition (e.announced b s).recorded.shared
      (e.announced b s).recorded.world = (answer, w.withRecord asking []) := by
    rw [← shared] at evaluated
    rw [show asking = [.evaluate header.condition (e.announced b s).shared answer] by rw [shared]]
    exact Evaluator.recorded_evaluate_of evaluated
  have truth (value : Value) {holds} (h : (e.evaluator.ask .truth value w).1 = holds) :
      e.recorded.evaluator.ask .truth value (w.withRecord asking []) =
        (holds, (e.recorded.evaluator.ask .truth value (w.withRecord asking [])).2) :=
    Prod.ext h rfl
  constructor
  · rintro escape rfl
    exact step_outcome_of_recorded content (.guardLeft open_ bound answered)
  · rintro raised rfl
    obtain ⟨stepped, made⟩ := step_outcome_of_recorded content
      (.guardRaised open_ bound answered rfl)
    refine ⟨?_, made⟩
    rw [stepped]
    change ((e.evaluator.ask .formatted raised.value w).1.map _).map _ = _
    generalize (e.evaluator.ask .formatted raised.value w).1 = said
    cases said <;> rfl
  · rintro value escape rfl raised
    exact step_outcome_of_recorded content
      (.guardUndecided open_ bound answered (truth value raised))
  · rintro value rfl falsy
    exact step_outcome_of_recorded content (.guardClosed open_ bound answered (truth value falsy))
  · rintro value rfl truthy
    obtain ⟨a, t, run, outcome, calls⟩ := checks_code_recorded e
      { e.recorded.askedFor header (e.announced b s).recorded with
        world := (e.recorded.evaluator.ask .truth value (w.withRecord asking [])).2 } code header.bug
    obtain ⟨stepped, made⟩ := step_outcome_of_recorded content
      (.guardPassed open_ bound answered (truth value truthy) run)
    rw [RunsCode, content, stepped, made, outcome, calls]
    simp only [asking, ← shared]
    exact ⟨rfl, rfl⟩

omit bound

theorem not_skipped_of_available : e.stepOutcome b s ≠ .ok .skip := by
  intro skipped
  have not_run {before w} (run : e.RunsCode b s header.bug before w) : False :=
    (test_outcome_not_skipped (run.2.symm.trans skipped)).1 rfl
  by_cases free : header.condition = []
  · exact not_run (runs_code_unconditional content available free)
  · have goes := goes_by_condition (s := s) content available free
    rcases answer : (e.evaluator.evaluate header.condition s.shared (e.announced b s).world).1 with
      escape | raised | value
    · cases (goes.left escape answer).1.symm.trans skipped
    · obtain ⟨_, -, ⟨⟩⟩ := map_eq_ok ((goes.raised raised answer).1.symm.trans skipped)
    · rcases truth : (e.evaluator.ask .truth value
        (e.evaluator.evaluate header.condition s.shared (e.announced b s).world).2).1 with
        escape | _ | _
      · cases (goes.undecided value escape answer truth).1.symm.trans skipped
      · cases (goes.closed value answer truth).1.symm.trans skipped
      · exact not_run (goes.passed value answer truth)

end

theorem content_of_guarded {raw : Text} (guarded : (parseBlock raw).kind = .testif) :
    (parseBlock raw).content = guardedContent (afterKeyword raw) :=
  classify_of_guarded (keyword_of_kind guarded (by decide))

/-- A guarded test with a malformed header fails, and nothing is asked. Otherwise it is skipped
exactly if a feature is missing, and nothing is asked. Otherwise its condition is evaluated once, if
it has one; the test fails if that raises and is skipped if the value does not hold, and no code is
run. Only if nothing has stopped it, the code is run, once, and the test passes or fails as failures
are classified. An object that raises when it is asked leaves the test where it is asked; beyond that
only an interruption or a tracker address that is malformed leaves it without an outcome. -/
theorem guarded_test_is_gated_by_header (e : Engine σ) (s : Session σ) {raw : Text}
    (guarded : (parseBlock raw).kind = .testif) :
    let b := parseBlock raw
    let line := beforeComment (firstLine (afterKeyword raw))
    let start := (e.announced b s).world
    (∀ malformed, Header.parse line = .error malformed →
      e.stepOutcome b s = .ok .fail ∧ e.asks b s = []) ∧
    (∀ header, Header.parse line = .ok header →
      let missing := ∃ f ∈ header.features, e.features.available f = false
      let asked := e.evaluator.evaluate header.condition s.shared start
      (e.stepOutcome b s = .ok .skip ↔ missing) ∧
      (missing → e.asks b s = []) ∧
      (¬ missing → header.condition ≠ [] → e.GoesByCondition b s header asked.1 asked.2) ∧
      (¬ missing → header.condition = [] → e.RunsCode b s header.bug [] start)) ∧
    (e.evaluator.Answers → e.config.trackerUrl = ({} : Config).trackerUrl →
      (∀ earlier, e.pause earlier = .ok ()) →
      ∀ escape, e.stepOutcome b s = .error escape ↔ Raised.In (e.replies b s) escape) := by
  intro b line start
  have content : b.content = .guarded (Header.parse line) (laterCode (afterKeyword raw)) :=
    content_of_guarded guarded
  refine ⟨?_, ?_, ?_⟩
  · intro malformed parsed
    rw [parsed] at content
    exact outcome_of_malformed content
  · intro header parsed missing asked
    rw [parsed] at content
    have stopped (h : missing) : e.stepOutcome b s = .ok .skip ∧ e.asks b s = [] := by
      refine outcome_of_missing content fun available => ?_
      obtain ⟨f, listed, unavailable⟩ := h
      simp [available f listed] at unavailable
    have available (h : ¬ missing) : ∀ f ∈ header.features, e.features.available f = true := by
      intro f listed
      by_contra unavailable
      exact h ⟨f, listed, Bool.eq_false_iff.mpr unavailable⟩
    refine ⟨⟨?_, fun h => (stopped h).1⟩, fun h => (stopped h).2,
      fun h bound => goes_by_condition content (available h) bound,
      fun h free => runs_code_unconditional content (available h) free⟩
    intro skipped
    by_contra h
    exact not_skipped_of_available content (available h) skipped
  · intro answers usual pauses escape
    unfold stepOutcome
    rw [map_error_iff, step_error_iff_raised answers usual pauses, or_iff_left]
    rintro ⟨kind, target, code, _, _, expected, _⟩
    rw [content] at expected
    cases expected

/-- A test whose feature is there and whose condition holds: its code is run and raises, and its bug
excuses that. -/
theorem open_test_fails_by_its_bug :
    let e : Engine Script.Calls := { raisingEngine with features := .listed ["JSON"] }
    let s : Session Script.Calls := { world := { state := [] } }
    let raw : Text := "testif HAVE_JSON; ready <12>\n  boom"
    let asked := e.evaluator.evaluate "ready" [] (e.announced (parseBlock raw) s).world
    (parseBlock raw).kind = .testif ∧
      e.RunsCode (parseBlock raw) s ⟨"12", false⟩ [.evaluate "ready" [] asked.1] asked.2 ∧
      e.stepOutcome (parseBlock raw) s = .ok .xbug := by
  intro e s raw asked
  have guarded : (parseBlock raw).kind = .testif := rfl
  obtain ⟨-, gates, -⟩ := guarded_test_is_gated_by_header e s guarded
  obtain ⟨-, -, conditional, -⟩ := gates ⟨["JSON"], "ready", ⟨"12", false⟩⟩ rfl
  have passed := (conditional (by decide) (by decide)).passed (.bool true) rfl rfl
  exact ⟨guarded, passed, rfl⟩

/-- Scripts whose values raise when they are asked whether they hold. -/
def undecidedEngine : Engine Script.Calls :=
  { raisingEngine with
    evaluator := { raisingEngine.evaluator with
      ask := fun
        | .truth, _, w => (.error (.raised (.builtin "ValueError" "undecided")), w)
        | q, v, w => raisingEngine.evaluator.ask q v w } }

/-- A value that does not say whether it holds leaves the test neither failed nor skipped, and its
code is not run. -/
theorem undecided_condition_leaves_test :
    let s : Session Script.Calls := { world := { state := [] } }
    let raw : Text := "testif ; v\n  x = 1"
    (parseBlock raw).kind = .testif ∧ undecidedEngine.evaluator.Answers ∧
      (∀ outcome, undecidedEngine.stepOutcome (parseBlock raw) s ≠ .ok outcome) ∧
      (undecidedEngine.run [] [parseBlock raw] s).result? = none := by
  intro s raw
  refine ⟨rfl, ⟨raising_script_answers.executes, raising_script_answers.evaluates,
    raising_script_answers.defines⟩, nofun, by decide +kernel⟩

end Engine
end EmbeddedTests
