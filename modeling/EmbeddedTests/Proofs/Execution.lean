import EmbeddedTests.Engine

/-!
# What executing one block can come to

`Executes` has one constructor for each way in which a block's execution ends, with everything that
was asked on the way there. It holds of exactly what `Engine.execute` computes, so an invariant of
steps is a case split on it. Showing and reporting leave everything but the texts shown alone.
-/
namespace EmbeddedTests.Engine

variable {σ : Type}

inductive ChecksCode (e : Engine σ) (s : Session σ) (code : Text) (known : Bool) (bug : BugTag) :
    Attempt Verdict → Session σ → Prop where
  | left {escape w} (run : e.evaluator.execute code s.shared false s.world = (.error escape, w)) :
      ChecksCode e s code known bug (.error escape) { s with world := w }
  | passed {result w} (run : e.evaluator.execute code s.shared false s.world = (.ok result, w))
      (clean : result.raised = false) :
      ChecksCode e s code known bug (.ok (.pass, []))
        { s with world := w, shared := s.shared.update result.bindings }
  | failed {result w outcome headline said u}
      (run : e.evaluator.execute code s.shared false s.world = (.ok result, w))
      (raised : result.raised = true)
      (classified : classifyFailure known bug e.config e.library.attributes =
        .ok (outcome, headline))
      (told : e.evaluator.errorText result w = (said, u)) :
      ChecksCode e s code known bug
        (said.map fun detail => (outcome, Engine.failed
          (if result.syntaxError then headline ++ ": syntax error" else headline) detail))
        { s with world := u }
  | unnamed {result w fault}
      (run : e.evaluator.execute code s.shared false s.world = (.ok result, w))
      (raised : result.raised = true)
      (refused : classifyFailure known bug e.config e.library.attributes = .error fault) :
      ChecksCode e s code known bug (.error (.badTemplate fault)) { s with world := w }

theorem checks_code_of_run {e : Engine σ} {s t : Session σ} {code known bug a}
    (h : e.runCheck code known bug s = (a, t)) : e.ChecksCode s code known bug a t := by
  unfold runCheck at h
  split at h
  · rename_i escape w run
    cases h
    exact .left run
  · rename_i result w run
    cases hr : result.raised with
    | false =>
      simp only [hr] at h
      cases h
      exact .passed run hr
    | true =>
      simp only [hr] at h
      cases hc : classifyFailure known bug e.config e.library.attributes with
      | error fault =>
        simp only [hc] at h
        cases h
        exact .unnamed run hr hc
      | ok verdict =>
        simp only [hc] at h
        cases h
        exact .failed run hr hc rfl

theorem ChecksCode.run {e : Engine σ} {s t : Session σ} {code known bug a}
    (h : e.ChecksCode s code known bug a t) : e.runCheck code known bug s = (a, t) := by
  cases h with
  | left run => simp [runCheck, run]
  | passed run clean => simp [runCheck, run, clean]
  | failed run raised classified told =>
    simp only [runCheck, tellFailure, run, raised, classified, told, Bool.not_true,
      Bool.false_eq_true, if_false]
  | unnamed run raised refused =>
    simp only [runCheck, run, raised, refused, Bool.not_true, Bool.false_eq_true, if_false]

def DemosIdle (e : Engine σ) : Prop := e.options.runDemos = false ∨ e.options.batch = true

instance (e : Engine σ) : Decidable e.DemosIdle := inferInstanceAs (Decidable (_ ∨ _))

def askedFor (e : Engine σ) (header : Header) (s : Session σ) : Session σ :=
  { s with journal := s.journal ++ (e.features.allAvailable header.features).2 }

inductive Executes (e : Engine σ) (s : Session σ) :
    Content → Attempt Verdict → Session σ → Prop where
  | demoIdle {code} (idle : e.DemosIdle) : Executes e s (.demo code) (.ok (.none, [])) s
  | demoLeft {code escape w} (busy : ¬ e.DemosIdle)
      (run : e.evaluator.execute (normalizeCode code) [] false s.world = (.error escape, w)) :
      Executes e s (.demo code) (.error escape) { s with world := w }
  | demoFailed {code result w said u} (busy : ¬ e.DemosIdle)
      (run : e.evaluator.execute (normalizeCode code) [] false s.world = (.ok result, w))
      (raised : result.raised = true) (told : e.evaluator.errorText result w = (said, u)) :
      Executes e s (.demo code) (said.map fun detail => (.error, failed "demo failed" detail))
        { s with world := u }
  | demoShown {code result w} (busy : ¬ e.DemosIdle)
      (run : e.evaluator.execute (normalizeCode code) [] false s.world = (.ok result, w))
      (clean : result.raised = false) :
      Executes e s (.demo code) ((e.pause s.pauses).map fun _ => (.none, []))
        { s with world := w, pauses := s.pauses ++ [pausePrompt] }
  | sharedRefused {names code bad} (refused : Shared.reset names = .error bad) :
      Executes e s (.shared names code) (.ok (.error, failed initializationFailed bad.message)) s
  | sharedEmpty {names code fresh} (reset : Shared.reset names = .ok fresh)
      (blank : Text.allBlank code = true) :
      Executes e s (.shared names code) (.ok (.none, [])) { s with shared := fresh }
  | sharedLeft {names code fresh escape w} (reset : Shared.reset names = .ok fresh)
      (written : Text.allBlank code = false)
      (run : e.evaluator.execute code fresh false s.world = (.error escape, w)) :
      Executes e s (.shared names code) (.error escape) { s with shared := fresh, world := w }
  | sharedFailed {names code fresh result w said u} (reset : Shared.reset names = .ok fresh)
      (written : Text.allBlank code = false)
      (run : e.evaluator.execute code fresh false s.world = (.ok result, w))
      (raised : result.raised = true) (told : e.evaluator.errorText result w = (said, u)) :
      Executes e s (.shared names code)
        (said.map fun detail => (.error, failed initializationFailed detail))
        { s with shared := fresh, world := u }
  | sharedSet {names code fresh result w} (reset : Shared.reset names = .ok fresh)
      (written : Text.allBlank code = false)
      (run : e.evaluator.execute code fresh false s.world = (.ok result, w))
      (clean : result.raised = false) :
      Executes e s (.shared names code) (.ok (.none, []))
        { s with shared := fresh.update result.bindings, world := w }
  | functionNameless {code} :
      Executes e s (.function none code)
        (.ok (.error, Signal.failure ++ "test failed: " ++ missingName)) s
  | functionLeft {signature code escape w}
      (run : e.evaluator.define signature.name code s.world = (.error escape, w)) :
      Executes e s (.function (some signature) code) (.error escape) { s with world := w }
  | functionFailed {signature code result w said u}
      (run : e.evaluator.define signature.name code s.world = (.ok result, w))
      (raised : result.raised = true) (told : e.evaluator.errorText result w = (said, u)) :
      Executes e s (.function (some signature) code)
        (said.map fun detail => (.error, failed "test failed: syntax error" detail))
        { s with world := u }
  | functionDefined {signature code result w}
      (run : e.evaluator.define signature.name code s.world = (.ok result, w))
      (clean : result.raised = false) :
      Executes e s (.function (some signature) code) (.ok (.none, []))
        { s with world := w, functions := s.functions ++ [signature.name] }
  | functionEnd : Executes e s .functionEnd (.ok (.none, [])) s
  | comment : Executes e s .comment (.ok (.none, [])) s
  | expectLeft {kind target code escape w}
      (run : e.evaluator.execute code s.shared (kind == .warning) s.world = (.error escape, w)) :
      Executes e s (.expect kind target code) (.error escape) { s with world := w }
  | expectJudged {kind target code result w a u}
      (run : e.evaluator.execute code s.shared (kind == .warning) s.world = (.ok result, w))
      (judged : e.judge kind target result w = (a, u)) :
      Executes e s (.expect kind target code) a { s with world := u }
  | check {kind bug code a t}
      (run : e.ChecksCode s code (Content.isKnownFailure (.check kind bug code)) bug a t) :
      Executes e s (.check kind bug code) a t
  | guardMalformed {malformed : HeaderError} {code} :
      Executes e s (.guarded (.error malformed) code)
        (.ok (.fail, Signal.failure ++ "test failed: " ++ malformed.message)) s
  | guardMissing {header : Header} {code}
      (missing : (e.features.allAvailable header.features).1 = false) :
      Executes e s (.guarded (.ok header) code)
        (.ok (.skip, Signal.skip ++ "skipped test (missing feature)")) (e.askedFor header s)
  | guardOpen {header : Header} {code a t}
      (available : (e.features.allAvailable header.features).1 = true)
      (free : header.condition = [])
      (run : e.ChecksCode (e.askedFor header s) code (!header.bug.id.isEmpty) header.bug a t) :
      Executes e s (.guarded (.ok header) code) a t
  | guardLeft {header : Header} {code escape w}
      (available : (e.features.allAvailable header.features).1 = true)
      (bound : header.condition ≠ [])
      (asked : e.evaluator.evaluate header.condition s.shared s.world = (.error escape, w)) :
      Executes e s (.guarded (.ok header) code) (.error escape)
        { e.askedFor header s with world := w }
  | guardRaised {header : Header} {code raised w said u}
      (available : (e.features.allAvailable header.features).1 = true)
      (bound : header.condition ≠ [])
      (asked : e.evaluator.evaluate header.condition s.shared s.world = (.ok (.error raised), w))
      (told : e.evaluator.ask .formatted raised.value w = (said, u)) :
      Executes e s (.guarded (.ok header) code)
        (said.map fun text =>
          (.fail, failed "test failed: runtime condition raised" (raised.line text)))
        { e.askedFor header s with world := u }
  | guardUndecided {header : Header} {code value w escape u}
      (available : (e.features.allAvailable header.features).1 = true)
      (bound : header.condition ≠ [])
      (asked : e.evaluator.evaluate header.condition s.shared s.world = (.ok (.ok value), w))
      (holds : e.evaluator.ask .truth value w = (.error escape, u)) :
      Executes e s (.guarded (.ok header) code) (.error escape)
        { e.askedFor header s with world := u }
  | guardClosed {header : Header} {code value w u}
      (available : (e.features.allAvailable header.features).1 = true)
      (bound : header.condition ≠ [])
      (asked : e.evaluator.evaluate header.condition s.shared s.world = (.ok (.ok value), w))
      (holds : e.evaluator.ask .truth value w = (.ok false, u)) :
      Executes e s (.guarded (.ok header) code)
        (.ok (.rtskip, Signal.skip ++ "skipped test (runtime test)"))
        { e.askedFor header s with world := u }
  | guardPassed {header : Header} {code value w u a t}
      (available : (e.features.allAvailable header.features).1 = true)
      (bound : header.condition ≠ [])
      (asked : e.evaluator.evaluate header.condition s.shared s.world = (.ok (.ok value), w))
      (holds : e.evaluator.ask .truth value w = (.ok true, u))
      (run : e.ChecksCode { e.askedFor header s with world := u } code (!header.bug.id.isEmpty)
        header.bug a t) :
      Executes e s (.guarded (.ok header) code) a t
  | unknown {keyword} :
      Executes e s (.unknown keyword) (.ok (.fail, Signal.failure ++ "unknown test type!")) s

theorem executes_demo {e : Engine σ} {s t : Session σ} {code a}
    (h : e.runDemo code s = (a, t)) : e.Executes s (.demo code) a t := by
  unfold runDemo at h
  split at h
  · rename_i idle
    cases h
    exact .demoIdle (by simpa [DemosIdle] using idle)
  · rename_i idle
    have busy : ¬ e.DemosIdle := by simpa [DemosIdle] using idle
    split at h
    · rename_i escape w run
      cases h
      exact .demoLeft busy run
    · rename_i result w run
      split at h
      · rename_i raised
        cases h
        exact .demoFailed busy run raised rfl
      · rename_i raised
        cases h
        exact .demoShown busy run (by simpa using raised)

theorem executes_shared {e : Engine σ} {s t : Session σ} {names code a}
    (h : e.runShared names code s = (a, t)) : e.Executes s (.shared names code) a t := by
  unfold runShared at h
  cases reset : Shared.reset names with
  | error bad =>
    simp only [reset] at h
    cases h
    exact .sharedRefused reset
  | ok fresh =>
    simp only [reset, Shared.runInitializer] at h
    cases blank : Text.allBlank code with
    | true =>
      simp only [blank] at h
      cases h
      exact .sharedEmpty reset blank
    | false =>
      rcases run : e.evaluator.execute code fresh false s.world with ⟨_ | result, w⟩
      · simp only [blank, run] at h
        cases h
        exact .sharedLeft reset blank run
      · cases raised : result.raised with
        | true =>
          simp only [blank, run, raised, Bool.false_eq_true, if_true, if_false] at h
          cases h
          exact .sharedFailed reset blank run raised rfl
        | false =>
          simp only [blank, run, raised, Bool.false_eq_true, if_false] at h
          cases h
          exact .sharedSet reset blank run raised

theorem executes_function {e : Engine σ} {s t : Session σ} {signature code a}
    (h : e.runFunction signature code s = (a, t)) :
    e.Executes s (.function signature code) a t := by
  cases signature with
  | none =>
    cases h
    exact .functionNameless
  | some signature =>
    simp only [runFunction] at h
    split at h
    · rename_i escape w run
      cases h
      exact .functionLeft run
    · rename_i result w run
      split at h
      · rename_i raised
        cases h
        exact .functionFailed run raised rfl
      · rename_i raised
        cases h
        exact .functionDefined run (by simpa using raised)

theorem executes_expect {e : Engine σ} {s t : Session σ} {kind target code a}
    (h : e.runExpect kind target code s = (a, t)) :
    e.Executes s (.expect kind target code) a t := by
  unfold runExpect at h
  split at h
  · rename_i escape w run
    cases h
    exact .expectLeft run
  · rename_i result w run
    cases h
    exact .expectJudged run rfl

theorem executes_guarded {e : Engine σ} {s t : Session σ} {header code a}
    (h : e.runGuarded header code s = (a, t)) : e.Executes s (.guarded header code) a t := by
  cases header with
  | error malformed =>
    cases h
    exact .guardMalformed
  | ok header =>
    simp only [runGuarded] at h
    cases available : (e.features.allAvailable header.features).1 with
    | false =>
      simp only [available] at h
      cases h
      exact .guardMissing available
    | true =>
      simp only [available, Bool.not_true, Bool.false_eq_true, if_false] at h
      split at h
      · rename_i free
        exact .guardOpen available (by simpa using free) (checks_code_of_run h)
      · rename_i bound
        have bound : header.condition ≠ [] := by simpa using bound
        split at h
        · rename_i escape w asked
          cases h
          exact .guardLeft available bound asked
        · rename_i raised w asked
          cases h
          exact .guardRaised available bound asked rfl
        · rename_i value w asked
          split at h
          · rename_i escape u holds
            cases h
            exact .guardUndecided available bound asked holds
          · rename_i holds u answered
            cases holds with
            | false =>
              cases h
              exact .guardClosed available bound asked answered
            | true => exact .guardPassed available bound asked answered (checks_code_of_run h)

theorem executes_of_execute {e : Engine σ} {s t : Session σ} {b : Block} {a}
    (h : e.execute b s = (a, t)) : e.Executes s b.content a t := by
  obtain ⟨raw, content⟩ := b
  cases content with
  | demo code => exact executes_demo h
  | shared names code => exact executes_shared h
  | function signature code => exact executes_function h
  | functionEnd => cases h; exact .functionEnd
  | comment => cases h; exact .comment
  | expect kind target code => exact executes_expect h
  | check kind bug code => exact .check (checks_code_of_run h)
  | guarded header code => exact executes_guarded h
  | unknown keyword => cases h; exact .unknown

theorem Executes.execute_eq {e : Engine σ} {s t : Session σ} {b : Block} {a}
    (h : e.Executes s b.content a t) : e.execute b s = (a, t) := by
  obtain ⟨raw, content⟩ := b
  dsimp only at h
  cases h with
  | demoIdle idle => exact if_pos (by simpa [DemosIdle] using idle)
  | demoLeft busy run =>
    refine (if_neg (by simpa [DemosIdle] using busy)).trans ?_
    simp only [run]
  | demoFailed busy run raised told =>
    refine (if_neg (by simpa [DemosIdle] using busy)).trans ?_
    simp only [run, raised, tellFailure, told, if_true]
  | demoShown busy run clean =>
    refine (if_neg (by simpa [DemosIdle] using busy)).trans ?_
    simp only [run, clean, Bool.false_eq_true, if_false]
  | sharedRefused refused => simp only [execute, runShared, refused]
  | sharedEmpty reset blank =>
    simp only [execute, runShared, reset, Shared.runInitializer, blank, if_true]
  | sharedLeft reset written run =>
    simp only [execute, runShared, reset, Shared.runInitializer, written, run, Bool.false_eq_true,
      if_false]
  | sharedFailed reset written run raised told =>
    simp only [execute, runShared, reset, Shared.runInitializer, written, run, raised, tellFailure,
      told, Bool.false_eq_true, if_true, if_false]
  | sharedSet reset written run clean =>
    simp only [execute, runShared, reset, Shared.runInitializer, written, run, clean,
      Bool.false_eq_true, if_false]
  | functionNameless => rfl
  | functionLeft run => simp only [execute, runFunction, run]
  | functionFailed run raised told =>
    simp only [execute, runFunction, run, raised, tellFailure, told, if_true]
  | functionDefined run clean =>
    simp only [execute, runFunction, run, clean, Bool.false_eq_true, if_false]
  | functionEnd => rfl
  | comment => rfl
  | expectLeft run => simp only [execute, runExpect, run]
  | expectJudged run judged => simp only [execute, runExpect, run, judged]
  | check run => exact run.run
  | guardMalformed => rfl
  | guardMissing missing =>
    simp only [execute, runGuarded, missing, Bool.not_false, if_true]
    rfl
  | guardOpen available free run =>
    simp only [execute, runGuarded, available, free, Bool.not_true, Bool.false_eq_true, if_false,
      List.isEmpty_nil, if_true]
    exact run.run
  | guardLeft available bound asked =>
    simp only [execute, runGuarded, available, List.isEmpty_eq_false_iff.mpr bound, asked,
      Bool.not_true, Bool.false_eq_true, if_false]
    rfl
  | guardRaised available bound asked told =>
    simp only [execute, runGuarded, available, List.isEmpty_eq_false_iff.mpr bound, asked, told,
      Bool.not_true, Bool.false_eq_true, if_false]
    rfl
  | guardUndecided available bound asked holds =>
    simp only [execute, runGuarded, available, List.isEmpty_eq_false_iff.mpr bound, asked, holds,
      Bool.not_true, Bool.false_eq_true, if_false]
    rfl
  | guardClosed available bound asked holds =>
    simp only [execute, runGuarded, available, List.isEmpty_eq_false_iff.mpr bound, asked, holds,
      Bool.not_true, Bool.false_eq_true, if_false]
    rfl
  | guardPassed available bound asked holds run =>
    simp only [execute, runGuarded, available, List.isEmpty_eq_false_iff.mpr bound, asked, holds,
      Bool.not_true, Bool.false_eq_true, if_false, if_true]
    exact run.run
  | unknown => rfl

theorem executes_iff {e : Engine σ} {s t : Session σ} {b : Block} {a} :
    e.Executes s b.content a t ↔ e.execute b s = (a, t) :=
  ⟨Executes.execute_eq, executes_of_execute⟩

end EmbeddedTests.Engine
