import EmbeddedTests.Proofs.Gates

/-!
# Expectations of error and warning blocks

What an error or warning block expects can be said without the course that its judgement takes: an
exception, or no exception and a last warning, whose class or message is the expected one. Where its
pattern is well-formed, a block that is judged passes if that is so and fails if not, and it is
judged unless an object raises when it is asked what it says.
-/
namespace EmbeddedTests

variable {σ : Type}

namespace Expectation

/-- The pattern, where there is one, is well-formed. -/
def IsValid (characters : CharacterNames) (target : Expectation) : Prop :=
  ∀ pattern, target = .matching pattern → ∃ p, Pattern.parse characters pattern = .ok p

/-- The class goes by the identifier, or the pattern is found in what is said. The pattern that
stands for anything is found in everything that is said. -/
def IsMetBy (characters : CharacterNames) (target : Expectation) (type : ClassName)
    (said : Attempt Text) : Prop :=
  match target with
  | .identified id =>
    id = type.name ∨ id = type.qualified ∨ id = type.home ++ "." ++ type.qualified
  | .matching pattern =>
    ∃ message, said = .ok message ∧
      (pattern = anything ∨
        ∃ p, Pattern.parse characters pattern = .ok p ∧ p.occursIn message = true)

/-- Code of a block of the kind has come to what is expected, where the text is what is said. -/
def IsFulfilledBy (characters : CharacterNames) (target : Expectation) (kind : ExpectKind)
    (result : Evaluation) (said : Attempt Text) : Prop :=
  result.syntaxError = false ∧
    match kind with
    | .error => ∃ raised, result.error = some raised ∧ target.IsMetBy characters raised.type said
    | .warning => result.error = none ∧
      ∃ warning, result.warnings.getLast? = some warning ∧
        target.IsMetBy characters warning.category said

end Expectation

namespace Engine

theorem failed_ne_nil (headline detail : Text) : failed headline detail ≠ [] := by
  intro none
  have shorter := congrArg List.length none
  simp only [failed, List.length_append, List.length_cons, List.length_nil] at shorter
  omega

/-- The verdict is to pass if the condition holds; otherwise it is a failure that says why. -/
def PassesIff (p : Prop) (verdict : Verdict) : Prop :=
  (p ∧ verdict = (.pass, [])) ∨ (¬ p ∧ verdict.1 = .fail ∧ verdict.2 ≠ [])

theorem compare_passes {characters kind} {target : Expectation}
    (valid : target.IsValid characters) {type : ClassName}
    {message : World σ → Attempt Text × World σ} {w u : World σ} {verdict : Verdict}
    (compared : compare characters kind target type message w = (.ok verdict, u)) :
    PassesIff (target.IsMetBy characters type (message w).1) verdict := by
  cases target with
  | identified id =>
    cases compared
    cases met : type.goesBy id with
    | true => exact .inl ⟨by simpa [ClassName.goesBy, Expectation.IsMetBy, or_assoc] using met, rfl⟩
    | false =>
      refine .inr ⟨?_, rfl, failed_ne_nil _ _⟩
      simpa [ClassName.goesBy, Expectation.IsMetBy, and_assoc] using met
  | matching pattern =>
    obtain ⟨p, parsed⟩ := valid pattern rfl
    unfold compare at compared
    rcases said : message w with ⟨escape | text, v⟩
    · rw [said] at compared
      cases compared
    · simp only [said, goOn] at compared
      have matched : ∃ met, messageMatches characters pattern text = .ok met ∧
          (met = true ↔ pattern = anything ∨ p.occursIn text = true) := by
        unfold messageMatches
        by_cases any : pattern = anything
        · exact ⟨true, if_pos any, by simp [any]⟩
        · exact ⟨p.occursIn text, by simp [any, parsed, Except.map], by simp [any]⟩
      obtain ⟨met, matched, found⟩ := matched
      rw [matched] at compared
      obtain ⟨got, -, rfl⟩ := map_eq_ok (congrArg Prod.fst compared)
      have agrees : Expectation.IsMetBy characters (.matching pattern) type (.ok text) ↔
          met = true := by
        simp [Expectation.IsMetBy, parsed, found]
      unfold PassesIff
      rw [agrees]
      cases met with
      | true => exact .inl ⟨rfl, rfl⟩
      | false => exact .inr ⟨Bool.false_ne_true, rfl, failed_ne_nil _ _⟩

theorem judge_passes {e : Engine σ} {kind} {target : Expectation}
    (valid : target.IsValid e.library.characters) {result : Evaluation} {w u : World σ}
    {verdict : Verdict} (judged : e.judge kind target result w = (.ok verdict, u)) :
    PassesIff (target.IsFulfilledBy e.library.characters kind result
      (e.evaluator.said kind result w).1) verdict := by
  unfold judge at judged
  unfold Expectation.IsFulfilledBy
  cases compiled : result.syntaxError with
  | true =>
    simp only [compiled, if_true] at judged
    obtain ⟨detail, -, rfl⟩ := map_eq_ok (congrArg Prod.fst judged)
    exact .inr ⟨by simp, rfl, failed_ne_nil _ _⟩
  | false =>
    simp only [compiled, Bool.false_eq_true, if_false] at judged
    simp only [true_and]
    cases kind with
    | error =>
      cases error : result.error with
      | none =>
        simp only [error] at judged
        cases judged
        exact .inr ⟨by simp, rfl, failed_ne_nil _ _⟩
      | some raised =>
        simp only [error] at judged
        simpa [Evaluator.said, error] using compare_passes valid judged
    | warning =>
      cases error : result.error with
      | some raised =>
        simp only [error] at judged
        obtain ⟨message, -, rfl⟩ := map_eq_ok (congrArg Prod.fst judged)
        exact .inr ⟨by simp, rfl, failed_ne_nil _ _⟩
      | none =>
        cases last : result.warnings.getLast? with
        | none =>
          simp only [error, last] at judged
          cases judged
          exact .inr ⟨by simp, rfl, failed_ne_nil _ _⟩
        | some warning =>
          simp only [error, last] at judged
          simpa [Evaluator.said, error] using compare_passes valid judged

theorem not_malformed_of_valid {characters} {target : Expectation}
    (valid : target.IsValid characters) (said : Attempt Text) (escape : Escape) :
    ¬ Malformed characters target said escape := by
  rintro ⟨pattern, text, fault, rfl, -, -, malformed, -⟩
  obtain ⟨p, parsed⟩ := valid pattern rfl
  rw [malformed] at parsed
  cases parsed

section

variable {e : Engine σ} {b : Block} {s : Session σ} {kind : ExpectKind} {target : Expectation}
  {code : Text} {result : Evaluation} {w : World σ}
  (content : b.content = .expect kind target code)
  (ran : e.evaluator.execute code s.shared (kind == .warning) (e.announced b s).world =
    (.ok result, w))

include content ran

theorem expect_executes {a u} (judged : e.recorded.judge kind target result
      (w.withRecord [.execute code s.shared (kind == .warning) (.ok result)] []) = (a, u)) :
    e.recorded.Executes (e.recorded.announced b s.recorded) b.content a
      { e.recorded.announced b s.recorded with world := u } := by
  rw [content, announced_recorded]
  refine .expectJudged ?_ judged
  rw [← (e.announced_alike b s).shared] at ran ⊢
  exact Evaluator.recorded_execute_of ran

theorem expect_calls :
    e.asks b s = [.execute code s.shared (kind == .warning) (.ok result)] := by
  rcases judged : e.recorded.judge kind target result
      (w.withRecord [.execute code s.shared (kind == .warning) (.ok result)] []) with ⟨a, u⟩
  have executed := expect_executes content ran judged
  rw [announced_recorded] at executed
  obtain ⟨-, calls⟩ := step_of_recorded rfl executed
  rw [calls]
  exact asked_calls (fun alike => judge_follows rfl alike kind target result) judged

theorem expect_left (valid : target.IsValid e.library.characters) (escape : Escape) :
    (e.step b s).1 = .error escape ↔ Raised.In (e.replies b s) escape := by
  have leaves {a t}
      (executed : e.recorded.Executes (e.recorded.announced b s.recorded) b.content a t) :
      LeftByAsking [] t.world.state.replies a := by
    rcases judged : e.recorded.judge kind target result
        (w.withRecord [.execute code s.shared (kind == .warning) (.ok result)] []) with ⟨answer, u⟩
    obtain ⟨rfl, rfl⟩ := Prod.mk.inj ((executes_iff.mp executed).symm.trans
      (executes_iff.mp (expect_executes content ran judged)))
    obtain ⟨asked, noted, left⟩ := judge_left judged
    refine ⟨asked, noted, fun escape => ?_⟩
    rw [left]
    simp [not_malformed_of_valid valid]
  exact (step_error_iff_asked leaves).trans (iff_of_eq (or_false _))

/-- A report on the block passes if what the code came to fulfils the expectation, and else fails. -/
theorem expect_passes (valid : target.IsValid e.library.characters) {report : BlockReport}
    (reported : (e.step b s).1 = .ok report) :
    PassesIff (target.IsFulfilledBy e.library.characters kind result
      (e.evaluator.said kind result w).1) (report.outcome, report.message) := by
  obtain ⟨verdict, u, executed, rfl, -⟩ := step_ok_iff.mp
    (show e.step b s = (.ok report, (e.step b s).2) from Prod.ext reported rfl)
  rw [content] at executed
  generalize answered : (Except.ok verdict : Attempt Verdict) = a at executed
  cases executed with
  | expectLeft left => cases answered
  | expectJudged run judged =>
    subst answered
    rw [(e.announced_alike b s).shared, ran] at run
    cases run
    exact judge_passes valid judged

end

/-- The code of an error or warning block is run once, and warnings are recorded for a warning block
only. Unless its pattern is malformed, the block is left only by an interruption of its code, or by an
object that raises when it is asked. Where it is not left, it passes exactly if what the code came to
fulfils the expectation, and otherwise it fails and says why. -/
theorem block_passes_iff_expectation_is_fulfilled (e : Engine σ) (s : Session σ) {raw : Text}
    {kind : ExpectKind} {target : Expectation} {code : Text}
    (content : (parseBlock raw).content = .expect kind target code)
    (valid : target.IsValid e.library.characters) :
    let b := parseBlock raw
    let ran := e.evaluator.execute code s.shared (kind == .warning) (e.announced b s).world
    e.asks b s = [.execute code s.shared (kind == .warning) ran.1] ∧
      (∀ escape, ran.1 = .error escape → (e.step b s).1 = .error escape) ∧
      ∀ result, ran.1 = .ok result →
        let fulfilled := target.IsFulfilledBy e.library.characters kind result
          (e.evaluator.said kind result ran.2).1
        (∀ escape, (e.step b s).1 = .error escape ↔ Raised.In (e.replies b s) escape) ∧
          ∀ report, (e.step b s).1 = .ok report →
            (report.outcome = .pass ↔ fulfilled) ∧
              (¬ fulfilled → report.outcome = .fail ∧ report.message ≠ []) := by
  intro b ran
  rcases executed : ran with ⟨escape | result, w⟩
  · have shared : (e.announced b s).shared = s.shared := (e.announced_alike b s).shared
    have left : e.recorded.evaluator.execute code (e.announced b s).recorded.shared
        (kind == .warning) (e.announced b s).recorded.world =
        (.error escape,
          w.withRecord [.execute code s.shared (kind == .warning) (.error escape)] []) := by
      rw [← shared]
      refine Evaluator.recorded_execute_of ?_
      rw [← executed]
      change e.evaluator.execute code (e.announced b s).shared _ _ = _
      rw [shared]
      rfl
    obtain ⟨stepped, calls⟩ := step_of_recorded content (.expectLeft left)
    refine ⟨calls, ?_, nofun⟩
    rintro _ ⟨rfl⟩
    exact stepped
  · refine ⟨expect_calls content executed, nofun, ?_⟩
    rintro _ ⟨rfl⟩
    refine ⟨expect_left content executed valid, fun report reported => ?_⟩
    rcases expect_passes content executed valid reported with ⟨met, verdict⟩ | ⟨unmet, fails, told⟩
    · obtain ⟨passes, -⟩ := Prod.mk.inj verdict
      exact ⟨⟨fun _ => met, fun _ => passes⟩, fun unmet => absurd met unmet⟩
    · exact ⟨⟨fun passes => (nomatch passes.symm.trans fails), fun met => absurd met unmet⟩,
        fun _ => ⟨fails, told⟩⟩

/-- The message of what the code raises is searched for the pattern, and has it in its middle. -/
theorem raised_message_is_searched :
    let s : Session Script.Calls := { world := { state := [] } }
    let raw : Text := "error <o+> boom"
    let result : Evaluation := { error := some (.builtin "ValueError" "boom") }
    (parseBlock raw).content = .expect .error (.matching "o+") "boom" ∧
      (Expectation.matching "o+").IsValid latinNames ∧
      ∃ report, (raisingEngine.step (parseBlock raw) s).1 = .ok report ∧ report.outcome = .pass ∧
        (Expectation.matching "o+").IsFulfilledBy latinNames .error result (.ok "boom") := by
  intro s raw result
  have content : (parseBlock raw).content = .expect .error (.matching "o+") "boom" := rfl
  have valid : (Expectation.matching "o+").IsValid latinNames := by
    rintro _ ⟨rfl⟩
    exact ⟨_, rfl⟩
  obtain ⟨-, -, judged⟩ := block_passes_iff_expectation_is_fulfilled raisingEngine s content valid
  obtain ⟨-, passes⟩ := judged result rfl
  have fulfilled : (Expectation.matching "o+").IsFulfilledBy latinNames .error result (.ok "boom") :=
    ⟨rfl, _, rfl, _, rfl, .inr ⟨_, rfl, rfl⟩⟩
  have judged : ((raisingEngine.step (parseBlock raw) s).1.toOption).isSome = true := by
    decide +kernel
  rcases stepped : (raisingEngine.step (parseBlock raw) s).1 with escape | report
  · rw [stepped] at judged
    cases judged
  · exact ⟨content, valid, report, rfl, (passes report stepped).1.mpr fulfilled, fulfilled⟩

/-- Scripts whose objects raise when they are asked what they say. -/
def speechlessEngine : Engine Script.Calls :=
  { raisingEngine with
    evaluator := { raisingEngine.evaluator with
      ask := fun
        | .text, _, w => (.error (.raised (.builtin "ValueError" "speechless")), w)
        | q, v, w => raisingEngine.evaluator.ask q v w } }

/-- An exception that raises when it is asked what it says leaves a block without an outcome whose
pattern stands for anything. -/
theorem speechless_exception_leaves_block :
    let s : Session Script.Calls := { world := { state := [] } }
    let raw : Text := "error boom"
    (parseBlock raw).content = .expect .error (.matching anything) "boom" ∧
      speechlessEngine.evaluator.Answers ∧
      (∀ report, (speechlessEngine.step (parseBlock raw) s).1 ≠ .ok report) ∧
      (speechlessEngine.run [] [parseBlock raw] s).result? = none := by
  intro s raw
  have silent : (speechlessEngine.step (parseBlock raw) s).1.toOption.isSome = false := by
    decide +kernel
  refine ⟨rfl, ⟨raising_script_answers.executes, raising_script_answers.evaluates,
    raising_script_answers.defines⟩, fun report told => ?_, by decide +kernel⟩
  rw [told] at silent
  cases silent

end Engine
end EmbeddedTests
