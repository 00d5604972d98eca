import EmbeddedTests.Proofs.Escape
import EmbeddedTests.Proofs.Recording
import EmbeddedTests.Proofs.Tally

/-!
# Failures that were expected

The keyword of a test and the bug that it names say whether its failure is expected. Such a failure
has an outcome of its own, which its bug decides. Otherwise a test that is expected to fail can fail
only before its code is run, by a condition that raises, and only so can it stop a file.
-/
namespace EmbeddedTests

variable {σ : Type}

namespace Content

def bug : Content → BugTag
  | check _ bug _ => bug
  | guarded (.ok header) _ => header.bug
  | _ => {}

def expectedOutcome (c : Content) : Outcome :=
  if c.bug.fixed = true then .regression else if c.bug.id = [] then .xfail else .xbug

theorem is_known_failure_iff (c : Content) :
    c.isKnownFailure = true ↔ c.kind = .xtest ∨ c.bug.id ≠ [] := by
  cases c with
  | check kind named code =>
    cases kind <;> simp [isKnownFailure, kind, BlockKind.ofCheck, bug]
  | expect kind target code =>
    cases kind <;> simp [isKnownFailure, kind, BlockKind.ofExpect, bug]
  | guarded header code =>
    cases header <;> simp [isKnownFailure, kind, bug]
  | _ => simp [isKnownFailure, kind, bug]

/-- Among the calls, the code of the block was run, and it raised or did not compile. -/
def RaisedIn (c : Content) (calls : List Call) : Prop :=
  ∃ bindings record result, .execute c.code bindings record (.ok result) ∈ calls ∧
    result.raised = true

/-- The block is a guarded test, and among the calls its condition was evaluated and raised. -/
def ConditionRaisedIn (c : Content) (calls : List Call) : Prop :=
  ∃ header bindings raised, c = .guarded (.ok header) c.code ∧
    .evaluate header.condition bindings (.ok (.error raised)) ∈ calls

end Content

namespace Engine

/-- A test has failed as expected, unless the place of its bug cannot be named, or an object that is
asked raises: then the template for such places or what was raised leaves the run. -/
def FailsAsExpected (e : Engine σ) (c : Content) (replies : List Reply) (a : Attempt Verdict) :
    Prop :=
  (∃ message, a = .ok (c.expectedOutcome, message)) ∨
    (∃ fault, c.bug.id ≠ [] ∧ e.config.bugUrl e.library.attributes c.bug.id = .error fault ∧
      a = .error (.badTemplate fault)) ∨
    ∃ escape, Raised.In replies escape ∧ a = .error escape

theorem classify_failure_error {bug : BugTag} {known : Bool} {config : Config} {attributes fault}
    (h : classifyFailure known bug config attributes = .error fault) :
    bug.id ≠ [] ∧ config.bugUrl attributes bug.id = .error fault := by
  unfold classifyFailure at h
  split at h
  · cases h
  split at h
  · cases h
  · rename_i named
    exact ⟨by simpa using named, map_error_iff.mp h⟩

theorem raised_in_execute {c : Content} {calls later : List Call} {code bindings record answer}
    (asked : later = calls ++ [.execute code bindings record answer])
    (before : ¬ c.RaisedIn calls) (h : c.RaisedIn later) :
    ∃ result, answer = .ok result ∧ result.raised = true := by
  subst asked
  obtain ⟨given, recorded, result, member, raised⟩ := h
  rcases List.mem_append.mp member with earlier | last
  · exact absurd ⟨given, recorded, result, earlier, raised⟩ before
  · cases List.mem_singleton.mp last
    exact ⟨result, rfl, raised⟩

theorem not_raised_in_evaluate {c : Content} {calls later : List Call} {expr bindings answer}
    (asked : later = calls ++ [.evaluate expr bindings answer]) (before : ¬ c.RaisedIn calls) :
    ¬ c.RaisedIn later := by
  subst asked
  rintro ⟨given, recorded, result, member, raised⟩
  rcases List.mem_append.mp member with earlier | last
  · exact before ⟨given, recorded, result, earlier, raised⟩
  · cases List.mem_singleton.mp last

section Recorded

variable {e : Engine σ} {s t : Session (Recorded σ)} {c : Content} {a : Attempt Verdict}

/-- A test that is expected to fail and whose code is run fails as expected or not at all. -/
theorem checks_code_of_known_failure (h : e.recorded.ChecksCode s c.code true c.bug a t)
    (before : ¬ c.RaisedIn s.calls) :
    (c.RaisedIn t.calls → FailsAsExpected e c t.world.state.replies a) ∧
      ∀ verdict, a = .ok verdict → verdict.1 ≠ .fail ∧ verdict.1 ≠ .error := by
  cases h with
  | left run =>
    constructor
    · intro raised
      obtain ⟨result, answered, -⟩ :=
        raised_in_execute (Evaluator.recorded_execute run).2 before raised
      cases answered
    · intro verdict answered
      cases answered
  | passed run clean =>
    constructor
    · intro raised
      obtain ⟨result, answered, unclean⟩ :=
        raised_in_execute (Evaluator.recorded_execute run).2 before raised
      cases answered
      simp [clean] at unclean
    · rintro verdict ⟨rfl⟩
      decide
  | @failed _ _ _ _ said _ run raised classified told =>
    have outcome := classify_failure_outcome classified
    rw [if_neg (by decide)] at outcome
    subst outcome
    constructor
    · intro _
      cases said with
      | ok detail => exact .inl ⟨_, rfl⟩
      | error escape =>
        exact .inr (.inr ⟨escape, (Evaluator.recorded_error_text_left told).raised rfl, rfl⟩)
    · intro verdict answered
      obtain ⟨detail, -, rfl⟩ := map_eq_ok answered
      dsimp only
      repeat' split
      all_goals decide
  | unnamed run raised refused =>
    obtain ⟨named, fault⟩ := classify_failure_error refused
    refine ⟨fun _ => .inr (.inl ⟨_, named, fault, rfl⟩), ?_⟩
    intro verdict answered
    cases answered

theorem executes_of_known_failure (h : e.recorded.Executes s c a t)
    (known : c.isKnownFailure = true) (fresh : s.calls = []) :
    (c.RaisedIn t.calls → FailsAsExpected e c t.world.state.replies a) ∧
      ∀ verdict, a = .ok verdict → verdict.1 = .fail ∨ verdict.1 = .error →
        c.ConditionRaisedIn t.calls := by
  have before : ¬ c.RaisedIn s.calls := by
    rintro ⟨bindings, record, result, member, -⟩
    simp [fresh] at member
  -- Where the code is run, nothing else has to be shown.
  have ran {u : Session (Recorded σ)} (run : e.recorded.ChecksCode u c.code true c.bug a t)
      (before : ¬ c.RaisedIn u.calls) :
      (c.RaisedIn t.calls → FailsAsExpected e c t.world.state.replies a) ∧
      ∀ verdict, a = .ok verdict → verdict.1 = .fail ∨ verdict.1 = .error →
        c.ConditionRaisedIn t.calls := by
    obtain ⟨expected, soft⟩ := checks_code_of_known_failure run before
    refine ⟨expected, fun verdict answered hard => ?_⟩
    obtain ⟨not_fail, not_error⟩ := soft verdict answered
    exact absurd hard (by simp [not_fail, not_error])
  cases h with
  | @check kind bug code a t run =>
    rw [known] at run
    exact ran run before
  | guardMissing missing =>
    refine ⟨fun raised => absurd raised before, ?_⟩
    rintro verdict ⟨rfl⟩ hard
    exact absurd hard (by decide)
  | @guardOpen header code a t available free run =>
    have known : (!header.bug.id.isEmpty) = true := known
    rw [known] at run
    exact ran run before
  | guardLeft available bound asked =>
    have calls := (Evaluator.recorded_evaluate asked).2
    refine ⟨fun raised => absurd raised (not_raised_in_evaluate calls before), ?_⟩
    intro verdict answered
    cases answered
  | @guardRaised header code raised w said u available bound asked told =>
    have calls := (Evaluator.recorded_ask told).trans (Evaluator.recorded_evaluate asked).2
    refine ⟨fun raised => absurd raised (not_raised_in_evaluate calls before), ?_⟩
    intro verdict answered hard
    refine ⟨header, s.shared, raised, rfl, ?_⟩
    change _ ∈ u.state.calls
    rw [calls]
    exact List.mem_append_right _ (List.mem_singleton_self _)
  | guardUndecided available bound asked holds =>
    have calls := (Evaluator.recorded_ask holds).trans (Evaluator.recorded_evaluate asked).2
    refine ⟨fun raised => absurd raised (not_raised_in_evaluate calls before), ?_⟩
    intro verdict answered
    cases answered
  | guardClosed available bound asked holds =>
    have calls := (Evaluator.recorded_ask holds).trans (Evaluator.recorded_evaluate asked).2
    refine ⟨fun raised => absurd raised (not_raised_in_evaluate calls before), ?_⟩
    rintro verdict ⟨rfl⟩ hard
    exact absurd hard (by decide)
  | @guardPassed header code value w u a t available bound asked holds run =>
    have known : (!header.bug.id.isEmpty) = true := known
    rw [known] at run
    have calls := (Evaluator.recorded_ask holds).trans (Evaluator.recorded_evaluate asked).2
    exact ran run (not_raised_in_evaluate calls before)
  | _ => cases known

end Recorded

theorem checks_code_of_other {e : Engine σ} {s t : Session σ} {code bug verdict}
    (h : e.ChecksCode s code false bug (.ok verdict) t) :
    verdict.1 = .pass ∨ verdict.1 = .fail := by
  generalize ha : (Except.ok verdict : Attempt Verdict) = a at h
  cases h with
  | left => cases ha
  | passed run clean =>
    cases ha
    exact .inl rfl
  | failed run raised classified told =>
    obtain ⟨detail, -, rfl⟩ := map_eq_ok ha.symm
    exact .inr (classify_failure_outcome classified)
  | unnamed => cases ha

theorem executes_of_other {e : Engine σ} {s t : Session σ} {c : Content} {verdict : Verdict}
    (h : e.Executes s c (.ok verdict) t) (other : c.isKnownFailure = false) :
    verdict.1 ≠ .xfail ∧ verdict.1 ≠ .xbug ∧ verdict.1 ≠ .regression := by
  have plain (either : verdict.1 = .pass ∨ verdict.1 = .fail) :
      verdict.1 ≠ .xfail ∧ verdict.1 ≠ .xbug ∧ verdict.1 ≠ .regression := by
    rcases either with outcome | outcome <;> rw [outcome] <;> decide
  generalize ha : (Except.ok verdict : Attempt Verdict) = a at h
  cases h with
  | demoFailed _ _ _ told | sharedFailed _ _ _ _ told | functionFailed _ _ told
  | guardRaised _ _ _ told =>
    obtain ⟨detail, -, rfl⟩ := map_eq_ok ha.symm
    simp
  | demoShown =>
    obtain ⟨_, -, rfl⟩ := map_eq_ok ha.symm
    simp
  | expectJudged run judged =>
    subst ha
    exact plain (judge_outcome judged)
  | check run =>
    rw [other, ← ha] at run
    exact plain (checks_code_of_other run)
  | @guardOpen header code a t available free run =>
    have other : (!header.bug.id.isEmpty) = false := other
    rw [other, ← ha] at run
    exact plain (checks_code_of_other run)
  | @guardPassed header code value w u a t available bound asked holds run =>
    have other : (!header.bug.id.isEmpty) = false := other
    rw [other, ← ha] at run
    exact plain (checks_code_of_other run)
  | _ => cases ha <;> simp

theorem halted_report_of {e : Engine σ} {b : Block} {verdict : Verdict}
    (h : (e.reportOf b verdict).halted = true) : verdict.1 = .fail ∨ verdict.1 = .error := by
  have hard : verdict.1.isHard = true := (Bool.and_eq_true_iff.mp h).1
  revert hard
  cases verdict.1 <;> decide

/-- Whatever the evaluator does, a block whose failure is not expected never has an outcome of
expected failures. A test that is expected to fail fails as its bug says if its code raises; it
fails otherwise, and stops the file, only if its condition raises. Only a tracker address that is
malformed, or an object that raises when it is asked, can leave such a failure without an outcome. -/
theorem hard_and_expected_failures_apart (e : Engine σ) (b : Block) (s : Session σ) :
    (b.isKnownFailure = true ↔ b.kind = .xtest ∨ b.content.bug.id ≠ []) ∧
    (b.isKnownFailure = false → ∀ r t, e.step b s = (.ok r, t) →
      r.outcome ≠ .xfail ∧ r.outcome ≠ .xbug ∧ r.outcome ≠ .regression) ∧
    (b.isKnownFailure = true →
      (∀ r t, e.step b s = (.ok r, t) →
        r.outcome = .fail ∨ r.outcome = .error ∨ r.halted = true →
          b.content.ConditionRaisedIn (e.asks b s)) ∧
      (b.content.RaisedIn (e.asks b s) →
        (∃ r t, e.step b s = (.ok r, t) ∧ r.outcome = b.content.expectedOutcome) ∨
          (∃ fault t, b.content.bug.id ≠ [] ∧
            e.config.bugUrl e.library.attributes b.content.bug.id = .error fault ∧
            e.step b s = (.error (.badTemplate fault), t)) ∨
          ∃ escape t, Raised.In (e.replies b s) escape ∧ e.step b s = (.error escape, t))) ∧
    (e.config.trackerUrl = ({} : Config).trackerUrl →
      ∀ attributes id, ∃ place, e.config.bugUrl attributes id = .ok place) := by
  refine ⟨b.content.is_known_failure_iff, ?_, ?_, bug_url_with_usual_tracker⟩
  · intro other r t done
    obtain ⟨verdict, u, executed, rfl, -⟩ := step_ok_iff.mp done
    exact executes_of_other executed other
  · intro known
    have stepped : e.step b s = ((e.recorded.step b s.recorded).1,
        (e.recorded.step b s.recorded).2.forget) := forget_step b s.recorded
    have fresh : (e.recorded.announced b s.recorded).calls = [] :=
      congrArg Recorded.calls (e.recorded.announced_alike b s.recorded).state
    unfold asks replies
    rw [stepped]
    rcases run : e.recorded.step b s.recorded with ⟨escape | report, u⟩
    · refine ⟨(fun r t done => nomatch done), fun raised => ?_⟩
      rcases step_error_iff.mp run with left | ⟨verdict, v, executed, left⟩
      · obtain ⟨expected, -⟩ := executes_of_known_failure left known fresh
        rcases expected raised with
          ⟨message, answered⟩ | ⟨fault, named, faulty, answered⟩ | ⟨other, raised, answered⟩
        · cases answered
        · cases answered
          exact .inr (.inl ⟨fault, u.forget, named, faulty, rfl⟩)
        · cases answered
          exact .inr (.inr ⟨escape, u.forget, raised, rfl⟩)
      · exact .inr (.inr ⟨escape, u.forget, (emit_report_left left).raised rfl, rfl⟩)
    · obtain ⟨verdict, v, executed, rfl, told⟩ := step_ok_iff.mp run
      have same : u.calls = v.calls := emit_report_calls told
      obtain ⟨expected, hard⟩ := executes_of_known_failure executed known fresh
      rw [same]
      refine ⟨?_, fun raised => ?_⟩
      · intro r t done failed
        cases done
        refine hard verdict rfl ?_
        rcases failed with fail | error | halted
        · exact .inl fail
        · exact .inr error
        · exact halted_report_of halted
      · rcases expected raised with
          ⟨message, answered⟩ | ⟨fault, named, faulty, answered⟩ | ⟨other, raised, answered⟩
        · cases answered
          exact .inl ⟨_, _, rfl, rfl⟩
        · cases answered
        · cases answered

end Engine
end EmbeddedTests
