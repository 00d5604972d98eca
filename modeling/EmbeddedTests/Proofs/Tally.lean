import EmbeddedTests.Proofs.Run

/-!
# What the counters of a run count

Each outcome goes to one counter, so a total of counters is a count of outcomes. The outcomes of
tests and those of other blocks are apart, whatever the evaluator does.
-/
namespace EmbeddedTests

variable {σ : Type}

/-- The outcomes that tests come to; the other blocks come to nothing or to an error. -/
def Outcome.isOfTest : Outcome → Bool
  | .none | .error => false
  | _ => true

namespace RunResult

def attempted (r : RunResult) : Int :=
  r.tests + r.xfail + r.xbug + r.xskip + r.xrtskip + r.xregression

theorem tally_all_counts (quantity : RunResult → Int) (counted : Outcome → Bool)
    (one : ∀ r o, quantity (r.tally o) = quantity r + if counted o then 1 else 0)
    (r : RunResult) (outcomes : List Outcome) :
    quantity (r.tallyAll outcomes) = quantity r + outcomes.countP counted := by
  induction outcomes generalizing r with
  | nil => simp [tallyAll]
  | cons o rest ih =>
    change quantity ((r.tally o).tallyAll rest) = _
    rw [ih, one, List.countP_cons]
    split <;> push_cast <;> omega

theorem attempted_tally (r : RunResult) (o : Outcome) :
    (r.tally o).attempted = r.attempted + if o.isOfTest then 1 else 0 := by
  cases o <;> simp [tally, attempted, Outcome.isOfTest] <;> omega

theorem really_failed_tally (r : RunResult) (o : Outcome) :
    (r.tally o).reallyFailed = r.reallyFailed + if o = .fail then 1 else 0 := by
  cases o <;> simp [tally, reallyFailed]
  all_goals omega

theorem errors_tally (r : RunResult) (o : Outcome) :
    (r.tally o).errors = r.errors + if o = .error then 1 else 0 := by
  cases o <;> simp [tally]

theorem hard_failures_tally (r : RunResult) (o : Outcome) :
    (r.tally o).hardFailures = r.hardFailures + if o.isHard then 1 else 0 := by
  cases o <;> simp [tally, hardFailures, reallyFailed, Outcome.isHard] <;> omega

theorem attempted_tally_all (outcomes : List Outcome) :
    (tallyAll {} outcomes).attempted = outcomes.countP Outcome.isOfTest := by
  rw [tally_all_counts attempted Outcome.isOfTest attempted_tally]
  exact Int.zero_add _

theorem errors_tally_all (outcomes : List Outcome) :
    (tallyAll {} outcomes).errors = outcomes.countP (· = .error) := by
  rw [tally_all_counts errors (· = .error) (by simpa using errors_tally)]
  exact Int.zero_add _

theorem hard_failures_tally_all (outcomes : List Outcome) :
    (tallyAll {} outcomes).hardFailures = outcomes.countP Outcome.isHard := by
  rw [tally_all_counts hardFailures Outcome.isHard hard_failures_tally]
  exact Int.zero_add _

theorem successes_le_tests (outcomes : List Outcome) :
    (tallyAll {} outcomes).successes ≤ (tallyAll {} outcomes).tests := by
  have failures := tally_all_counts reallyFailed (· = .fail) (by simpa using really_failed_tally)
    {} outcomes
  have start : reallyFailed {} = 0 := rfl
  unfold reallyFailed at failures start
  omega

end RunResult

namespace Engine

theorem map_eq_ok {ε α β : Type} {x : Except ε α} {f : α → β} {b : β} (h : x.map f = .ok b) :
    ∃ a, x = .ok a ∧ b = f a := by
  cases x with
  | error e => cases h
  | ok a => exact ⟨a, rfl, (Except.ok.inj h).symm⟩

theorem compare_outcome {characters kind target type} {message : World σ → Attempt Text × World σ}
    {w u : World σ} {verdict : Verdict}
    (h : compare characters kind target type message w = (.ok verdict, u)) :
    verdict.1 = .pass ∨ verdict.1 = .fail := by
  have judged (met : Bool) (detail : Text) :
      (if met then ((.pass, []) : Verdict) else unmet kind detail).1 = .pass ∨
        (if met then ((.pass, []) : Verdict) else unmet kind detail).1 = .fail := by
    cases met
    · exact .inr rfl
    · exact .inl rfl
  cases target with
  | identified id =>
    cases h
    exact judged _ _
  | matching pattern =>
    unfold compare at h
    rcases said : message w with ⟨escape | text, v⟩
    · simp [said, goOn] at h
    · cases matched : messageMatches characters pattern text with
      | error fault => simp [said, goOn, matched] at h
      | ok met =>
        simp only [said, goOn, matched, Prod.mk.injEq] at h
        obtain ⟨got, -, rfl⟩ := map_eq_ok h.1
        exact judged _ _

theorem judge_outcome {e : Engine σ} {kind : ExpectKind} {target : Expectation}
    {result : Evaluation} {w u : World σ} {verdict : Verdict}
    (h : e.judge kind target result w = (.ok verdict, u)) :
    verdict.1 = .pass ∨ verdict.1 = .fail := by
  have unmet {x : Attempt Text} {f : Text → Verdict} (fails : ∀ t, (f t).1 = .fail)
      (told : x.map f = .ok verdict) : verdict.1 = .pass ∨ verdict.1 = .fail := by
    obtain ⟨t, -, rfl⟩ := map_eq_ok told
    exact .inr (fails t)
  unfold judge at h
  dsimp only at h
  split at h
  · exact unmet (fun _ => rfl) (Prod.mk.inj h).1
  split at h
  · cases h
    exact .inr rfl
  · exact compare_outcome h
  · exact unmet (fun _ => rfl) (Prod.mk.inj h).1
  · split at h
    · cases h
      exact .inr rfl
    · exact compare_outcome h

theorem classify_failure_outcome {known : Bool} {bug : BugTag} {config : Config}
    {attributes outcome headline}
    (h : classifyFailure known bug config attributes = .ok (outcome, headline)) :
    outcome = if known = false then .fail else if bug.fixed = true then .regression
      else if bug.id = [] then .xfail else .xbug := by
  unfold classifyFailure at h
  cases known with
  | false =>
    cases h
    rfl
  | true =>
    obtain ⟨id, fixed⟩ := bug
    cases id with
    | nil =>
      cases fixed <;> cases h <;> rfl
    | cons c rest =>
      cases hp : config.bugUrl attributes (c :: rest) with
      | error fault =>
        simp only [Bool.not_true, Bool.false_eq_true, if_false, List.isEmpty_cons, hp,
          Except.map] at h
        cases h
      | ok place =>
        simp only [Bool.not_true, Bool.false_eq_true, if_false, List.isEmpty_cons, hp,
          Except.map] at h
        cases fixed <;> cases h <;> rfl

theorem classify_failure_ne_pass {known : Bool} {bug : BugTag} {config : Config}
    {attributes outcome headline}
    (h : classifyFailure known bug config attributes = .ok (outcome, headline)) :
    outcome ≠ .pass := by
  rw [classify_failure_outcome h]
  repeat' split
  all_goals decide

theorem checks_code_outcome {e : Engine σ} {s t : Session σ} {code known bug verdict}
    (h : e.ChecksCode s code known bug (.ok verdict) t) : verdict.1.isOfTest = true := by
  generalize ha : (Except.ok verdict : Attempt Verdict) = a at h
  cases h with
  | left => cases ha
  | passed =>
    cases ha
    rfl
  | failed run raised classified told =>
    obtain ⟨detail, -, rfl⟩ := map_eq_ok ha.symm
    rw [classify_failure_outcome classified]
    repeat' split
    all_goals rfl
  | unnamed => cases ha

/-- Only tests come to the outcomes of tests, whatever the evaluator does. -/
theorem executes_outcome {e : Engine σ} {s t : Session σ} {c : Content} {verdict : Verdict}
    (h : e.Executes s c (.ok verdict) t) : verdict.1.isOfTest = c.isTest := by
  generalize ha : (Except.ok verdict : Attempt Verdict) = a at h
  cases h with
  | demoFailed _ _ _ told | sharedFailed _ _ _ _ told | functionFailed _ _ told
  | guardRaised _ _ _ told =>
    obtain ⟨detail, -, rfl⟩ := map_eq_ok ha.symm
    rfl
  | demoShown =>
    obtain ⟨_, -, rfl⟩ := map_eq_ok ha.symm
    rfl
  | expectJudged run judged =>
    subst ha
    rcases judge_outcome judged with ho | ho <;> rw [ho] <;> rfl
  | check run => exact checks_code_outcome (ha ▸ run)
  | guardOpen available free run => exact checks_code_outcome (ha ▸ run)
  | guardPassed available bound asked holds run => exact checks_code_outcome (ha ▸ run)
  | _ => cases ha <;> rfl

theorem step_outcome {e : Engine σ} {b : Block} {s t : Session σ} {r : BlockReport}
    (h : e.step b s = (.ok r, t)) : r.outcome.isOfTest = r.block.isTest := by
  obtain ⟨verdict, u, executed, rfl, _⟩ := step_ok_iff.mp h
  exact executes_outcome executed

theorem reported_outcome {e : Engine σ} {file : Text} {blocks : List Block} {s : Session σ}
    {r : BlockReport} (h : r ∈ (e.run file blocks s).reports) :
    r.outcome.isOfTest = r.block.isTest := by
  obtain ⟨t, u, step⟩ := reported_by_step h
  exact step_outcome step

/-- After any number of completed steps, the tests by what became of them are the test blocks, no
more tests succeeded than there were, only other blocks count as errors, and the hard failures are
the failures and errors reported. -/
theorem counters_after_completed_steps (e : Engine σ) (file : Text) (blocks : List Block)
    (s : Session σ) (n : Nat) :
    let done := (e.run file blocks s).reports.take n
    let counted := RunResult.tallyAll {} (done.map (·.outcome))
    counted.tests + counted.xfail + counted.xbug + counted.xskip + counted.xrtskip
        + counted.xregression = done.countP (·.block.isTest) ∧
      counted.successes ≤ counted.tests ∧
      counted.errors ≤ done.countP (fun r => !r.block.isTest) ∧
      counted.hardFailures = done.countP (fun r => r.outcome = .fail ∨ r.outcome = .error) := by
  intro done counted
  have kinds (r) (hr : r ∈ done) : r.outcome.isOfTest = r.block.isTest :=
    reported_outcome (List.mem_of_mem_take hr)
  refine ⟨?_, RunResult.successes_le_tests _, ?_, ?_⟩
  · change counted.attempted = _
    rw [RunResult.attempted_tally_all, List.countP_map]
    have same : done.countP (Outcome.isOfTest ∘ (·.outcome)) = done.countP (·.block.isTest) :=
      List.countP_congr fun r hr => by simp [kinds r hr]
    rw [same]
  · rw [RunResult.errors_tally_all, List.countP_map]
    have fewer : done.countP ((· = Outcome.error) ∘ (·.outcome)) ≤
        done.countP (fun r => !r.block.isTest) := by
      apply List.countP_mono_left
      intro r hr error
      have ho : r.outcome = .error := by simpa using error
      have := kinds r hr
      simp [← this, ho, Outcome.isOfTest]
    exact_mod_cast fewer
  · rw [RunResult.hard_failures_tally_all, List.countP_map]
    have same : done.countP (Outcome.isHard ∘ (·.outcome)) =
        done.countP (fun r => r.outcome = .fail ∨ r.outcome = .error) :=
      List.countP_congr fun r _ => by cases ho : r.outcome <;> simp [ho, Outcome.isHard]
    rw [same]

end Engine
end EmbeddedTests
