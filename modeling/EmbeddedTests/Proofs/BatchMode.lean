import EmbeddedTests.Proofs.Recording
import EmbeddedTests.Proofs.Tally

/-!
# Batch runs and interactive runs

Without demos, the two modes differ in one thing: an interactive run stops at its first hard
failure. Up to there both take the same steps through the same states.
-/
namespace EmbeddedTests

variable {σ : Type}

/-- The list up to its first member that satisfies `p`, with that member. -/
def upToFirst {α : Type} (p : α → Bool) : List α → List α
  | [] => []
  | a :: rest => if p a then [a] else a :: upToFirst p rest

theorem count_p_up_to_first_le {α : Type} (p : α → Bool) (l : List α) :
    (upToFirst p l).countP p ≤ 1 := by
  induction l with
  | nil => exact Nat.zero_le 1
  | cons a rest ih =>
    cases h : p a with
    | true => simp [upToFirst, h]
    | false => simpa [upToFirst, h] using ih

theorem map_up_to_first {α β : Type} (f : α → β) (p : β → Bool) (l : List α) :
    (upToFirst (p ∘ f) l).map f = upToFirst p (l.map f) := by
  induction l with
  | nil => rfl
  | cons a rest ih =>
    cases h : p (f a) with
    | true => simp [upToFirst, h]
    | false => simp [upToFirst, h, ih]

namespace Engine

/-- The engine without demos, in batch mode or interactive. -/
def inMode (e : Engine σ) (batch : Bool) : Engine σ :=
  { e with options := { e.options with runDemos := false, batch := batch } }

theorem execute_in_mode (e : Engine σ) (mode other : Bool) (b : Block) (s : Session σ) :
    (e.inMode mode).execute b s = (e.inMode other).execute b s := by
  unfold execute
  split
  · simp [runDemo, inMode]
  all_goals rfl

def haltingAtHard (step : BlockReport × Session σ) : BlockReport × Session σ :=
  ({ step.1 with halted := step.1.outcome.isHard }, step.2)

theorem step_interactive_ok {e : Engine σ} {b : Block} {s t : Session σ} {r : BlockReport}
    (h : (e.inMode true).step b s = (.ok r, t)) :
    r.halted = false ∧
      (e.inMode false).step b s = (.ok { r with halted := r.outcome.isHard }, t) := by
  obtain ⟨verdict, u, executed, rfl, told⟩ := step_ok_iff.mp h
  have same := executes_iff.mp executed
  rw [execute_in_mode e true false] at same
  refine ⟨Bool.and_false _, step_ok_iff.mpr ⟨verdict, u, executes_iff.mpr same, ?_, told⟩⟩
  simp [reportOf, inMode]

theorem step_interactive_error {e : Engine σ} {b : Block} {s t : Session σ} {escape : Escape}
    (h : (e.inMode true).step b s = (.error escape, t)) :
    (e.inMode false).step b s = (.error escape, t) := by
  rcases step_error_iff.mp h with left | ⟨verdict, u, executed, left⟩
  · have same := executes_iff.mp left
    rw [execute_in_mode e true false] at same
    exact step_error_iff.mpr (.inl (executes_iff.mpr same))
  · have same := executes_iff.mp executed
    rw [execute_in_mode e true false] at same
    exact step_error_iff.mpr (.inr ⟨verdict, u, executes_iff.mpr same, left⟩)

theorem done_interactive (e : Engine σ) (file : Text) (blocks : List Block) (s : Session σ) :
    ((e.inMode false).steps file blocks s).done =
      (upToFirst (fun step => step.1.outcome.isHard)
        ((e.inMode true).steps file blocks s).done).map haltingAtHard := by
  induction blocks generalizing s with
  | nil => rfl
  | cons b rest ih =>
    unfold steps
    rcases run : (e.inMode true).step b s with ⟨escape | r, t⟩
    · rw [step_interactive_error run]
      rfl
    · obtain ⟨goes, same⟩ := step_interactive_ok run
      rw [same]
      cases hard : r.outcome.isHard with
      | true => simp [goes, hard, upToFirst, haltingAtHard]
      | false => simp [goes, hard, upToFirst, haltingAtHard, ih]

/-- Without a hard failure, both modes run alike to the end. -/
theorem steps_interactive_of_soft (e : Engine σ) (file : Text) (blocks : List Block) (s : Session σ)
    (soft : ∀ step ∈ ((e.inMode true).steps file blocks s).done, step.1.outcome.isHard = false) :
    (e.inMode false).steps file blocks s = (e.inMode true).steps file blocks s := by
  induction blocks generalizing s with
  | nil => rfl
  | cons b rest ih =>
    unfold steps at soft ⊢
    rcases run : (e.inMode true).step b s with ⟨escape | r, t⟩
    · rw [step_interactive_error run]
    · obtain ⟨goes, same⟩ := step_interactive_ok run
      simp only [run, goes, Bool.false_eq_true, if_false, List.mem_cons, forall_eq_or_imp] at soft
      obtain ⟨hard, later⟩ := soft
      have unhalted : { r with halted := false } = r := by rw [← goes]
      rw [same]
      simp only [hard, goes, unhalted, Bool.false_eq_true, if_false, ih t later]

/-- What is compared of a completed step: all but the halting. -/
structure Observed (σ : Type) where
  block : Block
  outcome : Outcome
  message : Text
  calls : List Call
  after : Session (Recorded σ)

def Transition.observed (t : Transition (Recorded σ)) : Observed σ :=
  ⟨t.report.block, t.report.outcome, t.report.message, t.calls, t.after⟩

theorem observed_up_to_hard (s : Session (Recorded σ))
    (done : List (BlockReport × Session (Recorded σ))) :
    (transitionsFrom s ((upToFirst (fun step => step.1.outcome.isHard) done).map
        haltingAtHard)).map Transition.observed =
      upToFirst (fun o => o.outcome.isHard)
        ((transitionsFrom s done).map Transition.observed) := by
  induction done generalizing s with
  | nil => rfl
  | cons step rest ih =>
    obtain ⟨r, t⟩ := step
    cases hard : r.outcome.isHard with
    | true =>
      simp only [upToFirst, hard, if_true, List.map_cons, List.map_nil, transitionsFrom,
        Transition.observed]
      rfl
    | false =>
      simp only [upToFirst, hard, Bool.false_eq_true, if_false, List.map_cons, transitionsFrom,
        Transition.observed]
      -- The first step is the same, halted or not; the rest starts from the state that it left.
      exact congrArg _ (ih t)

theorem outcomes_interactive (e : Engine σ) (file : Text) (blocks : List Block) (s : Session σ) :
    ((e.inMode false).steps file blocks s).outcomes =
      upToFirst Outcome.isHard ((e.inMode true).steps file blocks s).outcomes := by
  unfold Steps.outcomes Steps.reports
  rw [done_interactive]
  simp only [List.map_map, ← map_up_to_first]
  rfl

theorem halted_at_hard {e : Engine σ} {file : Text} {blocks : List Block} {s : Session σ}
    {step : BlockReport × Session σ} (h : step ∈ ((e.inMode false).steps file blocks s).done) :
    step.1.halted = step.1.outcome.isHard := by
  rw [done_interactive, List.mem_map] at h
  obtain ⟨from_batch, _, rfl⟩ := h
  rfl

theorem halted_interactive (e : Engine σ) (file : Text) (blocks : List Block) (s : Session σ) :
    ((e.inMode false).steps file blocks s).halted =
      ((e.inMode false).steps file blocks s).outcomes.any Outcome.isHard := by
  unfold Steps.halted Steps.outcomes Steps.reports
  rw [List.any_map, List.any_map, List.any_map]
  apply Bool.eq_iff_iff.mpr
  simp only [List.any_eq_true]
  constructor
  · rintro ⟨step, hs, halted⟩
    exact ⟨step, hs, (halted_at_hard hs).symm.trans halted⟩
  · rintro ⟨step, hs, hard⟩
    exact ⟨step, hs, (halted_at_hard hs).trans hard⟩

/-- After a hard failure nothing leaves an interactive run, and the evaluator is not asked again. -/
theorem nothing_after_hard {e : Engine σ} {file : Text} {blocks : List Block} {s t : Session σ}
    {r : BlockReport} (last : ((e.inMode false).run file blocks s).done.getLast? = some (r, t))
    (hard : r.outcome.isHard = true) :
    ((e.inMode false).run file blocks s).escape = none ∧
      ((e.inMode false).run file blocks s).last.world.state = t.world.state := by
  have step : (r, t) ∈ ((e.inMode false).steps file blocks s.begun).done :=
    List.mem_of_getLast? last
  have halted : r.halted = true := (halted_at_hard step).trans hard
  obtain ⟨stays, final⟩ := steps_of_halted last halted
  refine ⟨stays, ?_⟩
  rw [run_last_state]
  exact congrArg (·.world.state) final

/-- An interactive run reports the same blocks with the same outcomes and messages as the batch
run, asks the evaluator the same in each step and leaves the same states, up to the first hard
failure. It is halted exactly if it came to one; then nothing leaves it, and the evaluator is not
asked again. Where the batch run has no hard failure, the runs are the same. -/
theorem interactive_run_is_batch_run_cut (e : Engine σ) (file : Text) (blocks : List Block)
    (s : Session (Recorded σ)) :
    let batch := (e.inMode true).recorded.run file blocks s
    let interactive := (e.inMode false).recorded.run file blocks s
    let hardFailures := (RunResult.tallyAll {} interactive.outcomes).hardFailures
    (batch.forget = (e.inMode true).run file blocks s.forget ∧
      interactive.forget = (e.inMode false).run file blocks s.forget) ∧
      (interactive.transitions s.begun).map Transition.observed =
        upToFirst (fun o => o.outcome.isHard)
          ((batch.transitions s.begun).map Transition.observed) ∧
      hardFailures ≤ 1 ∧
      (interactive.halted = true ↔ hardFailures = 1) ∧
      (∀ r t, interactive.done.getLast? = some (r, t) → r.outcome.isHard = true →
        interactive.escape = none ∧ interactive.last.world.state = t.world.state) ∧
      ((∀ outcome ∈ batch.outcomes, outcome.isHard = false) → interactive = batch) := by
  intro batch interactive hardFailures
  have counted : hardFailures = interactive.outcomes.countP Outcome.isHard :=
    RunResult.hard_failures_tally_all _
  have cut : interactive.outcomes = upToFirst Outcome.isHard batch.outcomes :=
    outcomes_interactive e.recorded file blocks s.begun
  have few : interactive.outcomes.countP Outcome.isHard ≤ 1 := cut ▸ count_p_up_to_first_le _ _
  refine ⟨⟨forget_run file blocks s, forget_run file blocks s⟩, ?_, ?_, ?_, ?_, ?_⟩
  · have done : interactive.done =
        (upToFirst (fun step => step.1.outcome.isHard) batch.done).map haltingAtHard :=
      done_interactive e.recorded file blocks s.begun
    unfold Steps.transitions
    rw [done]
    exact observed_up_to_hard s.begun batch.done
  · omega
  · rw [show interactive.halted = interactive.outcomes.any Outcome.isHard from
      halted_interactive e.recorded file blocks s.begun, List.any_eq_true, ← List.countP_pos_iff]
    omega
  · exact fun r t last hard => nothing_after_hard (e := e.recorded) last hard
  · intro soft
    have same := steps_interactive_of_soft e.recorded file blocks s.begun fun step hs =>
      soft _ (List.mem_map_of_mem (List.mem_map_of_mem hs))
    rw [show interactive = _ from run_eq (e.recorded.inMode false) file blocks s, same]
    rfl

end Engine
end EmbeddedTests
