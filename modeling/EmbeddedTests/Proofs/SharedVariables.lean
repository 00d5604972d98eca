import EmbeddedTests.Proofs.Recording
import EmbeddedTests.Proofs.Sorting
import EmbeddedTests.Proofs.Tally

/-!
# When shared variables change

Their names change by a declaration only, their values by a declaration or by a test that passed.
Every other step leaves them as they were. Code is given the declared names with their values, and
demos are given nothing.
-/
namespace EmbeddedTests

variable {σ : Type}

namespace Shared

/-- Declared names, each once, without values. -/
def declared (names : List Text) : Shared := names.eraseDups.map fun name => (name, .none)

theorem reset_eq_ok {names : List Text} {fresh : Shared} (h : reset names = .ok fresh) :
    names.all Text.isIdentifier = true ∧ fresh = declared names := by
  unfold reset at h
  dsimp only at h
  split at h
  · rename_i good
    cases h
    refine ⟨?_, by rw [Text.distinct_eq_erase_dups]; rfl⟩
    simpa [List.isEmpty_iff, List.filter_eq_nil_iff] using good
  · cases h

theorem reset_eq_error {names : List Text} {bad : SharedError} (h : reset names = .error bad) :
    names.all Text.isIdentifier = false := by
  unfold reset at h
  dsimp only at h
  split at h
  · cases h
  · rename_i good
    simpa [List.isEmpty_iff, List.filter_eq_nil_iff] using good

theorem names_declared (names : List Text) : Bindings.names (declared names) = names.eraseDups := by
  simp [declared, Bindings.names, Function.comp_def]

theorem names_update (s : Shared) (values : Bindings) :
    Bindings.names (s.update values) = Bindings.names s := by
  simp [update, Bindings.names, Function.comp_def]

theorem get_update (s : Shared) (values : Bindings) (name : Text) :
    Bindings.get? (s.update values) name =
      (Bindings.get? s name).map fun old => (values.get? name).getD old := by
  unfold update Bindings.get?
  induction s with
  | nil => rfl
  | cons entry rest ih =>
    obtain ⟨n, old⟩ := entry
    rw [List.map_cons, List.find?_cons, List.find?_cons]
    by_cases h : n = name
    · subst h
      simp
    · simp only [beq_eq_false_iff_ne.mpr h]
      exact ih

theorem get_declared {names : List Text} {name : Text} (h : name ∈ names) :
    Bindings.get? (declared names) name = some .none := by
  have member := List.mem_eraseDups.mpr h
  unfold declared Bindings.get?
  generalize names.eraseDups = distinct at member
  induction distinct with
  | nil => cases member
  | cons n rest ih =>
    rw [List.map_cons, List.find?_cons]
    by_cases hn : n = name
    · simp [hn]
    · simp only [beq_eq_false_iff_ne.mpr hn]
      exact ih ((List.mem_cons.mp member).resolve_left (Ne.symm hn))

end Shared

def Content.declares? : Content → Option (List Text)
  | .shared names _ => if names.all Text.isIdentifier then some names else none
  | _ => none

def Content.writesBack : Content → Bool
  | .check .. | .guarded .. => true
  | _ => false

/-- What the code of a block is given. -/
def Content.given (c : Content) (shared : Shared) : Bindings :=
  match c with
  | .demo _ => []
  | .shared names _ => Shared.declared names
  | _ => shared

/-- What a completed step does with the shared variables, by the calls that it makes. -/
structure SharedRule (c : Content) (outcome : Outcome) (calls : List Call) (old new : Shared) :
    Prop where
  names_kept : c.declares? = none → Bindings.names new = Bindings.names old
  names_replaced : ∀ names, c.declares? = some names → Bindings.names new = names.eraseDups
  /-- Values are empty at first; an initializer sets them if it raises nothing. -/
  values_reset : ∀ names code, c = .shared names code → c.declares? = some names →
    (Text.allBlank code = true → calls = [] ∧ new = Shared.declared names) ∧
    (Text.allBlank code = false →
      ∃ result, calls = [.execute code (Shared.declared names) false (.ok result)] ∧
        ∀ name ∈ names, Bindings.get? new name =
          some (if result.raised then .none else (result.bindings.get? name).getD .none))
  /-- The declared names get what the code bound them to; what else it bound is left out. -/
  values_written : c.writesBack = true → outcome = .pass →
    ∃ result, calls.getLast? = some (.execute c.code old false (.ok result)) ∧
      result.raised = false ∧
      ∀ name, Bindings.get? new name =
        (Bindings.get? old name).map fun value => (result.bindings.get? name).getD value
  kept : c.declares? = none → ¬ (c.writesBack = true ∧ outcome = .pass) → new = old
  given : ∀ call ∈ calls, ∀ bindings, call.bindings? = some bindings → bindings = c.given old

namespace SharedRule

variable {c : Content} {outcome : Outcome} {calls : List Call} {old : Shared}

theorem of_kept (undeclared : c.declares? = none)
    (unwritten : ¬ (c.writesBack = true ∧ outcome = .pass))
    (given : ∀ call ∈ calls, ∀ bindings, call.bindings? = some bindings → bindings = c.given old) :
    SharedRule c outcome calls old old where
  names_kept _ := rfl
  names_replaced names h := by cases undeclared.symm.trans h
  values_reset names code _ h := by cases undeclared.symm.trans h
  values_written back pass := absurd ⟨back, pass⟩ unwritten
  kept _ _ := rfl
  given := given

theorem of_written {result : Evaluation} (back : c.writesBack = true)
    (last : calls.getLast? = some (.execute c.code old false (.ok result)))
    (clean : result.raised = false)
    (given : ∀ call ∈ calls, ∀ bindings, call.bindings? = some bindings → bindings = c.given old) :
    SharedRule c .pass calls old (old.update result.bindings) where
  names_kept _ := Shared.names_update _ _
  names_replaced names h := by cases c <;> simp [Content.writesBack, Content.declares?] at back h
  values_reset names code hc := by subst hc; simp [Content.writesBack] at back
  values_written _ _ := ⟨result, last, clean, Shared.get_update _ _⟩
  kept _ unwritten := absurd ⟨back, rfl⟩ unwritten
  given := given

theorem of_declared_empty {names : List Text} {code : Text}
    (good : names.all Text.isIdentifier = true) (blank : Text.allBlank code = true) :
    SharedRule (.shared names code) outcome [] old (Shared.declared names) where
  names_kept h := by simp [Content.declares?, good] at h
  names_replaced others h := by
    simp only [Content.declares?, good, if_true, Option.some.injEq] at h
    subst h
    exact Shared.names_declared _
  values_reset others text hc _ := by
    cases hc
    refine ⟨fun _ => ⟨rfl, rfl⟩, fun written => ?_⟩
    cases blank.symm.trans written
  values_written back := by cases back
  kept h := by simp [Content.declares?, good] at h
  given call h := by cases h

theorem of_declared {names : List Text} {code : Text} {result : Evaluation} {new : Shared}
    (good : names.all Text.isIdentifier = true) (written : Text.allBlank code = false)
    (hnew : new = if result.raised then Shared.declared names
      else (Shared.declared names).update result.bindings) :
    SharedRule (.shared names code) outcome
      [.execute code (Shared.declared names) false (.ok result)] old new where
  names_kept h := by simp [Content.declares?, good] at h
  names_replaced others h := by
    simp only [Content.declares?, good, if_true, Option.some.injEq] at h
    subst h hnew
    split
    · exact Shared.names_declared _
    · rw [Shared.names_update, Shared.names_declared]
  values_reset others text hc _ := by
    cases hc
    refine ⟨fun blank => ?_, fun _ => ⟨result, rfl, ?_⟩⟩
    · cases blank.symm.trans written
    · intro name hn
      subst hnew
      split
      · exact Shared.get_declared hn
      · rw [Shared.get_update, Shared.get_declared hn]
        rfl
  values_written back := by cases back
  kept h := by simp [Content.declares?, good] at h
  given call hcall bindings hb := by
    rw [List.mem_singleton.mp hcall] at hb
    exact (Option.some.inj hb).symm

end SharedRule

namespace Engine

variable {e : Engine σ} {s t : Session (Recorded σ)}

/-- Code that is run as a test writes back what it bound if it passes, and nothing otherwise. -/
theorem checks_code_shared {c : Content} {known : Bool} {bug : BugTag} {verdict : Verdict}
    (back : c.writesBack = true) (h : e.recorded.ChecksCode s c.code known bug (.ok verdict) t)
    (asked : List Call)
    (given : ∀ call ∈ asked, ∀ bindings, call.bindings? = some bindings → bindings = s.shared) :
    ∃ last, t.calls = s.calls ++ [last] ∧
      SharedRule c verdict.1 (asked ++ [last]) s.shared t.shared := by
  have plain : c.given s.shared = s.shared := by
    cases c <;> first | rfl | cases back
  have undeclared : c.declares? = none := by
    cases c <;> first | rfl | cases back
  have given_all (answer : Attempt Evaluation) :
      ∀ call ∈ asked ++ [.execute c.code s.shared false answer],
        ∀ bindings, call.bindings? = some bindings → bindings = c.given s.shared := by
    intro call hc bindings hb
    rw [plain]
    rcases List.mem_append.mp hc with hc | hc
    · exact given call hc bindings hb
    · rw [List.mem_singleton.mp hc] at hb
      exact (Option.some.inj hb).symm
  generalize ha : (Except.ok verdict : Attempt Verdict) = a at h
  cases h with
  | passed run clean =>
    cases ha
    exact ⟨_, (Evaluator.recorded_execute run).2,
      .of_written back List.getLast?_concat clean (given_all _)⟩
  | failed run raised classified told =>
    obtain ⟨detail, -, rfl⟩ := map_eq_ok ha.symm
    exact ⟨_, (error_text_calls told).trans (Evaluator.recorded_execute run).2,
      .of_kept undeclared (fun h => classify_failure_ne_pass classified h.2) (given_all _)⟩
  | left => cases ha
  | unnamed => cases ha

theorem executes_shared_rule {c : Content} {verdict : Verdict}
    (h : e.recorded.Executes s c (.ok verdict) t) :
    ∃ made, t.calls = s.calls ++ made ∧ SharedRule c verdict.1 made s.shared t.shared := by
  -- Most blocks make at most one call, with the bindings of their kind, and keep everything.
  have uncalled (undeclared : c.declares? = none)
      (unwritten : ¬ (c.writesBack = true ∧ verdict.1 = .pass)) :
      ∃ made, s.calls = s.calls ++ made ∧ SharedRule c verdict.1 made s.shared s.shared :=
    ⟨[], (List.append_nil _).symm, .of_kept undeclared unwritten fun call h => by cases h⟩
  have called (call : Call) (calls : t.calls = s.calls ++ [call]) (undeclared : c.declares? = none)
      (unwritten : ¬ (c.writesBack = true ∧ verdict.1 = .pass))
      (given : ∀ bindings, call.bindings? = some bindings → bindings = c.given s.shared) :
      ∃ made, t.calls = s.calls ++ made ∧ SharedRule c verdict.1 made s.shared s.shared :=
    ⟨[call], calls, .of_kept undeclared unwritten fun other h => by
      rw [List.mem_singleton.mp h]
      exact given⟩
  generalize ha : (Except.ok verdict : Attempt Verdict) = a at h
  cases h with
  | demoIdle | functionNameless | functionEnd | comment | unknown =>
    cases ha
    exact uncalled rfl fun h => by cases h.1
  | guardMalformed | guardMissing missing =>
    cases ha
    exact uncalled rfl fun h => by cases h.2
  | demoFailed busy run raised told =>
    exact called _ ((error_text_calls told).trans (Evaluator.recorded_execute run).2) rfl
      (fun h => by cases h.1) fun _ hb => (Option.some.inj hb).symm
  | demoShown busy run =>
    exact called _ (Evaluator.recorded_execute run).2 rfl (fun h => by cases h.1) fun _ hb =>
      (Option.some.inj hb).symm
  | functionFailed run raised told =>
    exact called _ ((error_text_calls told).trans (Evaluator.recorded_define run).2) rfl
      (fun h => by cases h.1) fun _ hb => by cases hb
  | functionDefined run =>
    exact called _ (Evaluator.recorded_define run).2 rfl (fun h => by cases h.1) fun _ hb => by
      cases hb
  | @expectJudged kind target code result w a u run judged =>
    have calls := asked_calls (fun alike => judge_follows rfl alike kind target result) judged
    exact called _ (calls.trans (Evaluator.recorded_execute run).2) rfl (fun h => by cases h.1)
      fun _ hb => (Option.some.inj hb).symm
  | guardRaised available bound asked told =>
    obtain ⟨text, -, rfl⟩ := map_eq_ok ha.symm
    exact called _ ((Evaluator.recorded_ask told).trans (Evaluator.recorded_evaluate asked).2) rfl
      (fun h => by cases h.2) fun _ hb => (Option.some.inj hb).symm
  | guardClosed available bound asked holds =>
    cases ha
    exact called _ ((Evaluator.recorded_ask holds).trans (Evaluator.recorded_evaluate asked).2) rfl
      (fun h => by cases h.2) fun _ hb => (Option.some.inj hb).symm
  | sharedRefused refused =>
    cases ha
    have undeclared := Shared.reset_eq_error refused
    exact uncalled (by simp [Content.declares?, undeclared]) fun h => by cases h.1
  | sharedEmpty reset blank =>
    cases ha
    obtain ⟨good, rfl⟩ := Shared.reset_eq_ok reset
    exact ⟨[], (List.append_nil _).symm, .of_declared_empty good blank⟩
  | sharedFailed reset written run raised told =>
    obtain ⟨good, rfl⟩ := Shared.reset_eq_ok reset
    exact ⟨_, (error_text_calls told).trans (Evaluator.recorded_execute run).2,
      .of_declared good written (by simp [raised])⟩
  | sharedSet reset written run clean =>
    cases ha
    obtain ⟨good, rfl⟩ := Shared.reset_eq_ok reset
    exact ⟨_, (Evaluator.recorded_execute run).2, .of_declared good written (by simp [clean])⟩
  | @check kind bug code a t run =>
    cases ha
    obtain ⟨last, calls, rule⟩ :=
      checks_code_shared (c := .check kind bug code) rfl run [] (fun call h => by cases h)
    exact ⟨[last], calls, rule⟩
  | @guardOpen header code a t available free run =>
    cases ha
    obtain ⟨last, calls, rule⟩ :=
      checks_code_shared (c := .guarded (.ok header) code) rfl run [] (fun call h => by cases h)
    exact ⟨[last], calls, rule⟩
  | @guardPassed header code value w u a t available bound asked holds run =>
    cases ha
    have condition :=
      (Evaluator.recorded_ask holds).trans (Evaluator.recorded_evaluate asked).2
    obtain ⟨last, calls, rule⟩ := checks_code_shared (c := .guarded (.ok header) code) rfl run
      [.evaluate header.condition s.shared (.ok (.ok value))]
      (fun call hc _ hb => by
        rw [List.mem_singleton.mp hc] at hb
        exact (Option.some.inj hb).symm)
    refine ⟨_, ?_, rule⟩
    rw [calls, ← List.append_assoc]
    exact congrArg (· ++ [last]) condition
  | demoLeft | sharedLeft | functionLeft | expectLeft | guardLeft | guardUndecided => cases ha

theorem step_shared_rule {b : Block} {r : BlockReport} (h : e.recorded.step b s = (.ok r, t)) :
    ∃ made, t.calls = s.calls ++ made ∧ SharedRule b.content r.outcome made s.shared t.shared := by
  obtain ⟨verdict, u, executed, rfl, told⟩ := step_ok_iff.mp h
  obtain ⟨made, calls, rule⟩ := executes_shared_rule executed
  have shown := e.recorded.announced_alike b s
  refine ⟨made, ?_, ?_⟩
  · rw [emit_report_calls told, calls, Session.calls, shown.state]
    rfl
  · rw [(emit_report_keeps told).1, ← shown.shared]
    exact rule

/-- Every completed step of a run changes the shared variables by the rule, and gives code what the
rule says. The calls are those of the run itself: recording them changes nothing. -/
theorem shared_variables_change_by_rule (e : Engine σ) (file : Text) (blocks : List Block)
    (s : Session (Recorded σ)) :
    (e.recorded.run file blocks s).forget = e.run file blocks s.forget ∧
    ∀ t ∈ (e.recorded.run file blocks s).transitions s.begun,
      t.before.calls ++ t.calls = t.after.calls ∧
      SharedRule t.report.block.content t.report.outcome t.calls t.before.shared
        t.after.shared := by
  refine ⟨forget_run file blocks s, ?_⟩
  intro t ht
  obtain ⟨made, calls, rule⟩ := step_shared_rule (transition_is_step ht).2
  have only : t.calls = made := by rw [Transition.calls, calls, List.drop_left]
  rw [only]
  exact ⟨calls.symm, rule⟩

end Engine
end EmbeddedTests
