import EmbeddedTests.Proofs.Recording
import EmbeddedTests.Script

/-!
# What can leave a run

With an evaluator that answers every call, a pause that returns and the usual tracker address, two
things can leave a run: an object that raises when it is asked, and the fault of a malformed pattern
that what a block's code came to is compared with. Both leave it wherever they occur.
-/
namespace EmbeddedTests

variable {σ α β : Type}

/-- Whatever the evaluator is asked to run, it answers: an error of the code is part of the
answer. -/
structure Evaluator.Answers (ev : Evaluator σ) : Prop where
  executes : ∀ code bindings record w, ∃ result u,
    ev.execute code bindings record w = (.ok result, u)
  evaluates : ∀ expr bindings w, ∃ value u, ev.evaluate expr bindings w = (.ok value, u)
  defines : ∀ name source w, ∃ result u, ev.define name source w = (.ok result, u)

theorem script_answers {script : Script} (h : ∀ code, (script code).interrupt = false) :
    (Script.evaluator script).Answers where
  executes code bindings record w := by
    simp only [Script.evaluator, Script.execute, h code, Bool.false_eq_true, if_false]
    split <;> exact ⟨_, _, rfl⟩
  evaluates expr bindings w := by
    simp only [Script.evaluator, Script.evaluate, h expr, Bool.false_eq_true, if_false]
    split <;> exact ⟨_, _, rfl⟩
  defines name source w := by
    simp only [Script.evaluator, Script.define, h source, Bool.false_eq_true, if_false]
    split <;> exact ⟨_, _, rfl⟩

namespace Evaluator.Answers

variable {ev : Evaluator σ} {w u : World σ} {escape : Escape}

theorem recorded (answers : ev.Answers) : ev.recorded.Answers where
  executes code bindings record w := by
    obtain ⟨result, u, run⟩ := answers.executes code bindings record w.forget
    have same : (ev.recorded.execute code bindings record w).1 = .ok result := congrArg Prod.fst run
    exact ⟨result, _, Prod.ext same rfl⟩
  evaluates expr bindings w := by
    obtain ⟨value, u, run⟩ := answers.evaluates expr bindings w.forget
    have same : (ev.recorded.evaluate expr bindings w).1 = .ok value := congrArg Prod.fst run
    exact ⟨value, _, Prod.ext same rfl⟩
  defines name source w := by
    obtain ⟨result, u, run⟩ := answers.defines name source w.forget
    have same : (ev.recorded.define name source w).1 = .ok result := congrArg Prod.fst run
    exact ⟨result, _, Prod.ext same rfl⟩

theorem execute_ne (answers : ev.Answers) {code bindings record} :
    ev.execute code bindings record w ≠ (.error escape, u) := by
  intro left
  obtain ⟨result, v, run⟩ := answers.executes code bindings record w
  rw [run] at left
  cases left

theorem evaluate_ne (answers : ev.Answers) {expr bindings} :
    ev.evaluate expr bindings w ≠ (.error escape, u) := by
  intro left
  obtain ⟨value, v, run⟩ := answers.evaluates expr bindings w
  rw [run] at left
  cases left

theorem define_ne (answers : ev.Answers) {name source} :
    ev.define name source w ≠ (.error escape, u) := by
  intro left
  obtain ⟨result, v, run⟩ := answers.defines name source w
  rw [run] at left
  cases left

end Evaluator.Answers

theorem usual_tracker_renders (attributes : Text.TextAttributes) (id : Text) :
    ∃ place, Text.Template.render attributes "bug_id" id ({} : Config).trackerUrl = .ok place :=
  ⟨("https://bugs.python.org/issue" : Text) ++ id ++ [], rfl⟩

theorem bug_url_with_usual_tracker {config : Config}
    (usual : config.trackerUrl = ({} : Config).trackerUrl) (attributes : Text.TextAttributes)
    (id : Text) : ∃ place, config.bugUrl attributes id = .ok place := by
  unfold Config.bugUrl
  rw [usual]
  split
  · exact usual_tracker_renders attributes id
  · exact ⟨id, rfl⟩

/-- One of the objects that were asked raised. -/
def Raised.In (replies : List Reply) (escape : Escape) : Prop :=
  ∃ reply ∈ replies, reply.escape = some escape

/-- Between the records, objects were asked. The attempt is left by what one of them raised, or by a
fault, and by nothing else. -/
def LeftBy (fault : Escape → Prop) (before after : List Reply) (a : Attempt α) : Prop :=
  ∃ asked, after = before ++ asked ∧
    ∀ escape, a = .error escape ↔ Raised.In asked escape ∨ fault escape

abbrev LeftByAsking (before after : List Reply) (a : Attempt α) : Prop :=
  LeftBy (fun _ => False) before after a

namespace LeftBy

variable {fault : Escape → Prop} {before between after : List Reply} {a : Attempt α}

theorem done (answer : α) : LeftByAsking before before (.ok answer : Attempt α) :=
  ⟨[], (List.append_nil _).symm, fun escape => by simp [Raised.In]⟩

theorem map (h : LeftBy fault before after a) (f : α → β) :
    LeftBy fault before after (a.map f) := by
  obtain ⟨asked, noted, left⟩ := h
  refine ⟨asked, noted, fun escape => ?_⟩
  rw [← left]
  cases a <;> simp [Except.map]

theorem raised (h : LeftByAsking before after a) {escape : Escape} (left : a = .error escape) :
    Raised.In after escape := by
  obtain ⟨asked, rfl, iff⟩ := h
  obtain ⟨reply, member, raised⟩ := ((iff escape).mp left).resolve_right id
  exact ⟨reply, List.mem_append_right _ member, raised⟩

theorem without (h : LeftByAsking before after a) (absent : ∀ escape, ¬ fault escape) :
    LeftBy fault before after a := by
  obtain ⟨asked, noted, left⟩ := h
  exact ⟨asked, noted, fun escape => by simp [left, absent]⟩

theorem next (h : LeftBy fault before between a) {b : Attempt β}
    (left : ∀ escape, a = .error escape → b = .error escape ∧ after = between)
    (later : ∀ answer, a = .ok answer → LeftByAsking between after b) :
    LeftBy fault before after b := by
  obtain ⟨asked, rfl, first⟩ := h
  cases a with
  | error escape =>
    obtain ⟨rfl, rfl⟩ := left escape rfl
    exact ⟨asked, rfl, fun other => by rw [← first]; simp⟩
  | ok answer =>
    obtain ⟨more, rfl, second⟩ := later answer rfl
    refine ⟨asked ++ more, List.append_assoc _ _ _, fun escape => ?_⟩
    have calm : ¬ (Raised.In asked escape ∨ fault escape) := fun raised => by
      cases (first escape).mpr raised
    obtain ⟨silent, faultless⟩ := not_or.mp calm
    have both : Raised.In (asked ++ more) escape ↔
        Raised.In asked escape ∨ Raised.In more escape := by
      simp only [Raised.In, List.mem_append, or_and_right, exists_or]
    rw [second, both]
    simp only [silent, faultless, false_or]

end LeftBy

namespace Evaluator

variable {ev : Evaluator σ} {w u : World (Recorded σ)}

theorem replies_of_execute {code bindings record a}
    (run : ev.recorded.execute code bindings record w = (a, u)) :
    u.state.replies = w.state.replies := by
  cases run
  rfl

theorem replies_of_evaluate {expr bindings a}
    (run : ev.recorded.evaluate expr bindings w = (a, u)) :
    u.state.replies = w.state.replies := by
  cases run
  rfl

theorem replies_of_define {name source a}
    (run : ev.recorded.define name source w = (a, u)) :
    u.state.replies = w.state.replies := by
  cases run
  rfl

theorem recorded_ask_left {q v} {a : Attempt q.Answer} (asked : ev.recorded.ask q v w = (a, u)) :
    LeftByAsking w.state.replies u.state.replies a := by
  cases asked
  refine ⟨_, rfl, fun escape => ?_⟩
  generalize (ev.ask q v w.forget).1 = a
  cases a <;> simp [Raised.In, leftBy?, eq_comm]

theorem recorded_message_left {r a} (said : ev.recorded.message r w = (a, u)) :
    LeftByAsking w.state.replies u.state.replies a := by
  rcases asked : ev.recorded.ask .text r.value w with ⟨text, v⟩
  simp only [Evaluator.message, asked] at said
  cases said
  exact (recorded_ask_left asked).map _

theorem recorded_error_text_left {result a} (told : ev.recorded.errorText result w = (a, u)) :
    LeftByAsking w.state.replies u.state.replies a := by
  unfold Evaluator.errorText at told
  split at told
  · cases told
    exact .done _
  · rename_i raised _
    rcases said : ev.recorded.message raised w with ⟨text, v⟩
    simp only [said] at told
    cases told
    exact (recorded_message_left said).map _

theorem recorded_warning_left {result a} (told : ev.recorded.warningMessage result w = (a, u)) :
    LeftByAsking w.state.replies u.state.replies a := by
  unfold Evaluator.warningMessage at told
  split at told
  · cases told
    exact .done _
  · exact recorded_ask_left told

theorem recorded_describe_left {shared a}
    (described : Shared.describe ev.recorded shared w = (a, u)) :
    LeftByAsking w.state.replies u.state.replies a := by
  induction shared generalizing w a with
  | nil =>
    cases described
    exact .done _
  | cons entry rest ih =>
    obtain ⟨name, v⟩ := entry
    unfold Shared.describe at described
    rcases asked : ev.recorded.ask .written v w with ⟨answer, t⟩
    rw [asked] at described
    refine (recorded_ask_left asked).next ?_ ?_
    · rintro escape rfl
      cases described
      exact ⟨rfl, rfl⟩
    · rintro written rfl
      rcases later : Shared.describe ev.recorded rest t with ⟨lines, v⟩
      simp only [goOn, later] at described
      cases described
      exact (ih later).map _

/-- Asks for what is compared with a pattern. -/
def said (ev : Evaluator σ) (kind : ExpectKind) (result : Evaluation) (w : World σ) :
    Attempt Text × World σ :=
  match kind, result.error with
  | .error, some raised => ev.message raised w
  | _, _ => ev.warningMessage result w

end Evaluator

namespace Engine

theorem failure_classified {config : Config}
    (usual : config.trackerUrl = ({} : Config).trackerUrl) (known : Bool) (bug : BugTag)
    (attributes : Text.TextAttributes) :
    ∃ verdict, classifyFailure known bug config attributes = .ok verdict := by
  unfold classifyFailure
  split
  · exact ⟨_, rfl⟩
  split
  · exact ⟨_, rfl⟩
  · obtain ⟨place, hp⟩ := bug_url_with_usual_tracker usual attributes bug.id
    rw [hp]
    exact ⟨_, rfl⟩

/-- The code came to something that is compared with what was expected: it compiled, and there is
an error, or there is a warning and no error. -/
def Compared (kind : ExpectKind) (result : Evaluation) : Prop :=
  result.syntaxError = false ∧
    match kind with
    | .error => result.raised = true
    | .warning => result.raised = false ∧ result.warnings ≠ []

theorem map_error_iff {ε α β : Type} {x : Except ε α} {f : α → β} {fault : ε} :
    x.map f = .error fault ↔ x = .error fault := by
  cases x <;> simp [Except.map]

theorem message_matches_error_iff {characters : CharacterNames} {pattern message : Text}
    {fault : PatternError} :
    messageMatches characters pattern message = .error fault ↔
      pattern ≠ anything ∧ Pattern.parse characters pattern = .error fault := by
  unfold messageMatches
  by_cases any : pattern = anything
  · simp [any]
  · simp [any, map_error_iff]

def Malformed (characters : CharacterNames) (target : Expectation) (said : Attempt Text)
    (escape : Escape) : Prop :=
  ∃ pattern text fault, target = .matching pattern ∧ said = .ok text ∧ pattern ≠ anything ∧
    Pattern.parse characters pattern = .error fault ∧ escape = .badPattern fault

theorem compare_left {characters kind target type}
    {message : World (Recorded σ) → Attempt Text × World (Recorded σ)}
    (asking : ∀ {w a u}, message w = (a, u) → LeftByAsking w.state.replies u.state.replies a)
    {w u : World (Recorded σ)} {a}
    (compared : compare characters kind target type message w = (a, u)) :
    LeftBy (Malformed characters target (message w).1) w.state.replies u.state.replies a := by
  cases target with
  | identified id =>
    cases compared
    exact (LeftBy.done _).without fun escape => by simp [Malformed]
  | matching pattern =>
    unfold compare at compared
    rcases first : message w with ⟨escape | text, v⟩
    · simp only [first, goOn] at compared
      cases compared
      refine LeftBy.without ?_ fun escape => by simp [Malformed]
      exact (asking first).map fun _ => (.pass, [])
    · obtain ⟨asked, noted, calm⟩ := asking first
      simp only [first, goOn] at compared
      cases matched : messageMatches characters pattern text with
      | error fault =>
        rw [matched] at compared
        cases compared
        obtain ⟨special, malformed⟩ := message_matches_error_iff.mp matched
        refine ⟨asked, noted, fun escape => ?_⟩
        have silent : ¬ Raised.In asked escape := fun raised => by
          cases (calm escape).mpr (.inl raised)
        simp only [silent, false_or, Except.error.injEq]
        constructor
        · rintro rfl
          exact ⟨pattern, text, fault, rfl, rfl, special, malformed, rfl⟩
        · rintro ⟨_, _, other, ⟨⟩, -, -, same, rfl⟩
          rw [malformed] at same
          cases same
          rfl
      | ok met =>
        rw [matched] at compared
        rcases second : message v with ⟨got, t⟩
        simp only [second] at compared
        cases compared
        have formed : ∀ escape, ¬ Malformed characters (.matching pattern) (.ok text) escape := by
          rintro escape ⟨_, _, fault, ⟨⟩, -, special, malformed, -⟩
          rw [message_matches_error_iff.mpr ⟨special, malformed⟩] at matched
          cases matched
        refine LeftBy.without ?_ formed
        exact (asking first).next nofun fun _ _ => (asking second).map _

theorem judge_left {e : Engine σ} {kind target result a} {w u : World (Recorded σ)}
    (judged : e.recorded.judge kind target result w = (a, u)) :
    LeftBy (fun escape => Compared kind result ∧
      Malformed e.library.characters target (e.recorded.evaluator.said kind result w).1 escape)
      w.state.replies u.state.replies a := by
  unfold judge at judged
  cases compiled : result.syntaxError with
  | true =>
    rcases told : e.recorded.evaluator.errorText result w with ⟨text, v⟩
    simp only [compiled, told, if_true] at judged
    cases judged
    exact ((Evaluator.recorded_error_text_left told).map _).without fun escape => by
      simp [Compared, compiled]
  | false =>
    simp only [compiled, Bool.false_eq_true, if_false] at judged
    cases kind with
    | error =>
      cases error : result.error with
      | none =>
        simp only [error] at judged
        cases judged
        exact (LeftBy.done _).without fun escape => by simp [Compared, Evaluation.raised, error]
      | some raised =>
        simp only [error] at judged
        have compared : LeftBy (Malformed e.library.characters target
            (e.recorded.evaluator.message raised w).1) w.state.replies u.state.replies a :=
          compare_left Evaluator.recorded_message_left judged
        simpa [Compared, Evaluation.raised, compiled, error, Evaluator.said] using compared
    | warning =>
      cases error : result.error with
      | some raised =>
        rcases said : e.recorded.evaluator.message raised w with ⟨text, v⟩
        simp only [error, said] at judged
        cases judged
        exact ((Evaluator.recorded_message_left said).map _).without fun escape => by
          simp [Compared, Evaluation.raised, error]
      | none =>
        cases last : result.warnings.getLast? with
        | none =>
          simp only [error, last] at judged
          cases judged
          have calm : result.warnings = [] := List.getLast?_eq_none_iff.mp last
          exact (LeftBy.done _).without fun escape => by simp [Compared, calm]
        | some warning =>
          simp only [error, last] at judged
          have warned : result.warnings ≠ [] := by
            intro calm
            simp [calm] at last
          have compared : LeftBy (Malformed e.library.characters target
              (e.recorded.evaluator.warningMessage result w).1) w.state.replies u.state.replies a :=
            compare_left Evaluator.recorded_warning_left judged
          simpa [Compared, Evaluation.raised, compiled, error, warned, Evaluator.said]
            using compared

/-- When a block with the content is executed, its code comes to something that is compared with a
malformed pattern. -/
def MeetsMalformed (e : Engine σ) (c : Content) (s : Session σ) (escape : Escape) : Prop :=
  ∃ kind target code result w, c = .expect kind target code ∧
    e.evaluator.execute code s.shared (kind == .warning) s.world = (.ok result, w) ∧
    Compared kind result ∧
    Malformed e.library.characters target (e.evaluator.said kind result w).1 escape

theorem told_left {e : Engine σ} {s : Session (Recorded σ)} {result w u said}
    (unasked : w.state.replies = s.world.state.replies)
    (told : e.recorded.evaluator.errorText result w = (said, u)) (f : Text → Verdict) :
    LeftByAsking s.world.state.replies u.state.replies (said.map f) := by
  rw [← unasked]
  exact (Evaluator.recorded_error_text_left told).map f

section Answering

variable {e : Engine σ} {s t : Session (Recorded σ)} (answers : e.evaluator.Answers)
  (usual : e.config.trackerUrl = ({} : Config).trackerUrl)

include answers usual

theorem checks_code_left {code known bug a} (h : e.recorded.ChecksCode s code known bug a t) :
    LeftByAsking s.world.state.replies t.world.state.replies a := by
  cases h with
  | left run => exact absurd run answers.recorded.execute_ne
  | passed run =>
    rw [Evaluator.replies_of_execute run]
    exact .done _
  | failed run raised classified told =>
    rw [← Evaluator.replies_of_execute run]
    exact (Evaluator.recorded_error_text_left told).map _
  | unnamed run raised refused =>
    obtain ⟨verdict, named⟩ := failure_classified usual known bug e.library.attributes
    cases refused.symm.trans named

/-- Executing a block is left by what an object raises, or by the fault of its pattern. -/
theorem executes_left (pauses : ∀ earlier, e.pause earlier = .ok ()) {c a}
    (h : e.recorded.Executes s c a t) :
    LeftBy (e.recorded.MeetsMalformed c s) s.world.state.replies t.world.state.replies a := by
  have plain (other : ∀ kind target code, c ≠ .expect kind target code)
      (left : LeftByAsking s.world.state.replies t.world.state.replies a) :
      LeftBy (e.recorded.MeetsMalformed c s) s.world.state.replies t.world.state.replies a :=
    left.without fun escape met => by
      obtain ⟨kind, target, code, _, _, same, _⟩ := met
      exact other kind target code same
  cases h with
  | demoIdle | functionEnd | comment | functionNameless | guardMalformed | guardMissing | unknown
  | sharedRefused | sharedEmpty => exact plain nofun (.done _)
  | demoLeft busy run => exact absurd run answers.recorded.execute_ne
  | demoFailed busy run raised said =>
    exact plain nofun (told_left (Evaluator.replies_of_execute run) said _)
  | demoShown busy run =>
    refine plain nofun ?_
    rw [show e.recorded.pause s.pauses = .ok () from pauses _, Evaluator.replies_of_execute run]
    exact .done _
  | sharedLeft reset written run => exact absurd run answers.recorded.execute_ne
  | sharedFailed reset written run raised said =>
    exact plain nofun (told_left (Evaluator.replies_of_execute run) said _)
  | sharedSet reset written run =>
    refine plain nofun ?_
    rw [Evaluator.replies_of_execute run]
    exact .done _
  | functionLeft run => exact absurd run answers.recorded.define_ne
  | functionFailed run raised said =>
    exact plain nofun (told_left (Evaluator.replies_of_define run) said _)
  | functionDefined run =>
    refine plain nofun ?_
    rw [Evaluator.replies_of_define run]
    exact .done _
  | expectLeft run => exact absurd run answers.recorded.execute_ne
  | @expectJudged kind target code result w a u run judged =>
    obtain ⟨asked, noted, left⟩ := judge_left judged
    refine ⟨asked, noted.trans (by rw [Evaluator.replies_of_execute run]), fun escape => ?_⟩
    rw [left]
    refine or_congr_right ⟨fun fault => ⟨kind, target, code, result, w, rfl, run, fault⟩, ?_⟩
    rintro ⟨_, _, _, result', w', ⟨⟩, same, fault⟩
    cases run.symm.trans same
    exact fault
  | check run => exact plain nofun (checks_code_left answers usual run)
  | @guardOpen header code a t available free run =>
    have left : LeftByAsking (e.recorded.askedFor header s).world.state.replies
        t.world.state.replies a := checks_code_left answers usual run
    exact plain nofun left
  | guardLeft available bound asked => exact absurd asked answers.recorded.evaluate_ne
  | guardRaised available bound asked said =>
    refine plain nofun ?_
    rw [← Evaluator.replies_of_evaluate asked]
    exact (Evaluator.recorded_ask_left said).map _
  | guardUndecided available bound asked holds =>
    refine plain nofun ?_
    rw [← Evaluator.replies_of_evaluate asked]
    exact (Evaluator.recorded_ask_left holds).map fun _ => ((.none, []) : Verdict)
  | guardClosed available bound asked holds =>
    refine plain nofun ?_
    rw [← Evaluator.replies_of_evaluate asked]
    exact (Evaluator.recorded_ask_left holds).map fun _ => _
  | guardPassed available bound asked holds run =>
    refine plain nofun ?_
    rw [← Evaluator.replies_of_evaluate asked]
    exact (Evaluator.recorded_ask_left holds).next nofun
      fun _ _ => checks_code_left answers usual run

omit answers usual

theorem emit_report_left {r a} (h : e.recorded.emitReport r s = (a, t)) :
    LeftByAsking s.world.state.replies t.world.state.replies a := by
  have told : (e.recorded.tell r s).world.state = s.world.state := (e.recorded.tell_alike r s).state
  have asked {w answer} (described : Shared.describe e.recorded.evaluator s.shared
      (e.recorded.tell r s).world = (answer, w)) :
      LeftByAsking s.world.state.replies w.state.replies answer := by
    rw [← told]
    exact Evaluator.recorded_describe_left described
  cases reports_iff.mpr h with
  | plain short =>
    rw [told]
    exact .done _
  | left long described => exact (asked described).map fun _ => ()
  | described long described =>
    rw [(emit_alike _ _ _).state]
    exact (asked described).map fun _ => ()

theorem step_left {fault : Escape → Prop} {b a}
    (executes : ∀ {a t}, e.recorded.Executes (e.recorded.announced b s) b.content a t →
      LeftBy fault s.world.state.replies t.world.state.replies a)
    (h : e.recorded.step b s = (a, t)) :
    LeftBy fault s.world.state.replies t.world.state.replies a := by
  cases a with
  | error escape =>
    rcases step_error_iff.mp h with left | ⟨verdict, u, executed, left⟩
    · exact (executes left).map (e.reportOf b)
    · exact (executes executed).next nofun fun _ _ =>
        (emit_report_left left).map fun _ => e.reportOf b verdict
  | ok r =>
    obtain ⟨verdict, u, executed, rfl, told⟩ := step_ok_iff.mp h
    exact (executes executed).next nofun fun _ _ =>
      (emit_report_left told).map fun _ => e.reportOf b verdict

end Answering

variable {e : Engine σ}

theorem said_of_recorded (kind : ExpectKind) (result : Evaluation) (w : World (Recorded σ)) :
    (e.recorded.evaluator.said kind result w).1 = (e.evaluator.said kind result w.forget).1 := by
  have asks : e.recorded.evaluator.AnsweredAlike World.Forgets e.evaluator :=
    Evaluator.recorded_asks
  unfold Evaluator.said
  split
  · rw [Evaluator.answered_of_recorded (asks.message _)]
  · rw [Evaluator.answered_of_recorded (asks.warning_message result)]

theorem meets_malformed_of_recorded {c : Content} {s : Session (Recorded σ)} {escape : Escape} :
    e.recorded.MeetsMalformed c s escape ↔ e.MeetsMalformed c s.forget escape := by
  constructor
  · rintro ⟨kind, target, code, result, w, same, run, compared, malformed⟩
    rw [said_of_recorded] at malformed
    exact ⟨kind, target, code, result, w.forget, same, (Evaluator.recorded_execute run).1, compared,
      malformed⟩
  · rintro ⟨kind, target, code, result, w, same, run, compared, malformed⟩
    rcases ran : e.recorded.evaluator.execute code s.shared (kind == .warning) s.world with ⟨a, u⟩
    obtain ⟨rfl, rfl⟩ := Prod.mk.inj ((Evaluator.recorded_execute ran).1.symm.trans run)
    rw [← said_of_recorded] at malformed
    exact ⟨kind, target, code, result, u, same, ran, compared, malformed⟩

/-- A step is left by what an object raises when it is asked, and by what else leaves its block. -/
theorem step_error_iff_asked {fault : Escape → Prop} {b : Block} {s : Session σ} {escape : Escape}
    (executes : ∀ {a t}, e.recorded.Executes (e.recorded.announced b s.recorded) b.content a t →
      LeftBy fault [] t.world.state.replies a) :
    (e.step b s).1 = .error escape ↔ Raised.In (e.replies b s) escape ∨ fault escape := by
  rcases stepped : e.recorded.step b s.recorded with ⟨a, t⟩
  obtain ⟨asked, noted, left⟩ := step_left executes stepped
  obtain ⟨same, replies⟩ := step_recorded stepped
  have all : e.replies b s = asked := replies.trans noted
  rw [same, left, all]

theorem step_error_iff_raised (answers : e.evaluator.Answers)
    (usual : e.config.trackerUrl = ({} : Config).trackerUrl)
    (pauses : ∀ earlier, e.pause earlier = .ok ()) {b : Block} {s : Session σ} {escape : Escape} :
    (e.step b s).1 = .error escape ↔
      Raised.In (e.replies b s) escape ∨
        e.MeetsMalformed b.content (e.announced b s) escape := by
  rw [show e.announced b s = (e.recorded.announced b s.recorded).forget from
    (forget_announced b s.recorded).symm, ← meets_malformed_of_recorded]
  refine step_error_iff_asked fun executed => ?_
  rw [← replies_announced b s]
  exact executes_left answers usual pauses executed

/-- Code that says `boom` raises; all other code does nothing. -/
def raisingScript : Script := fun code =>
  if code = "boom".toList then { error := some (.builtin "ValueError" "boom") } else {}

/-- The script run in batch mode with no features. -/
def raisingEngine : Engine Script.Calls :=
  { evaluator := Script.evaluator raisingScript, options := { batch := true }, config := {}
    features := .listed [], sink := .apart }

theorem raising_script_answers : raisingEngine.evaluator.Answers := by
  apply script_answers
  intro code
  unfold raisingScript
  split <;> rfl

end Engine
end EmbeddedTests
