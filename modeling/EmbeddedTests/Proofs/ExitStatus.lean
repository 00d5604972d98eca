import EmbeddedTests.CommandLine
import EmbeddedTests.Proofs.Escape
import EmbeddedTests.Proofs.FileResults

/-!
# What the exit status of the program says

Code that asks for the end of the program is caught where it is run, but an object that is asked for
a report is not: what it raises leaves the run. So the program ends normally exactly if every block
was run and none of them failed, and with status 1 if one did, or if such an object asks for that.
-/
namespace EmbeddedTests

open Text

variable {σ α : Type}

/-- Whatever leaves a call of the evaluator is of this sort. -/
structure Evaluator.LeftOnlyBy (ev : Evaluator σ) (sort : Escape → Prop) : Prop where
  executes : ∀ {code bindings record w escape u},
    ev.execute code bindings record w = (.error escape, u) → sort escape
  evaluates : ∀ {expr bindings w escape u},
    ev.evaluate expr bindings w = (.error escape, u) → sort escape
  defines : ∀ {name source w escape u},
    ev.define name source w = (.error escape, u) → sort escape

namespace Escape

/-- It is an exception that asks for the end of the program with the status. -/
def AsksFor (escape : Escape) (status : Value) : Prop :=
  ∃ r, escape.exception? = some r ∧ r.ancestry.contains Exit.request = true ∧
    r.value.exitStatus = status

def IsNoExit (escape : Escape) : Prop := ∀ status, ¬ escape.AsksFor status

theorem no_exit_of_ancestry {escape : Escape}
    (h : ∀ r, escape.exception? = some r → r.ancestry.contains Exit.request = false) :
    escape.IsNoExit := by
  rintro status ⟨r, same, asks, -⟩
  rw [h r same] at asks
  cases asks

end Escape

theorem bad_pattern_is_no_exit (fault : PatternError) : (Escape.badPattern fault).IsNoExit := by
  have lineage : (ObjectClass.builtin fault.className).lineage.contains Exit.request = false := by
    unfold PatternError.className
    split <;> decide
  apply Escape.no_exit_of_ancestry
  rintro r ⟨⟩
  exact lineage

theorem bad_template_is_no_exit (fault : TemplateError) : (Escape.badTemplate fault).IsNoExit := by
  have classes : ∀ kind : TemplateErrorKind, ∀ name, kind.className? = some name →
      (Snippet.lineage name).contains Exit.request = false := by
    intro kind name named
    cases kind <;> cases named <;> decide
  apply Escape.no_exit_of_ancestry
  intro r same
  obtain ⟨name, named, rfl⟩ := Option.map_eq_some_iff.mp same
  exact classes _ name named

theorem beyond_is_no_exit (what : Text) : (Escape.beyond what).IsNoExit :=
  Escape.no_exit_of_ancestry nofun

/-- What leaves the attempt is of the sort, or was raised by an object that was asked between the
records. -/
def LeftWithin (sort : Escape → Prop) (before after : List Reply) (a : Attempt α) : Prop :=
  ∃ asked, after = before ++ asked ∧
    ∀ escape, a = .error escape → Raised.In asked escape ∨ sort escape

namespace LeftWithin

variable {β : Type} {sort fault : Escape → Prop} {before between after : List Reply}
  {a : Attempt α}

theorem of_left_by (h : LeftBy fault before after a) (within : ∀ escape, fault escape → sort escape) :
    LeftWithin sort before after a := by
  obtain ⟨asked, noted, left⟩ := h
  exact ⟨asked, noted, fun escape same => ((left escape).mp same).imp_right (within escape)⟩

theorem of_asking (h : LeftByAsking before after a) : LeftWithin sort before after a :=
  of_left_by h fun _ => False.elim

theorem done (h : ∀ escape, a = .error escape → sort escape) : LeftWithin sort before before a :=
  ⟨[], (List.append_nil _).symm, fun escape same => .inr (h escape same)⟩

theorem answered (answer : α) : LeftWithin sort before before (.ok answer : Attempt α) := by
  refine done fun escape left => ?_
  cases left

theorem map (h : LeftWithin sort before after a) (f : α → β) :
    LeftWithin sort before after (a.map f) := by
  obtain ⟨asked, noted, left⟩ := h
  exact ⟨asked, noted, fun escape same => left escape (Engine.map_error_iff.mp same)⟩

theorem next (h : LeftWithin sort before between a) {b : Attempt β}
    (left : ∀ escape, a = .error escape → b = .error escape ∧ after = between)
    (later : ∀ answer, a = .ok answer → LeftWithin sort between after b) :
    LeftWithin sort before after b := by
  obtain ⟨asked, rfl, first⟩ := h
  cases a with
  | error escape =>
    obtain ⟨rfl, rfl⟩ := left escape rfl
    exact ⟨asked, rfl, fun other same => first other (congrArg Except.error (Except.error.inj same))⟩
  | ok answer =>
    obtain ⟨more, rfl, second⟩ := later answer rfl
    refine ⟨asked ++ more, List.append_assoc _ _ _, fun escape same => ?_⟩
    refine (second escape same).imp_left ?_
    rintro ⟨reply, member, raised⟩
    exact ⟨reply, List.mem_append_right _ member, raised⟩

theorem later {answer : α} (h : LeftWithin sort before between (.ok answer : Attempt α))
    {b : Attempt β} (after_answer : LeftWithin sort between after b) :
    LeftWithin sort before after b := by
  refine h.next ?_ fun _ _ => after_answer
  intro escape left
  cases left

end LeftWithin

theorem Evaluator.LeftOnlyBy.recorded {ev : Evaluator σ} {sort : Escape → Prop}
    (calls : ev.LeftOnlyBy sort) : ev.recorded.LeftOnlyBy sort where
  executes run := calls.executes (Evaluator.recorded_execute run).1
  evaluates asked := calls.evaluates (Evaluator.recorded_evaluate asked).1
  defines run := calls.defines (Evaluator.recorded_define run).1

namespace Engine

section Within

variable {e : Engine σ} {s t : Session (Recorded σ)}
  (calls : e.evaluator.LeftOnlyBy Escape.IsNoExit)

include calls

theorem checks_code_within {code known bug a} (h : e.recorded.ChecksCode s code known bug a t) :
    LeftWithin Escape.IsNoExit s.world.state.replies t.world.state.replies a := by
  cases h with
  | left run =>
    rw [← Evaluator.replies_of_execute run]
    refine .done ?_
    rintro escape ⟨⟩
    exact calls.recorded.executes run
  | passed run =>
    rw [Evaluator.replies_of_execute run]
    exact .answered _
  | failed run raised classified told =>
    rw [← Evaluator.replies_of_execute run]
    exact (LeftWithin.of_asking (Evaluator.recorded_error_text_left told)).map _
  | unnamed run raised refused =>
    rw [← Evaluator.replies_of_execute run]
    refine .done ?_
    rintro escape ⟨⟩
    exact bad_template_is_no_exit _

/-- Only what an object raises can be a request for the end of the program. -/
theorem executes_within (pauses : ∀ earlier, e.pause earlier = .ok ()) {c a}
    (h : e.recorded.Executes s c a t) :
    LeftWithin Escape.IsNoExit s.world.state.replies t.world.state.replies a := by
  have left {escape : Escape} {w : World (Recorded σ)}
      (same : w.state.replies = s.world.state.replies) (sort : escape.IsNoExit) :
      LeftWithin Escape.IsNoExit s.world.state.replies w.state.replies
        (.error escape : Attempt Verdict) := by
    rw [same]
    refine .done ?_
    rintro _ ⟨⟩
    exact sort
  have answered {w : World (Recorded σ)} (same : w.state.replies = s.world.state.replies)
      (verdict : Verdict) :
      LeftWithin Escape.IsNoExit s.world.state.replies w.state.replies
        (.ok verdict : Attempt Verdict) := by
    rw [same]
    exact .answered _
  cases h with
  | demoIdle | functionEnd | comment | functionNameless | guardMalformed | guardMissing | unknown
  | sharedRefused | sharedEmpty => exact .answered _
  | demoLeft busy run => exact left (Evaluator.replies_of_execute run) (calls.recorded.executes run)
  | demoFailed busy run raised said =>
    exact .of_asking (told_left (Evaluator.replies_of_execute run) said _)
  | demoShown busy run =>
    rw [show e.recorded.pause s.pauses = .ok () from pauses _]
    exact answered (Evaluator.replies_of_execute run) _
  | sharedLeft reset written run =>
    exact left (Evaluator.replies_of_execute run) (calls.recorded.executes run)
  | sharedFailed reset written run raised said =>
    exact .of_asking (told_left (Evaluator.replies_of_execute run) said _)
  | sharedSet reset written run => exact answered (Evaluator.replies_of_execute run) _
  | functionLeft run =>
    exact left (Evaluator.replies_of_define run) (calls.recorded.defines run)
  | functionFailed run raised said =>
    exact .of_asking (told_left (Evaluator.replies_of_define run) said _)
  | functionDefined run => exact answered (Evaluator.replies_of_define run) _
  | expectLeft run => exact left (Evaluator.replies_of_execute run) (calls.recorded.executes run)
  | expectJudged run judged =>
    rw [← Evaluator.replies_of_execute run]
    refine .of_left_by (judge_left judged) ?_
    rintro escape ⟨-, _, _, fault, -, -, -, -, rfl⟩
    exact bad_pattern_is_no_exit fault
  | check run => exact checks_code_within calls run
  | guardOpen available free run => exact checks_code_within (s := e.recorded.askedFor _ s) calls run
  | guardLeft available bound asked =>
    exact left (Evaluator.replies_of_evaluate asked) (calls.recorded.evaluates asked)
  | guardRaised available bound asked said =>
    rw [← Evaluator.replies_of_evaluate asked]
    exact (LeftWithin.of_asking (Evaluator.recorded_ask_left said)).map _
  | guardUndecided available bound asked holds =>
    rw [← Evaluator.replies_of_evaluate asked]
    exact (LeftWithin.of_asking (Evaluator.recorded_ask_left holds)).map
      fun _ => ((.none, []) : Verdict)
  | guardClosed available bound asked holds =>
    rw [← Evaluator.replies_of_evaluate asked]
    exact (LeftWithin.of_asking (Evaluator.recorded_ask_left holds)).map fun _ => _
  | guardPassed available bound asked holds run =>
    rw [← Evaluator.replies_of_evaluate asked]
    exact (LeftWithin.of_asking (Evaluator.recorded_ask_left holds)).later
      (checks_code_within calls run)

theorem step_within (pauses : ∀ earlier, e.pause earlier = .ok ()) {b : Block} {s : Session σ}
    {escape : Escape} (left : (e.step b s).1 = .error escape) :
    Raised.In (e.replies b s) escape ∨ escape.IsNoExit := by
  rcases stepped : e.recorded.step b s.recorded with ⟨a, t⟩
  obtain ⟨same, replies⟩ := step_recorded stepped
  rw [same] at left
  subst left
  have within : LeftWithin Escape.IsNoExit [] t.world.state.replies
      (.error escape : Attempt BlockReport) := by
    rw [← replies_announced b s]
    rcases step_error_iff.mp stepped with left | ⟨verdict, u, executed, left⟩
    · exact (executes_within calls pauses left).map (e.reportOf b)
    · exact (executes_within calls pauses executed).later
        ((LeftWithin.of_asking (emit_report_left left)).map fun _ => e.reportOf b verdict)
  obtain ⟨asked, noted, sorts⟩ := within
  rw [replies, noted]
  exact sorts escape rfl

/-- What leaves a run is no request for the end of the program, unless an object that is asked in
one of the steps raised it. -/
theorem run_within (pauses : ∀ earlier, e.pause earlier = .ok ()) {file : Text}
    {blocks : List Block} {s : Session σ} {escape : Escape}
    (left : (e.run file blocks s).escape = some escape) :
    (∃ b u, e.Reaches blocks s.begun b u ∧ Raised.In (e.replies b u) escape) ∨
      escape.IsNoExit := by
  change (e.steps file blocks s.begun).escape = some escape at left
  obtain ⟨b, u, reached, stepped⟩ := steps_escape_iff.mp left
  exact (step_within calls pauses stepped).imp_left fun raised => ⟨b, u, reached, raised⟩

end Within

end Engine

/-- Code that asks for the end of the program is caught where it is prepared and where it is run. -/
structure Host.CatchesExits (host : Host σ) : Prop where
  preparing : ∀ {disk config file w escape u},
    host.prepare disk config file w = (.error escape, u) → escape.IsNoExit
  running : ∀ {disk config file w ev u},
    host.prepare disk config file w = (.ok (.ok ev), u) → ev.LeftOnlyBy Escape.IsNoExit

def FileTest.engineFor (t : FileTest σ) (options : EngineOptions) (file buffer : Text)
    (s : Session σ) (evaluator : Evaluator σ) : Engine σ :=
  t.engine evaluator options (t.diskAt (t.entered options file buffer s))

/-- An object raised it when it was asked for a report: what preparing the file raised, or an object
that is asked in a step of the run. -/
inductive FileTest.LeftByReport (t : FileTest σ) (options : EngineOptions) (file buffer : Text)
    (s : Session σ) (escape : Escape) : Prop
  | unprepared {raised w} (failed : t.prepared options file buffer s = (.ok (.error raised), w))
      (left : (t.setting.host.ask .formatted raised.value w).1 = .error escape)
  | running {evaluator w b u}
      (ready : t.prepared options file buffer s = (.ok (.ok evaluator), w))
      (reached : (t.engineFor options file buffer s evaluator).Reaches (parseBlocks buffer)
        (Session.begun { t.entered options file buffer s with world := w }) b u)
      (raised : Raised.In ((t.engineFor options file buffer s evaluator).replies b u) escape)

theorem takes_within {t : FileTest σ} (catches : t.setting.host.CatchesExits)
    (pauses : ∀ earlier, t.setting.pause earlier = .ok ()) {options : EngineOptions}
    {file buffer : Text} {s : Session σ} {escape : Escape}
    (h : t.Takes options file buffer s (.error escape)) :
    t.LeftByReport options file buffer s escape ∨ escape.IsNoExit := by
  cases h with
  | prepareLeft marked left => exact .inr (catches.preparing left)
  | untold marked failed left => exact .inl (.unprepared failed left)
  | @runLeft evaluator w escape marked ready left =>
    have calls : evaluator.LeftOnlyBy Escape.IsNoExit := catches.running ready
    refine (Engine.run_within calls pauses left).imp_left ?_
    rintro ⟨b, u, reached, raised⟩
    exact .running ready reached raised

namespace Snippet

def parents : List Text := "Exception" :: exceptionFamilies.map (·.parent)

theorem parent_mem {name parent : Text} (found : parentOf? name = some parent) :
    parent ∈ parents := by
  unfold parentOf? at found
  split at found
  · cases found
    exact List.mem_cons_self
  · obtain ⟨family, held, rfl⟩ := Option.map_eq_some_iff.mp found
    exact List.mem_cons_of_mem _ (List.mem_map_of_mem (List.mem_of_find?_eq_some held))

theorem mem_upwards {height : Nat} {name other : Text} (h : other ∈ upwards height name) :
    other = name ∨ other ∈ parents := by
  induction height generalizing name with
  | zero => cases h
  | succ height ih =>
    rcases List.mem_cons.mp h with same | above
    · exact .inl same
    · cases found : parentOf? name with
      | none =>
        rw [found] at above
        cases above
      | some parent =>
        rw [found] at above
        rcases ih above with rfl | known
        · exact .inr (parent_mem found)
        · exact .inr known

theorem eq_of_lineage {name other : Text} (h : (lineage name).contains other = true)
    (lowest : other ∉ parents) : other = name :=
  (mem_upwards (List.contains_iff_mem.mp h)).resolve_right lowest

/-- No class is one of an interruption and of a request for the end of the program. -/
theorem no_exit_of_interruption {c : ObjectClass} (h : c.lineage.contains interruption = true) :
    c.lineage.contains Exit.request = false := by
  have builtin (name : Text) (h : (lineage name).contains interruption = true) :
      (lineage name).contains Exit.request = false := by
    obtain rfl := eq_of_lineage h (by decide)
    decide
  cases c with
  | builtin name => exact builtin name h
  | own id name above methods =>
    cases above with
    | none => rfl
    | some above => exact builtin above h

theorem settle_no_exit {α β : Type} {onError : Raised → β} {onSuccess : α → β}
    {result : Except Stop α} {escape : Escape}
    (h : settle onError onSuccess result = .error escape) : escape.IsNoExit := by
  rcases result with (t | what) | answer
  case error.thrown =>
    unfold settle at h
    dsimp only at h
    split at h
    · rename_i interrupts
      cases h
      apply Escape.no_exit_of_ancestry
      rintro r ⟨⟩
      exact no_exit_of_interruption interrupts
    · cases h
  case error.beyond =>
    cases h
    exact beyond_is_no_exit what
  case ok => cases h

theorem evaluator_no_exit (file : Text) : (evaluator file).LeftOnlyBy Escape.IsNoExit where
  executes {code bindings record w escape u} h := by
    simp only [evaluator] at h
    unfold execute at h
    split at h
    · exact absurd (Prod.mk.inj h).1 nofun
    · rename_i body read
      rcases ran : runBlock body bindings record w with ⟨ended, v⟩
      rw [ran] at h
      exact settle_no_exit (Prod.mk.inj h).1
  evaluates {expr bindings w escape u} h := by
    simp only [evaluator, evaluate] at h
    cases read : readExpr (trim expr) with
    | error e =>
      simp only [read] at h
      cases h
    | ok e =>
      simp only [read] at h
      split at h
      exact settle_no_exit (Prod.mk.inj h).1
  defines {name source w escape u} h := by
    simp only [evaluator, define] at h
    cases read : compileStatements source with
    | error e =>
      simp only [read] at h
      cases h
    | ok ss =>
      simp only [read] at h
      split at h
      exact settle_no_exit (Prod.mk.inj h).1

theorem run_for_tests_no_exit {disk : Disk} {file : Text} {w u : World Machine} {escape : Escape}
    (h : runForTests disk file w = (.error escape, u)) : escape.IsNoExit := by
  unfold runForTests runModule at h
  cases source : isSource file with
  | false =>
    rw [source] at h
    cases h
  | true =>
    cases read : readModule disk (disk.absolute file) with
    | error raised =>
      simp only [source, read, if_true] at h
      cases h
    | ok ss =>
      simp only [source, read, if_true] at h
      split at h
      exact settle_no_exit (Prod.mk.inj h).1

theorem host_catches_exits : host.CatchesExits where
  preparing {disk config file w escape u} h := by
    simp only [host, prepare] at h
    split at h
    · rcases run : runForTests disk file w with ⟨left | result, v⟩
      · rw [run] at h
        cases h
        exact run_for_tests_no_exit run
      · rw [run] at h
        cases h
    · cases h
  running made := prepared_evaluator made ▸ evaluator_no_exit _

end Snippet

namespace Arguments

/-- Arguments can ask for these modes; the program does not collect demos. -/
def modes : List TestMode := [.normal, .quiet, .verbose, .explain]

def AsksForMode (a : Arguments) : Prop := ∃ mode ∈ modes, a.mode = mode.name

theorem take_asks {a b : Arguments} {argument : Text} (h : a.take argument = .ok b)
    (known : a.AsksForMode) : b.AsksForMode := by
  have flags : ∀ name ∈ modeFlags.map Prod.snd, ∃ mode ∈ modes, name = mode.name := by decide
  unfold take at h
  split at h
  · rename_i name flagged
    cases h
    obtain ⟨before, after, listed, -⟩ := List.lookup_eq_some_iff.mp flagged
    exact flags name (by rw [listed]; simp)
  · cases h
    exact known
  · cases h
    exact known
  · cases h

theorem read_asks {a b : Arguments} {arguments : List Text} (h : a.read arguments = .ok b)
    (known : a.AsksForMode) : b.AsksForMode := by
  fun_induction read a arguments with
  | case1 => cases h
  | case2 =>
    cases h
    exact known
  | case3 => cases h
  | case4 a last other ih =>
    cases taken : a.take last with
    | error e =>
      rw [taken] at h
      cases h
    | ok next =>
      rw [taken] at h
      exact ih _ h (take_asks taken known)
  | case5 a second later ih => exact ih h known
  | case6 a first second later other ih =>
    cases taken : a.take first with
    | error e =>
      rw [taken] at h
      cases h
    | ok next =>
      rw [taken] at h
      exact ih _ h (take_asks taken known)

theorem check_of_read {a : Arguments} {arguments : List Text} {name : Text}
    (h : Arguments.read {} arguments = .ok a) (explains : a.mode ≠ TestMode.explain.name)
    (named : a.name.getD [] = name) (some : name ≠ []) :
    ∃ mode, a.request.check = .ok (mode, name) ∧ mode ≠ .explain ∧ mode ≠ .grabDemos := by
  obtain ⟨mode, known, asked⟩ := read_asks h ⟨.normal, by decide, rfl⟩
  obtain ⟨c, rest, rfl⟩ := List.exists_cons_of_ne_nil some
  have checked : ∀ mode ∈ modes, mode ≠ .explain → TestMode.ofName? mode.name = .some mode ∧
      mode ≠ .grabDemos := by decide
  have runs : mode ≠ .explain := by
    rintro rfl
    exact explains asked
  obtain ⟨found, collects⟩ := checked mode known runs
  refine ⟨mode, ?_, runs, collects⟩
  unfold TestRequest.check request
  rw [asked, found, named]
  cases mode with
  | explain => exact absurd rfl runs
  | _ => rfl

end Arguments

/-- A block failed, or the code of the file itself. -/
def Course.Failed : Course σ → Prop
  | untested => False
  | unprepared _ => True
  | ran steps => ∃ r ∈ steps.reports, r.outcome = .fail ∨ r.outcome = .error

theorem is_hard_iff (o : Outcome) : o.isHard = true ↔ o = .fail ∨ o = .error := by
  cases o <;> simp [Outcome.isHard]

theorem success_classify (r : RunResult) (file : Text) (threshold : Int) :
    (r.classify file threshold).success = r.success :=
  RunResult.classify_kept RunResult.success (fun _ _ _ _ _ => rfl) r file threshold

theorem success_tally_all (outcomes : List Outcome) :
    (RunResult.tallyAll {} outcomes).success = true ↔ ∀ o ∈ outcomes, o ≠ .fail ∧ o ≠ .error := by
  have hard : ((outcomes.countP Outcome.isHard : Nat) : Int) = 0 ↔
      ∀ o ∈ outcomes, ¬ o.isHard = true := by
    rw [Int.natCast_eq_zero, List.countP_eq_zero]
  rw [RunResult.success, beq_iff_eq, RunResult.hard_failures_tally_all, hard]
  simp [is_hard_iff]

theorem success_iff_not_failed {t : FileTest σ} {options : EngineOptions} {file buffer : Text}
    {s : Session σ} {course : Course σ} (h : t.Takes options file buffer s (.ok course)) :
    course.counted.success = true ↔ ¬ course.Failed := by
  cases h with
  | untested => exact iff_of_true rfl id
  | unprepared => exact iff_of_false Bool.false_ne_true fun passed => passed trivial
  | ran marked ready whole =>
    rw [counted_ran whole, success_tally_all]
    simp [Course.Failed, Engine.Steps.outcomes]

/-- There was nothing to run; or the file's code was prepared, every block was run, and none of them
failed. -/
def FileTest.AllPassed (t : FileTest σ) (options : EngineOptions) (file buffer : Text)
    (s : Session σ) (course : Course σ) : Prop :=
  buffer = [] ∧ course = .untested ∨
    ∃ evaluator w, t.prepared options file buffer s = (.ok (.ok evaluator), w) ∧
      let steps := t.ranBy options file buffer s evaluator w
      course = .ran steps ∧ steps.reports.map (·.block) = parseBlocks buffer ∧
        ∀ r ∈ steps.reports, r.outcome ≠ .fail ∧ r.outcome ≠ .error

theorem FileTest.AllPassed.not_failed {t : FileTest σ} {options : EngineOptions}
    {file buffer : Text} {s : Session σ} {course : Course σ}
    (h : t.AllPassed options file buffer s course) : ¬ course.Failed := by
  intro failed
  rcases h with ⟨-, rfl⟩ | ⟨evaluator, w, -, rfl, -, passed⟩
  · exact failed
  · obtain ⟨r, member, outcome⟩ := failed
    exact outcome.elim (passed r member).1 (passed r member).2

/-- A run without failures is not halted, so it comes to every block. -/
theorem all_passed_of_not_failed {t : FileTest σ} {options : EngineOptions} {file buffer : Text}
    {s : Session σ} {course : Course σ} (h : t.Takes options file buffer s (.ok course))
    (passed : ¬ course.Failed) : t.AllPassed options file buffer s course := by
  cases h with
  | untested empty => exact .inl ⟨empty, rfl⟩
  | unprepared => exact absurd trivial passed
  | @ran evaluator w marked ready whole =>
    have each : ∀ r ∈ (t.ranBy options file buffer s evaluator w).reports,
        r.outcome ≠ .fail ∧ r.outcome ≠ .error :=
      fun r member => not_or.mp fun outcome => passed ⟨r, member, outcome⟩
    have soft : (t.ranBy options file buffer s evaluator w).reports.any (·.outcome.isHard) =
        false := by
      rw [List.any_eq_false]
      intro r member hard
      exact ((is_hard_iff _).mp hard).elim (each r member).1 (each r member).2
    refine .inr ⟨evaluator, w, ready, rfl, ?_, each⟩
    apply Engine.run_reports_all whole
    rw [Engine.run_halted_eq]
    exact Bool.and_eq_false_imp.mpr fun hard => absurd (soft.symm.trans hard) nofun

/-- The arguments ask for the tests of a file, the log can be written, and the file is found. -/
structure FindsFile (host : Host σ) (env : Environment) (arguments : List Text) (disk : Disk)
    (s : Session σ) (a : Arguments) (t : FileTest σ) (file : Text) (u : Session σ) : Prop where
  read : Arguments.read {} arguments = .ok a
  explains : a.mode ≠ TestMode.explain.name
  setting : t.setting = { host := host, config := .ofEnvironment env }
  level : ∃ level, chooseLevel t.setting.config.logLevel t.setting.config.logLevel = .ok level
  log : t.log = a.request.log
  opened : t.log.start disk = .ok t.disk
  found :
    let entry := t.announced (a.name.getD []) { s with report := [] }
    host.locate (t.diskAt entry) (a.name.getD []) entry = (.ok (some file), u)

namespace FindsFile

variable {host : Host σ} {env : Environment} {arguments : List Text} {disk : Disk}
  {s u : Session σ} {a : Arguments} {t : FileTest σ} {file : Text}

theorem named (h : FindsFile host env arguments disk s a t file u) : a.name.getD [] ≠ [] := by
  intro empty
  obtain ⟨entry, found⟩ : ∃ entry, host.locate (t.diskAt entry) [] entry = (.ok (some file), u) :=
    ⟨_, empty ▸ h.found⟩
  unfold Host.locate at found
  have here : (t.diskAt entry).isFile (Path.tidy []) = false := by
    apply Bool.eq_false_iff.mpr
    intro file
    obtain ⟨bytes, read⟩ := is_file_iff.mp file
    exact read_here_ne_ok _ bytes read
  simp [here] at found

theorem catches (h : FindsFile host env arguments disk s a t file u)
    (catches : host.CatchesExits) : t.setting.host.CatchesExits := by
  rw [h.setting]
  exact catches

theorem pauses (h : FindsFile host env arguments disk s a t file u) (earlier : List Text) :
    t.setting.pause earlier = .ok () := by
  rw [h.setting]

theorem exit_eq (h : FindsFile host env arguments disk s a t file u) :
    (runProgramOn host env arguments disk s).exit =
      exitOf (t.setting.test a.request disk s).output := by
  obtain ⟨level, chosen⟩ := h.level
  rw [h.setting] at chosen ⊢
  unfold runProgramOn
  rw [h.read]
  simp only [runArguments, chosen]

theorem output_eq (h : FindsFile host env arguments disk s a t file u) :
    ∃ options : EngineOptions, (t.setting.test a.request disk s).output =
      match (t.diskAt u).readTests file t.setting.config.marker with
      | .error e => .error (.file e)
      | .ok buffer => (t.runBuffer options file buffer u).1 := by
  obtain ⟨mode, asked, runs, collects⟩ := Arguments.check_of_read h.read h.explains rfl h.named
  have whole : t = ⟨t.setting, a.request.log, t.disk⟩ := by rw [← h.log]
  have host_eq : t.setting.host = host := by rw [h.setting]
  obtain ⟨options, -, output⟩ := test_of_found t.setting disk asked runs collects
    (h.log ▸ h.opened) (by rw [← whole, host_eq]; exact h.found)
  rw [← whole] at output
  exact ⟨options, output⟩

end FindsFile

theorem exit_of_escape_iff {escape : Escape} {status : Value} :
    exitOf (.error (.escape escape) : Except TestError (TestOutput σ)) = .requested status ↔
      escape.AsksFor status := by
  change Exit.ofTestError (.escape escape) = .requested status ↔ _
  have of_raised {r : Raised} (same : escape.exception? = some r) :
      Exit.ofRaised r escape = .requested status ↔ escape.AsksFor status := by
    unfold Exit.ofRaised Escape.AsksFor
    rw [same]
    by_cases asks : r.ancestry.contains Exit.request = true <;>
      simp only [asks, if_true, if_false, Bool.false_eq_true, Exit.requested.injEq, reduceCtorEq,
        Option.some.injEq, exists_eq_left', true_and, false_and]
  cases escape with
  | interrupted r => exact of_raised rfl
  | raised r => exact of_raised rfl
  | badPattern fault => exact iff_of_false nofun (bad_pattern_is_no_exit fault status)
  | badTemplate fault => exact iff_of_false nofun (bad_template_is_no_exit fault status)
  | beyond what => exact iff_of_false nofun (beyond_is_no_exit what status)

theorem exit_of_escape_ne_normal (escape : Escape) :
    exitOf (.error (.escape escape) : Except TestError (TestOutput σ)) ≠ .normal := by
  have of_raised (r : Raised) (escape : Escape) : Exit.ofRaised r escape ≠ .normal := by
    unfold Exit.ofRaised
    split <;> exact nofun
  cases escape with
  | interrupted r => exact of_raised r _
  | raised r => exact of_raised r _
  | _ => exact nofun

theorem exit_of_course {t : FileTest σ} {options : EngineOptions} {file buffer : Text}
    {s : Session σ} {course : Course σ} (h : t.Takes options file buffer s (.ok course)) :
    (¬ course.Failed ∧ exitOf (.ok (t.outputOf file course)) = .normal) ∨
      (course.Failed ∧ exitOf (.ok (t.outputOf file course)) = .status 1) := by
  have succeeds := success_iff_not_failed h
  have exit : exitOf (.ok (t.outputOf file course)) =
      if course.counted.success then .normal else .status 1 := by
    rw [← success_classify course.counted file t.setting.config.failThreshold]
    rfl
  rw [exit]
  by_cases failed : course.Failed
  · have unsuccessful : course.counted.success = false :=
      Bool.eq_false_iff.mpr fun success => succeeds.mp success failed
    exact .inr ⟨failed, by simp [unsuccessful]⟩
  · exact .inl ⟨failed, by simp [succeeds.mpr failed]⟩

/-- When the program finds a file to test, it ends normally exactly if the file was read and there
was nothing to run, or its code was prepared, every block was run, and none of them failed. It asks
for status 1 exactly if there is a result in which a block failed or the file could not be prepared,
or an object that was asked for a report asked for that status itself. -/
theorem exit_tells_of_failures {host : Host σ} (catches : host.CatchesExits) {env : Environment}
    {arguments : List Text} {disk : Disk} {s u : Session σ} {a : Arguments} {t : FileTest σ}
    {file : Text} (h : FindsFile host env arguments disk s a t file u) :
    let exit := (runProgramOn host env arguments disk s).exit
    let output := (t.setting.test a.request disk s).output
    (exit = .normal ↔ ∃ options buffer course,
      (t.diskAt u).readTests file t.setting.config.marker = .ok buffer ∧
        output = .ok (t.outputOf file course) ∧ t.AllPassed options file buffer u course) ∧
    (exit = .status 1 ↔
      (∃ course result, output = .ok (.tested file course result) ∧ course.Failed) ∨
        ∃ options buffer escape,
          (t.diskAt u).readTests file t.setting.config.marker = .ok buffer ∧
            output = .error (.escape escape) ∧ t.LeftByReport options file buffer u escape ∧
            escape.AsksFor (.int 1)) := by
  intro exit output
  have exits : exit = exitOf output := h.exit_eq
  obtain ⟨options, comes⟩ := h.output_eq
  change output = _ at comes
  cases read : (t.diskAt u).readTests file t.setting.config.marker with
  | error e =>
    simp only [read] at comes
    have refused : exit = .message e.message := by
      rw [exits, comes]
      rfl
    simp [refused, comes, Exit.message, Exit.status]
  | ok buffer =>
    simp only [read] at comes
    obtain ⟨course, takes, given⟩ := t.run_buffer_takes options file buffer u
    rw [given] at comes
    cases course with
    | error escape =>
      change output = .error (.escape escape) at comes
      rw [comes] at exits
      have within := takes_within (h.catches catches) h.pauses takes
      refine ⟨iff_of_false ?_ ?_, ?_⟩
      · rw [exits]
        exact exit_of_escape_ne_normal escape
      · rintro ⟨_, _, _, -, tested, -⟩
        cases comes.symm.trans tested
      · rw [exits, Exit.status, exit_of_escape_iff]
        constructor
        · intro asks
          have told := within.resolve_right fun none => none _ asks
          exact .inr ⟨options, buffer, escape, rfl, comes, told, asks⟩
        · rintro (⟨_, _, tested, -⟩ | ⟨_, _, other, -, same, -, asks⟩)
          · cases comes.symm.trans tested
          · cases comes.symm.trans same
            exact asks
    | ok course =>
      change output = .ok (t.outputOf file course) at comes
      rw [comes] at exits
      have same {other : Course σ} {result : RunResult}
          (h : output = .ok (.tested file other result)) : other = course := by
        rw [comes] at h
        cases h
        rfl
      rcases exit_of_course takes with ⟨passed, ends⟩ | ⟨failed, ends⟩
      · refine ⟨iff_of_true (exits.trans ends) ?_, iff_of_false ?_ ?_⟩
        · exact ⟨options, buffer, course, rfl, comes, all_passed_of_not_failed takes passed⟩
        · rw [exits, ends]
          exact nofun
        · rintro (⟨other, result, tested, failed⟩ | ⟨_, _, _, -, left, -⟩)
          · exact passed (same tested ▸ failed)
          · cases comes.symm.trans left
      · refine ⟨iff_of_false ?_ ?_, iff_of_true (exits.trans ends) ?_⟩
        · rw [exits, ends]
          exact nofun
        · rintro ⟨_, _, other, -, tested, passed⟩
          exact passed.not_failed (same tested ▸ failed)
        · exact .inl ⟨course, _, comes, failed⟩

/-- The second of two tests of a function fails. -/
def oneFailure : Disk :=
  Batch.diskOf [("a.py", "def f(x):\n  return x\n#!assert f(1) == 1\n#!assert f(1) == 2\n")]

def programStart : Session Snippet.Machine := { world := { state := {} } }

/-- The test of the file with the log that the arguments ask for. -/
def loggedTest : FileTest Snippet.Machine :=
  { setting := { host := Snippet.host, config := .ofEnvironment fun _ => none }
    log := .file "out.txt"
    disk := ((LogTarget.file "out.txt").start oneFailure).toOption.getD oneFailure }

theorem failure_is_found : FindsFile Snippet.host (fun _ => none) ["--log", "out.txt", "a.py"]
    oneFailure programStart { log := some "out.txt", name := some "a.py" } loggedTest "a.py"
    (loggedTest.announced "a.py" programStart) where
  read := rfl
  explains := by decide
  setting := rfl
  level := ⟨.warning, by decide⟩
  log := rfl
  opened := rfl
  found := by
    have file : (loggedTest.diskAt (loggedTest.announced "a.py" programStart)).isFile "a.py" =
        true := by decide
    have tidied : Path.tidy "a.py" = "a.py" := rfl
    intro entry
    unfold Host.locate
    rw [Option.getD_some, tidied]
    exact if_pos file

def Exit.number? : Exit → Option Int
  | .requested (.int n) => some n
  | _ => none

theorem exit_of_number {exit : Exit} {n : Int} (h : exit.number? = some n) : exit = .status n := by
  unfold Exit.number? at h
  split at h
  · cases h
    rfl
  · cases h

theorem failure_gives_status_one :
    Snippet.host.CatchesExits ∧
    FindsFile Snippet.host (fun _ => none) ["--log", "out.txt", "a.py"] oneFailure programStart
      { log := some "out.txt", name := some "a.py" } loggedTest "a.py"
      (loggedTest.announced "a.py" programStart) ∧
    (runProgramOn Snippet.host (fun _ => none) ["--log", "out.txt", "a.py"] oneFailure
      programStart).exit = .status 1 ∧
    ∃ course result, (loggedTest.setting.test { name := some "a.py", log := .file "out.txt" }
      oneFailure programStart).output = .ok (.tested "a.py" course result) ∧ course.Failed := by
  have ends : (runProgramOn Snippet.host (fun _ => none) ["--log", "out.txt", "a.py"] oneFailure
      programStart).exit = .status 1 := exit_of_number (by decide +kernel)
  have tells := exit_tells_of_failures Snippet.host_catches_exits failure_is_found
  refine ⟨Snippet.host_catches_exits, failure_is_found, ends, ?_⟩
  rcases tells.2.mp ends with failed | ⟨_, _, escape, -, left, -⟩
  · exact failed
  · have given : (loggedTest.setting.test { name := some "a.py", log := .file "out.txt" }
        oneFailure programStart).output.isOk = true := by decide +kernel
    rw [show (loggedTest.setting.test { name := some "a.py", log := .file "out.txt" } oneFailure
      programStart).output = _ from left] at given
    cases given

/-- The exception of a known failure asks for the end of the program when it is told. -/
def exitWhenTold : Disk :=
  Batch.diskOf [("a.py", "class E(Exception):\n  def __str__(self):\n    raise SystemExit(1)\n" ++
    "#!xtest raise E()\n")]

/-- The test of that file with reports on the console. -/
def toldTest : FileTest Snippet.Machine :=
  { setting := { host := Snippet.host, config := .ofEnvironment fun _ => none }
    log := .console
    disk := exitWhenTold }

/-- The only block is a known failure, and still the program ends with status 1, without a result. -/
theorem exit_is_asked_for_by_report :
    FindsFile Snippet.host (fun _ => none) ["a.py"] exitWhenTold programStart
      { name := some "a.py" } toldTest "a.py" (toldTest.announced "a.py" programStart) ∧
    (runProgramOn Snippet.host (fun _ => none) ["a.py"] exitWhenTold programStart).exit =
      .status 1 ∧
    ¬ ∃ course result, (toldTest.setting.test { name := some "a.py" } exitWhenTold
      programStart).output = .ok (.tested "a.py" course result) := by
  refine ⟨?_, exit_of_number (by decide +kernel), ?_⟩
  · refine ⟨rfl, by decide, rfl, ⟨.warning, by decide⟩, rfl, rfl, ?_⟩
    have file : (toldTest.diskAt (toldTest.announced "a.py" programStart)).isFile "a.py" =
        true := by decide
    have tidied : Path.tidy "a.py" = "a.py" := rfl
    intro entry
    unfold Host.locate
    rw [Option.getD_some, tidied]
    exact if_pos file
  · rintro ⟨course, result, given⟩
    have left : (toldTest.setting.test { name := some "a.py" } exitWhenTold
        programStart).output.isOk = false := by decide +kernel
    rw [given] at left
    cases left

end EmbeddedTests
