import EmbeddedTests.Proofs.Questions
import EmbeddedTests.Proofs.Run
import Mathlib.Data.List.Forall2

/-!
# Engines that mirror each other

Engines that differ only in what they show, and in evaluators that answer alike, take the same
steps. A relation between their worlds that every call keeps is kept by whole runs; what is shown is
related as far as the engines relate it.
-/
namespace EmbeddedTests

variable {σ τ : Type}

/-- The worlds and the reports are related, and everything else is the same. -/
structure Session.Mirrors (R : World σ → World τ → Prop) (Q : Text → Text → Prop) (s : Session σ)
    (s' : Session τ) : Prop where
  world : R s.world s'.world
  report : Q s.report s'.report
  shared : s'.shared = s.shared
  functions : s'.functions = s.functions
  journal : s'.journal = s.journal
  pauses : s'.pauses = s.pauses
  leaks : s'.leaks = s.leaks

/-- Related worlds have the same names, and stay related when these are changed in both. -/
structure World.Rebinds (R : World σ → World τ → Prop) : Prop where
  base : ∀ {w w'}, R w w' → w'.base = w.base
  helpers : ∀ {w w'}, R w w' → w'.helpers = w.helpers
  change : ∀ {w w'}, R w w' → ∀ base helpers,
    R { w with base := base, helpers := helpers } { w' with base := base, helpers := helpers }

/-- In related worlds the evaluators answer alike, and leave related worlds. -/
structure Evaluator.Mirrors (R : World σ → World τ → Prop) (ev : Evaluator σ)
    (ev' : Evaluator τ) : Prop where
  executes : ∀ {w w' u code bindings record a}, R w w' →
    ev.execute code bindings record w = (a, u) →
      ∃ u', ev'.execute code bindings record w' = (a, u') ∧ R u u'
  evaluates : ∀ {w w' u expr bindings a}, R w w' → ev.evaluate expr bindings w = (a, u) →
    ∃ u', ev'.evaluate expr bindings w' = (a, u') ∧ R u u'
  defines : ∀ {w w' u name source a}, R w w' → ev.define name source w = (a, u) →
    ∃ u', ev'.define name source w' = (a, u') ∧ R u u'
  asks : ev.AnsweredAlike R ev'
  surroundings : ∀ {w w'}, R w w' → ev'.surroundings w' = ev.surroundings w

namespace World.Rebinds

variable {R : World σ → World τ → Prop} {w : World σ} {w' : World τ}

theorem unbind (rebinds : Rebinds R) (h : R w w') (name : Text) :
    R (w.unbind name) (w'.unbind name) := by
  have changed := rebinds.change h (w.base.erase name) w.helpers
  have same : w'.unbind name = { w' with base := w.base.erase name, helpers := w.helpers } := by
    rw [World.unbind, rebinds.base h, ← rebinds.helpers h]
  rwa [same]

theorem unbind_all (rebinds : Rebinds R) (h : R w w') (names : List Text) :
    R (names.foldl World.unbind w) (names.foldl World.unbind w') := by
  induction names generalizing w w' with
  | nil => exact h
  | cons name rest ih => exact ih (rebinds.unbind h name)

theorem install_helpers (rebinds : Rebinds R) (h : R w w') :
    R w.installHelpers w'.installHelpers := by
  have one {w : World σ} {w' : World τ} (h : R w w') (b : Builtin) :
      R (w.installHelper b) (w'.installHelper b) := by
    unfold World.installHelper
    rw [rebinds.base h]
    split
    · exact h
    · have changed := rebinds.change h (w.base.put b.name (.builtin b)) (w.helpers ++ [b.name])
      simpa only [World.bind, rebinds.base h, rebinds.helpers h] using changed
  unfold World.installHelpers
  generalize helperFunctions = helpers
  induction helpers generalizing w w' with
  | nil => exact h
  | cons b rest ih => exact ih (one h b)

theorem remove_helpers (rebinds : Rebinds R) (h : R w w') : R w.removeHelpers w'.removeHelpers := by
  have unbound := rebinds.unbind_all h w.helpers
  have changed := rebinds.change unbound (w.helpers.foldl World.unbind w).base []
  unfold World.removeHelpers
  rw [rebinds.helpers h]
  simpa only [rebinds.base unbound] using changed

end World.Rebinds

namespace Session.Mirrors

variable {R : World σ → World τ → Prop} {Q : Text → Text → Prop} {s : Session σ} {s' : Session τ}

theorem within (m : s.Mirrors R Q s') {w : World σ} {w' : World τ} (world : R w w') :
    Mirrors R Q { s with world := w } { s' with world := w' } :=
  ⟨world, m.report, m.shared, m.functions, m.journal, m.pauses, m.leaks⟩

theorem log (m : s.Mirrors R Q s') (level : Level) (origin : Origin) (message : Text) :
    (s.log level origin message).Mirrors R Q (s'.log level origin message) :=
  { m with journal := congrArg (· ++ _) m.journal }

theorem tear_down (rebinds : World.Rebinds R) (m : s.Mirrors R Q s') :
    s.tearDown.Mirrors R Q s'.tearDown where
  world := by
    have unbound := rebinds.unbind_all m.world s.functions
    have removed := rebinds.remove_helpers unbound
    unfold Session.tearDown
    rw [m.functions]
    exact removed
  report := m.report
  shared := rfl
  functions := rfl
  journal := m.journal
  pauses := m.pauses
  leaks := m.leaks

end Session.Mirrors

namespace Engine

def playedBy (e : Engine σ) (ev : Evaluator τ) (verbose : Int) (logfile : Bool) (sink : Sink) :
    Engine τ :=
  ⟨ev, { e.options with verbose := verbose, logfile := logfile }, e.config, e.features, sink,
    e.library, e.pause⟩

section Executes

variable {R : World σ → World τ → Prop} {Q : Text → Text → Prop} {e : Engine σ} {ev : Evaluator τ}
  {verbose : Int} {logfile : Bool} {sink : Sink} {s t : Session σ} {s' : Session τ}

theorem asked_for_mirrored (m : s.Mirrors R Q s') (header : Header) :
    (e.askedFor header s).Mirrors R Q
      ((e.playedBy ev verbose logfile sink).askedFor header s') :=
  ⟨m.world, m.report, m.shared, m.functions, congrArg (· ++ _) m.journal, m.pauses, m.leaks⟩

theorem checks_code_mirrored (calls : e.evaluator.Mirrors R ev) (m : s.Mirrors R Q s')
    {code known bug a} (h : e.ChecksCode s code known bug a t) :
    ∃ t', (e.playedBy ev verbose logfile sink).ChecksCode s' code known bug a t' ∧
      t.Mirrors R Q t' := by
  obtain ⟨world', shared', functions', report', journal', pauses', leaks'⟩ := s'
  obtain ⟨world, report, rfl, rfl, rfl, rfl, rfl⟩ := m
  cases h with
  | left run =>
    obtain ⟨w', run, world⟩ := calls.executes world run
    exact ⟨_, .left run, world, report, rfl, rfl, rfl, rfl, rfl⟩
  | passed run clean =>
    obtain ⟨w', run, world⟩ := calls.executes world run
    exact ⟨_, .passed run clean, world, report, rfl, rfl, rfl, rfl, rfl⟩
  | failed run raised classified told =>
    obtain ⟨w', run, world⟩ := calls.executes world run
    obtain ⟨u', told, world⟩ := calls.asks.error_text _ world told
    exact ⟨_, .failed run raised classified told, world, report, rfl, rfl, rfl, rfl, rfl⟩
  | unnamed run raised refused =>
    obtain ⟨w', run, world⟩ := calls.executes world run
    exact ⟨_, .unnamed run raised refused, world, report, rfl, rfl, rfl, rfl, rfl⟩

theorem executes_mirrored (calls : e.evaluator.Mirrors R ev) (m : s.Mirrors R Q s') {c a}
    (h : e.Executes s c a t) :
    ∃ t', (e.playedBy ev verbose logfile sink).Executes s' c a t' ∧ t.Mirrors R Q t' := by
  have related := m
  obtain ⟨world', shared', functions', report', journal', pauses', leaks'⟩ := s'
  obtain ⟨world, report, rfl, rfl, rfl, rfl, rfl⟩ := m
  cases h with
  | demoIdle idle => exact ⟨_, .demoIdle idle, world, report, rfl, rfl, rfl, rfl, rfl⟩
  | demoLeft busy run =>
    obtain ⟨w', run, world⟩ := calls.executes world run
    exact ⟨_, .demoLeft busy run, world, report, rfl, rfl, rfl, rfl, rfl⟩
  | demoFailed busy run raised told =>
    obtain ⟨w', run, world⟩ := calls.executes world run
    obtain ⟨u', told, world⟩ := calls.asks.error_text _ world told
    exact ⟨_, .demoFailed busy run raised told, world, report, rfl, rfl, rfl, rfl, rfl⟩
  | demoShown busy run clean =>
    obtain ⟨w', run, world⟩ := calls.executes world run
    exact ⟨_, .demoShown busy run clean, world, report, rfl, rfl, rfl, rfl, rfl⟩
  | sharedRefused refused =>
    exact ⟨_, .sharedRefused refused, world, report, rfl, rfl, rfl, rfl, rfl⟩
  | sharedEmpty reset blank =>
    exact ⟨_, .sharedEmpty reset blank, world, report, rfl, rfl, rfl, rfl, rfl⟩
  | sharedLeft reset written run =>
    obtain ⟨w', run, world⟩ := calls.executes world run
    exact ⟨_, .sharedLeft reset written run, world, report, rfl, rfl, rfl, rfl, rfl⟩
  | sharedFailed reset written run raised told =>
    obtain ⟨w', run, world⟩ := calls.executes world run
    obtain ⟨u', told, world⟩ := calls.asks.error_text _ world told
    exact ⟨_, .sharedFailed reset written run raised told, world, report, rfl, rfl, rfl, rfl, rfl⟩
  | sharedSet reset written run clean =>
    obtain ⟨w', run, world⟩ := calls.executes world run
    exact ⟨_, .sharedSet reset written run clean, world, report, rfl, rfl, rfl, rfl, rfl⟩
  | functionNameless => exact ⟨_, .functionNameless, world, report, rfl, rfl, rfl, rfl, rfl⟩
  | functionLeft run =>
    obtain ⟨w', run, world⟩ := calls.defines world run
    exact ⟨_, .functionLeft run, world, report, rfl, rfl, rfl, rfl, rfl⟩
  | functionFailed run raised told =>
    obtain ⟨w', run, world⟩ := calls.defines world run
    obtain ⟨u', told, world⟩ := calls.asks.error_text _ world told
    exact ⟨_, .functionFailed run raised told, world, report, rfl, rfl, rfl, rfl, rfl⟩
  | functionDefined run clean =>
    obtain ⟨w', run, world⟩ := calls.defines world run
    exact ⟨_, .functionDefined run clean, world, report, rfl, rfl, rfl, rfl, rfl⟩
  | functionEnd => exact ⟨_, .functionEnd, world, report, rfl, rfl, rfl, rfl, rfl⟩
  | comment => exact ⟨_, .comment, world, report, rfl, rfl, rfl, rfl, rfl⟩
  | expectLeft run =>
    obtain ⟨w', run, world⟩ := calls.executes world run
    exact ⟨_, .expectLeft run, world, report, rfl, rfl, rfl, rfl, rfl⟩
  | @expectJudged kind target code result w a u run judged =>
    obtain ⟨w', run, world⟩ := calls.executes world run
    have judges : World.Follow R (e.judge kind target result)
        ((e.playedBy ev verbose logfile sink).judge kind target result) :=
      judge_follows (by rfl) calls.asks kind target result
    obtain ⟨u', judged, world⟩ := judges world judged
    exact ⟨_, .expectJudged run judged, world, report, rfl, rfl, rfl, rfl, rfl⟩
  | check run =>
    obtain ⟨t', run, mirrored⟩ := checks_code_mirrored calls related run
    exact ⟨t', .check run, mirrored⟩
  | guardMalformed => exact ⟨_, .guardMalformed, world, report, rfl, rfl, rfl, rfl, rfl⟩
  | guardMissing missing =>
    exact ⟨_, .guardMissing missing, world, report, rfl, rfl, rfl, rfl, rfl⟩
  | @guardOpen header code a t available free run =>
    obtain ⟨t', run, mirrored⟩ :=
      checks_code_mirrored calls (asked_for_mirrored related header) run
    exact ⟨t', .guardOpen available free run, mirrored⟩
  | guardLeft available bound asked =>
    obtain ⟨w', asked, world⟩ := calls.evaluates world asked
    exact ⟨_, .guardLeft available bound asked, world, report, rfl, rfl, rfl, rfl, rfl⟩
  | guardRaised available bound asked told =>
    obtain ⟨w', asked, world⟩ := calls.evaluates world asked
    obtain ⟨u', told, world⟩ := calls.asks _ _ world told
    exact ⟨_, .guardRaised available bound asked told, world, report, rfl, rfl, rfl, rfl, rfl⟩
  | guardUndecided available bound asked holds =>
    obtain ⟨w', asked, world⟩ := calls.evaluates world asked
    obtain ⟨u', holds, world⟩ := calls.asks _ _ world holds
    exact ⟨_, .guardUndecided available bound asked holds, world, report, rfl, rfl, rfl, rfl, rfl⟩
  | guardClosed available bound asked holds =>
    obtain ⟨w', asked, world⟩ := calls.evaluates world asked
    obtain ⟨u', holds, world⟩ := calls.asks _ _ world holds
    exact ⟨_, .guardClosed available bound asked holds, world, report, rfl, rfl, rfl, rfl, rfl⟩
  | @guardPassed header code value w u a t available bound asked holds run =>
    obtain ⟨w', asked, world⟩ := calls.evaluates world asked
    obtain ⟨u', holds, world⟩ := calls.asks _ _ world holds
    obtain ⟨t', run, mirrored⟩ :=
      checks_code_mirrored calls ((asked_for_mirrored related header).within world) run
    exact ⟨t', .guardPassed available bound asked holds run, mirrored⟩
  | unknown => exact ⟨_, .unknown, world, report, rfl, rfl, rfl, rfl, rfl⟩

end Executes

theorem emit_report_mirrored {R : World σ → World τ → Prop} {Q : Text → Text → Prop}
    {e : Engine σ} {e' : Engine τ} (asks : e.evaluator.AnsweredAlike R e'.evaluator)
    {r : BlockReport} (describes : ∀ shared, e'.describes r shared = e.describes r shared)
    (emits : ∀ {s : Session σ} {s' : Session τ}, s.Mirrors R Q s' → ∀ t,
      (s.emit e.sink t).Mirrors R Q (s'.emit e'.sink t))
    {s t : Session σ} {s' : Session τ} {a} (shared : s'.shared = s.shared)
    (told : (e.tell r s).Mirrors R Q (e'.tell r s')) (h : e.emitReport r s = (a, t)) :
    ∃ t', e'.emitReport r s' = (a, t') ∧ t.Mirrors R Q t' := by
  have same (shared : Shared) {long} (h : e.describes r shared = long) :
      e'.describes r shared = long := (describes shared).trans h
  cases reports_iff.mpr h with
  | plain short => exact ⟨_, reports_iff.mp (.plain (shared ▸ same _ short)), told⟩
  | left long described =>
    obtain ⟨w', described, world⟩ := asks.describe _ told.world described
    rw [← shared] at described
    exact ⟨_, reports_iff.mp (.left (shared ▸ same _ long) described), told.within world⟩
  | described long described =>
    obtain ⟨w', described, world⟩ := asks.describe _ told.world described
    rw [← shared] at described
    exact ⟨_, reports_iff.mp (.described (shared ▸ same _ long) described),
      emits (told.within world) _⟩

/-- The engines differ in their evaluators, which answer alike, and in what they show. It makes no
difference in the states that satisfy `D`. -/
structure Mirrors (R : World σ → World τ → Prop) (Q : Text → Text → Prop) (D : Session σ → Prop)
    (e : Engine σ) (e' : Engine τ) : Prop where
  played : e' = e.playedBy e'.evaluator e'.options.verbose e'.options.logfile e'.sink
  calls : e.evaluator.Mirrors R e'.evaluator
  rebinds : World.Rebinds R
  announces : ∀ {s s'}, s.Mirrors R Q s' → ∀ b,
    (e.announced b s).Mirrors R Q (e'.announced b s')
  tells : ∀ {s s' t r a}, s.Mirrors R Q s' → e.emitReport r s = (a, t) → (a = .ok () → D t) →
    ∃ t', e'.emitReport r s' = (a, t') ∧ t.Mirrors R Q t'

/-- The runs have the same reports and end in the same way, and their states are related. -/
structure Steps.Mirrors (R : World σ → World τ → Prop) (Q : Text → Text → Prop) (r : Steps σ)
    (r' : Steps τ) : Prop where
  done : List.Forall₂ (fun x x' => x'.1 = x.1 ∧ Session.Mirrors R Q x.2 x'.2) r.done r'.done
  escape : r'.escape = r.escape
  last : r.last.Mirrors R Q r'.last

namespace Steps.Mirrors

variable {R : World σ → World τ → Prop} {Q : Text → Text → Prop} {r : Steps σ} {r' : Steps τ}

theorem map_eq (m : r.Mirrors R Q r') {α : Type} {f : BlockReport × Session σ → α}
    {f' : BlockReport × Session τ → α}
    (same : ∀ x x', x'.1 = x.1 → Session.Mirrors R Q x.2 x'.2 → f' x' = f x) :
    r'.done.map f' = r.done.map f := by
  have all {done : List (BlockReport × Session σ)} {done' : List (BlockReport × Session τ)}
      (each : List.Forall₂ (fun x x' => x'.1 = x.1 ∧ Session.Mirrors R Q x.2 x'.2) done done') :
      done'.map f' = done.map f := by
    induction each with
    | nil => rfl
    | cons first rest ih => rw [List.map_cons, List.map_cons, same _ _ first.1 first.2, ih]
  exact all m.done

theorem reports (m : r.Mirrors R Q r') : r'.reports = r.reports :=
  m.map_eq fun _ _ report _ => report

theorem result? (m : r.Mirrors R Q r') : r'.result? = r.result? := by
  unfold Steps.result? Steps.outcomes
  rw [m.escape, m.reports]

theorem halted (m : r.Mirrors R Q r') : r'.halted = r.halted := by
  unfold Steps.halted
  rw [m.reports]

end Steps.Mirrors

section Runs

variable {R : World σ → World τ → Prop} {Q : Text → Text → Prop} {D : Session σ → Prop}
  {e : Engine σ} {e' : Engine τ} {s : Session σ} {s' : Session τ}

theorem Mirrors.batch (same : e.Mirrors R Q D e') : e'.options.batch = e.options.batch := by
  rw [same.played]
  rfl

theorem Mirrors.executes (same : e.Mirrors R Q D e') (m : s.Mirrors R Q s') {t c a}
    (h : e.Executes s c a t) : ∃ t', e'.Executes s' c a t' ∧ t.Mirrors R Q t' := by
  rw [same.played]
  exact executes_mirrored same.calls m h

theorem Mirrors.step (same : e.Mirrors R Q D e') (m : s.Mirrors R Q s') (b : Block)
    (fine : ∀ r t, e.step b s = (.ok r, t) → D t) :
    (e'.step b s').1 = (e.step b s).1 ∧ (e.step b s).2.Mirrors R Q (e'.step b s').2 := by
  have announced := same.announces m b
  rcases stepped : e.step b s with ⟨escape | r, t⟩
  · rcases step_error_iff.mp stepped with left | ⟨verdict, u, executed, left⟩
    · obtain ⟨t', executed, mirrored⟩ := same.executes announced left
      rw [step_error_iff.mpr (.inl executed)]
      exact ⟨rfl, mirrored⟩
    · obtain ⟨u', executed, mirrored⟩ := same.executes announced executed
      obtain ⟨t', left, mirrored⟩ := same.tells mirrored left nofun
      rw [reportOf, ← same.batch] at left
      rw [step_error_iff.mpr (.inr ⟨verdict, u', executed, left⟩)]
      exact ⟨rfl, mirrored⟩
  · obtain ⟨verdict, u, executed, rfl, told⟩ := step_ok_iff.mp stepped
    obtain ⟨u', executed, mirrored⟩ := same.executes announced executed
    obtain ⟨t', told, mirrored⟩ := same.tells mirrored told fun _ => fine _ _ stepped
    have report : e.reportOf b verdict = e'.reportOf b verdict := by
      rw [reportOf, reportOf, same.batch]
    rw [step_ok_iff.mpr ⟨verdict, u', executed, report, told⟩]
    exact ⟨rfl, mirrored⟩

theorem Mirrors.steps (same : e.Mirrors R Q D e') (m : s.Mirrors R Q s') (file : Text)
    (blocks : List Block) (fine : ∀ step ∈ (e.steps file blocks s).done, D step.2) :
    (e.steps file blocks s).Mirrors R Q (e'.steps file blocks s') := by
  induction blocks generalizing s s' with
  | nil => exact ⟨.nil, rfl, m⟩
  | cons b rest ih =>
    have here : ∀ r t, e.step b s = (.ok r, t) → D t := by
      intro r t stepped
      refine fine (r, t) ?_
      unfold Engine.steps
      cases goes : r.halted <;> simp [stepped, goes]
    obtain ⟨answer, after⟩ := same.step m b here
    unfold Engine.steps at fine ⊢
    rcases stepped : e.step b s with ⟨escape | r, t⟩
    all_goals
      rcases stepped' : e'.step b s' with ⟨answer', t'⟩
      rw [stepped, stepped'] at answer after
      cases answer
    · exact ⟨.nil, rfl, after⟩
    · cases goes : r.halted with
      | true =>
        simp only [goes, if_true]
        exact ⟨.cons ⟨rfl, after⟩ .nil, rfl, after.log _ _ _⟩
      | false =>
        have later := ih after fun step member =>
          fine step (by simpa [stepped, goes] using .inr member)
        simp only [goes, Bool.false_eq_true, if_false]
        exact ⟨.cons ⟨rfl, after⟩ later.done, later.escape, later.last⟩

theorem Mirrors.check_leaks (same : e.Mirrors R Q D e') (m : s.Mirrors R Q s') (file : Text)
    (before : LeakSnapshot) :
    (e.checkLeaks file before s).Mirrors R Q (e'.checkLeaks file before s') := by
  unfold checkLeaks
  rw [same.calls.surroundings m.world]
  dsimp only
  generalize (LeakReport.between before _).messages file = messages
  induction messages generalizing s s' with
  | nil => exact m
  | cons message rest ih =>
    have warned := m.log .warning .leaks message
    exact ih { warned with leaks := congrArg (· ++ [message]) m.leaks }

/-- Engines that mirror each other make runs that mirror each other. -/
theorem Mirrors.run (same : e.Mirrors R Q D e') (m : s.Mirrors R Q s') (file : Text)
    (blocks : List Block) (fine : ∀ step ∈ (e.run file blocks s).done, D step.2) :
    (e.run file blocks s).Mirrors R Q (e'.run file blocks s') := by
  have begun : s.begun.Mirrors R Q s'.begun := m.within (same.rebinds.install_helpers m.world)
  have ran := same.steps begun file blocks fine
  rw [run_eq, run_eq, same.calls.surroundings m.world]
  exact ⟨ran.done, ran.escape, same.check_leaks (ran.last.tear_down same.rebinds) file _⟩

end Runs

end Engine
end EmbeddedTests
