import EmbeddedTests.Proofs.Shown

/-!
# What is shown changes nothing

Runs that differ only in how much they show, and where, take the same steps, as long as the shared
variables that are described have an answer that changes nothing: an evaluator that does not see the
console cannot tell them apart.
-/
namespace EmbeddedTests

open Text

variable {σ : Type}

/-- The worlds differ in nothing but what was printed. -/
structure World.Agrees (w w' : World σ) : Prop where
  base : w'.base = w.base
  helpers : w'.helpers = w.helpers
  state : w'.state = w.state

/-- The states differ in nothing but what was shown. -/
abbrev Session.Agrees (s s' : Session σ) : Prop := s.Mirrors World.Agrees (fun _ _ => True) s'

/-- The runs differ in nothing but what they showed. -/
abbrev Engine.Steps.Agrees (r r' : Steps σ) : Prop := r.Mirrors World.Agrees (fun _ _ => True) r'

/-- What was printed makes no difference to the evaluator. -/
abbrev Evaluator.Unseeing (ev : Evaluator σ) : Prop := ev.Mirrors World.Agrees ev

namespace World.Agrees

variable {w w' w'' : World σ}

theorem refl (w : World σ) : w.Agrees w := ⟨rfl, rfl, rfl⟩

theorem symm (h : w.Agrees w') : w'.Agrees w := ⟨h.base.symm, h.helpers.symm, h.state.symm⟩

theorem trans (h : w.Agrees w') (k : w'.Agrees w'') : w.Agrees w'' :=
  ⟨k.base.trans h.base, k.helpers.trans h.helpers, k.state.trans h.state⟩

theorem rebinds : World.Rebinds (Agrees (σ := σ)) where
  base h := h.base
  helpers h := h.helpers
  change h _ _ := ⟨rfl, rfl, h.state⟩

theorem bind (h : w.Agrees w') (name : Text) (v : Value) :
    (w.bind name v).Agrees (w'.bind name v) :=
  ⟨by rw [World.bind, World.bind, h.base], h.helpers, h.state⟩

end World.Agrees

def World.Unseen {α : Type} (f : World σ → α × World σ) : Prop :=
  ∀ ⦃w w'⦄, w.Agrees w' → (f w').1 = (f w).1 ∧ (f w).2.Agrees (f w').2

theorem World.Unseen.answers {α : Type} {f : World σ → α × World σ} (h : Unseen f)
    {w w' u : World σ} {a : α} (agrees : w.Agrees w') (run : f w = (a, u)) :
    ∃ u', f w' = (a, u') ∧ u.Agrees u' := by
  obtain ⟨answer, after⟩ := h agrees
  rw [run] at answer after
  exact ⟨(f w').2, Prod.ext answer rfl, after⟩

theorem Evaluator.Unseeing.of_unseen {ev : Evaluator σ}
    (executes : ∀ code bindings record, World.Unseen (ev.execute code bindings record))
    (evaluates : ∀ expr bindings, World.Unseen (ev.evaluate expr bindings))
    (defines : ∀ name source, World.Unseen (ev.define name source))
    (asks : ∀ q v, World.Unseen (ev.ask q v))
    (surroundings : ∀ {w w'}, w.Agrees w' → ev.surroundings w' = ev.surroundings w) :
    ev.Unseeing where
  executes agrees run := (executes _ _ _).answers agrees run
  evaluates agrees asked := (evaluates _ _).answers agrees asked
  defines agrees run := (defines _ _).answers agrees run
  asks q v _ _ _ _ agrees asked := (asks q v).answers agrees asked
  surroundings := surroundings

namespace Session.Agrees

variable {s t u : Session σ}

theorem refl (s : Session σ) : s.Agrees s := ⟨.refl _, trivial, rfl, rfl, rfl, rfl, rfl⟩

theorem symm (h : s.Agrees t) : t.Agrees s :=
  ⟨h.world.symm, trivial, h.shared.symm, h.functions.symm, h.journal.symm, h.pauses.symm,
    h.leaks.symm⟩

theorem trans (h : s.Agrees t) (k : t.Agrees u) : s.Agrees u :=
  ⟨h.world.trans k.world, trivial, k.shared.trans h.shared, k.functions.trans h.functions,
    k.journal.trans h.journal, k.pauses.trans h.pauses, k.leaks.trans h.leaks⟩

theorem of_alike (h : s.Alike t) (journal : t.journal = s.journal) : s.Agrees t :=
  ⟨⟨h.base, h.helpers, h.state⟩, trivial, h.shared, h.functions, journal, h.pauses, h.leaks⟩

theorem emit (sink : Sink) (t : Text) (s : Session σ) : s.Agrees (s.emit sink t) :=
  of_alike (emit_alike sink t s) (by cases sink <;> rfl)

end Session.Agrees

namespace Engine

/-- The runs come to the same: the same reports of the same steps, and the same state at the end, as
far as it is not what was shown. -/
structure Steps.SameOutcome (r r' : Steps σ) : Prop where
  reports : r'.reports = r.reports
  halted : r'.halted = r.halted
  counters : r'.result? = r.result?
  escape : r'.escape = r.escape
  calls : r'.last.world.state = r.last.world.state
  names : r'.last.world.base = r.last.world.base
  shared : r'.last.shared = r.last.shared
  sharedAfter : r'.done.map (·.2.shared) = r.done.map (·.2.shared)
  namesAfter : r'.done.map (·.2.world.base) = r.done.map (·.2.world.base)
  pauses : r'.last.pauses = r.last.pauses
  leaks : r'.last.leaks = r.last.leaks
  journal : r'.last.journal = r.last.journal

theorem Steps.Agrees.same_outcome {r r' : Steps σ} (h : r.Agrees r') : r.SameOutcome r' where
  reports := h.reports
  halted := h.halted
  counters := h.result?
  escape := h.escape
  calls := h.last.world.state
  names := h.last.world.base
  shared := h.last.shared
  sharedAfter := h.map_eq fun _ _ _ m => m.shared
  namesAfter := h.map_eq fun _ _ _ m => m.world.base
  pauses := h.last.pauses
  leaks := h.last.leaks
  journal := h.last.journal

namespace Steps.SameOutcome

variable {r r' r'' : Steps σ}

theorem symm (h : r.SameOutcome r') : r'.SameOutcome r where
  reports := h.reports.symm
  halted := h.halted.symm
  counters := h.counters.symm
  escape := h.escape.symm
  calls := h.calls.symm
  names := h.names.symm
  shared := h.shared.symm
  sharedAfter := h.sharedAfter.symm
  namesAfter := h.namesAfter.symm
  pauses := h.pauses.symm
  leaks := h.leaks.symm
  journal := h.journal.symm

theorem trans (h : r.SameOutcome r') (k : r'.SameOutcome r'') : r.SameOutcome r'' where
  reports := k.reports.trans h.reports
  halted := k.halted.trans h.halted
  counters := k.counters.trans h.counters
  escape := k.escape.trans h.escape
  calls := k.calls.trans h.calls
  names := k.names.trans h.names
  shared := k.shared.trans h.shared
  sharedAfter := k.sharedAfter.trans h.sharedAfter
  namesAfter := k.namesAfter.trans h.namesAfter
  pauses := k.pauses.trans h.pauses
  leaks := k.leaks.trans h.leaks
  journal := k.journal.trans h.journal

end Steps.SameOutcome

variable {e : Engine σ}

def presented (e : Engine σ) (verbose : Int) (logfile : Bool) (sink : Sink) : Engine σ :=
  e.playedBy e.evaluator verbose logfile sink

theorem announced_agrees (e : Engine σ) (b : Block) (s : Session σ) :
    (s.log .debug .engine ("running " ++ b.kind.name ++ " block")).Agrees (e.announced b s) := by
  unfold announced
  split
  · exact (Session.Agrees.emit _ _ s).log _ _ _
  · exact Session.Agrees.refl _

theorem tell_agrees (e : Engine σ) (r : BlockReport) (s : Session σ) : s.Agrees (e.tell r s) := by
  refine Session.Agrees.of_alike (e.tell_alike r s) ?_
  have emitted (t : Text) (u : Session σ) : (u.emit e.sink t).journal = u.journal :=
    (Session.Agrees.emit e.sink t u).journal
  unfold tell echo
  dsimp only
  repeat' split
  all_goals simp only [emitted]

def unshown (e : Engine σ) : Engine σ := e.presented (-1) false e.sink

theorem unshown_emit_report (e : Engine σ) (r : BlockReport) (s : Session σ) :
    e.unshown.emitReport r s = (.ok (), s) := by
  have untold : e.unshown.tells r = false := by simp [unshown, presented, playedBy, tells]
  simp [emitReport, tell, describes, untold]

end Engine

/-- In every world like that of the state, each shared variable can be described, and that changes
nothing but what was printed. -/
def Evaluator.Describes (ev : Evaluator σ) (s : Session σ) : Prop :=
  ∀ entry ∈ s.shared, ∀ w, s.world.Agrees w →
    ∃ written u, ev.ask .written entry.2 w = (.ok written, u) ∧ w.Agrees u

theorem Evaluator.Describes.lines {ev : Evaluator σ} {s : Session σ} (describes : ev.Describes s)
    {w : World σ} (agrees : s.world.Agrees w) :
    ∃ lines u, Shared.describe ev s.shared w = (.ok lines, u) ∧ w.Agrees u := by
  unfold Describes at describes
  generalize s.shared = shared at describes
  induction shared generalizing w with
  | nil => exact ⟨[], w, rfl, .refl w⟩
  | cons entry rest ih =>
    obtain ⟨name, v⟩ := entry
    obtain ⟨written, u, asked, first⟩ := describes (name, v) List.mem_cons_self w agrees
    obtain ⟨lines, t, described, later⟩ :=
      ih (agrees.trans first) fun entry member => describes entry (List.mem_cons_of_mem _ member)
    exact ⟨_, t, by simp only [Shared.describe, goOn, asked, described]; rfl, first.trans later⟩

namespace Engine

variable {e : Engine σ}

/-- After each completed step of the run that shows nothing, the shared variables can be described
without a trace. -/
def DescribesAlong (e : Engine σ) (file : Text) (blocks : List Block) (s : Session σ) : Prop :=
  ∀ step ∈ (e.unshown.run file blocks s).done, e.evaluator.Describes step.2

theorem presented_mirrors (unseeing : e.evaluator.Unseeing) (verbose : Int) (logfile : Bool)
    (sink : Sink) :
    e.unshown.Mirrors World.Agrees (fun _ _ => True) e.evaluator.Describes
      (e.presented verbose logfile sink) where
  played := rfl
  calls := unseeing
  rebinds := World.Agrees.rebinds
  announces {s s'} m b := by
    have logged := m.log .debug .engine ("running " ++ b.kind.name ++ " block")
    exact ((announced_agrees _ b s).symm.trans logged).trans (announced_agrees _ b s')
  tells {s s' t r a} m told fine := by
    rw [unshown_emit_report] at told
    cases told
    have shown : s.Agrees ((e.presented verbose logfile sink).tell r s') :=
      Session.Agrees.trans m (tell_agrees _ r s')
    cases long : (e.presented verbose logfile sink).describes r s'.shared with
    | false => exact ⟨_, reports_iff.mp (.plain long), shown⟩
    | true =>
      obtain ⟨lines, u, described, later⟩ := (fine rfl).lines shown.world
      rw [← m.shared] at described
      refine ⟨_, reports_iff.mp (.described long described), ?_⟩
      have told : s.Agrees { (e.presented verbose logfile sink).tell r s' with world := u } :=
        ⟨shown.world.trans later, trivial, shown.shared, shown.functions, shown.journal,
          shown.pauses, shown.leaks⟩
      exact told.trans (.emit _ _ _)

/-- However a run is shown, it agrees with the one that shows nothing, as long as what is described
has an answer without a trace. -/
theorem run_presented (unseeing : e.evaluator.Unseeing) {s s' : Session σ} (m : s.Agrees s')
    {file : Text} {blocks : List Block} (described : e.DescribesAlong file blocks s)
    (verbose : Int) (logfile : Bool) (sink : Sink) :
    (e.unshown.run file blocks s).Agrees ((e.presented verbose logfile sink).run file blocks s') :=
  (presented_mirrors unseeing verbose logfile sink).run m file blocks described

end Engine

namespace Script

variable (script : Script) {w w' : World Calls}

theorem note_agrees (h : w.Agrees w') (call : ScriptCall) : (note w call).Agrees (note w' call) :=
  ⟨h.base, h.helpers, congrArg (· ++ [call]) h.state⟩

theorem bind_globals_agrees (h : w.Agrees w') (a : Action) :
    (bindGlobals w a).Agrees (bindGlobals w' a) :=
  ⟨congrArg (Bindings.merge · a.globals) h.base, h.helpers, h.state⟩

theorem execute_unseen (code : Text) (bindings : Bindings) (record : Bool) :
    World.Unseen (execute script code bindings record) := by
  intro w w' agrees
  have noted := note_agrees agrees (.execute code bindings record)
  have bound := bind_globals_agrees noted (script code)
  unfold execute
  dsimp only
  split
  · exact ⟨rfl, noted⟩
  split <;> exact ⟨rfl, bound⟩

theorem evaluate_unseen (expr : Text) (bindings : Bindings) :
    World.Unseen (evaluate script expr bindings) := by
  intro w w' agrees
  have noted := note_agrees agrees (.evaluate expr bindings)
  have bound := bind_globals_agrees noted (script expr)
  unfold evaluate
  dsimp only
  split
  · exact ⟨rfl, noted⟩
  cases (script expr).error <;> exact ⟨rfl, bound⟩

theorem define_unseen (name source : Text) : World.Unseen (define script name source) := by
  intro w w' agrees
  have noted := note_agrees agrees (.define name source)
  have bound := bind_globals_agrees noted (script source)
  unfold define
  dsimp only
  split
  · exact ⟨rfl, noted⟩
  split
  · exact ⟨rfl, bound⟩
  · exact ⟨rfl, bound.bind name .none⟩

theorem unseeing : (evaluator script).Unseeing := by
  unfold evaluator
  refine .of_unseen (execute_unseen script) (evaluate_unseen script) (define_unseen script)
    (fun q v w w' agrees => ⟨rfl, agrees⟩) ?_
  intro w w' agrees
  unfold Evaluator.surroundings World.names
  rw [agrees.base]

end Script

end EmbeddedTests
