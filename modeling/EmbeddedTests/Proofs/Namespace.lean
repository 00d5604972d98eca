import EmbeddedTests.Proofs.Effects
import EmbeddedTests.Proofs.Sorting
import EmbeddedTests.Script

/-!
# The base namespace after a run

However a run ends, it unbinds the functions that its blocks defined and the helpers that were
installed, and leaves every other name bound. What code has bound besides stays, and is reported as
leaked. A function that goes by a name of the file takes that name away with it.
-/
namespace EmbeddedTests

variable {σ : Type}

namespace Bindings

@[simp] theorem has_iff {b : Bindings} {name : Text} : b.has name = true ↔ name ∈ b.names := by
  simp [has, names]

theorem names_put_bound {b : Bindings} {added : Text} (v : Value) (bound : b.has added = true) :
    (b.put added v).names = b.names := by
  rw [put, if_pos bound, names, names, List.map_map]
  apply List.map_congr_left
  intro entry _
  by_cases h : entry.1 = added
  · simp [h]
  · simp [h]

@[simp] theorem mem_names_put {b : Bindings} {added name : Text} {v : Value} :
    name ∈ (b.put added v).names ↔ name ∈ b.names ∨ name = added := by
  by_cases bound : b.has added = true
  · rw [names_put_bound v bound]
    constructor
    · exact Or.inl
    · rintro (h | rfl)
      · exact h
      · exact has_iff.mp bound
  · simp [put, bound, names]

@[simp] theorem mem_names_erase {b : Bindings} {erased name : Text} :
    name ∈ (b.erase erased).names ↔ name ∈ b.names ∧ name ≠ erased := by
  simp only [erase, names, List.mem_map, List.mem_filter, bne_iff_ne]
  constructor
  · rintro ⟨entry, ⟨member, other⟩, rfl⟩
    exact ⟨⟨entry, member, rfl⟩, other⟩
  · rintro ⟨⟨entry, member, rfl⟩, other⟩
    exact ⟨entry, ⟨member, other⟩, rfl⟩

@[simp] theorem mem_names_merge {b added : Bindings} {name : Text} :
    name ∈ (b.merge added).names ↔ name ∈ b.names ∨ name ∈ added.names := by
  induction added generalizing b with
  | nil => simp [merge, names]
  | cons entry rest ih =>
    change name ∈ ((b.put entry.1 entry.2).merge rest).names ↔ _
    rw [ih, mem_names_put, or_assoc]
    simp [names]

end Bindings

namespace World

theorem mem_names_unbind_all {w : World σ} {unbound : List Text} {name : Text} :
    name ∈ (unbound.foldl unbind w).names ↔ name ∈ w.names ∧ name ∉ unbound := by
  induction unbound generalizing w with
  | nil => simp
  | cons first rest ih =>
    have one : name ∈ (w.unbind first).names ↔ name ∈ w.names ∧ name ≠ first :=
      Bindings.mem_names_erase
    rw [List.foldl_cons, ih, one, List.mem_cons, not_or, and_assoc]

theorem unbind_all_helpers (w : World σ) (unbound : List Text) :
    (unbound.foldl unbind w).helpers = w.helpers := by
  induction unbound generalizing w with
  | nil => rfl
  | cons name rest ih => exact ih (w.unbind name)

theorem mem_names_remove_helpers {w : World σ} {name : Text} :
    name ∈ w.removeHelpers.names ↔ name ∈ w.names ∧ name ∉ w.helpers :=
  mem_names_unbind_all

/-- The helpers that are installed: those whose names are free. -/
def freeHelpers (w : World σ) : List Text :=
  (helperFunctions.map Builtin.name).filter fun name => name ∉ w.names

theorem install_helper (w : World σ) (b : Builtin) (name : Text) :
    (name ∈ (w.installHelper b).names ↔ name ∈ w.names ∨ name = b.name) ∧
      (name ∈ (w.installHelper b).helpers ↔
        name ∈ w.helpers ∨ name = b.name ∧ name ∉ w.names) := by
  by_cases bound : b.name ∈ w.names
  · have kept : w.installHelper b = w := if_pos (Bindings.has_iff.mpr bound)
    rw [kept]
    refine ⟨⟨Or.inl, ?_⟩, ⟨Or.inl, ?_⟩⟩
    · rintro (h | rfl)
      · exact h
      · exact bound
    · rintro (h | ⟨rfl, free⟩)
      · exact h
      · exact absurd bound free
  · have added : w.installHelper b =
        { w.bind b.name (.builtin b) with helpers := w.helpers ++ [b.name] } :=
      if_neg fun h => bound (Bindings.has_iff.mp h)
    rw [added]
    refine ⟨Bindings.mem_names_put, ?_⟩
    simp only [List.mem_append, List.mem_singleton]
    constructor
    · rintro (h | rfl)
      · exact .inl h
      · exact .inr ⟨rfl, bound⟩
    · rintro (h | ⟨rfl, _⟩)
      · exact .inl h
      · exact .inr rfl

theorem install_helpers {w : World σ} {name : Text} :
    (name ∈ w.installHelpers.names ↔ name ∈ w.names ∨ name ∈ w.freeHelpers) ∧
      (name ∈ w.installHelpers.helpers ↔ name ∈ w.helpers ∨ name ∈ w.freeHelpers) := by
  simp only [freeHelpers, installHelpers, List.mem_filter, decide_eq_true_eq]
  generalize helperFunctions = helpers
  induction helpers generalizing w with
  | nil => simp
  | cons b rest ih =>
    obtain ⟨names, installed⟩ := ih (w := w.installHelper b)
    obtain ⟨bound, queued⟩ := install_helper w b name
    rw [List.foldl_cons, names, installed, bound, queued, List.map_cons, List.mem_cons]
    by_cases h : name = b.name
    · subst h
      by_cases here : b.name ∈ w.names <;> simp [here]
    · simp [h]

end World

/-- Nothing is to be unbound yet: no run has started, or every run has come to its end. -/
structure Session.Fresh (s : Session σ) : Prop where
  functions : s.functions = []
  helpers : s.world.helpers = []

theorem mem_names_tear_down {s : Session σ} {name : Text} :
    name ∈ s.tearDown.world.names ↔
      name ∈ s.world.names ∧ name ∉ s.functions ∧ name ∉ s.world.helpers := by
  unfold Session.tearDown
  rw [World.mem_names_remove_helpers, World.mem_names_unbind_all, World.unbind_all_helpers,
    and_assoc]

/-- Names are only bound, and the helpers stay those that are to be unbound. -/
structure World.Grows (w : World σ) (_ : List Text) (u : World σ) : Prop where
  helpers : u.helpers = w.helpers
  names : ∀ name ∈ w.names, name ∈ u.names

theorem World.grows_composes : Effect.Composes (World.Grows (σ := σ)) where
  idle base helpers _ := ⟨helpers, fun name bound => by rwa [World.names, base]⟩
  next h k := ⟨k.helpers.trans h.helpers, fun name bound => k.names name (h.names name bound)⟩

/-- Names are only bound: functions by their definitions, all others by being merged. The state
lists the names that were merged so far. -/
structure World.Merges (merged : σ → List Text) (w : World σ) (defined : List Text) (u : World σ) :
    Prop where
  helpers : u.helpers = w.helpers
  names : ∃ added, merged u.state = merged w.state ++ added ∧
    ∀ name, name ∈ u.names ↔ name ∈ w.names ∨ name ∈ added ∨ name ∈ defined

theorem World.merges_composes (merged : σ → List Text) :
    Effect.Composes (World.Merges merged) where
  idle base helpers state := by
    refine ⟨helpers, [], by rw [state, List.append_nil], ?_⟩
    intro name
    simp [World.names, base]
  next := by
    rintro w u v first later ⟨helpers, added, noted, names⟩ ⟨helpers', added', noted', names'⟩
    refine ⟨helpers'.trans helpers, added ++ added', ?_, ?_⟩
    · rw [noted', noted, List.append_assoc]
    · intro name
      rw [names', names, List.mem_append, List.mem_append]
      tauto

theorem World.Merges.grows {merged : σ → List Text} {w u : World σ} {defined : List Text}
    (h : World.Merges merged w defined u) : World.Grows w defined u := by
  obtain ⟨helpers, added, _, names⟩ := h
  exact ⟨helpers, fun name bound => (names name).mpr (.inl bound)⟩

theorem World.Merges.bind {merged : σ → List Text} {w u : World σ} {defined : List Text}
    (h : World.Merges merged w defined u) (name : Text) (v : Value) :
    World.Merges merged w (defined ++ [name]) (u.bind name v) := by
  obtain ⟨helpers, added, noted, names⟩ := h
  refine ⟨helpers, added, noted, ?_⟩
  intro other
  have put : other ∈ (u.bind name v).names ↔ other ∈ u.names ∨ other = name :=
    Bindings.mem_names_put
  rw [put, names, List.mem_append, List.mem_singleton, or_assoc, or_assoc]

/-- The code, expression or definition that a call is about. -/
def ScriptCall.code : ScriptCall → Text
  | .execute code .. => code
  | .evaluate expr _ => expr
  | .define _ source => source

namespace Script

/-- The names that a call merges; an interrupted call does nothing. -/
def mergedBy (script : Script) (call : ScriptCall) : List Text :=
  let a := script call.code
  if a.interrupt then [] else a.globals.names

def merged (script : Script) (calls : Calls) : List Text := calls.flatMap script.mergedBy

theorem merges (script : Script) : (evaluator script).Has (World.Merges script.merged) := by
  -- Every call is written down first; then it is interrupted, or merges its names.
  have interrupted (w : World Calls) (call : ScriptCall) (code : Text) (is : call.code = code)
      (stop : (script code).interrupt = true) : World.Merges script.merged w [] (note w call) := by
    subst is
    refine ⟨rfl, [], ?_, fun name => by simp [note, World.names]⟩
    simp [note, merged, mergedBy, stop]
  have bound (w : World Calls) (call : ScriptCall) (code : Text) (is : call.code = code)
      (goes : ¬ (script code).interrupt = true) :
      World.Merges script.merged w [] (bindGlobals (note w call) (script code)) := by
    subst is
    refine ⟨rfl, (script call.code).globals.names, ?_, fun name => ?_⟩
    · simp [bindGlobals, note, merged, mergedBy, goes]
    · simp [bindGlobals, note, World.names]
  constructor
  · intro code bindings record w
    by_cases stop : (script code).interrupt = true
    · have stopped := interrupted w (.execute code bindings record) code rfl stop
      simpa [evaluator, execute, stop] using stopped
    · have goes := bound w (.execute code bindings record) code rfl stop
      by_cases compiled : (script code).syntaxError = true
      · simpa [evaluator, execute, stop, compiled] using goes
      · simpa [evaluator, execute, stop, compiled] using goes
  · intro expr bindings w
    by_cases stop : (script expr).interrupt = true
    · have stopped := interrupted w (.evaluate expr bindings) expr rfl stop
      simpa [evaluator, evaluate, stop] using stopped
    · have goes := bound w (.evaluate expr bindings) expr rfl stop
      cases raised : (script expr).error with
      | some e => simpa [evaluator, evaluate, stop, raised] using goes
      | none => simpa [evaluator, evaluate, stop, raised] using goes
  · intro name source w
    by_cases stop : (script source).interrupt = true
    · have stopped := interrupted w (.define name source) source rfl stop
      simpa [evaluator, define, stop, definedBy] using stopped
    · have goes := bound w (.define name source) source rfl stop
      cases raised : (script source).error with
      | some e =>
        simpa [evaluator, define, stop, raised, definedBy, Evaluation.raised] using goes
      | none =>
        simpa [evaluator, define, stop, raised, definedBy, Evaluation.raised] using
          goes.bind name .none
  · intro q v w
    exact (World.merges_composes script.merged).idle rfl rfl rfl

theorem grows (script : Script) : (evaluator script).Has World.Grows :=
  (script.merges).weaken World.Merges.grows

end Script

namespace Engine

variable {e : Engine σ} {effect : Effect σ} {s : Session σ}

/-- A run unbinds what its blocks have defined and the helpers that were free, and nothing else. -/
theorem mem_names_run (composes : effect.Composes) (has : e.evaluator.Has effect)
    (keeps : ∀ w defined u, effect w defined u → u.helpers = w.helpers) (fresh : s.Fresh)
    (file : Text) (blocks : List Block) (name : Text) :
    name ∈ (e.run file blocks s).last.world.names ↔
      name ∈ (e.steps file blocks s.begun).last.world.names ∧
        name ∉ (e.run file blocks s).defined ∧ name ∉ s.world.freeHelpers := by
  have changed := steps_changed composes has file blocks s.begun
  have queued : (e.steps file blocks s.begun).last.functions = (e.run file blocks s).defined := by
    rw [changed.functions]
    exact (congrArg (· ++ _) fresh.functions).trans (List.nil_append _)
  have installed : name ∈ (e.steps file blocks s.begun).last.world.helpers ↔
      name ∈ s.world.freeHelpers := by
    rw [keeps _ _ _ changed.world, Session.begun_world, World.install_helpers.2, fresh.helpers]
    simp
  rw [run_eq, check_leaks_world, mem_names_tear_down, queued, installed]
  rfl

theorem check_leaks_session (file : Text) (before : LeakSnapshot) (s : Session σ) :
    (e.checkLeaks file before s).functions = s.functions ∧
      (e.checkLeaks file before s).shared = s.shared ∧
      (e.checkLeaks file before s).leaks = s.leaks ++
        (LeakReport.between before (e.evaluator.surroundings s.world).snapshot).messages file := by
  rw [check_leaks_eq]
  exact ⟨rfl, rfl, rfl⟩

/-- With an evaluator that only binds names, a name that was bound before a run is still bound
after it, however the run ended, unless a block of the run has defined a function of that name. -/
theorem bound_name_stays_iff_not_defined (adds : e.evaluator.Has World.Grows) (fresh : s.Fresh)
    (file : Text) (blocks : List Block) (name : Text) (bound : name ∈ s.world.names) :
    name ∈ (e.run file blocks s).last.world.names ↔ name ∉ (e.run file blocks s).defined := by
  have kept : name ∈ (e.steps file blocks s.begun).last.world.names :=
    (steps_changed World.grows_composes adds file blocks s.begun).world.names name
      (World.install_helpers.1.mpr (.inl bound))
  have not_free : name ∉ s.world.freeHelpers := by simp [World.freeHelpers, bound]
  rw [mem_names_run World.grows_composes adds (fun _ _ _ h => h.helpers) fresh]
  simp [kept, not_free]

/-- A script that is run interactively, without features. -/
def scripted (script : Script) : Engine Script.Calls :=
  { evaluator := Script.evaluator script, options := {}, config := {}, features := .listed []
    sink := .apart }

/-- Some code binds names, other code is interrupted. -/
def leakingScript : Script := fun code =>
  if code = "leak".toList then
    { globals := [("b", .int 1), ("a", .int 2), ("f", .int 3), ("fail", .none),
        ("__builtins__", .none)] }
  else if code = "stop".toList then { interrupt := true }
  else {}

/-- A file that has bound two names of its own. -/
def boundByFile : Session Script.Calls :=
  { world := { base := [("kept", .int 1), ("g", .int 2)], state := [] } }

def leakingBlocks : List Block :=
  parseBlocks "function f()\n  pass\nfunction g()\n  pass\ntest leak\ntest stop\n"

/-- The run is interrupted after its functions were defined. -/
theorem bound_name_outlives_interruption :
    (scripted leakingScript).evaluator.Has World.Grows ∧ boundByFile.Fresh ∧
      "kept".toList ∈ boundByFile.world.names ∧
      ((scripted leakingScript).run [] leakingBlocks boundByFile).escape =
        some Script.interruption ∧
      "kept".toList ∈ ((scripted leakingScript).run [] leakingBlocks boundByFile).last.world.names :=
  have grows : (scripted leakingScript).evaluator.Has World.Grows := Script.grows _
  have fresh : boundByFile.Fresh := ⟨rfl, rfl⟩
  have kept : "kept".toList ∈ boundByFile.world.names := by decide
  ⟨grows, fresh, kept, rfl,
    (bound_name_stays_iff_not_defined grows fresh _ _ _ kept).mpr (by decide)⟩

/-- A name of the file that a block defines a function by is not bound after the run. -/
theorem function_takes_bound_name_away :
    let e := scripted fun _ => {}
    let s : Session Script.Calls := { world := { base := [("f", .int 1)], state := [] } }
    e.evaluator.Has World.Grows ∧ s.Fresh ∧ "f".toList ∈ s.world.names ∧
      "f".toList ∉ (e.run [] (parseBlocks "function f()\n  pass\n") s).last.world.names :=
  ⟨Script.grows _, ⟨rfl, rfl⟩, by decide, by decide +kernel⟩

/-- What has appeared between two states. -/
def leaksBetween (e : Engine σ) (before after : Session σ) : LeakReport :=
  .between (e.evaluator.surroundings before.world).snapshot
    (e.evaluator.surroundings after.world).snapshot

theorem mem_leaked_names {before after : Session σ} {name : Text} :
    name ∈ (e.leaksBetween before after).names ↔
      name ∈ after.world.names ∧ name ∉ before.world.names ∧ name ∉ sentinels := by
  have listed : name ∈ (e.leaksBetween before after).names ↔
      name ∈ after.world.names ++ sentinels ∧ name ∉ before.world.names ++ sentinels :=
    mem_new_texts
  rw [listed, List.mem_append, List.mem_append]
  tauto

/-- However a run ends, nothing is left to unbind and no variable is shared. Bound is what was
bound before or has been merged, without the functions that blocks defined and without the helpers
whose names were free; and what was merged and is still bound, but was not bound before, is reported
as leaked. -/
theorem namespace_after_run {merged : σ → List Text}
    (merges : e.evaluator.Has (World.Merges merged)) (fresh : s.Fresh) (file : Text)
    (blocks : List Block) :
    let r := e.run file blocks s
    let found := e.leaksBetween s r.last
    r.last.Fresh ∧ r.last.shared = [] ∧
      ∃ added, merged r.last.world.state = merged s.world.state ++ added ∧
        (∀ name, name ∈ r.last.world.names ↔
          (name ∈ s.world.names ∨ name ∈ added) ∧ name ∉ r.defined ∧
            name ∉ s.world.freeHelpers) ∧
        r.last.leaks = s.leaks ++ found.messages file ∧
        found.names.Pairwise (· < ·) ∧
        ∀ name, name ∈ found.names ↔
          name ∈ added ∧ name ∉ s.world.names ∧ name ∉ r.defined ∧
            name ∉ s.world.freeHelpers ∧ name ∉ sentinels := by
  intro r found
  have changed := steps_changed (World.merges_composes merged) merges file blocks s.begun
  obtain ⟨functions, shared, leaks⟩ := check_leaks_session (e := e) file
    (e.evaluator.surroundings s.world).snapshot (e.steps file blocks s.begun).last.tearDown
  have torn : r.last.world = (e.steps file blocks s.begun).last.tearDown.world :=
    check_leaks_world _ _ _ _
  obtain ⟨added, noted, names⟩ := changed.world.names
  -- What the steps leave bound still has the helpers and functions that the teardown unbinds.
  have bound (name : Text) : name ∈ r.last.world.names ↔
      (name ∈ s.world.names ∨ name ∈ added) ∧ name ∉ r.defined ∧ name ∉ s.world.freeHelpers := by
    have at_end : name ∈ (e.steps file blocks s.begun).last.world.names ↔
        (name ∈ s.world.names ∨ name ∈ s.world.freeHelpers) ∨ name ∈ added ∨
          name ∈ r.defined := by
      rw [names, Session.begun_world, World.install_helpers.1]
      rfl
    rw [mem_names_run (World.merges_composes merged) merges (fun _ _ _ h => h.helpers) fresh,
      at_end]
    tauto
  refine ⟨⟨functions, ?_⟩, shared, added, ?_, bound, ?_, new_texts_ascending _ _, ?_⟩
  · rw [torn]
    rfl
  · have started : s.world.installHelpers.state = s.world.state :=
      congrArg Prod.fst (rest_install_helpers s.world)
    rw [run_last_state, noted, Session.begun_world, started]
  · have before_check : (e.steps file blocks s.begun).last.tearDown.leaks = s.leaks := changed.leaks
    rw [show r.last.leaks = _ from leaks, before_check, ← torn]
    rfl
  · intro name
    rw [mem_leaked_names, bound]
    tauto

/-- Of what the interrupted run has merged, it leaves and reports what is neither a function nor a
helper. -/
theorem leaks_of_interrupted_run :
    let r := (scripted leakingScript).run [] leakingBlocks boundByFile
    let found := (scripted leakingScript).leaksBetween boundByFile r.last
    (scripted leakingScript).evaluator.Has (World.Merges leakingScript.merged) ∧
      boundByFile.Fresh ∧ r.escape = some Script.interruption ∧
      "a".toList ∈ r.last.world.names ∧ "a".toList ∈ found.names ∧
      "f".toList ∉ r.last.world.names ∧ "fail".toList ∉ found.names := by
  intro r found
  have merges : (scripted leakingScript).evaluator.Has (World.Merges leakingScript.merged) :=
    Script.merges _
  have fresh : boundByFile.Fresh := ⟨rfl, rfl⟩
  obtain ⟨_, _, added, noted, bound, _, _, leaked⟩ :=
    namespace_after_run merges fresh [] leakingBlocks
  have listed : added = leakingScript.merged ((scripted leakingScript).steps [] leakingBlocks
      boundByFile.begun).last.world.state := by
    rw [← run_last_state]
    exact noted.symm
  have merged : "a".toList ∈ added := by
    rw [listed]
    decide
  have undefined : "a".toList ∉ r.defined := by decide
  refine ⟨merges, fresh, rfl, ?_, ?_, ?_, ?_⟩
  · exact (bound _).mpr ⟨.inr merged, undefined, by decide⟩
  · exact (leaked _).mpr ⟨merged, by decide, undefined, by decide, by decide⟩
  · intro h
    exact ((bound _).mp h).2.1 (by decide)
  · intro h
    exact ((leaked _).mp h).2.2.2.1 (by decide)

end Engine
end EmbeddedTests
