import EmbeddedTests.Engine

/-!
# Asking objects

What a report says is composed of what objects answer, one question after the other. Where two
evaluators are answered alike, their reports say the same and their verdicts are the same.
-/
namespace EmbeddedTests

variable {σ τ α β : Type}

def World.Follow (R : World σ → World τ → Prop) (f : World σ → α × World σ)
    (f' : World τ → α × World τ) : Prop :=
  ∀ ⦃w w' a u⦄, R w w' → f w = (a, u) → ∃ u', f' w' = (a, u') ∧ R u u'

namespace World.Follow

variable {R : World σ → World τ → Prop} {f : World σ → α × World σ} {f' : World τ → α × World τ}

theorem done (a : α) : Follow R (fun w => (a, w)) (fun w => (a, w)) := by
  intro w w' _ _ related run
  cases run
  exact ⟨w', rfl, related⟩

theorem map (h : Follow R f f') (g : α → β) :
    Follow R (fun w => (g (f w).1, (f w).2)) (fun w => (g (f' w).1, (f' w).2)) := by
  intro w w' _ _ related run
  cases run
  obtain ⟨u', answer, related⟩ := h related rfl
  exact ⟨u', congrArg (fun x => (g x.1, x.2)) answer, related⟩

theorem next {f : World σ → Attempt α × World σ} {f' : World τ → Attempt α × World τ}
    {g : α → World σ → Attempt β × World σ} {g' : α → World τ → Attempt β × World τ}
    (h : Follow R f f') (later : ∀ a, Follow R (g a) (g' a)) :
    Follow R (fun w => goOn (f w) g) (fun w => goOn (f' w) g') := by
  intro w w' b v related run
  rcases asked : f w with ⟨escape | a, u⟩
  all_goals
    obtain ⟨u', answer, related⟩ := h related asked
    simp only [asked] at run
    simp only [answer]
  · cases run
    exact ⟨u', rfl, related⟩
  · exact later a related run

end World.Follow

def Evaluator.AnsweredAlike (R : World σ → World τ → Prop) (ev : Evaluator σ)
    (ev' : Evaluator τ) : Prop :=
  ∀ q v, World.Follow R (ev.ask q v) (ev'.ask q v)

namespace Evaluator.AnsweredAlike

variable {R : World σ → World τ → Prop} {ev : Evaluator σ} {ev' : Evaluator τ}
  (alike : ev.AnsweredAlike R ev')

include alike

theorem message (r : Raised) : World.Follow R (ev.message r) (ev'.message r) :=
  (alike .text r.value).map _

theorem error_text (result : Evaluation) :
    World.Follow R (ev.errorText result) (ev'.errorText result) := by
  unfold Evaluator.errorText
  cases result.error with
  | none => exact .done _
  | some raised => exact (alike.message raised).map _

theorem warning_message (result : Evaluation) :
    World.Follow R (ev.warningMessage result) (ev'.warningMessage result) := by
  unfold Evaluator.warningMessage
  cases result.warnings.getLast? with
  | none => exact .done _
  | some warning => exact alike .text warning.value

theorem describe (shared : Shared) :
    World.Follow R (Shared.describe ev shared) (Shared.describe ev' shared) := by
  induction shared with
  | nil => exact .done _
  | cons entry rest ih =>
    obtain ⟨name, v⟩ := entry
    exact (alike .written v).next fun written => ih.map _

end Evaluator.AnsweredAlike

def Evaluator.Asks (ev : Evaluator σ) (f : World σ → α × World σ) : Prop :=
  ∀ {R : World σ → World σ → Prop}, ev.AnsweredAlike R ev → World.Follow R f f

theorem Evaluator.Asks.keeps {ev : Evaluator σ} {f : World σ → α × World σ} (asks : ev.Asks f)
    {P : World σ → Prop} (kept : ∀ {q v w u a}, ev.ask q v w = (a, u) → P w → P u)
    {w u : World σ} {a : α} (run : f w = (a, u)) (start : P w) : P u := by
  have alike : ev.AnsweredAlike (fun w w' => w' = w ∧ P w) ev := by
    rintro q v _ w answer after ⟨rfl, before⟩ asked
    exact ⟨after, asked, rfl, kept asked before⟩
  obtain ⟨_, -, rfl, same⟩ := asks alike ⟨rfl, start⟩ run
  exact same

namespace Engine

variable {R : World σ → World τ → Prop}

theorem compare_follows {characters kind target type} {message : World σ → Attempt Text × World σ}
    {message' : World τ → Attempt Text × World τ} (asks : World.Follow R message message') :
    World.Follow R (compare characters kind target type message)
      (compare characters kind target type message') := by
  cases target with
  | identified id => exact .done _
  | matching pattern =>
    refine asks.next fun text => ?_
    cases messageMatches characters pattern text with
    | error fault => exact .done _
    | ok met => exact asks.map _

theorem judge_follows {e : Engine σ} {e' : Engine τ} (library : e'.library = e.library)
    (alike : e.evaluator.AnsweredAlike R e'.evaluator) (kind : ExpectKind) (target : Expectation)
    (result : Evaluation) :
    World.Follow R (e.judge kind target result) (e'.judge kind target result) := by
  unfold judge
  rw [library]
  dsimp only
  cases result.syntaxError with
  | true => exact (alike.error_text result).map _
  | false =>
    cases kind with
    | error =>
      cases result.error with
      | none => exact .done _
      | some raised => exact compare_follows (alike.message raised)
    | warning =>
      cases result.error with
      | some raised => exact (alike.message raised).map _
      | none =>
        cases result.warnings.getLast? with
        | none => exact .done _
        | some warning => exact compare_follows (alike.warning_message result)

end Engine
end EmbeddedTests
