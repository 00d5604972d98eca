import EmbeddedTests.Engine
import EmbeddedTests.Proofs.TestScan
import Mathlib.Data.List.Basic
import Mathlib.Data.List.Infix

/-!
# Demos in a row

The demos of a buffer are put into one text, with the place at which each of them ends. The ends are
the lengths of what stands in front, so cutting the text at them gives every demo back.
-/
namespace EmbeddedTests

open Text

/-- The part of a text from one offset to another. -/
def Text.between (t : Text) (start stop : Nat) : Text := (t.take stop).drop start

def Content.demo? : Content → Option Text
  | .demo code => some code
  | _ => none

def demoCodes (blocks : List Block) : List Text := blocks.filterMap (·.content.demo?)

def endOf (texts : List Text) (n : Nat) : Nat := (texts.take n).flatten.length

section

variable {texts : List Text} {i j : Nat}

theorem end_of_append_of_le (later : List Text) (inside : i ≤ texts.length) :
    endOf (texts ++ later) i = endOf texts i := by
  rw [endOf, endOf, List.take_append_of_le_length inside]

theorem end_of_all : endOf texts texts.length = texts.flatten.length := by
  rw [endOf, List.take_length]

theorem end_of_le (before : i ≤ j) : endOf texts i ≤ endOf texts j := by
  have front : texts.take i <+: texts.take j := List.take_prefix_take_left before
  exact front.flatten.length_le

theorem between_ends (inside : i < texts.length) :
    between texts.flatten (endOf texts i) (endOf texts (i + 1)) = texts[i] := by
  have front : texts.flatten.take (endOf texts (i + 1)) = (texts.take (i + 1)).flatten := by
    have whole : texts.flatten = (texts.take (i + 1)).flatten ++ (texts.drop (i + 1)).flatten := by
      rw [← List.flatten_append, List.take_append_drop]
    rw [whole]
    exact List.take_left' rfl
  have parts : (texts.take (i + 1)).flatten = (texts.take i).flatten ++ texts[i] := by
    rw [List.take_succ_eq_append_getElem inside, List.flatten_append, List.flatten_singleton]
  rw [between, front, parts]
  exact List.drop_left' rfl

end

theorem grab_demos_concat (blocks : List Block) (b : Block) :
    grabDemos (blocks ++ [b]) = match b.content.demo? with
      | some demo => ((grabDemos blocks).1 ++ demo,
          (grabDemos blocks).2 ++ [(grabDemos blocks).1.length + demo.length])
      | none => grabDemos blocks := by
  obtain ⟨raw, content⟩ := b
  simp only [grabDemos, List.foldl_append]
  cases content <;> rfl

theorem demo_codes_concat (blocks : List Block) (b : Block) :
    demoCodes (blocks ++ [b]) = demoCodes blocks ++ b.content.demo?.toList := by
  rw [demoCodes, List.filterMap_append]
  cases demo : b.content.demo? <;> simp [demoCodes, demo]

theorem grab_demos_eq (blocks : List Block) :
    grabDemos blocks = ((demoCodes blocks).flatten,
      (List.range (demoCodes blocks).length).map fun i => endOf (demoCodes blocks) (i + 1)) := by
  induction blocks using List.reverseRecOn with
  | nil => rfl
  | append_singleton blocks b ih =>
    rw [grab_demos_concat, demo_codes_concat]
    cases demo : b.content.demo? with
    | none => simpa using ih
    | some code =>
      have kept : ∀ i ∈ List.range (demoCodes blocks).length,
          endOf (demoCodes blocks ++ [code]) (i + 1) = endOf (demoCodes blocks) (i + 1) :=
        fun i inside => end_of_append_of_le _ (List.mem_range.mp inside)
      have last : endOf (demoCodes blocks ++ [code]) ((demoCodes blocks).length + 1) =
          (demoCodes blocks).flatten.length + code.length := by
        have whole := @end_of_all (demoCodes blocks ++ [code])
        simpa using whole
      dsimp only
      rw [ih, Option.toList_some, List.length_append, List.length_singleton, List.range_succ,
        List.map_append, List.map_congr_left kept, List.map_singleton, last, List.flatten_append,
        List.flatten_singleton]

theorem kind_eq_demo_iff {b : Block} : b.kind = .demo ↔ b.content.demo?.isSome = true := by
  obtain ⟨raw, content⟩ := b
  cases content with
  | check kind => cases kind <;> simp [Block.kind, Content.kind, Content.demo?, BlockKind.ofCheck]
  | expect kind =>
    cases kind <;> simp [Block.kind, Content.kind, Content.demo?, BlockKind.ofExpect]
  | _ => simp [Block.kind, Content.kind, Content.demo?]

theorem keyword_of_demo {raw : Text} (h : (classify raw).kind = .demo) : keyword raw = "demo" := by
  cases known : keywordKind? (keyword raw) with
  | some kind =>
    have same : kind = .demo := (kind_of_keyword known).symm.trans h
    rw [← keyword_kind_name known, same]
    rfl
  | none =>
    unfold classify at h
    simp only [known] at h
    split at h <;> cases h

theorem raw_of_demo {raw code : Text} (h : (parseBlock raw).content.demo? = some code) :
    raw = "demo" ++ code := by
  have demo : (classify raw).kind = .demo :=
    kind_eq_demo_iff.mpr (Option.isSome_iff_exists.mpr ⟨code, h⟩)
  have word : keyword raw = "demo" := keyword_of_demo demo
  have known : keywordKind? (keyword raw) = some .demo := by
    rw [word]
    decide
  have shown : classify raw = .demo (raw.drop (keyword raw).length) := by
    unfold classify
    simp only [known]
  have code_eq : raw.drop (keyword raw).length = code := by
    change (classify raw).demo? = some code at h
    rw [shown] at h
    exact Option.some.inj h
  have front : keyword raw <+: raw := List.takeWhile_prefix isKeywordChar
  calc raw = keyword raw ++ raw.drop (keyword raw).length :=
        (List.prefix_iff_eq_append.mp front).symm
    _ = "demo" ++ code := by rw [code_eq, word]

/-- The demos of a buffer, and what they show, in the same order. -/
theorem raws_of_demos (buffer : Text) :
    ((parseBlocks buffer).filter (·.kind = .demo)).map (·.raw) =
      (demoCodes (parseBlocks buffer)).map fun code => ("demo" : Text) ++ code := by
  unfold parseBlocks demoCodes
  induction splitBlocks buffer with
  | nil => rfl
  | cons raw raws ih =>
    rw [List.map_cons, List.filterMap_cons]
    cases shown : (parseBlock raw).content.demo? with
    | none =>
      have other : (parseBlock raw).kind ≠ .demo := by
        rw [Ne, kind_eq_demo_iff, shown]
        decide
      rw [List.filter_cons_of_neg (by simpa using other)]
      exact ih
    | some code =>
      have demo : (parseBlock raw).kind = .demo := by
        rw [kind_eq_demo_iff, shown]
        rfl
      rw [List.filter_cons_of_pos (by simpa using demo), List.map_cons, List.map_cons, ih]
      exact congrArg (· :: _) (raw_of_demo shown)

/-- Where the demos end, they can be cut apart again: each is what stands from the end of the one
before it, or from the start, up to its own end. -/
theorem demos_are_cut_apart (buffer : Text) :
    let demos := (parseBlocks buffer).filter (·.kind = .demo)
    let (code, offsets) := grabDemos (parseBlocks buffer)
    offsets.length = demos.length ∧
      offsets.Pairwise (· ≤ ·) ∧
      (∀ last, offsets.getLast? = some last → last = code.length) ∧
      (offsets = [] ↔ code = [] ∧ demos = []) ∧
      ∀ i (inside : i < demos.length),
        demos[i].raw = "demo" ++ between code ((0 :: offsets).getD i 0) (offsets.getD i 0) := by
  have raws := raws_of_demos buffer
  rw [grab_demos_eq]
  generalize (parseBlocks buffer).filter (·.kind = .demo) = demos at raws ⊢
  generalize demoCodes (parseBlocks buffer) = codes at raws ⊢
  have same : demos.length = codes.length := by simpa using congrArg List.length raws
  dsimp only
  refine ⟨by simp [same], ?_, ?_, ?_, ?_⟩
  case refine_1 =>
    refine List.Pairwise.map _ (fun i j before => ?_) List.pairwise_le_range
    exact end_of_le (Nat.succ_le_succ before)
  case refine_2 =>
    intro last isLast
    cases codes using List.reverseRecOn with
    | nil => cases isLast
    | append_singleton front code =>
      rw [← end_of_all]
      rw [List.length_append, List.length_singleton, List.range_succ, List.map_append,
        List.map_singleton, List.getLast?_concat] at isLast
      simpa using (Option.some.inj isLast).symm
  case refine_3 =>
    have none : demos = [] ↔ codes = [] := by
      rw [← List.length_eq_zero_iff, same, List.length_eq_zero_iff]
    rw [List.map_eq_nil_iff, List.range_eq_nil, List.length_eq_zero_iff, none]
    constructor
    · rintro rfl
      exact ⟨rfl, rfl⟩
    · exact And.right
  case refine_4 =>
    intro i inside
    have bound : i < codes.length := same ▸ inside
    have shown : demos[i].raw = "demo" ++ codes[i] := by
      have at_i := congrArg (·[i]?) raws
      simpa [inside, bound] using at_i
    have start : (0 :: (List.range codes.length).map fun i => endOf codes (i + 1)).getD i 0 =
        endOf codes i := by
      cases i with
      | zero => rfl
      | succ i => simp [Nat.lt_of_succ_lt bound]
    have stop : ((List.range codes.length).map fun i => endOf codes (i + 1)).getD i 0 =
        endOf codes (i + 1) := by
      simp [bound]
    rw [shown, start, stop, between_ends bound]

end EmbeddedTests
