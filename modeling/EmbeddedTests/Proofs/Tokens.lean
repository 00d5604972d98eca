import EmbeddedTests.Proofs.Cuts
import EmbeddedTests.Proofs.Identifiers
import EmbeddedTests.Snippet.Lexer
import Mathlib.Data.Bool.AllAny

/-!
# Tokens at the start of a text

The fuel of the scanner does not matter once it covers the text, so the tokens of a text are those
at its start followed by those of the rest. Which tokens names, brackets, commas and colons give.
-/
namespace EmbeddedTests.Snippet.Lexer

open Text

theorem length_margin_from (c : Columns) (t : Text) : (marginFrom c t).2.length ≤ t.length := by
  fun_induction marginFrom c t with
  | case1 c rest ih => exact Nat.le_succ_of_le ih
  | case2 c rest ih => exact Nat.le_succ_of_le ih
  | case3 c rest ih => exact Nat.le_succ_of_le ih
  | case4 c rest => exact Nat.le_refl _

section

variable {mark : Char} {t inside meaning rest : Text}

theorem mark_of_short_literal (h : shortLiteral? mark t = some (inside, rest)) :
    ∃ front, t = front ++ mark :: rest := by
  fun_induction shortLiteral? mark t generalizing inside rest with
  | case1 => cases h
  | case2 c later ih =>
    obtain ⟨⟨text, after⟩, found, same⟩ := Option.map_eq_some_iff.mp h
    cases same
    obtain ⟨front, rfl⟩ := ih found
    exact ⟨'\\' :: c :: front, rfl⟩
  | case3 =>
    cases h
    exact ⟨[], rfl⟩
  | case4 => cases h
  | case5 c later _ _ _ ih =>
    obtain ⟨⟨text, after⟩, found, same⟩ := Option.map_eq_some_iff.mp h
    cases same
    obtain ⟨front, rfl⟩ := ih found
    exact ⟨c :: front, rfl⟩

theorem mark_of_long_literal (h : longLiteral? mark t = some (inside, rest)) :
    ∃ front, t = front ++ mark :: rest := by
  fun_induction longLiteral? mark t generalizing inside rest with
  | case1 => cases h
  | case2 c later ih =>
    obtain ⟨⟨text, after⟩, found, same⟩ := Option.map_eq_some_iff.mp h
    cases same
    obtain ⟨front, rfl⟩ := ih found
    exact ⟨'\\' :: c :: front, rfl⟩
  | case3 c later _ closes =>
    cases h
    obtain rfl : c = mark := (List.cons.inj closes).1
    have two : later.take 2 = [c, c] := (List.cons.inj closes).2
    refine ⟨[c, c], ?_⟩
    conv_lhs => rw [← List.take_append_drop 2 later, two]
    rfl
  | case4 c later _ _ ih =>
    obtain ⟨⟨text, after⟩, found, same⟩ := Option.map_eq_some_iff.mp h
    cases same
    obtain ⟨front, rfl⟩ := ih found
    exact ⟨c :: front, rfl⟩

theorem mark_of_inside (h : inside? mark t = .ok (inside, rest)) :
    ∃ front, t = front ++ mark :: rest := by
  unfold inside? at h
  split at h
  · cases found : longLiteral? mark (t.drop 2) with
    | none => rw [found] at h; cases h
    | some parts =>
      rw [found] at h
      cases h
      obtain ⟨front, later⟩ := mark_of_long_literal found
      refine ⟨t.take 2 ++ front, ?_⟩
      conv_lhs => rw [← List.take_append_drop 2 t, later]
      rw [List.append_assoc]
  · cases found : shortLiteral? mark t with
    | none => rw [found] at h; cases h
    | some parts =>
      rw [found] at h
      cases h
      exact mark_of_short_literal found

theorem inside_of_literal (h : literal? mark t = .ok (inside, meaning, rest)) :
    inside? mark t = .ok (inside, rest) := by
  unfold literal? at h
  cases found : inside? mark t with
  | error message => rw [found] at h; cases h
  | ok parts =>
    rw [found] at h
    simp only [bind, Except.bind] at h
    split at h
    · cases h
      rfl
    · cases h

theorem mark_of_literal (h : literal? mark t = .ok (inside, meaning, rest)) :
    ∃ front, t = front ++ mark :: rest := mark_of_inside (inside_of_literal h)

theorem length_literal (h : literal? mark t = .ok (inside, meaning, rest)) :
    rest.length < t.length := by
  obtain ⟨front, rfl⟩ := mark_of_literal h
  simp only [List.length_append, List.length_cons]
  omega

end

theorem length_later_lines (t : Text) : (laterLines t).length ≤ t.length := by
  rw [laterLines, List.length_tail]
  exact Nat.le_trans (Nat.sub_le _ _) (List.dropWhile_sublist _).length_le

def measure (fresh : Bool) (t : Text) : Nat := 2 * t.length + if fresh then 1 else 0

theorem measure_lt_start {fresh : Bool} {t rest : Text} (h : rest.length < t.length) :
    measure fresh rest < measure true t := by
  unfold measure
  split <;> simp <;> omega

theorem measure_lt_later {fresh : Bool} {t rest : Text} (h : rest.length < t.length) :
    measure fresh rest < measure false t := by
  unfold measure
  split <;> simp <;> omega

section

variable {fuel fuel' : Nat} {s : State} {t : Text}

/-- Two scans agree on a text at the start of a line if they agree on what is smaller. -/
theorem scan_start_congr (next : ∀ {fresh s rest}, measure fresh rest < measure true t →
      scan fuel fresh s rest = scan fuel' fresh s rest) :
    scan (fuel + 1) true s t = scan (fuel' + 1) true s t := by
  rw [scan.eq_def, scan.eq_def (fuel' + 1)]
  dsimp only
  have short := length_margin_from {} t
  generalize marginFrom {} t = margin at short
  obtain ⟨columns, rest⟩ := margin
  dsimp only at short ⊢
  split
  · rfl
  · exact next (measure_lt_start short)
  · exact next (measure_lt_start (Nat.lt_of_le_of_lt (length_later_lines _) short))
  · split
    · rfl
    · rw [next (by simp only [measure]; simp; omega)]

theorem scan_later_congr (next : ∀ {fresh s rest}, measure fresh rest < measure false t →
      scan fuel fresh s rest = scan fuel' fresh s rest) :
    scan (fuel + 1) false s t = scan (fuel' + 1) false s t := by
  have next {fresh : Bool} {s : State} {rest : Text} (shorter : rest.length < t.length) :
      scan fuel fresh s rest = scan fuel' fresh s rest := next (measure_lt_later shorter)
  rw [scan.eq_def, scan.eq_def (fuel' + 1)]
  dsimp only
  have short : (t.dropWhile fun c => c == ' ' || c == '\t' || c == '\x0c').length ≤ t.length :=
    (List.dropWhile_sublist _).length_le
  generalize (t.dropWhile fun c => c == ' ' || c == '\t' || c == '\x0c') = here at short
  have dropped (n : Nat) {c : Char} {rest : Text} (whole : here = c :: rest) :
      (rest.drop n).length < t.length := by
    rw [whole] at short
    simp only [List.length_drop, List.length_cons] at short ⊢
    omega
  split
  · rfl
  · rename_i rest
    have comment : (rest.dropWhile (· ≠ '\n')).length ≤ rest.length :=
      (List.dropWhile_sublist _).length_le
    exact next (Nat.lt_of_le_of_lt comment short)
  · rw [next short, next short]
  · split
    · rfl
    · exact next (Nat.lt_of_succ_lt short)
  · rfl
  · rename_i c rest _ _ _ _
    split
    · cases found : literal? c rest with
      | error message => rfl
      | ok parts =>
        dsimp only
        rw [next ((length_literal found).trans short)]
    · split
      · split
        · rfl
        · rw [next (dropped _ rfl)]
      · split
        · split
          · rfl
          · rw [next (dropped _ rfl)]
        · split
          · rfl
          · split
            · rfl
            · rw [next (dropped _ rfl)]

theorem scan_fuel {fresh : Bool} (enough : measure fresh t < fuel)
    (enough' : measure fresh t < fuel') : scan fuel fresh s t = scan fuel' fresh s t := by
  induction fuel generalizing fuel' fresh s t with
  | zero => exact absurd enough (Nat.not_lt_zero _)
  | succ fuel ih =>
    obtain ⟨fuel', rfl⟩ := Nat.exists_eq_succ_of_ne_zero (Nat.ne_zero_of_lt enough')
    have next {fresh' : Bool} {s : State} {rest : Text}
        (smaller : measure fresh' rest < measure fresh t) :
        scan fuel fresh' s rest = scan fuel' fresh' s rest :=
      ih (Nat.lt_of_lt_of_le smaller (Nat.le_of_lt_succ enough))
        (Nat.lt_of_lt_of_le smaller (Nat.le_of_lt_succ enough'))
    cases fresh with
    | true => exact scan_start_congr next
    | false => exact scan_later_congr next

end

def scanned (fresh : Bool) (s : State) (t : Text) : List Token :=
  scan (measure fresh t + 1) fresh s t

section

variable {s : State} {t rest : Text} {c : Char}

theorem scan_eq_scanned {fuel : Nat} {fresh : Bool} (enough : measure fresh t < fuel) :
    scan fuel fresh s t = scanned fresh s t :=
  scan_fuel enough (Nat.lt_succ_self _)

theorem scanned_blank : scanned false s (' ' :: t) = scanned false s t := by
  have longer : measure false t < measure false (' ' :: t) + 1 := by
    simp only [measure, List.length_cons]
    omega
  rw [← scan_eq_scanned longer, scanned, scan.eq_def, scan.eq_def (measure false (' ' :: t) + 1)]
  rfl

def lineSigns : List Char := [' ', '\t', '\x0c', '#', '\n', '\\']

theorem starts_name_apart : ∀ d ∈ '\'' :: '"' :: lineSigns, startsName d = false :=
  List.all_iff_forall_prop.mp (by decide)

theorem is_digit_iff : isDigit c = true ↔ 48 ≤ c.toNat ∧ c.toNat ≤ 57 := by
  simp [isDigit, Char.le_def, UInt32.le_iff_toNat_le]

theorem starts_name_iff : startsName c = true ↔ (97 ≤ c.toNat ∧ c.toNat ≤ 122) ∨
    (65 ≤ c.toNat ∧ c.toNat ≤ 90) ∨ c.toNat = 95 ∨ 128 ≤ c.toNat := by
  have low : c = '_' ↔ c.toNat = 95 := by
    constructor
    · rintro rfl
      rfl
    · exact fun same => Char.toNat_inj.mp same
  simp [startsName, Char.le_def, UInt32.le_iff_toNat_le, low, or_assoc]

theorem digit_starts_no_name (digit : isDigit c = true) : startsName c = false := by
  have digit := is_digit_iff.mp digit
  rw [Bool.eq_false_iff, ne_eq, starts_name_iff]
  omega

theorem starts_name_of_identifier_start (h : identifierStart.contains c = true) :
    startsName c = true := by
  have known : ∀ n < 128, CodePoints.insideAt identifierStart.changes n = true →
      (97 ≤ n ∧ n ≤ 122) ∨ (65 ≤ n ∧ n ≤ 90) ∨ n = 95 := by
    decide
  rw [starts_name_iff]
  by_cases ascii : c.toNat < 128
  · have := known c.toNat ascii h
    omega
  · omega

theorem continues_name_of_identifier_part (h : identifierPart.contains c = true) :
    continuesName c = true := by
  have known : ∀ n < 128, CodePoints.insideAt identifierPart.changes n = true →
      (97 ≤ n ∧ n ≤ 122) ∨ (65 ≤ n ∧ n ≤ 90) ∨ n = 95 ∨ (48 ≤ n ∧ n ≤ 57) := by
    decide
  rw [continuesName, Bool.or_eq_true, starts_name_iff, is_digit_iff]
  by_cases ascii : c.toNat < 128
  · have := known c.toNat ascii h
    omega
  · omega

theorem scanned_name {name : Text} (stop : Char) (isName : isIdentifier name = true)
    (stops : continuesName stop = false) :
    scanned false s (name ++ stop :: t) = s.token (.name name) :: scanned false s (stop :: t) := by
  generalize after : stop :: t = rest
  have stops : ∀ d ∈ rest.head?, continuesName d = false := by simpa [← after] using stops
  clear after
  obtain _ | ⟨c, more⟩ := name
  · cases isName
  obtain ⟨start, parts⟩ := Bool.and_eq_true_iff.mp isName
  have starts := starts_name_of_identifier_start start
  have continues (d) (member : d ∈ more) : continuesName d = true :=
    continues_name_of_identifier_part (List.all_eq_true.mp parts d member)
  rw [List.cons_append]
  have apart {d : Char} (listed : d ∈ '\'' :: '"' :: lineSigns) : c ≠ d := by
    rintro rfl
    rw [starts_name_apart c listed] at starts
    cases starts
  have visible : (c :: (more ++ rest)).dropWhile (fun c => c == ' ' || c == '\t' || c == '\x0c') =
      c :: (more ++ rest) := by
    rw [List.dropWhile_cons_of_neg]
    simp [apart (d := ' ') (by decide), apart (d := '\t') (by decide),
      apart (d := '\x0c') (by decide)]
  have quotes : ¬(decide (c = '\'') || decide (c = '"')) = true := by
    simp [apart (d := '\'') (by decide), apart (d := '"') (by decide)]
  have digit : ¬isDigit c = true := fun digit => by
    rw [digit_starts_no_name digit] at starts
    cases starts
  obtain ⟨taken, -⟩ := cut_eq continues stops
  have shorter : measure false rest < measure false (c :: (more ++ rest)) :=
    measure_lt_later (by simp only [List.length_cons, List.length_append]; omega)
  rw [scanned, scan.eq_def]
  dsimp only
  rw [visible]
  split
  · contradiction
  · rename_i same
    exact absurd (List.cons.inj same).1 (apart (by decide))
  · rename_i same
    exact absurd (List.cons.inj same).1 (apart (by decide))
  · rename_i same
    exact absurd (List.cons.inj same).1 (apart (by decide))
  · rename_i same
    exact absurd (List.cons.inj same).1 (apart (by decide))
  · rename_i same
    cases same
    rw [if_neg quotes, if_neg digit, if_pos starts, taken, if_pos isName]
    simp [scan_eq_scanned shorter]

theorem scanned_open : scanned false s ('(' :: t) = s.token (.symbol ['(']) ::
    scanned false { s with brackets := ('(', s.line) :: s.brackets } t := by
  have shorter : measure false t < measure false ('(' :: t) := measure_lt_later (by simp)
  rw [scanned, ← scan_eq_scanned shorter]
  rfl

theorem scanned_close {line : Nat} {outer : List (Char × Nat)}
    (h : s.brackets = ('(', line) :: outer) : scanned false s (')' :: t) =
      s.token (.symbol [')']) :: scanned false { s with brackets := outer } t := by
  have shorter : measure false t < measure false (')' :: t) := measure_lt_later (by simp)
  obtain ⟨here, brackets, margins⟩ := s
  subst h
  rw [scanned, ← scan_eq_scanned shorter]
  rfl

theorem scanned_comma : scanned false s (',' :: t) =
    s.token (.symbol [',']) :: scanned false s t := by
  have shorter : measure false t < measure false (',' :: t) := measure_lt_later (by simp)
  rw [scanned, ← scan_eq_scanned shorter]
  rfl

theorem scanned_colon (h : s.brackets = []) : scanned false s (':' :: '\n' :: t) =
    s.token (.symbol [':']) :: s.token .lineEnd :: scanned true s.nextLine t := by
  have shorter : measure true t < measure false (':' :: '\n' :: t) - 1 := by simp [measure]; omega
  obtain ⟨here, brackets, margins⟩ := s
  subst h
  rw [scanned, ← scan_eq_scanned shorter]
  rfl

theorem scanned_first : scanned true {} ("def" ++ t) = scanned false {} ("def" ++ t) := by
  have smaller : measure false ("def" ++ t) < measure true ("def" ++ t) := by simp [measure]
  rw [scanned, ← scan_eq_scanned smaller]
  rfl

end

end EmbeddedTests.Snippet.Lexer
