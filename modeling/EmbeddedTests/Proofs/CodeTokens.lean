import EmbeddedTests.Proofs.ClauseTokens
import EmbeddedTests.Proofs.Margins

/-!
# Tokens of code in its function

What the code of a block and the clause after it are scanned as. The scanner goes through the code
from one state to the next, and in each of them the margins of the blocks around are those of the
code, which are all wider than that of the clause, and the clause's own. Each step gives tokens that
lead to the clause if what is scanned after it does.
-/
namespace EmbeddedTests.Snippet.Lexer

open Text

theorem literal_in_code {mark : Char} {u inside meaning rest : Text} (quote : mark ∉ writeBack)
    (h : literal? mark (u ++ writeBack) = .ok (inside, meaning, rest)) :
    ∃ r, rest = r ++ writeBack ∧ r <:+ u := by
  obtain ⟨front, whole⟩ := mark_of_literal h
  rcases List.append_eq_append_iff.mp whole with ⟨more, -, clause⟩ | ⟨more, rfl, later⟩
  · exact absurd (clause ▸ by simp) quote
  · cases more with
    | nil => exact absurd (by rw [← List.nil_append writeBack, ← later]; simp) quote
    | cons c more =>
      obtain ⟨rfl, rfl⟩ := List.cons.inj later
      exact ⟨more, rfl, front ++ [mark], by simp⟩

theorem drop_in_code {c : Char} {u p : Text} (starts : p <+: c :: (u ++ writeBack))
    (line : '\n' ∉ p) (feed : '\n' ∈ c :: u) :
    ∃ r, (u ++ writeBack).drop (p.length - 1) = r ++ writeBack ∧ r <:+ u := by
  have within : p.length ≤ u.length := by
    by_contra longer
    have all : c :: u <+: p :=
      List.prefix_of_prefix_length_le ⟨writeBack, rfl⟩ starts (by simp; omega)
    exact line (all.subset feed)
  refine ⟨u.drop (p.length - 1), List.drop_append_of_le_length (by omega), List.drop_suffix _ _⟩

theorem symbol_at_starts (c : Char) (t : Text) : symbolAt c t <+: c :: t := by
  unfold symbolAt
  cases found : symbols.find? fun s => Text.startsWith s (c :: t) with
  | none => exact ⟨t, rfl⟩
  | some s =>
    have starts := List.find?_some found
    exact starts_with_iff.mp starts

theorem feed_not_mem_symbol_at {c : Char} (t : Text) (other : c ≠ '\n') : '\n' ∉ symbolAt c t := by
  unfold symbolAt
  cases found : symbols.find? fun s => Text.startsWith s (c :: t) with
  | none => simpa using Ne.symm other
  | some s =>
    have none : ∀ s ∈ symbols, '\n' ∉ s := by decide
    exact none s (List.mem_of_find?_eq_some found)

theorem margins_of_enter_symbol {s s' : State} {symbol : Text} (h : enterSymbol s symbol = .ok s') :
    s'.margins = s.margins := by
  unfold enterSymbol at h
  repeat' split at h
  all_goals first | (cases h; rfl) | cases h

section

variable {s s' : State} {c : Columns} {d : Char} {t rest : Text} {fuel : Nat}

theorem scan_start_feed (margin : marginFrom {} t = (c, '\n' :: rest)) :
    scan (fuel + 1) true s t = scan fuel true s.nextLine rest := by
  rw [scan.eq_def]
  dsimp only
  rw [margin]
  rfl

theorem scan_start_comment (margin : marginFrom {} t = (c, '#' :: rest)) :
    scan (fuel + 1) true s t = scan fuel true s.nextLine (laterLines rest) := by
  rw [scan.eq_def]
  dsimp only
  rw [margin]
  rfl

theorem scan_start_margin (margin : marginFrom {} t = (c, d :: rest)) (feed : d ≠ '\n')
    (comment : d ≠ '#') : scan (fuel + 1) true s t =
      match enterMargin s c with
      | .error e => s.stuck e
      | .ok (s', tokens) => tokens ++ scan fuel false s' (d :: rest) := by
  rw [scan.eq_def]
  dsimp only
  rw [margin]
  split
  case h_1 none => cases none
  case h_2 same => exact absurd (List.cons.inj same).1 feed
  case h_3 same => exact absurd (List.cons.inj same).1 comment
  case h_4 => rfl

theorem scan_start_stuck {e : CodeError} (margin : marginFrom {} t = (c, d :: rest))
    (entered : enterMargin s c = .error e) (feed : d ≠ '\n') (comment : d ≠ '#') :
    scan (fuel + 1) true s t = s.stuck e := by
  rw [scan_start_margin margin feed comment, entered]

theorem scan_start_entered {tokens : List Token} (margin : marginFrom {} t = (c, d :: rest))
    (entered : enterMargin s c = .ok (s', tokens)) (feed : d ≠ '\n') (comment : d ≠ '#') :
    scan (fuel + 1) true s t = tokens ++ scan fuel false s' (d :: rest) := by
  rw [scan_start_margin margin feed comment, entered]

end

def clauseMargin : Columns := ⟨4, 4⟩

theorem leads_dedents (a line : Nat) :
    (n : Nat) → Leads n (List.replicate n ⟨.dedent, a⟩ ++ closingTokens line)
  | 0 => .nothing line
  | 1 => .closed a line
  | n + 2 => .dedent (leads_dedents a line (n + 1))

section

variable {s : State} {front : List Columns}

theorem enter_margin_cases {s' : State} {c : Columns} {tokens : List Token}
    (entered : enterMargin s c = .ok (s', tokens)) :
    (c.wide = s.margin.wide ∧ s' = s ∧ tokens = []) ∨
      (s.margin.wide < c.wide ∧ s' = { s with margins := c :: s.margins } ∧
        tokens = [s.token .indent]) ∨
      c.wide < s.margin.wide ∧ s' = { s with margins := (unwind c s.margins).1 } ∧
        c.wide = s'.margin.wide ∧
        tokens = List.replicate (unwind c s.margins).2 (s.token .dedent) := by
  unfold enterMargin at entered
  dsimp only at entered
  split at entered
  case isTrue same =>
    split at entered <;> cases entered
    exact .inl ⟨same, rfl, rfl⟩
  case isFalse different =>
    split at entered
    case isTrue wider =>
      split at entered <;> cases entered
      exact .inr (.inl ⟨wider, rfl, rfl⟩)
    case isFalse narrower =>
      split at entered
      · cases entered
      · rename_i here
        split at entered <;> cases entered
        exact .inr (.inr ⟨by omega, rfl, by simpa using here, rfl⟩)

theorem unwind_deep {c : Columns} (front : List Columns) (deep : clauseMargin.wide ≤ c.wide) :
    ∃ gone kept, front = gone ++ kept ∧
      unwind c (front ++ [clauseMargin]) = (kept ++ [clauseMargin], gone.length) := by
  induction front with
  | nil => exact ⟨[], [], rfl, if_neg (Nat.not_lt_of_le deep)⟩
  | cons m front ih =>
    by_cases wider : c.wide < m.wide
    · obtain ⟨gone, kept, rfl, later⟩ := ih
      refine ⟨m :: gone, kept, rfl, ?_⟩
      rw [List.cons_append, unwind, if_pos wider, later, List.length_cons]
    · exact ⟨[], m :: front, rfl, if_neg wider⟩

theorem unwind_clause (wide : ∀ m ∈ front, 8 ≤ m.wide) :
    unwind clauseMargin (front ++ [clauseMargin]) = ([clauseMargin], front.length) := by
  induction front with
  | nil => rfl
  | cons m front ih =>
    have wider : clauseMargin.wide < m.wide :=
      Nat.lt_of_lt_of_le (by decide) (wide m List.mem_cons_self)
    have later := ih fun m' member => wide m' (List.mem_cons_of_mem m member)
    rw [List.cons_append, unwind, if_pos wider, later, List.length_cons]

theorem enter_margin_clause (margins : s.margins = front ++ [clauseMargin])
    (wide : ∀ m ∈ front, 8 ≤ m.wide) :
    enterMargin s clauseMargin = .ok ({ s with margins := [clauseMargin] },
      List.replicate front.length (s.token .dedent)) := by
  unfold enterMargin
  dsimp only
  rw [margins, unwind_clause wide]
  cases front with
  | nil =>
    have top : s.margin = clauseMargin := by rw [State.margin, margins]; rfl
    have alone : [clauseMargin] = s.margins := margins.symm
    rw [top, if_pos rfl, if_pos rfl, alone]
    rfl
  | cons m front =>
    have top : s.margin = m := by rw [State.margin, margins]; rfl
    have wider : clauseMargin.wide < s.margin.wide :=
      Nat.lt_of_lt_of_le (by decide) (top ▸ wide m List.mem_cons_self)
    rw [if_neg (Nat.ne_of_lt wider), if_neg (Nat.not_lt_of_lt wider)]
    rfl

set_option maxRecDepth 8000 in
/-- At the start of a line, the clause closes the blocks of the code. -/
theorem scanned_clause (outside : s.brackets = []) (margins : s.margins = front ++ [clauseMargin])
    (wide : ∀ m ∈ front, 8 ≤ m.wide) : scanned true s writeBack =
      List.replicate front.length (s.token .dedent) ++ closingTokens s.line := by
  have margin : marginFrom {} writeBack = (clauseMargin, 'f' :: writeBack.drop 5) := rfl
  have rest : scan (measure true writeBack) false { s with margins := [clauseMargin] }
      ('f' :: writeBack.drop 5) = closingTokens s.line := by
    obtain ⟨line, brackets, all⟩ := s
    obtain rfl : brackets = [] := outside
    rfl
  rw [scanned, scan_start_entered margin (enter_margin_clause margins wide) (by decide)
    (by decide), ← rest]

set_option maxRecDepth 8000 in
theorem scanned_clause_inside (inside : s.brackets ≠ []) :
    (scanned false s writeBack).any Parse.isFault = true := by
  obtain ⟨line, brackets, margins⟩ := s
  obtain ⟨b, outer, rfl⟩ := List.exists_cons_of_ne_nil inside
  rfl

set_option maxRecDepth 8000 in
theorem no_indent_below {m : Columns} (top : s.margin = m) (wide : 8 ≤ m.wide) :
    ∀ t ∈ (scanned true s (writeBack.drop 13)).head?, t.lexeme ≠ .indent := by
  have margin : marginFrom {} (writeBack.drop 13) = (⟨8, 8⟩, '_' :: writeBack.drop 22) := rfl
  rw [scanned]
  cases entered : enterMargin s ⟨8, 8⟩ with
  | error e =>
    rw [scan_start_stuck margin entered (by decide) (by decide)]
    rintro _ ⟨⟩ ⟨⟩
  | ok found =>
    obtain ⟨s', tokens⟩ := found
    have word : ∃ ts, scan (measure true (writeBack.drop 13)) false s' ('_' :: writeBack.drop 22) =
        s'.token (.name localsName) :: ts := ⟨_, rfl⟩
    obtain ⟨ts, later⟩ := word
    rw [scan_start_entered margin entered (by decide) (by decide), later]
    rcases enter_margin_cases entered with ⟨-, -, rfl⟩ | ⟨wider, -, -⟩ | ⟨-, -, -, rfl⟩
    · rintro _ ⟨⟩ ⟨⟩
    · rw [top] at wider
      exact absurd wider (Nat.not_lt_of_le wide)
    · cases (unwind ⟨8, 8⟩ s.margins).2 <;> rintro _ ⟨⟩ ⟨⟩

/-- After a backslash, the clause is a part of its line, and nothing stands below it. -/
theorem scanned_clause_glued (outside : s.brackets = []) :
    scanned false s writeBack = s.token (.name "finally") :: s.token (.symbol [':']) ::
      s.token .lineEnd :: scanned true s.nextLine (writeBack.drop 13) := by
  have whole : writeBack = ' ' :: ' ' :: ' ' :: ' ' :: ("finally".toList ++
      ':' :: '\n' :: writeBack.drop 13) := rfl
  conv_lhs => rw [whole]
  rw [scanned_blank, scanned_blank, scanned_blank, scanned_blank,
    scanned_name ':' (by decide) (by decide), scanned_colon outside]

end

/-- Where code is scanned. Some of it is left, and the blocks around have the margins of the code
and that of the clause. A line that starts is outside of brackets, and all lines that are left are
deep; after the start of a line, the code has opened its first block. -/
structure Stands (code : Text) (fresh : Bool) (s : State) (front : List Columns) (u : Text) :
    Prop where
  part : u <:+ code
  margins : s.margins = front ++ [clauseMargin]
  wide : ∀ m ∈ front, 8 ≤ m.wide
  atStart : fresh = true → s.brackets = [] ∧ Deep u
  inLine : fresh = false → front ≠ []

section

variable {code u : Text} {s s' : State} {front : List Columns} {fuel : Nat} {fresh : Bool}
  {c : Columns} {d : Char} {t rest : Text}

theorem feed_of_suffix (ended : code.getLast? = some '\n') (part : u <:+ code) (some : u ≠ []) :
    '\n' ∈ u := by
  obtain ⟨front, rfl⟩ := part
  rw [List.getLast?_append_of_ne_nil _ some] at ended
  exact List.mem_of_getLast? ended

theorem leads_of_stuck {n : Nat} {e : CodeError} : Leads n (s.stuck e) :=
  .broken List.mem_cons_self rfl

theorem leads_of_fault {n : Nat} {message : Text} : Leads n (s.fault message) :=
  .broken List.mem_cons_self rfl

theorem leads_clause (h : Stands code fresh s front []) :
    Leads front.length (scanned fresh s writeBack) := by
  cases fresh with
  | true =>
    rw [scanned_clause (h.atStart rfl).1 h.margins h.wide]
    exact leads_dedents _ _ _
  | false =>
    obtain ⟨m, more, rfl⟩ := List.exists_cons_of_ne_nil (h.inLine rfl)
    by_cases outside : s.brackets = []
    · have top : s.nextLine.margin = m := by
        change s.margin = m
        rw [State.margin, h.margins]
        rfl
      have below := no_indent_below top (h.wide m List.mem_cons_self)
      have bare : Parse.opensBlock (s.token .lineEnd ::
          scanned true s.nextLine (writeBack.drop 13)) = false := by
        generalize scanned true s.nextLine (writeBack.drop 13) = ts at below
        unfold Parse.opensBlock
        split
        · rename_i same
          cases same
          exact absurd rfl (below _ rfl)
        · rfl
        · rename_i other
          exact absurd rfl (other _ _)
      rw [scanned_clause_glued outside]
      exact .glued bare
    · obtain ⟨t, member, fault⟩ := List.any_eq_true.mp (scanned_clause_inside outside)
      exact .broken member fault

theorem margin_from_in_code {t : Text} (k : Columns) (feed : '\n' ∈ u) : ∃ c d more,
    marginFrom k u = (c, d :: more) ∧ marginFrom k (u ++ t) = (c, d :: (more ++ t)) ∧
      d :: more <:+ u ∧ d ≠ ' ' ∧ d ≠ '\t' ∧ d ≠ '\x0c' := by
  induction u generalizing k with
  | nil => cases feed
  | cons e u ih =>
    by_cases margin : e = ' ' ∨ e = '\t' ∨ e = '\x0c'
    · have later : '\n' ∈ u := by
        rcases List.mem_cons.mp feed with rfl | inside
        · exact absurd margin (by decide)
        · exact inside
      rcases margin with rfl | rfl | rfl <;>
      · obtain ⟨c, d, more, alone, whole, part, apart⟩ := ih _ later
        exact ⟨c, d, more, alone, whole, part.trans (List.suffix_cons _ _), apart⟩
    · simp only [not_or] at margin
      obtain ⟨space, tab, form⟩ := margin
      exact ⟨k, e, u, margin_from_other space tab form, margin_from_other space tab form,
        List.suffix_rfl, space, tab, form⟩

theorem unprintable_of_blank (blank : isBlank d = true) (space : d ≠ ' ')
    (starts : startsName d = false) : isPrintable d = false := by
  have unprintables : ∀ n ∈ List.range' 9 5 ++ List.range' 28 4,
      CodePoints.insideAt unprintable.changes n = true := by decide
  have low : d.toNat < 128 := by
    by_contra high
    rw [Bool.eq_false_iff, ne_eq, starts_name_iff] at starts
    omega
  have other : d.toNat ≠ 32 := fun same => space (Char.toNat_inj.mp same)
  rw [isPrintable, CodePoints.contains, unprintables, Bool.not_true]
  simp only [isBlank, Bool.or_eq_true, Bool.and_eq_true, decide_eq_true_eq, beq_iff_eq] at blank
  simp only [List.mem_append, List.mem_range'_1]
  omega

theorem scan_blank_sign (blank : isBlank d = true)
    (other : d ≠ ' ' ∧ d ≠ '\t' ∧ d ≠ '\x0c' ∧ d ≠ '\n') :
    ∃ message, scan (fuel + 1) false s (d :: t) = s.fault message := by
  obtain ⟨space, tab, form, feed⟩ := other
  have visible : (d :: t).dropWhile (fun c => c == ' ' || c == '\t' || c == '\x0c') = d :: t := by
    rw [List.dropWhile_cons_of_neg]
    simp [space, tab, form]
  have apart (e : Char) (filled : isBlank e = false) : d ≠ e := by
    rintro rfl
    rw [blank] at filled
    cases filled
  have quotes : ¬(decide (d = '\'') || decide (d = '"')) = true := by
    simp [apart '\'' rfl, apart '"' rfl]
  have digit : ¬isDigit d = true := by
    rw [is_digit_iff]
    simp only [isBlank, Bool.or_eq_true, Bool.and_eq_true, decide_eq_true_eq, beq_iff_eq] at blank
    omega
  have word (t : Text) : isIdentifier (d :: t) = false := by
    rw [isIdentifier, (apart_from_identifiers (.inl blank)).1, Bool.false_and]
  rw [scan.eq_def]
  dsimp only
  rw [visible]
  split
  · contradiction
  · rename_i same
    exact absurd (List.cons.inj same).1 (apart '#' rfl)
  · rename_i same
    exact absurd (List.cons.inj same).1 feed
  · rename_i same
    exact absurd (List.cons.inj same).1 (apart '\\' rfl)
  · rename_i same
    exact absurd (List.cons.inj same).1 (apart '\\' rfl)
  · rename_i same
    cases same
    rw [if_neg quotes, if_neg digit]
    by_cases starts : startsName d = true
    · rw [if_pos starts, word, if_neg (by decide), firstInvalid?, List.nil_append, word,
        if_neg (by decide)]
      exact ⟨_, rfl⟩
    · rw [if_neg starts, unprintable_of_blank blank space (by simpa using starts)]
      exact ⟨_, rfl⟩

theorem stands_in_line {tokens : List Token} (margins : s.margins = front ++ [clauseMargin])
    (wide : ∀ m ∈ front, 8 ≤ m.wide) (deep : 8 ≤ c.wide)
    (entered : enterMargin s c = .ok (s', tokens)) :
    ∃ front', s'.margins = front' ++ [clauseMargin] ∧ (∀ m ∈ front', 8 ≤ m.wide) ∧ front' ≠ [] ∧
      ∀ {ts}, Leads front'.length ts → Leads front.length (tokens ++ ts) := by
  have deeper {s : State} {front : List Columns} (margins : s.margins = front ++ [clauseMargin])
      (same : c.wide = s.margin.wide) : front ≠ [] := by
    rintro rfl
    have top : s.margin = clauseMargin := by rw [State.margin, margins]; rfl
    rw [top] at same
    rw [same] at deep
    exact absurd deep (by decide)
  rcases enter_margin_cases entered with ⟨same, rfl, rfl⟩ | ⟨-, rfl, rfl⟩ | ⟨-, rfl, same, rfl⟩
  · exact ⟨front, margins, wide, deeper margins same, id⟩
  · refine ⟨c :: front, ?_, List.forall_mem_cons.mpr ⟨deep, wide⟩, List.cons_ne_nil _ _, .indent⟩
    rw [margins, List.cons_append]
  · obtain ⟨gone, kept, rfl, unwound⟩ := unwind_deep front (Nat.le_trans (by decide) deep)
    have kept_margins : (unwind c s.margins).1 = kept ++ [clauseMargin] := by rw [margins, unwound]
    have closed : (unwind c s.margins).2 = gone.length := by rw [margins, unwound]
    obtain ⟨m, more, rfl⟩ := List.exists_cons_of_ne_nil (deeper kept_margins same)
    refine ⟨m :: more, kept_margins, fun m' member => wide m' (List.mem_append_right _ member),
      List.cons_ne_nil _ _, fun leads => ?_⟩
    rw [closed, List.length_append]
    exact leads.dedents gone.length

theorem leads_start (h : Stands code true s front u) (ended : code.getLast? = some '\n')
    (some : u ≠ []) (next : ∀ {fresh s' front' r}, Stands code fresh s' front' r →
      measure fresh r < measure true u →
        Leads front'.length (scan (fuel + 1) fresh s' (r ++ writeBack))) :
    Leads front.length (scan (fuel + 2) true s (u ++ writeBack)) := by
  obtain ⟨outside, deep⟩ := h.atStart rfl
  obtain ⟨c, d, more, alone, whole, part, space, tab, form⟩ :=
    margin_from_in_code (t := writeBack) {} (feed_of_suffix ended h.part some)
  have inCode : '\n' ∈ d :: more :=
    feed_of_suffix ended (part.trans h.part) (List.cons_ne_nil _ _)
  have lines {r line : Text} (cut : d :: more = line ++ '\n' :: r) :
      Leads front.length (scan (fuel + 1) true s.nextLine (r ++ writeBack)) := by
    have below : '\n' :: r <:+ u := List.IsSuffix.trans ⟨line, cut.symm⟩ part
    have shorter : r.length < u.length := below.length_le
    obtain ⟨before, same⟩ := below
    refine next ⟨?_, h.margins, h.wide, fun _ => ⟨outside, deep.after_feed same.symm⟩, nofun⟩
      (measure_lt_start shorter)
    exact List.IsSuffix.trans ⟨before ++ ['\n'], by simp [← same]⟩ h.part
  by_cases feed : d = '\n'
  · subst feed
    rw [scan_start_feed whole]
    exact @lines _ [] rfl
  by_cases comment : d = '#'
  · subst comment
    obtain ⟨line, later, rfl, one⟩ := List.eq_append_cons_of_mem
      ((List.mem_cons.mp inCode).resolve_left (by decide))
    rw [scan_start_comment whole, List.append_assoc, List.cons_append, later_lines_line_feed _ one]
    exact @lines _ ('#' :: line) rfl
  cases entered : enterMargin s c with
  | error e =>
    rw [scan_start_stuck whole entered feed comment]
    exact leads_of_stuck
  | ok found =>
    obtain ⟨s', tokens⟩ := found
    rw [scan_start_entered whole entered feed comment]
    have ends := ends_deep_of_deep deep {}
    rw [alone] at ends
    rcases ends with blank | wide
    · have broken : ∃ message, scan (fuel + 1) false s' (d :: (more ++ writeBack)) =
          s'.fault message := scan_blank_sign (by simpa using blank) ⟨space, tab, form, feed⟩
      obtain ⟨message, broken⟩ := broken
      rw [broken]
      exact .broken (List.mem_append_right _ List.mem_cons_self) rfl
    · obtain ⟨front', margins, wide', opened, leads⟩ :=
        stands_in_line h.margins h.wide wide entered
      have stands : Stands code false s' front' (d :: more) :=
        ⟨part.trans h.part, margins, wide', nofun, fun _ => opened⟩
      have smaller : measure false (d :: more) < measure true u := by
        have shorter : (d :: more).length ≤ u.length := part.length_le
        simp only [measure, Bool.false_eq_true, if_false, if_true]
        omega
      exact leads (next stands smaller)

theorem scan_later_comment
    (visible : t.dropWhile (fun c => c == ' ' || c == '\t' || c == '\x0c') = '#' :: rest) :
    scan (fuel + 1) false s t = scan fuel false s (rest.dropWhile (· ≠ '\n')) := by
  rw [scan.eq_def]
  dsimp only
  rw [visible]
  rfl

theorem scan_later_feed
    (visible : t.dropWhile (fun c => c == ' ' || c == '\t' || c == '\x0c') = '\n' :: rest)
    (outside : s.brackets = []) :
    scan (fuel + 1) false s t = s.token .lineEnd :: scan fuel true s.nextLine rest := by
  rw [scan.eq_def]
  dsimp only
  rw [visible]
  exact if_pos (List.isEmpty_iff.mpr outside)

theorem scan_later_inside
    (visible : t.dropWhile (fun c => c == ' ' || c == '\t' || c == '\x0c') = '\n' :: rest)
    (inside : s.brackets ≠ []) : scan (fuel + 1) false s t = scan fuel false s.nextLine rest := by
  rw [scan.eq_def]
  dsimp only
  rw [visible]
  exact if_neg fun none => inside (List.isEmpty_iff.mp none)

theorem scan_later_glued
    (visible : t.dropWhile (fun c => c == ' ' || c == '\t' || c == '\x0c') = '\\' :: '\n' :: rest)
    (some : rest ≠ []) : scan (fuel + 1) false s t = scan fuel false s.nextLine rest := by
  rw [scan.eq_def]
  dsimp only
  rw [visible]
  exact if_neg fun none => some (List.isEmpty_iff.mp none)

theorem scan_later_backslash
    (visible : t.dropWhile (fun c => c == ' ' || c == '\t' || c == '\x0c') = '\\' :: d :: rest)
    (other : d ≠ '\n') : scan (fuel + 1) false s t =
      s.stuckAt "unexpected character after line continuation character" := by
  rw [scan.eq_def]
  dsimp only
  rw [visible]
  split
  case h_1 none => cases none
  case h_2 same => cases same
  case h_3 same => cases same
  case h_4 same => exact absurd (List.cons.inj (List.cons.inj same).2).1 other
  case h_5 => rfl
  case h_6 back same => exact (back (List.cons.inj same).1.symm).elim

theorem drop_while_in_code {p : Char → Bool} (feed : '\n' ∈ u) (stops : p '\n' = false) :
    ∃ c more, (u ++ t).dropWhile p = c :: (more ++ t) ∧ c :: more <:+ u := by
  have some : u.dropWhile p ≠ [] := by
    intro none
    rw [List.dropWhile_eq_nil_iff.mp none _ feed] at stops
    cases stops
  obtain ⟨c, more, rest⟩ := List.exists_cons_of_ne_nil some
  refine ⟨c, more, ?_, rest ▸ List.dropWhile_suffix p⟩
  rw [List.dropWhile_append, rest]
  rfl

theorem feed_not_mem_take_while {p : Char → Bool} (other : d ≠ '\n') (stops : p '\n' = false)
    (t : Text) : '\n' ∉ d :: t.takeWhile p := by
  intro member
  rcases List.mem_cons.mp member with same | inside
  · exact other same.symm
  · have goes := List.mem_takeWhile_imp inside
    rw [stops] at goes
    cases goes

theorem leads_item {n : Nat} {item : Char} {more : Text}
    (visible : t.dropWhile (fun c => c == ' ' || c == '\t' || c == '\x0c') =
      item :: (more ++ writeBack)) (feed : '\n' ∈ item :: more)
    (other : item ≠ '#' ∧ item ≠ '\n' ∧ item ≠ '\\')
    (next : ∀ {s' r}, r <:+ more → s'.margins = s.margins →
      Leads (n + 1) (scan fuel false s' (r ++ writeBack))) :
    Leads (n + 1) (scan (fuel + 1) false s t) := by
  obtain ⟨hash, line, back⟩ := other
  have word {token : Token} {p : Text} {s' : State} (starts : p <+: item :: (more ++ writeBack))
      (one : '\n' ∉ p) (margins : s'.margins = s.margins) (inLine : isLayout token.lexeme = false) :
      Leads (n + 1) (token :: scan fuel false s' ((more ++ writeBack).drop (p.length - 1))) := by
    obtain ⟨r, dropped, rest⟩ := drop_in_code starts one feed
    rw [dropped]
    exact .inLine inLine (next rest margins)
  have starts (p : Char → Bool) :
      item :: (more ++ writeBack).takeWhile p <+: item :: (more ++ writeBack) :=
    (List.prefix_cons_inj item).mpr (List.takeWhile_prefix p)
  rw [scan.eq_def]
  dsimp only
  rw [visible]
  split
  case h_1 none => cases none
  case h_2 same => exact absurd (List.cons.inj same).1 hash
  case h_3 same => exact absurd (List.cons.inj same).1 line
  case h_4 same => exact absurd (List.cons.inj same).1 back
  case h_5 same => exact absurd (List.cons.inj same).1 back
  case h_6 same =>
    obtain ⟨rfl, rfl⟩ := List.cons.inj same
    split
    · rename_i quote
      have noQuote : item ∉ writeBack := by
        simp only [Bool.or_eq_true, decide_eq_true_eq] at quote
        rcases quote with rfl | rfl <;> decide
      cases read : literal? item (more ++ writeBack) with
      | error message => exact leads_of_fault
      | ok parts =>
        obtain ⟨text, meaning, after⟩ := parts
        obtain ⟨r, rfl, rest⟩ := literal_in_code noQuote read
        exact .inLine rfl (next rest rfl)
    split
    · split
      · exact leads_of_fault
      · exact word (starts _) (feed_not_mem_take_while line rfl _) rfl rfl
    split
    · split
      · exact leads_of_fault
      · exact word (starts _) (feed_not_mem_take_while line rfl _) rfl rfl
    split
    · exact leads_of_fault
    · cases entered : enterSymbol s (symbolAt item (more ++ writeBack)) with
      | error message => exact leads_of_fault
      | ok s' =>
        exact word (symbol_at_starts item _) (feed_not_mem_symbol_at _ line)
          (margins_of_enter_symbol entered) rfl

theorem leads_later (deep : Deep code) (ended : code.getLast? = some '\n')
    (h : Stands code false s front u) (some : u ≠ [])
    (next : ∀ {fresh s' front' r}, Stands code fresh s' front' r →
      measure fresh r < measure false u →
        Leads front'.length (scan fuel fresh s' (r ++ writeBack))) :
    Leads front.length (scan (fuel + 1) false s (u ++ writeBack)) := by
  obtain ⟨m, outer, rfl⟩ := List.exists_cons_of_ne_nil (h.inLine rfl)
  obtain ⟨item, more, visible, part⟩ := drop_while_in_code (t := writeBack)
    (p := fun c => c == ' ' || c == '\t' || c == '\x0c') (feed_of_suffix ended h.part some) rfl
  have here : item :: more <:+ code := part.trans h.part
  have feed : '\n' ∈ item :: more := feed_of_suffix ended here (List.cons_ne_nil _ _)
  have inside {r : Text} {s' : State} (rest : r <:+ more) (margins : s'.margins = s.margins) :
      Leads (outer.length + 1) (scan fuel false s' (r ++ writeBack)) := by
    have stands : Stands code false s' (m :: outer) r :=
      ⟨rest.trans ((List.suffix_cons item more).trans here), margins.trans h.margins, h.wide,
        nofun, h.inLine⟩
    exact next stands (measure_lt_later (Nat.lt_of_le_of_lt rest.length_le part.length_le))
  by_cases hash : item = '#'
  · subst hash
    obtain ⟨d, later, dropped, rest⟩ := drop_while_in_code (t := writeBack) (p := (· ≠ '\n'))
      ((List.mem_cons.mp feed).resolve_left (by decide)) (by decide)
    rw [scan_later_comment visible, dropped]
    exact inside rest rfl
  by_cases line : item = '\n'
  · subst line
    by_cases outside : s.brackets = []
    · obtain ⟨before, whole⟩ := here
      have stands : Stands code true s.nextLine (m :: outer) more :=
        ⟨(List.suffix_cons _ more).trans ⟨before, whole⟩, h.margins, h.wide,
          fun _ => ⟨outside, deep.after_feed whole.symm⟩, nofun⟩
      rw [scan_later_feed visible outside]
      exact .inLine rfl (next stands (measure_lt_later part.length_le))
    · rw [scan_later_inside visible outside]
      exact inside List.suffix_rfl rfl
  by_cases back : item = '\\'
  · subst back
    obtain ⟨d, later, rfl⟩ := List.exists_cons_of_ne_nil (List.ne_nil_of_mem
      ((List.mem_cons.mp feed).resolve_left (by decide)))
    by_cases glued : d = '\n'
    · subst glued
      have some : later ++ writeBack ≠ [] := fun none =>
        absurd (List.append_eq_nil_iff.mp none).2 (by decide)
      rw [scan_later_glued visible some]
      exact inside (List.suffix_cons _ later) rfl
    · rw [scan_later_backslash visible glued]
      exact leads_of_stuck
  exact leads_item visible feed ⟨hash, line, back⟩ inside

theorem leads_of_stands (deep : Deep code) (ended : code.getLast? = some '\n')
    (enough : measure fresh (u ++ writeBack) < fuel) (h : Stands code fresh s front u) :
    Leads front.length (scan fuel fresh s (u ++ writeBack)) := by
  induction fuel generalizing fresh s front u with
  | zero => exact absurd enough (Nat.not_lt_zero _)
  | succ fuel ih =>
    by_cases none : u = []
    · subst none
      rw [List.nil_append] at enough ⊢
      rw [scan_eq_scanned enough]
      exact leads_clause h
    have next {fresh' s' front' r} (stands : Stands code fresh' s' front' r)
        (smaller : measure fresh' r < measure fresh u) :
        Leads front'.length (scan fuel fresh' s' (r ++ writeBack)) := by
      refine ih ?_ stands
      simp only [measure, List.length_append] at smaller enough ⊢
      omega
    cases fresh with
    | true =>
      obtain _ | fuel := fuel
      · simp [measure] at enough
      · exact leads_start h ended none next
    | false => exact leads_later deep ended h none next

/-- The tokens of code and of the clause lead to the clause. -/
theorem leads_code (line : Nat) (deep : Deep code) (ended : code.getLast? = some '\n') :
    Leads 0 (scanned true { line := line, margins := [clauseMargin] } (code ++ writeBack)) := by
  have stands : Stands code true { line := line, margins := [clauseMargin] } [] code :=
    ⟨List.suffix_rfl, rfl, nofun, fun _ => ⟨rfl, deep⟩, nofun⟩
  exact leads_of_stands deep ended (Nat.lt_succ_self _) stands

end

end EmbeddedTests.Snippet.Lexer
