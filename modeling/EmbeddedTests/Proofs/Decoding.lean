import EmbeddedTests.Text.Utf8

/-!
# Decoding in pieces

A reader that has taken some bytes is between characters or within a sequence. Where it is decides
what it makes of the bytes that follow, so bytes that are well-formed as a whole give the same text
in whatever pieces they are read.
-/
namespace EmbeddedTests.Text

/-- The characters that a byte completes, and where the reader is after it; none if the byte cannot
stand there. -/
def readByte? : Option Started → UInt8 → Option (Text × Option Started)
  | none, b =>
    if b < 0x80 then some ([Char.ofNat b.toNat], none)
    else (started? b).map fun s => ([], some s)
  | some s, b =>
    let n := b.toNat
    if s.low ≤ n ∧ n ≤ s.high then
      let value := s.value * 0x40 + (n - 0x80)
      match s.later with
      | 0 => some ([Char.ofNat value], none)
      | later + 1 => some ([], some ⟨b :: s.taken, later, 0x80, 0xbf, value⟩)
    else none

/-- Bytes read from one place to another, with the text that they give. -/
inductive Reads : Option Started → Bytes → Text → Option Started → Prop where
  | done (place) : Reads place [] [] place
  | byte {place next last b t rest u} (read : readByte? place b = some (t, next))
      (later : Reads next rest u last) : Reads place (b :: rest) (t ++ u) last

def heldBack : Option Started → Bytes
  | none => []
  | some s => s.taken.reverse

theorem started_taken {b : UInt8} {s : Started} (h : started? b = some s) : s.taken = [b] := by
  unfold started? at h
  dsimp only at h
  repeat' split at h
  all_goals cases h <;> rfl

theorem decode_from_of_read {place next : Option Started} {b : UInt8} {t : Text}
    (read : readByte? place b = some (t, next)) (position : Nat) (rest : Bytes) :
    decodeFrom position place (b :: rest) =
      (decodeFrom (position + 1) next rest).map fun (u, cut) => (t ++ u, cut) := by
  have same (x : Except Utf8Error (Text × Bytes)) : x = x.map fun (u, cut) => ([] ++ u, cut) := by
    cases x <;> rfl
  cases place with
  | none =>
    simp only [readByte?] at read
    split at read
    · rename_i ascii
      cases read
      simp only [decodeFrom, ascii, if_true]
      rfl
    · rename_i wide
      obtain ⟨s, begun, parts⟩ := Option.map_eq_some_iff.mp read
      cases parts
      simp only [decodeFrom, wide, if_false, begun]
      exact same _
  | some s =>
    simp only [readByte?] at read
    split at read
    · rename_i within
      simp only [decodeFrom, within, and_self, if_true]
      cases left : s.later with
      | zero =>
        rw [left] at read
        cases read
        rfl
      | succ later =>
        rw [left] at read
        cases read
        exact same _
    · cases read

theorem decode_from_of_unread {place : Option Started} {b : UInt8}
    (read : readByte? place b = none) (position : Nat) (rest : Bytes) :
    ∃ e, decodeFrom position place (b :: rest) = .error e := by
  cases place with
  | none =>
    simp only [readByte?] at read
    split at read
    · cases read
    · rename_i wide
      have none : started? b = none := by simpa using read
      simp [decodeFrom, wide, none]
  | some s =>
    simp only [readByte?] at read
    split at read
    · split at read <;> cases read
    · rename_i outside
      simp [decodeFrom, outside]

theorem decode_from_ok_iff {position : Nat} {place : Option Started} {bytes cut : Bytes} {t : Text} :
    decodeFrom position place bytes = .ok (t, cut) ↔
      ∃ last, Reads place bytes t last ∧ heldBack last = cut := by
  induction bytes generalizing position place t with
  | nil =>
    constructor
    · intro h
      refine ⟨place, ?_⟩
      cases place <;> cases h <;> exact ⟨.done _, rfl⟩
    · rintro ⟨last, ⟨⟩, rfl⟩
      cases place <;> rfl
  | cons b rest ih =>
    cases read : readByte? place b with
    | none =>
      obtain ⟨e, failed⟩ := decode_from_of_unread read position rest
      rw [failed]
      constructor
      · intro h
        cases h
      · rintro ⟨last, reads, -⟩
        cases reads with
        | byte done _ =>
          rw [read] at done
          cases done
    | some first =>
      obtain ⟨u, next⟩ := first
      rw [decode_from_of_read read]
      constructor
      · intro h
        rcases later : decodeFrom (position + 1) next rest with e | ⟨v, tail⟩
        · rw [later] at h
          cases h
        · rw [later] at h
          cases h
          obtain ⟨last, reads, held⟩ := ih.mp later
          exact ⟨last, .byte read reads, held⟩
      · rintro ⟨last, reads, held⟩
        cases reads with
        | byte done reads =>
          rw [read] at done
          cases done
          rw [ih.mpr ⟨last, reads, held⟩]
          rfl

theorem Reads.append {place mid last : Option Started} {a b : Bytes} {t u : Text}
    (h : Reads place a t mid) (k : Reads mid b u last) : Reads place (a ++ b) (t ++ u) last := by
  induction h with
  | done => exact k
  | byte read _ ih =>
    rw [List.append_assoc]
    exact .byte read (ih k)

theorem Reads.split {place last : Option Started} {a b : Bytes} {t : Text}
    (h : Reads place (a ++ b) t last) :
    ∃ u mid v, Reads place a u mid ∧ Reads mid b v last ∧ t = u ++ v := by
  induction a generalizing place t with
  | nil => exact ⟨[], place, t, .done place, h, rfl⟩
  | cons byte rest ih =>
    cases h with
    | byte read later =>
      obtain ⟨u, mid, v, front, back, rfl⟩ := ih later
      exact ⟨_, mid, v, .byte read front, back, (List.append_assoc _ _ _).symm⟩

def Regained (place : Option Started) : Prop := Reads none (heldBack place) [] place

theorem regained_between : Regained none := .done none

theorem read_byte_regained {place next : Option Started} {b : UInt8} {t : Text}
    (h : Regained place) (read : readByte? place b = some (t, next)) : Regained next := by
  have again : Reads none (heldBack place ++ [b]) (t ++ []) next :=
    h.append (.byte read (.done next))
  cases place with
  | none =>
    simp only [readByte?] at read
    split at read
    · cases read
      exact regained_between
    · obtain ⟨s, begun, parts⟩ := Option.map_eq_some_iff.mp read
      cases parts
      simpa [Regained, heldBack, started_taken begun] using again
  | some s =>
    simp only [readByte?] at read
    split at read
    · split at read
      · cases read
        exact regained_between
      · cases read
        simpa [Regained, heldBack] using again
    · cases read

theorem Reads.regained {place last : Option Started} {bytes : Bytes} {t : Text}
    (h : Regained place) (k : Reads place bytes t last) : Regained last := by
  induction k with
  | done => exact h
  | byte read _ ih => exact ih (read_byte_regained h read)

theorem held_back_eq_nil {place : Option Started} (h : Regained place) (none : heldBack place = []) :
    place = .none := by
  unfold Regained at h
  rw [none] at h
  cases h
  rfl

theorem decode_utf8_ok_iff {bytes : Bytes} {t : Text} :
    decodeUtf8 bytes = .ok t ↔ Reads none bytes t none := by
  unfold decodeUtf8
  constructor
  · intro h
    split at h
    · cases h
    · rename_i whole
      cases h
      obtain ⟨last, reads, held⟩ := decode_from_ok_iff.mp whole
      rwa [held_back_eq_nil (reads.regained regained_between) held] at reads
    · cases h
  · intro reads
    rw [decode_from_ok_iff.mpr ⟨none, reads, rfl⟩]
    rfl

theorem decode_pieces_of_reads {place : Option Started} {pieces : List Bytes} {t : Text}
    (h : Regained place) (whole : Reads place pieces.flatten t none) :
    decodePieces (heldBack place) pieces = .ok t := by
  induction pieces generalizing place t with
  | nil =>
    cases whole
    rfl
  | cons piece later ih =>
    obtain ⟨u, mid, v, front, back, rfl⟩ := whole.split
    have read : decodePiece (heldBack place ++ piece) = .ok (u, heldBack mid) := by
      rw [decodePiece, decode_from_ok_iff.mpr ⟨mid, h.append front, rfl⟩]
      rfl
    rw [decodePieces, read]
    change (decodePieces (heldBack mid) later).map (u ++ ·) = _
    rw [ih (front.regained h) back]
    rfl

theorem pieces_of_flatten (bytes : Bytes) : (piecesOf bytes).flatten = bytes := by
  induction bytes using piecesOf.induct with
  | case1 => simp [piecesOf]
  | case2 bytes some ih =>
    rw [piecesOf, if_neg some, List.flatten_cons, ih, List.take_append_drop]

/-- Well-formed bytes give the same text in pieces. -/
theorem decode_in_pieces_of_decode_utf8 {bytes : Bytes} {t : Text} (h : decodeUtf8 bytes = .ok t) :
    decodeInPieces bytes = .ok t := by
  have reads : Reads none (piecesOf bytes).flatten t none := by
    rw [pieces_of_flatten]
    exact decode_utf8_ok_iff.mp h
  exact decode_pieces_of_reads regained_between reads

end EmbeddedTests.Text
