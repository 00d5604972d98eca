import EmbeddedTests.Text
/-!
Texts as bytes. Decoding takes the well-formed sequences of one to four bytes and says of the
first other one where it is and why it is none.

A reader that takes a file in pieces keeps a sequence that a piece cuts off for the next piece, and
counts positions from the start of what it has at hand.
-/
namespace EmbeddedTests.Text

abbrev Bytes := List UInt8

inductive Utf8Fault where
  /-- No sequence starts with the byte. -/
  | badStart
  /-- The next byte does not continue the sequence. -/
  | badContinuation
  /-- The bytes end within the sequence. -/
  | cutOff
  deriving DecidableEq, Repr

def Utf8Fault.reason : Utf8Fault → Text
  | badStart => "invalid start byte"
  | badContinuation => "invalid continuation byte"
  | cutOff => "unexpected end of data"

structure Utf8Error where
  fault : Utf8Fault
  start : Nat
  /-- The bytes that are no character. -/
  bytes : Bytes
  deriving DecidableEq, Repr

def byteDigits (b : UInt8) : Text := "0x" ++ padLeft 2 '0' (Nat.toDigits 16 b.toNat)

def Utf8Error.message (e : Utf8Error) : Text :=
  let place : Text := match e.bytes with
    | [b] => "byte " ++ byteDigits b ++ " in position " ++ ofNat e.start
    | bytes => "bytes in position " ++ ofNat e.start ++ "-" ++ ofNat (e.start + bytes.length - 1)
  "'utf-8' codec can't decode " ++ place ++ ": " ++ e.fault.reason

/-- A sequence of which some bytes are read. -/
structure Started where
  /-- Its bytes so far, the latest first. -/
  taken : Bytes
  /-- How many bytes follow the next one. -/
  later : Nat
  /-- The range of the next byte. -/
  low : Nat
  high : Nat
  /-- The code point as far as it is known. -/
  value : Nat

/-- The sequence of more than one byte that starts with the byte. The second byte's range leaves
out longer forms of lower code points, surrogates, and what is above the last code point. -/
def started? (b : UInt8) : Option Started :=
  let n := b.toNat
  let sequence (later low high value : Nat) : Option Started :=
    some ⟨[b], later, low, high, value⟩
  if 0xc2 ≤ n ∧ n ≤ 0xdf then sequence 0 0x80 0xbf (n - 0xc0)
  else if n = 0xe0 then sequence 1 0xa0 0xbf 0
  else if n = 0xed then sequence 1 0x80 0x9f 0xd
  else if 0xe1 ≤ n ∧ n ≤ 0xef then sequence 1 0x80 0xbf (n - 0xe0)
  else if n = 0xf0 then sequence 2 0x90 0xbf 0
  else if n = 0xf4 then sequence 2 0x80 0x8f 4
  else if 0xf1 ≤ n ∧ n ≤ 0xf3 then sequence 2 0x80 0xbf (n - 0xf0)
  else none

def decodeFrom (position : Nat) : Option Started → Bytes → Except Utf8Error (Text × Bytes)
  | none, [] => .ok ([], [])
  | some s, [] => .ok ([], s.taken.reverse)
  | none, b :: rest =>
    if b < 0x80 then
      (decodeFrom (position + 1) none rest).map fun (t, cut) => (Char.ofNat b.toNat :: t, cut)
    else
      match started? b with
      | none => .error ⟨.badStart, position, [b]⟩
      | some s => decodeFrom (position + 1) (some s) rest
  | some s, b :: rest =>
    let n := b.toNat
    if s.low ≤ n ∧ n ≤ s.high then
      let value := s.value * 0x40 + (n - 0x80)
      match s.later with
      | 0 => (decodeFrom (position + 1) none rest).map fun (t, cut) => (Char.ofNat value :: t, cut)
      | later + 1 =>
        decodeFrom (position + 1) (some ⟨b :: s.taken, later, 0x80, 0xbf, value⟩) rest
    else .error ⟨.badContinuation, position - s.taken.length, s.taken.reverse⟩

def decodeUtf8 (bytes : Bytes) : Except Utf8Error Text :=
  match decodeFrom 0 none bytes with
  | .error e => .error e
  | .ok (t, []) => .ok t
  | .ok (_, cut) => .error ⟨.cutOff, bytes.length - cut.length, cut⟩

def encodeUtf8 (t : Text) : Bytes := t.flatMap String.utf8EncodeChar

/-- Is the error a surrogate whose last byte has not been read? Whether that is an error is only
decided with its last byte. -/
def isHalfSurrogate (e : Utf8Error) (bytes : Bytes) : Bool :=
  e.bytes == [0xed] &&
    match bytes.drop (e.start + 1) with
    | [b] => 0xa0 ≤ b && b ≤ 0xbf
    | _ => false

def decodePiece (bytes : Bytes) : Except Utf8Error (Text × Bytes) :=
  match decodeFrom 0 none bytes with
  | .ok decoded => .ok decoded
  | .error e =>
    if isHalfSurrogate e bytes then
      (decodeFrom 0 none (bytes.take e.start)).map fun (t, _) => (t, bytes.drop e.start)
    else .error e

def decodePieces (kept : Bytes) : List Bytes → Except Utf8Error Text
  | [] => decodeUtf8 kept
  | piece :: later => do
    let (t, kept) ← decodePiece (kept ++ piece)
    return t ++ (← decodePieces kept later)

def pieceSize : Nat := 8192

def piecesOf (bytes : Bytes) : List Bytes :=
  if bytes = [] then [] else bytes.take pieceSize :: piecesOf (bytes.drop pieceSize)
termination_by bytes.length
decreasing_by
  have := List.length_pos_iff.2 ‹bytes ≠ []›
  simp only [List.length_drop, pieceSize]
  omega

def decodeInPieces (bytes : Bytes) : Except Utf8Error Text := decodePieces [] (piecesOf bytes)

end EmbeddedTests.Text
