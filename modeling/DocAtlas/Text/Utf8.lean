-- SUMMARY: UTF-8 bytes of text, strict reading of bytes, and reading that replaces what is malformed.

/-! # UTF-8

`encode` writes text as bytes. `lossy` reads any bytes: each maximal part of a
malformed sequence becomes one replacement character, so reading what `encode`
wrote gives the text back. `strict?` refuses malformed bytes. -/

namespace DocAtlas.Text.Utf8

def encode (cs : List Char) : List UInt8 := cs.flatMap String.utf8EncodeChar

/-- Stands for a part of the input that is not UTF-8. -/
def replacement : Char := Char.ofNat 0xFFFD

/-- The number of bytes after the lead byte `b`, and the range of the first of them;
`none` when no sequence starts with `b`. -/
def lead? (b : UInt8) : Option (Nat × UInt8 × UInt8) :=
  if 0xC2 ≤ b && b ≤ 0xDF then some (1, 0x80, 0xBF)
  else if b == 0xE0 then some (2, 0xA0, 0xBF)
  else if b == 0xED then some (2, 0x80, 0x9F)
  else if 0xE1 ≤ b && b ≤ 0xEF then some (2, 0x80, 0xBF)
  else if b == 0xF0 then some (3, 0x90, 0xBF)
  else if 0xF1 ≤ b && b ≤ 0xF3 then some (3, 0x80, 0xBF)
  else if b == 0xF4 then some (3, 0x80, 0x8F)
  else none

/-- The payload of a lead byte with `n` bytes after it. -/
def leadPayload (n : Nat) (b : UInt8) : Nat :=
  match n with
  | 1 => b.toNat % 32
  | 2 => b.toNat % 16
  | _ => b.toNat % 8

/-- Reads `n` more bytes of a sequence whose payload so far is `acc`; the first of them has to lie
between `lo` and `hi`. Gives the character, or nothing where the sequence breaks off, and the
bytes that are left. -/
def continue? : (n : Nat) → (lo hi : UInt8) → (acc : Nat) → List UInt8 → Option Char × List UInt8
  | 0, _, _, acc, bytes => (some (Char.ofNat acc), bytes)
  | _ + 1, _, _, _, [] => (none, [])
  | n + 1, lo, hi, acc, b :: bytes =>
    if lo ≤ b && b ≤ hi then continue? n 0x80 0xBF (acc * 64 + b.toNat % 64) bytes
    else (none, b :: bytes)

theorem continue?_length (n : Nat) (lo hi : UInt8) (acc : Nat) (bytes : List UInt8) :
    (continue? n lo hi acc bytes).2.length ≤ bytes.length := by
  induction n generalizing lo hi acc bytes with
  | zero => simp [continue?]
  | succ n ih =>
    cases bytes with
    | nil => simp [continue?]
    | cons b bytes =>
      simp only [continue?]
      split
      · exact Nat.le_trans (ih _ _ _ _) (Nat.le_succ _)
      · simp

/-- One character off the front of the bytes, `none` for a malformed part. -/
def next (b : UInt8) (bytes : List UInt8) : Option Char × List UInt8 :=
  if b < 0x80 then (some (Char.ofNat b.toNat), bytes)
  else match lead? b with
    | none => (none, bytes)
    | some (n, lo, hi) => continue? n lo hi (leadPayload n b) bytes

theorem next_length (b : UInt8) (bytes : List UInt8) :
    (next b bytes).2.length ≤ bytes.length := by
  simp only [next]
  split
  · simp
  · split
    · simp
    · exact continue?_length _ _ _ _ _

/-- Reads any bytes, with a replacement character for each malformed part. -/
def lossy : List UInt8 → List Char
  | [] => []
  | b :: bytes =>
    (next b bytes).1.getD replacement :: lossy (next b bytes).2
termination_by bytes => bytes.length
decreasing_by
  have := next_length b bytes
  simp only [List.length_cons]
  omega

/-- Reads bytes that are UTF-8 throughout. -/
def strict? : List UInt8 → Option (List Char)
  | [] => some []
  | b :: bytes =>
    match (next b bytes).1 with
    | none => none
    | some c => (strict? (next b bytes).2).map (c :: ·)
termination_by bytes => bytes.length
decreasing_by
  have := next_length b bytes
  simp only [List.length_cons]
  omega

end DocAtlas.Text.Utf8
