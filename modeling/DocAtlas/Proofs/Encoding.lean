-- SUMMARY: Text is read back from its UTF-8 bytes, which have its order, and from its percent-encoded forms.
import DocAtlas.Text.Percent
import Mathlib.Algebra.Group.Nat.Defs
import Mathlib.Data.List.Basic

/-! # Reading encoded text

The UTF-8 bytes of a text are read as that text, and so is every percent-encoded
form of it in which no `%` stands for itself. In any text, a single character may
be written as a triplet unless it is a digit of one already. Texts are in the
order of their bytes, since of two characters the smaller one has the smaller lead
byte, or the same and then smaller bytes behind it. -/

namespace DocAtlas.Text

namespace Utf8

/-! ## Sequences of bytes -/

/-- The byte of a sequence that holds the last six bits of a number. -/
def tail (n : Nat) : UInt8 := UInt8.ofNat (n % 64 + 0x80)

theorem toNat_tail (n : Nat) : (tail n).toNat = n % 64 + 0x80 := by
  rw [tail, UInt8.toNat_ofNat']
  omega

theorem continue?_tail {n acc v : Nat} {lo hi : UInt8} (rest : List UInt8)
    (hlo : lo.toNat ≤ v % 64 + 0x80) (hhi : v % 64 + 0x80 ≤ hi.toNat) :
    continue? (n + 1) lo hi acc (tail v :: rest)
      = continue? n 0x80 0xBF (acc * 64 + v % 64) rest := by
  have hin : (decide (lo ≤ tail v) && decide (tail v ≤ hi)) = true := by
    simp [UInt8.le_iff_toNat_le, toNat_tail, hlo, hhi]
  have hbits : (v % 64 + 0x80) % 64 = v % 64 := by omega
  rw [continue?, if_pos hin, toNat_tail, hbits]

theorem continue?_tail_inner {n acc : Nat} (v : Nat) (rest : List UInt8) :
    continue? (n + 1) 0x80 0xBF acc (tail v :: rest)
      = continue? n 0x80 0xBF (acc * 64 + v % 64) rest :=
  continue?_tail rest (Nat.le_add_left 0x80 _) (by change _ ≤ 191; omega)

theorem lead?_two {b : UInt8} (h : 0xC2 ≤ b.toNat) (h' : b.toNat ≤ 0xDF) :
    lead? b = some (1, 0x80, 0xBF) := by
  simp [lead?, UInt8.le_iff_toNat_le, h, h']

theorem lead?_three {b : UInt8} (h : 0xE0 ≤ b.toNat) (h' : b.toNat ≤ 0xEF) :
    lead? b = some (2, if b.toNat = 0xE0 then 0xA0 else 0x80,
      if b.toNat = 0xED then 0x9F else 0xBF) := by
  have e0 : b = 0xE0 ↔ b.toNat = 0xE0 := UInt8.toNat_inj.symm
  have ed : b = 0xED ↔ b.toNat = 0xED := UInt8.toNat_inj.symm
  simp only [lead?, UInt8.le_iff_toNat_le, beq_iff_eq, Bool.and_eq_true, decide_eq_true_eq, e0, ed]
  split_ifs <;> simp_all <;> omega

theorem lead?_four {b : UInt8} (h : 0xF0 ≤ b.toNat) (h' : b.toNat ≤ 0xF4) :
    lead? b = some (3, if b.toNat = 0xF0 then 0x90 else 0x80,
      if b.toNat = 0xF4 then 0x8F else 0xBF) := by
  have f0 : b = 0xF0 ↔ b.toNat = 0xF0 := UInt8.toNat_inj.symm
  have f4 : b = 0xF4 ↔ b.toNat = 0xF4 := UInt8.toNat_inj.symm
  simp only [lead?, UInt8.le_iff_toNat_le, beq_iff_eq, Bool.and_eq_true, decide_eq_true_eq, f0, f4]
  split_ifs <;> simp_all <;> omega

theorem next_lead {n : Nat} {b lo hi : UInt8} (rest : List UInt8) (h : lead? b = some (n, lo, hi))
    (hb : 0x80 ≤ b.toNat) : next b rest = continue? n lo hi (leadPayload n b) rest := by
  have hascii : ¬ b < 0x80 := by
    rw [UInt8.lt_iff_toNat_lt]
    exact Nat.not_lt.2 hb
  rw [next, if_neg hascii, h]

theorem next_one {v : Nat} (h : v ≤ 0x7F) (rest : List UInt8) :
    next (UInt8.ofNat v) rest = (some (Char.ofNat v), rest) := by
  have hb : (UInt8.ofNat v).toNat = v := by rw [UInt8.toNat_ofNat']; omega
  have hascii : UInt8.ofNat v < 0x80 := by
    rw [UInt8.lt_iff_toNat_lt, hb]
    exact Nat.lt_succ_of_le h
  rw [next, if_pos hascii, hb]

theorem next_two {v : Nat} (h : 0x7F < v) (h' : v ≤ 0x7FF) (rest : List UInt8) :
    next (UInt8.ofNat (v / 64 % 32 + 192)) (tail v :: rest) = (some (Char.ofNat v), rest) := by
  have hb : (UInt8.ofNat (v / 64 % 32 + 192)).toNat = v / 64 + 192 := by
    rw [UInt8.toNat_ofNat']; omega
  have hv : (v / 64 + 192) % 32 * 64 + v % 64 = v := by omega
  rw [next_lead _ (lead?_two (by omega) (by omega)) (by omega), continue?_tail_inner, continue?,
    leadPayload, hb, hv]

theorem next_three {v : Nat} (h : 0x7FF < v) (h' : v ≤ 0xFFFF) (hvalid : v.isValidChar)
    (rest : List UInt8) :
    next (UInt8.ofNat (v / 4096 % 16 + 224)) (tail (v / 64) :: tail v :: rest)
      = (some (Char.ofNat v), rest) := by
  have hb : (UInt8.ofNat (v / 4096 % 16 + 224)).toNat = v / 4096 + 224 := by
    rw [UInt8.toNat_ofNat']; omega
  have hv : ((v / 4096 + 224) % 16 * 64 + v / 64 % 64) * 64 + v % 64 = v := by omega
  -- no shorter form, and no half of a surrogate pair
  have hlo : (if v / 4096 + 224 = 0xE0 then 0xA0 else 0x80 : UInt8).toNat ≤ v / 64 % 64 + 0x80 := by
    split
    · change 0xA0 ≤ _; omega
    · exact Nat.le_add_left 0x80 _
  have hhi : v / 64 % 64 + 0x80 ≤ (if v / 4096 + 224 = 0xED then 0x9F else 0xBF : UInt8).toNat := by
    unfold Nat.isValidChar at hvalid
    split
    · change _ ≤ 0x9F; omega
    · change _ ≤ 0xBF; omega
  rw [next_lead _ (lead?_three (by omega) (by omega)) (by omega), hb, continue?_tail _ hlo hhi,
    continue?_tail_inner, continue?, leadPayload, hb, hv]

theorem next_four {v : Nat} (h : 0xFFFF < v) (hvalid : v.isValidChar) (rest : List UInt8) :
    next (UInt8.ofNat (v / 262144 % 8 + 240))
        (tail (v / 4096) :: tail (v / 64) :: tail v :: rest)
      = (some (Char.ofNat v), rest) := by
  have hpayload (b : UInt8) : leadPayload 3 b = b.toNat % 8 := rfl
  have hmax : v < 0x110000 := by unfold Nat.isValidChar at hvalid; omega
  have hb : (UInt8.ofNat (v / 262144 % 8 + 240)).toNat = v / 262144 + 240 := by
    rw [UInt8.toNat_ofNat']; omega
  have hv : (((v / 262144 + 240) % 8 * 64 + v / 4096 % 64) * 64 + v / 64 % 64) * 64 + v % 64 = v := by
    omega
  have hlo : (if v / 262144 + 240 = 0xF0 then 0x90 else 0x80 : UInt8).toNat ≤ v / 4096 % 64 + 0x80 := by
    split
    · change 0x90 ≤ _; omega
    · exact Nat.le_add_left 0x80 _
  have hhi : v / 4096 % 64 + 0x80 ≤ (if v / 262144 + 240 = 0xF4 then 0x8F else 0xBF : UInt8).toNat := by
    split
    · change _ ≤ 0x8F; omega
    · change _ ≤ 0xBF; omega
  rw [next_lead _ (lead?_four (by omega) (by omega)) (by omega), hb, continue?_tail _ hlo hhi,
    continue?_tail_inner, continue?_tail_inner, continue?, hpayload, hb, hv]

/-- The bytes of a character are read as that character, whatever follows them. -/
theorem exists_next_utf8EncodeChar (c : Char) :
    ∃ b bytes, String.utf8EncodeChar c = b :: bytes ∧
      ∀ rest, next b (bytes ++ rest) = (some c, rest) := by
  have hc : c.val.toNat = c.toNat := rfl
  rw [String.utf8EncodeChar, hc]
  conv => enter [1, b, 1, bytes, 2, rest]; rw [← Char.ofNat_toNat c]
  split
  next h1 => exact ⟨_, _, rfl, next_one h1⟩
  next h1 =>
    split
    next h2 => exact ⟨_, _, rfl, next_two (Nat.lt_of_not_le h1) h2⟩
    next h2 =>
      split
      next h3 => exact ⟨_, _, rfl, next_three (Nat.lt_of_not_le h2) h3 c.valid⟩
      next h3 => exact ⟨_, _, rfl, next_four (Nat.lt_of_not_le h3) c.valid⟩

theorem lossy_utf8EncodeChar_append (c : Char) (rest : List UInt8) :
    lossy (String.utf8EncodeChar c ++ rest) = c :: lossy rest := by
  obtain ⟨b, bytes, hbytes, hnext⟩ := exists_next_utf8EncodeChar c
  rw [hbytes, List.cons_append, lossy, hnext]
  rfl

theorem encode_cons (c : Char) (cs : List Char) :
    encode (c :: cs) = String.utf8EncodeChar c ++ encode cs :=
  List.flatMap_cons

/-- Text is read back from its bytes. -/
theorem lossy_encode (cs : List Char) : lossy (encode cs) = cs := by
  induction cs with
  | nil => simp [encode, lossy]
  | cons c cs ih => rw [encode_cons, lossy_utf8EncodeChar_append, ih]

/-! ## The order of bytes -/

/-- The last `n` bytes of a sequence, which hold the last `6 * n` bits of a number. -/
def tails : (n v : Nat) → List UInt8
  | 0, _ => []
  | n + 1, v => tails n (v / 64) ++ [tail v]

/-- How many bytes follow the lead byte of a code point. -/
def tailCount (v : Nat) : Nat :=
  if v ≤ 0x7F then 0 else if v ≤ 0x7FF then 1 else if v ≤ 0xFFFF then 2 else 3

/-- The number of the lead byte of a code point. -/
def leadOf (v : Nat) : Nat :=
  if v ≤ 0x7F then v
  else if v ≤ 0x7FF then v / 64 + 0xC0
  else if v ≤ 0xFFFF then v / 64 ^ 2 + 0xE0
  else v / 64 ^ 3 + 0xF0

theorem tail_lt_tail {v w : Nat} (hsame : v / 64 = w / 64) (h : v < w) : tail v < tail w := by
  rw [UInt8.lt_iff_toNat_lt, toNat_tail, toNat_tail]
  omega

/-- Numbers that differ in their last bits only are told apart by the last bytes. -/
theorem tails_append_lt {n v w : Nat} (hsame : v / 64 ^ n = w / 64 ^ n) (h : v < w)
    (bytes bytes' : List UInt8) : tails n v ++ bytes < tails n w ++ bytes' := by
  induction n generalizing v w bytes bytes' with
  | zero => simp at hsame; omega
  | succ n ih =>
    simp only [tails, List.append_assoc, List.singleton_append]
    rcases Nat.lt_or_eq_of_le (Nat.div_le_div_right (c := 64) (Nat.le_of_lt h)) with hlt | heq
    · rw [Nat.pow_succ', ← Nat.div_div_eq_div_mul, ← Nat.div_div_eq_div_mul] at hsame
      exact ih hsame hlt _ _
    · rw [heq]
      exact List.append_left_lt (List.cons_lt_cons_iff.2 (.inl (tail_lt_tail heq h)))

theorem toNat_lt_of_valid (c : Char) : c.toNat < 0x110000 := by
  have hvalid : c.toNat.isValidChar := c.valid
  unfold Nat.isValidChar at hvalid
  omega

theorem utf8EncodeChar_eq (c : Char) :
    String.utf8EncodeChar c = UInt8.ofNat (leadOf c.toNat) :: tails (tailCount c.toNat) c.toNat := by
  have hval : c.val.toNat = c.toNat := rfl
  have hc := toNat_lt_of_valid c
  rw [String.utf8EncodeChar, hval]
  generalize c.toNat = v at hc
  unfold leadOf tailCount
  split
  next => simp [tails]
  next =>
    split
    next =>
      have hlead : v / 64 % 32 = v / 64 := by omega
      rw [hlead]
      rfl
    next =>
      split
      next =>
        have hlead : v / 4096 % 16 = v / 4096 := by omega
        rw [hlead]
        rfl
      next =>
        have hlead : v / 262144 % 8 = v / 262144 := by omega
        have hmiddle : v / 4096 = v / 64 / 64 := (Nat.div_div_eq_div_mul v 64 64).symm
        rw [hlead, hmiddle]
        rfl

theorem leadOf_lt {v w : Nat} (h : v < w) (hw : w < 0x110000) :
    leadOf v < leadOf w ∨
      leadOf v = leadOf w ∧ tailCount v = tailCount w ∧
        v / 64 ^ tailCount w = w / 64 ^ tailCount w := by
  unfold leadOf tailCount
  split_ifs <;> omega

theorem leadOf_lt_256 {v : Nat} (h : v < 0x110000) : leadOf v < 256 := by
  unfold leadOf
  split_ifs <;> omega

/-- The bytes of a smaller character come first, whatever follows them. -/
theorem utf8EncodeChar_append_lt {c d : Char} (h : c < d) (bytes bytes' : List UInt8) :
    String.utf8EncodeChar c ++ bytes < String.utf8EncodeChar d ++ bytes' := by
  have hlt : c.toNat < d.toNat := h
  have hd := toNat_lt_of_valid d
  rw [utf8EncodeChar_eq, utf8EncodeChar_eq, List.cons_append, List.cons_append,
    List.cons_lt_cons_iff]
  rcases leadOf_lt hlt hd with hlead | ⟨hlead, hcount, hsame⟩
  · left
    have hbyte := leadOf_lt_256 hd
    rw [UInt8.lt_iff_toNat_lt, UInt8.toNat_ofNat', UInt8.toNat_ofNat']
    omega
  · right
    rw [hlead, hcount]
    exact ⟨rfl, tails_append_lt hsame hlt _ _⟩

theorem encode_lt_encode {cs ds : List Char} (h : cs < ds) : encode cs < encode ds := by
  induction h with
  | nil =>
    rw [encode_cons, utf8EncodeChar_eq]
    exact List.Lex.nil
  | cons h ih =>
    rw [encode_cons, encode_cons]
    exact List.append_left_lt ih
  | rel h =>
    rw [encode_cons, encode_cons]
    exact utf8EncodeChar_append_lt h _ _

/-- The order of code points is that of the bytes. -/
theorem encode_lt_encode_iff {cs ds : List Char} : encode cs < encode ds ↔ cs < ds := by
  constructor
  · intro h
    rcases Std.lt_trichotomy cs ds with hlt | rfl | hgt
    · exact hlt
    · exact absurd h (List.lt_irrefl _)
    · exact absurd (encode_lt_encode hgt) (List.lt_asymm h)
  · exact encode_lt_encode

theorem lt_iff_encode_lt {a b : String} : a < b ↔ encode a.toList < encode b.toList :=
  String.lt_iff.trans encode_lt_encode_iff.symm

end Utf8

/-! ## Percent encoding -/

namespace Percent

/-- Each byte is written as `%` and its two hexadecimal digits, in either case. -/
inductive Triplets : List UInt8 → List Char → Prop
  | nil : Triplets [] []
  | cons {b x y bytes cs} : hexValue? x = some (b.toNat / 16) → hexValue? y = some (b.toNat % 16) →
      Triplets bytes cs → Triplets (b :: bytes) ('%' :: x :: y :: cs)

/-- The second text is the first with characters percent-encoded: all those in `reserved`, and of
the others any but slashes. -/
inductive Encodes (reserved : List Char) : List Char → List Char → Prop
  | nil : Encodes reserved [] []
  | keep {c text encoded} : c ∉ reserved → Encodes reserved text encoded →
      Encodes reserved (c :: text) (c :: encoded)
  | escape {c triplets text encoded} : c ≠ '/' → Triplets (String.utf8EncodeChar c) triplets →
      Encodes reserved text encoded → Encodes reserved (c :: text) (triplets ++ encoded)

variable {reserved text encoded : List Char}

theorem bytes_triplet {x y : Char} {b : UInt8} (hx : hexValue? x = some (b.toNat / 16))
    (hy : hexValue? y = some (b.toNat % 16)) (cs : List Char) :
    bytes ('%' :: x :: y :: cs) = b :: bytes cs := by
  have hb : b.toNat / 16 * 16 + b.toNat % 16 = b.toNat := Nat.div_add_mod' _ _
  rw [bytes, hx, hy]
  simp only [hb, UInt8.ofNat_toNat]

theorem bytes_cons_of_ne {c : Char} (h : c ≠ '%') (cs : List Char) :
    bytes (c :: cs) = String.utf8EncodeChar c ++ bytes cs := by
  rw [bytes]
  rintro a b cs' rfl
  exact absurd rfl h

/-- A first character that starts no triplet stays in front. -/
theorem head?_decode {s : String} {c : Char} (hc : c ≠ '%') (h : s.toList.head? = some c) :
    (decode s).toList.head? = some c := by
  obtain ⟨rest, hs⟩ := List.head?_eq_some_iff.1 h
  rw [decode, String.toList_ofList, hs, bytes_cons_of_ne hc, Utf8.lossy_utf8EncodeChar_append]
  rfl

theorem Triplets.bytes_append {bs : List UInt8} {triplets : List Char} (h : Triplets bs triplets)
    (rest : List Char) : bytes (triplets ++ rest) = bs ++ bytes rest := by
  induction h with
  | nil => rfl
  | cons hx hy _ ih => simp only [List.cons_append, bytes_triplet hx hy, ih]

/-- A percent-encoded text stands for the bytes of the text. -/
theorem Encodes.bytes_eq (h : Encodes reserved text encoded) (hpercent : '%' ∈ reserved) :
    bytes encoded = Utf8.encode text := by
  induction h with
  | nil => rfl
  | keep hc _ ih =>
    rw [bytes_cons_of_ne (ne_of_mem_of_not_mem hpercent hc).symm, ih]
    rfl
  | escape _ htriplets _ ih =>
    rw [htriplets.bytes_append, ih]
    rfl

theorem decode_eq_of_bytes {s text : String} (h : bytes s.toList = Utf8.encode text.toList) :
    decode s = text := by
  rw [decode, h, Utf8.lossy_encode, String.ofList_toList]

theorem Encodes.decode_eq (h : Encodes reserved text encoded) (hpercent : '%' ∈ reserved) :
    decode (String.ofList encoded) = String.ofList text := by
  apply decode_eq_of_bytes
  rw [String.toList_ofList, String.toList_ofList, h.bytes_eq hpercent]

theorem Encodes.refl (h : ∀ c ∈ text, c ∉ reserved) : Encodes reserved text text := by
  induction text with
  | nil => exact .nil
  | cons c text ih =>
    exact .keep (h c List.mem_cons_self) (ih fun d hd => h d (List.mem_cons_of_mem _ hd))

/-- Text without `%` stands for itself. -/
theorem decode_of_not_mem {s : String} (h : '%' ∉ s.toList) : decode s = s := by
  have hself : Encodes ['%'] s.toList s.toList := .refl fun c hc => by
    rw [List.mem_singleton]
    exact fun e => h (e ▸ hc)
  simpa using hself.decode_eq List.mem_cons_self

theorem Triplets.not_mem {bs : List UInt8} {triplets : List Char} (h : Triplets bs triplets) {c : Char}
    (hc : c ≠ '%') (hhex : hexValue? c = none) : c ∉ triplets := by
  induction h with
  | nil => exact List.not_mem_nil
  | cons hx hy _ ih =>
    simp only [List.mem_cons, not_or]
    exact ⟨hc, fun e => by simp [← e, hhex] at hx, fun e => by simp [← e, hhex] at hy, ih⟩

/-- A reserved character that no triplet has is gone. -/
theorem Encodes.not_mem (h : Encodes reserved text encoded) {c : Char} (hmem : c ∈ reserved)
    (hc : c ≠ '%') (hhex : hexValue? c = none) : c ∉ encoded := by
  induction h with
  | nil => exact List.not_mem_nil
  | keep hkeep _ ih => simp [ih, ne_of_mem_of_not_mem hmem hkeep]
  | escape _ htriplets _ ih => simp [htriplets.not_mem hc hhex, ih]

theorem Encodes.head?_ne_slash (h : Encodes reserved text encoded) (htext : text.head? ≠ some '/') :
    encoded.head? ≠ some '/' := by
  cases h with
  | nil => exact htext
  | keep => exact htext
  | @escape c _ _ _ _ htriplets _ =>
    obtain ⟨b, bytes, hbytes, -⟩ := Utf8.exists_next_utf8EncodeChar c
    rw [hbytes] at htriplets
    cases htriplets
    simp

/-! ### Single characters -/

/-- Two digits that write the code of an ASCII character. -/
structure Spells (x y c : Char) : Prop where
  high : hexValue? x = some (c.toNat / 16)
  low : hexValue? y = some (c.toNat % 16)

/-- The character between two texts is a digit of a triplet. -/
def InTriplet (front : List Char) (c : Char) (back : List Char) : Prop :=
  isHexDigit c = true ∧
    ((∃ x, isHexDigit x = true ∧ ['%', x] <:+ front) ∨
      ['%'] <:+ front ∧ ∃ y, isHexDigit y = true ∧ back.head? = some y)

variable {front back : List Char} {c x y : Char}

theorem InTriplet.cons (h : InTriplet front c back) (d : Char) : InTriplet (d :: front) c back := by
  have hfront : front <:+ d :: front := List.suffix_cons d front
  refine ⟨h.1, h.2.imp ?_ ?_⟩
  · rintro ⟨x, hx, hsuffix⟩
    exact ⟨x, hx, hsuffix.trans hfront⟩
  · rintro ⟨hsuffix, hback⟩
    exact ⟨hsuffix.trans hfront, hback⟩

theorem utf8EncodeChar_of_lt (h : c.toNat < 128) : String.utf8EncodeChar c = [UInt8.ofNat c.toNat] := by
  have hle : c.val.toNat ≤ 0x7F := Nat.le_of_lt_succ h
  simp only [String.utf8EncodeChar, hle, if_true]
  rfl

/-- A `%` in front of the text starts a triplet. -/
def StartsWithDigits (cs : List Char) : Prop :=
  ∃ a b rest, cs = a :: b :: rest ∧ isHexDigit a = true ∧ isHexDigit b = true

/-- A `%` with no two digits behind it stands for itself. -/
theorem bytes_percent {cs : List Char} (h : ¬ StartsWithDigits cs) :
    bytes ('%' :: cs) = String.utf8EncodeChar '%' ++ bytes cs := by
  match cs with
  | [] => rfl
  | [_] => rfl
  | a :: b :: rest =>
    rw [bytes]
    split
    next hx hy => exact absurd ⟨a, b, rest, rfl, by simp [isHexDigit, hx], by simp [isHexDigit, hy]⟩ h
    next => rfl

theorem not_startsWithDigits_percent (hshort : front.length < 2) (tail : List Char) :
    ¬ StartsWithDigits (front ++ '%' :: tail) := by
  rintro ⟨a, b, rest, hcs, ha, hb⟩
  match front with
  | [] =>
    obtain ⟨rfl, -⟩ := List.cons.inj hcs
    exact absurd ha (by decide)
  | [_] =>
    obtain ⟨-, hcs⟩ := List.cons.inj hcs
    obtain ⟨rfl, -⟩ := List.cons.inj hcs
    exact absurd hb (by decide)

/-- Of the two digits behind a `%`, the character is the first or the second. -/
theorem inTriplet_of_startsWithDigits (hshort : front.length < 2)
    (h : StartsWithDigits (front ++ c :: back)) : InTriplet ('%' :: front) c back := by
  obtain ⟨a, b, rest, hcs, ha, hb⟩ := h
  match front with
  | [] =>
    obtain ⟨rfl, rfl⟩ := List.cons.inj hcs
    exact ⟨ha, .inr ⟨List.suffix_refl _, b, hb, rfl⟩⟩
  | [d] =>
    rw [List.singleton_append, List.cons.injEq, List.cons.injEq] at hcs
    obtain ⟨rfl, rfl, -⟩ := hcs
    exact ⟨hb, .inl ⟨d, ha, List.suffix_refl _⟩⟩

/-- An ASCII character that is no digit of a triplet can be written as a triplet. -/
theorem bytes_escape (hspells : Spells x y c) (hascii : c.toNat < 128) (hpercent : c ≠ '%')
    (h : ¬ InTriplet front c back) :
    bytes (front ++ '%' :: x :: y :: back) = bytes (front ++ c :: back) := by
  induction front using bytes.induct with
  | case1 =>
    have hcode : (UInt8.ofNat c.toNat).toNat = c.toNat := by
      rw [UInt8.toNat_ofNat']
      omega
    have htriplet := bytes_triplet (hcode.symm ▸ hspells.high) (hcode.symm ▸ hspells.low) back
    rw [List.nil_append, List.nil_append, htriplet, bytes_cons_of_ne hpercent,
      utf8EncodeChar_of_lt hascii]
    rfl
  | case2 a b front n m hb ha ih =>
    have hrest := ih fun hin => h (((hin.cons b).cons a).cons '%')
    simp only [List.cons_append, bytes, ha, hb, hrest]
  | case3 a b front hdigits ih =>
    have hrest := ih fun hin => h (hin.cons '%')
    have hplain (rest : List Char) : bytes ('%' :: a :: b :: rest)
        = String.utf8EncodeChar '%' ++ bytes (a :: b :: rest) := by
      refine bytes_percent ?_
      rintro ⟨_, _, _, ⟨⟩, ha, hb⟩
      obtain ⟨n, hn⟩ := Option.isSome_iff_exists.1 ha
      obtain ⟨m, hm⟩ := Option.isSome_iff_exists.1 hb
      exact hdigits n m hn hm
    simp only [List.cons_append] at hrest ⊢
    rw [hplain, hplain, hrest]
  | case4 d front hshort ih =>
    have hrest := ih fun hin => h (hin.cons d)
    by_cases hd : d = '%'
    · -- the `%` may open a triplet of which the character would be a digit
      subst hd
      have hlength : front.length < 2 := by
        match front with
        | [] => exact Nat.zero_lt_two
        | [_] => exact Nat.one_lt_two
        | a :: b :: front => exact (hshort a b front rfl rfl).elim
      have hplain : ¬ StartsWithDigits (front ++ c :: back) :=
        fun hdigits => h (inTriplet_of_startsWithDigits hlength hdigits)
      rw [List.cons_append, List.cons_append, bytes_percent hplain,
        bytes_percent (not_startsWithDigits_percent hlength _), hrest]
    · rw [List.cons_append, List.cons_append, bytes_cons_of_ne hd, bytes_cons_of_ne hd, hrest]

theorem decode_escape (hspells : Spells x y c) (hascii : c.toNat < 128) (hpercent : c ≠ '%')
    (h : ¬ InTriplet front c back) :
    decode (String.ofList (front ++ '%' :: x :: y :: back)) = decode (String.ofList (front ++ c :: back)) := by
  simp only [decode, String.toList_ofList, bytes_escape hspells hascii hpercent h]

theorem bytes_ne_nil {cs : List Char} (h : cs ≠ []) : bytes cs ≠ [] := by
  fun_cases bytes cs <;> simp_all

theorem decode_eq_empty_iff {s : String} : decode s = "" ↔ s = "" := by
  constructor
  · intro h
    by_contra hne
    obtain ⟨b, bs, hbytes⟩ := List.exists_cons_of_ne_nil (bytes_ne_nil (mt String.toList_eq_nil_iff.1 hne))
    rw [decode, hbytes, Utf8.lossy] at h
    simp at h
  · rintro rfl
    exact decode_of_not_mem (by simp)

end Percent

end DocAtlas.Text
