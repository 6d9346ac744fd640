/-
# Lib.Base64 — the URL-safe base64 alphabet without padding, encoded and decoded.

Three bytes make four digits; a last group of two bytes makes three digits and one of one byte makes
two. `decode` takes no padding, no digit outside the alphabet and no lone last digit. Whether the
bits that a short last group leaves over must be zero is an option of the decoder. The standard
alphabet with padding is a renaming of two digits and a filled last group.
-/
import Mathlib.Data.List.Basic
import Mathlib.Data.List.DropRight
import Mathlib.Tactic

namespace Lib.Base64

/-- The digit of a six-bit value. -/
def digit (n : Nat) : Char :=
  if n < 26 then Char.ofNat (65 + n)
  else if n < 52 then Char.ofNat (71 + n)
  else if n < 62 then Char.ofNat (n - 4)
  else if n = 62 then '-'
  else '_'

/-- The six-bit value of a digit. -/
def value? (c : Char) : Option Nat :=
  if 65 ≤ c.toNat ∧ c.toNat ≤ 90 then some (c.toNat - 65)
  else if 97 ≤ c.toNat ∧ c.toNat ≤ 122 then some (c.toNat - 71)
  else if 48 ≤ c.toNat ∧ c.toNat ≤ 57 then some (c.toNat + 4)
  else if c = '-' then some 62
  else if c = '_' then some 63
  else none

theorem value?_digit {n : Nat} (h : n < 64) : value? (digit n) = some n := by
  have hall : ∀ m < 64, value? (digit m) = some m := by decide
  exact hall n h

def encode : List UInt8 → List Char
  | a :: b :: c :: rest =>
    digit (a.toNat / 4) :: digit (a.toNat % 4 * 16 + b.toNat / 16) ::
      digit (b.toNat % 16 * 4 + c.toNat / 64) :: digit (c.toNat % 64) :: encode rest
  | [a, b] =>
    [digit (a.toNat / 4), digit (a.toNat % 4 * 16 + b.toNat / 16), digit (b.toNat % 16 * 4)]
  | [a] => [digit (a.toNat / 4), digit (a.toNat % 4 * 16)]
  | [] => []

/-- Four characters are three bytes. -/
def decode (allowTrailingBits : Bool) : List Char → Option (List UInt8)
  | w :: x :: y :: z :: rest => do
    let w ← value? w
    let x ← value? x
    let y ← value? y
    let z ← value? z
    let tail ← decode allowTrailingBits rest
    some (UInt8.ofNat (w * 4 + x / 16) :: UInt8.ofNat (x % 16 * 16 + y / 4) ::
      UInt8.ofNat (y % 4 * 64 + z) :: tail)
  | [w, x, y] => do
    let w ← value? w
    let x ← value? x
    let y ← value? y
    if allowTrailingBits ∨ y % 4 = 0 then
      some [UInt8.ofNat (w * 4 + x / 16), UInt8.ofNat (x % 16 * 16 + y / 4)]
    else none
  | [w, x] => do
    let w ← value? w
    let x ← value? x
    if allowTrailingBits ∨ x % 16 = 0 then some [UInt8.ofNat (w * 4 + x / 16)] else none
  | [_] => none
  | [] => some []

theorem ofNat_eq {b : UInt8} {n : Nat} (h : n = b.toNat) : UInt8.ofNat n = b := by
  rw [h, UInt8.ofNat_toNat]

/-- **Decoding inverts encoding.** -/
theorem decode_encode (allowTrailingBits : Bool) (bytes : List UInt8) :
    decode allowTrailingBits (encode bytes) = some bytes := by
  induction bytes using encode.induct with
  | case1 a b c rest ih =>
    have ha := a.toNat_lt
    have hb := b.toNat_lt
    have hc := c.toNat_lt
    rw [encode, decode, value?_digit (by omega), value?_digit (by omega), value?_digit (by omega),
      value?_digit (by omega), ih]
    simp only [Option.bind_eq_bind, Option.bind_some]
    rw [ofNat_eq (b := a) (by omega), ofNat_eq (b := b) (by omega), ofNat_eq (b := c) (by omega)]
  | case2 a b =>
    have ha := a.toNat_lt
    have hb := b.toNat_lt
    rw [encode, decode, value?_digit (by omega), value?_digit (by omega), value?_digit (by omega)]
    simp only [Option.bind_eq_bind, Option.bind_some]
    rw [if_pos (Or.inr (by omega)), ofNat_eq (b := a) (by omega), ofNat_eq (b := b) (by omega)]
  | case3 a =>
    have ha := a.toNat_lt
    rw [encode, decode, value?_digit (by omega), value?_digit (by omega)]
    simp only [Option.bind_eq_bind, Option.bind_some]
    rw [if_pos (Or.inr (by omega)), ofNat_eq (b := a) (by omega)]
  | case4 => rfl

theorem exists_digit_of_mem_encode {bytes : List UInt8} {c : Char} (h : c ∈ encode bytes) :
    ∃ n < 64, c = digit n := by
  induction bytes using encode.induct with
  | case1 a b d rest ih =>
    have ha := a.toNat_lt
    have hb := b.toNat_lt
    have hd := d.toNat_lt
    rw [encode] at h
    simp only [List.mem_cons] at h
    rcases h with rfl | rfl | rfl | rfl | h
    · exact ⟨_, by omega, rfl⟩
    · exact ⟨_, by omega, rfl⟩
    · exact ⟨_, by omega, rfl⟩
    · exact ⟨_, by omega, rfl⟩
    · exact ih h
  | case2 a b =>
    have ha := a.toNat_lt
    have hb := b.toNat_lt
    rw [encode] at h
    simp only [List.mem_cons, List.not_mem_nil, or_false] at h
    rcases h with rfl | rfl | rfl
    · exact ⟨_, by omega, rfl⟩
    · exact ⟨_, by omega, rfl⟩
    · exact ⟨_, by omega, rfl⟩
  | case3 a =>
    have ha := a.toNat_lt
    rw [encode] at h
    simp only [List.mem_cons, List.not_mem_nil, or_false] at h
    rcases h with rfl | rfl
    · exact ⟨_, by omega, rfl⟩
    · exact ⟨_, by omega, rfl⟩
  | case4 => simp [encode] at h

theorem encode_injective : Function.Injective encode := by
  intro xs ys h
  have hsome : some xs = some ys := by rw [← decode_encode false, ← decode_encode false, h]
  exact Option.some.inj hsome

theorem encode_ne_nil {bytes : List UInt8} (h : bytes ≠ []) : encode bytes ≠ [] := by
  intro hnil
  exact h (encode_injective (by rw [hnil, encode]))

/-! ### The standard alphabet, padded -/

def toStandard (c : Char) : Char := if c = '-' then '+' else if c = '_' then '/' else c

/-- The digit of the URL-safe alphabet. -/
def ofStandard (c : Char) : Char := if c = '+' then '-' else if c = '/' then '_' else c

/-- Four digits to a group, the last one filled up. -/
def encodePadded (bytes : List UInt8) : List Char :=
  (encode bytes).map toStandard ++ List.replicate ((4 - (encode bytes).length % 4) % 4) '='

/-- Decoding of what is padded. Whether padding may be left out, and whether the bits a short last
group leaves over may be set, are options of the decoder. -/
def decodePadded (allowUnpadded allowTrailingBits : Bool) (text : List Char) :
    Option (List UInt8) :=
  let body := text.rdropWhile (· = '=')
  let padding := text.length - body.length
  if padding = (4 - body.length % 4) % 4 ∨ (allowUnpadded ∧ padding = 0) then
    if body.any fun c => c = '-' || c = '_' then none
    else decode allowTrailingBits (body.map ofStandard)
  else none

theorem standard_digit {n : Nat} (h : n < 64) :
    ofStandard (toStandard (digit n)) = digit n ∧ toStandard (digit n) ≠ '=' ∧
      toStandard (digit n) ≠ '-' ∧ toStandard (digit n) ≠ '_' := by
  have hall : ∀ m < 64, ofStandard (toStandard (digit m)) = digit m ∧
      toStandard (digit m) ≠ '=' ∧ toStandard (digit m) ≠ '-' ∧ toStandard (digit m) ≠ '_' := by
    decide
  exact hall n h

theorem toNat_lt_of_mem_encodePadded {bytes : List UInt8} {c : Char} (h : c ∈ encodePadded bytes) :
    c.toNat < 0x80 := by
  have hall : ∀ m < 64, (toStandard (digit m)).toNat < 0x80 := by decide
  rcases List.mem_append.mp h with hc | hc
  · obtain ⟨d, hd, rfl⟩ := List.mem_map.mp hc
    obtain ⟨n, hn, rfl⟩ := exists_digit_of_mem_encode hd
    exact hall n hn
  · rw [List.eq_of_mem_replicate hc]
    decide

theorem rdropWhile_padding {body : List Char} (h : ∀ c ∈ body, c ≠ '=') (k : Nat) :
    (body ++ List.replicate k '=').rdropWhile (· = '=') = body := by
  induction k with
  | zero =>
    rw [List.replicate_zero, List.append_nil, List.rdropWhile_eq_self_iff]
    intro hne hlast
    exact h _ (List.getLast_mem hne) (of_decide_eq_true hlast)
  | succ k ih =>
    rw [List.replicate_succ', ← List.append_assoc, List.rdropWhile_concat_pos _ _ _ (by simp), ih]

/-- **Decoding inverts encoding**, whatever the options. -/
theorem decodePadded_encodePadded (allowUnpadded allowTrailingBits : Bool) (bytes : List UInt8) :
    decodePadded allowUnpadded allowTrailingBits (encodePadded bytes) = some bytes := by
  have hdigits : ∀ c ∈ (encode bytes).map toStandard, c ≠ '=' ∧ c ≠ '-' ∧ c ≠ '_' := by
    intro c hc
    obtain ⟨d, hd, rfl⟩ := List.mem_map.mp hc
    obtain ⟨n, hn, rfl⟩ := exists_digit_of_mem_encode hd
    exact (standard_digit hn).2
  have hback : ((encode bytes).map toStandard).map ofStandard = encode bytes := by
    rw [List.map_map]
    conv_rhs => rw [← List.map_id (encode bytes)]
    refine List.map_congr_left fun c hc => ?_
    obtain ⟨n, hn, rfl⟩ := exists_digit_of_mem_encode hc
    exact (standard_digit hn).1
  have hnone : (((encode bytes).map toStandard).any fun c => c = '-' || c = '_') = false := by
    rw [List.any_eq_false]
    intro c hc
    simp [(hdigits c hc).2.1, (hdigits c hc).2.2]
  simp only [decodePadded, encodePadded, rdropWhile_padding fun c hc => (hdigits c hc).1]
  rw [if_pos (Or.inl (by simp)), hnone, if_neg (by decide), hback, decode_encode]

end Lib.Base64
