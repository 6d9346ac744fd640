/-
# Lerdr.Kotlin.Runtime — the part of Kotlin and kotlinx JSON the client code stands on.

Kotlin strings are sequences of UTF-16 code units. `Long` sums wrap at 64 bits and `toInt` keeps the
low 32; list indexing and `substring` throw outside their range, which is `Except.error` here. A
decoded JSON value is a `JsonElement`; a number keeps the decimal it was written with, and reading
it as a double is `Lib.Binary64`.
-/
import Lerdr.Lib.Pieces
import Lerdr.Lib.Binary64

namespace Lerdr.Kotlin

open Lib

/-! ## §1 — strings -/

abbrev Units := List UInt16

/-- The code unit of `\n`. -/
def newline : UInt16 := 10

/-- The UTF-16 code of one scalar value. -/
def utf16Char (c : Char) : Units :=
  if c.toNat < 0x10000 then [UInt16.ofNat c.toNat]
  else
    [UInt16.ofNat (0xD800 + (c.toNat - 0x10000) / 0x400),
     UInt16.ofNat (0xDC00 + (c.toNat - 0x10000) % 0x400)]

/-- The string a UTF-8 decoder builds from a sequence of scalar values. -/
def utf16 (s : List Char) : Units := s.flatMap utf16Char

@[simp] theorem utf16_append (s t : List Char) : utf16 (s ++ t) = utf16 s ++ utf16 t := by
  simp [utf16]

theorem utf16_flatten (ls : List (List Char)) : utf16 ls.flatten = (ls.map utf16).flatten := by
  induction ls with
  | nil => rfl
  | cons l ls ih => simp [ih]

theorem utf16_ascii {s : List Char} (h : ∀ c ∈ s, c.toNat < 0x80) :
    utf16 s = s.map fun c => UInt16.ofNat c.toNat := by
  rw [utf16, List.map_eq_flatMap]
  refine List.flatMap_congr fun c hc => ?_
  have := h c hc
  rw [utf16Char, if_pos (by omega)]

theorem utf16Char_newline : utf16Char '\n' = [newline] := by decide

theorem toNat_lt_of_char (c : Char) : c.toNat < 0x110000 := by
  have h := c.valid
  simp only [UInt32.isValidChar, Nat.isValidChar] at h
  change c.val.toNat < 0x110000
  omega

/-- The newline unit codes nothing but `\n`: surrogates are far above it. -/
theorem newline_notMem_utf16Char {c : Char} (hc : c ≠ '\n') : newline ∉ utf16Char c := by
  have hne : c.toNat ≠ 10 := by
    intro h
    exact hc (Char.ext (UInt32.toNat_inj.mp h))
  have hlt := toNat_lt_of_char c
  intro hmem
  by_cases hsmall : c.toNat < 0x10000
  · simp only [utf16Char, if_pos hsmall, List.mem_singleton] at hmem
    have h := congrArg UInt16.toNat hmem
    rw [UInt16.toNat_ofNat_of_lt' hsmall] at h
    exact hne h.symm
  · simp only [utf16Char, if_neg hsmall, List.mem_cons, List.not_mem_nil, or_false] at hmem
    have hsize : UInt16.size = 0x10000 := rfl
    rcases hmem with h | h
    · have h := congrArg UInt16.toNat h
      rw [UInt16.toNat_ofNat_of_lt' (by rw [hsize]; omega)] at h
      simp only [newline, UInt16.reduceToNat] at h
      omega
    · have h := congrArg UInt16.toNat h
      rw [UInt16.toNat_ofNat_of_lt' (by rw [hsize]; omega)] at h
      simp only [newline, UInt16.reduceToNat] at h
      omega

/-- Cutting into lines commutes with the encoding. -/
theorem pieces_utf16 (s : List Char) :
    Pieces.pieces newline (utf16 s) = (Pieces.pieces '\n' s).map utf16 :=
  Pieces.pieces_flatMap utf16Char_newline (fun _ h => newline_notMem_utf16Char h) s

def isNullOrEmpty : Option Units → Bool
  | none => true
  | some s => s.isEmpty

/-! ## §2 — machine integers, indexing, `substring` -/

/-- `Long.MAX_VALUE`. -/
def longMax : Int := 2 ^ 63 - 1

/-- `Long.MIN_VALUE`. -/
def longMin : Int := -2 ^ 63

/-- `Long + Long`. -/
def plus (a b : Int) : Int := (a + b).bmod (2 ^ 64)

/-- `Long - Long`. -/
def minus (a b : Int) : Int := (a - b).bmod (2 ^ 64)

def toInt (a : Int) : Int := a.bmod (2 ^ 32)

theorem plus_eq {a b : Int} (hlo : longMin ≤ a + b) (hhi : a + b ≤ longMax) :
    plus a b = a + b := by
  simp only [longMin, longMax] at hlo hhi
  exact Int.bmod_eq_of_le (by omega) (by omega)

theorem toInt_eq {a : Int} (hlo : 0 ≤ a) (hhi : a < 2 ^ 31) : toInt a = a :=
  Int.bmod_eq_of_le (by omega) (by omega)

/-- A difference of `Long`s that is not negative is either exact or wraps below zero. -/
theorem minus_of_le {a b : Int} (hlo : longMin ≤ b) (hle : b ≤ a) (hhi : a ≤ longMax) :
    minus a b = a - b ∨ minus a b < 0 := by
  simp only [longMin, longMax] at hlo hhi
  by_cases hsmall : a - b < 2 ^ 63
  · exact .inl (Int.bmod_eq_of_le (by omega) (by omega))
  · right
    have hmod : (a - b) % ((2 ^ 64 : Nat) : Int) = a - b :=
      Int.emod_eq_of_lt (by omega) (by omega)
    rw [minus, Int.bmod_def, hmod, if_neg (by omega)]
    omega

/-- What the modelled code can throw. -/
inductive Exn where
  | indexOutOfBounds
  | stringIndexOutOfBounds
  deriving DecidableEq, Repr

/-- `list[index]`. -/
def listGet {α : Type} (xs : List α) (index : Int) : Except Exn α :=
  if 0 ≤ index then
    match xs[index.toNat]? with
    | some a => .ok a
    | none => .error .indexOutOfBounds
  else .error .indexOutOfBounds

/-- `String.substring(startIndex, endIndex)`. -/
def substring (s : Units) (startIndex endIndex : Int) : Except Exn Units :=
  if 0 ≤ startIndex ∧ startIndex ≤ endIndex ∧ endIndex ≤ s.length then
    .ok ((s.take endIndex.toNat).drop startIndex.toNat)
  else .error .stringIndexOutOfBounds

/-! ## §3 — JSON -/

/-- A JSON number as written: `± digits · 10^exponent`. -/
structure JsonNumber where
  negative : Bool := false
  digits : Nat
  exponent : Int := 0
  deriving DecidableEq, Repr

def JsonNumber.ofInt (i : Int) : JsonNumber := { negative := decide (i < 0), digits := i.natAbs }

/-- kotlinx `JsonElement`. `JsonNull` and the booleans are primitives that are neither strings nor
numbers. -/
inductive JsonElement where
  | null
  | bool (value : Bool)
  | number (value : JsonNumber)
  | string (content : Units)
  | array (items : List JsonElement)
  | object (fields : List (String × JsonElement))

/-- A `JsonObject`: its members in order. -/
abbrev JsonObject := List (String × JsonElement)

/-- `object[key]`: Kotlin `null` for an absent key. -/
def member (object : JsonObject) (key : String) : Option JsonElement :=
  object.lookup key

@[simp] theorem member_nil (key : String) : member [] key = none := rfl

@[simp] theorem member_cons (k : String) (v : JsonElement) (rest : JsonObject) (key : String) :
    member ((k, v) :: rest) key = if key = k then some v else member rest key := by
  rw [member, member, List.lookup_cons]
  by_cases h : key = k
  · simp [h]
  · rw [beq_false_of_ne h, if_neg h]

end Lerdr.Kotlin
