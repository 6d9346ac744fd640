/-
# Lerdr.Rust.Serde — filling a struct from JSON text.

`serde_json::from_slice` is a library and enters as a parameter. What is taken of it is `Serde`: a
plain object — no composite members, every name once — is read as `Lib.Json` reads it, and its
members fill the struct. What the members are filled into is said per struct, with the fields
below. A reader that takes compact JSON and nothing else shows that such a library can be had.
What `serde_json` writes is a definition: `Lib.Json`'s text with `serdeEscape`.
-/
import Lerdr.Lib.Json
import Lerdr.Lib.Utf8
import Lerdr.Rust.Text

namespace Lerdr.Rust

open Lib

/-! ## §1 — fields -/

abbrev Members := List (Text × Json)

/-- An object without composite members, in which every name stands once. -/
structure Plain (ms : Members) : Prop where
  atoms : ms.all (·.2.isAtom)
  nodup : (ms.map Prod.fst).Nodup

/-- A `String` field with `null_default`. -/
def textField (ms : Members) (key : Text) : Option Text :=
  match ms.lookup key with
  | none | some .null => some []
  | some (.str text) => some text
  | some _ => none

/-- An integer field with `null_default`, within the bounds of its type. -/
def intField (lo hi : Int) (ms : Members) (key : Text) : Option Int :=
  match ms.lookup key with
  | none | some .null => some 0
  | some (.num n) => if lo ≤ n ∧ n ≤ hi then some n else none
  | some _ => none

/-- `i64`. -/
def i64Field : Members → Text → Option Int := intField (-2 ^ 63) (2 ^ 63 - 1)

/-- `u64`. -/
def u64Field (ms : Members) (key : Text) : Option Nat :=
  (intField 0 (2 ^ 64 - 1) ms key).map Int.toNat

/-! ## §2 — the library -/

/-- `serde_json::from_slice` for a type that is filled from an object's members: a plain object is
read for what it is, and a text that begins with a control byte, blanks apart, is no JSON. -/
structure Serde {α : Type} (fromSlice : Bytes → Option α) (ofMembers : Members → Option α) :
    Prop where
  object : ∀ text ms, Json.parse text = some (.obj ms) → Plain ms →
    fromSlice (Utf8.bytes text) = ofMembers ms
  control : ∀ (byte : UInt8) rest, byte.toNat < 0x20 → byte ∉ [9, 10, 13] →
    fromSlice (byte :: rest) = none

/-- **What is printed with JSON's escapes is read for what it was.** -/
theorem Serde.print {α : Type} {fromSlice : Bytes → Option α} {ofMembers : Members → Option α}
    (h : Serde fromSlice ofMembers) {esc : Char → List Char} (hesc : Json.Escapes esc)
    {ms : Members} (hms : Plain ms) :
    fromSlice (Utf8.bytes (Json.print esc (.obj ms))) = ofMembers ms :=
  h.object _ ms (Json.parse_print hesc _) hms

/-! ### A reader of compact JSON -/

def readObject (raw : Bytes) : Option Members :=
  (Utf8.decode raw).bind fun text => (Json.parse text).bind fun v =>
    match v with
    | .obj ms => some ms
    | _ => none

theorem readObject_bytes {text : Text} {ms : Members} (h : Json.parse text = some (.obj ms)) :
    readObject (Utf8.bytes text) = some ms := by
  have hdecode : Utf8.decode (Utf8.bytes text) = some text := Utf8.decode_bytes text
  simp only [readObject, hdecode, Option.bind_some, h]

theorem readObject_control {byte : UInt8} (h : byte.toNat < 0x20) (rest : Bytes) :
    readObject (byte :: rest) = none := by
  cases hdecode : Utf8.decode (byte :: rest) with
  | none => rw [readObject, hdecode, Option.bind_none]
  | some text =>
    obtain ⟨c, text, rfl, hc⟩ := Utf8.head_of_bytes (Utf8.bytes_of_decode hdecode) (by omega)
    rw [readObject, hdecode, Option.bind_some, Json.parse_control (by omega), Option.bind_none]

/-- A serde that takes compact JSON only. -/
theorem serde_readObject {α : Type} (ofMembers : Members → Option α) :
    Serde (fun raw => (readObject raw).bind ofMembers) ofMembers where
  object text ms htext _ := by
    show (readObject (Utf8.bytes text)).bind ofMembers = ofMembers ms
    rw [readObject_bytes htext, Option.bind_some]
  control byte rest hbyte _ := by
    show (readObject (byte :: rest)).bind ofMembers = none
    rw [readObject_control hbyte, Option.bind_none]

/-! ### What serde writes -/

/-- What `serde_json` writes for a character of a string. -/
def serdeEscape (c : Char) : Text :=
  if c = '"' then ['\\', '"']
  else if c = '\\' then ['\\', '\\']
  else if c.toNat = 0x08 then ['\\', 'b']
  else if c = '\t' then ['\\', 't']
  else if c = '\n' then ['\\', 'n']
  else if c.toNat = 0x0c then ['\\', 'f']
  else if c = '\r' then ['\\', 'r']
  else if c.toNat < 0x20 then
    ['\\', 'u', '0', '0', Nat.digitChar (c.toNat / 16), Nat.digitChar (c.toNat % 16)]
  else [c]

/-- **serde's escapes are read as the characters they stand for.** -/
theorem escapes_serdeEscape : Json.Escapes serdeEscape := by
  intro c rest
  by_cases hquote : c = '"'
  · subst hquote; rfl
  by_cases hbackslash : c = '\\'
  · subst hbackslash; rfl
  by_cases hb : c.toNat = 0x08
  · rw [← Char.ofNat_toNat c, hb]; rfl
  by_cases ht : c = '\t'
  · subst ht; rfl
  by_cases hn : c = '\n'
  · subst hn; rfl
  by_cases hf : c.toNat = 0x0c
  · rw [← Char.ofNat_toNat c, hf]; rfl
  by_cases hr : c = '\r'
  · subst hr; rfl
  rw [serdeEscape, if_neg hquote, if_neg hbackslash, if_neg hb, if_neg ht, if_neg hn, if_neg hf,
    if_neg hr]
  by_cases hcontrol : c.toNat < 0x20
  · have hdigits : ∀ k < 0x20, Json.hex4? ['0', '0', Nat.digitChar (k / 16), Nat.digitChar (k % 16)]
        = some (k, []) := by decide
    rw [if_pos hcontrol, Json.readChar_unicode (hdigits _ hcontrol) (by omega), Char.ofNat_toNat]
  · rw [if_neg hcontrol, List.singleton_append, Json.readChar.eq_def]
    dsimp only
    rw [if_neg hquote, if_neg hbackslash, if_neg hcontrol]

end Lerdr.Rust
