/-
# Lerdr.Rust.Text — the `&str` methods and the integer widths that the relay's records rest on.

Strings are lists of Unicode scalar values; byte lengths are those of their UTF-8 encoding. `i64`
sums wrap: the release profile builds without overflow checks. The Unicode tables that case mapping
needs are a parameter.
-/
import Mathlib.Data.List.DropRight
import Mathlib.Tactic

namespace Lerdr.Rust

/-- A Rust string: a sequence of Unicode scalar values. -/
abbrev Text := List Char

/-- `&[u8]`. -/
abbrev Bytes := List UInt8

/-- `[u8; N]`. -/
abbrev Block (n : Nat) := List.Vector UInt8 n

/-- `TryFrom<&[u8]> for [u8; N]`. -/
def Block.ofBytes (n : Nat) (bytes : List UInt8) : Option (Block n) :=
  if h : bytes.length = n then some ⟨bytes, h⟩ else none

theorem Block.ofBytes_toList {n : Nat} (block : Block n) :
    Block.ofBytes n block.toList = some block := by
  rw [Block.ofBytes, dif_pos block.toList_length]
  rfl

/-- `char::is_whitespace` — Unicode `White_Space`. -/
def isWhitespace (c : Char) : Bool :=
  (0x09 ≤ c.toNat && c.toNat ≤ 0x0d) || c.toNat == 0x20 || c.toNat == 0x85 || c.toNat == 0xa0 ||
    c.toNat == 0x1680 || (0x2000 ≤ c.toNat && c.toNat ≤ 0x200a) || c.toNat == 0x2028 ||
    c.toNat == 0x2029 || c.toNat == 0x202f || c.toNat == 0x205f || c.toNat == 0x3000

/-- `char::is_control` — Unicode `Cc`. -/
def isControl (c : Char) : Bool := c.toNat < 0x20 || (0x7f ≤ c.toNat && c.toNat ≤ 0x9f)

def trim (s : Text) : Text := (s.dropWhile isWhitespace).rdropWhile isWhitespace

/-- `str::len` — bytes of UTF-8. -/
def len (s : Text) : Nat := (s.map Char.utf8Size).sum

/-- An `i64` sum of a release build. -/
def addI64 (a b : Int) : Int := (a + b).bmod (2 ^ 64)

theorem addI64_eq {a b : Int} (hlo : -2 ^ 63 ≤ a + b) (hhi : a + b < 2 ^ 63) :
    addI64 a b = a + b :=
  Int.bmod_eq_of_le (by omega) (by omega)

/-! ## §1 — methods of `&str` -/

def isAsciiDigit (c : Char) : Bool := 0x30 ≤ c.toNat && c.toNat ≤ 0x39

def trimStart (s : Text) : Text := s.dropWhile isWhitespace

def join (sep : Text) (parts : List Text) : Text := List.intercalate sep parts

/-- The first place where a text stands in another: what comes before it, and the rest. -/
def splitFirst (needle : Text) : Text → Option (Text × Text)
  | [] => if needle.isEmpty then some ([], []) else none
  | c :: s =>
    if needle.isPrefixOf (c :: s) then some ([], c :: s)
    else (splitFirst needle s).map fun parts => (c :: parts.1, parts.2)

def splitOnce (needle s : Text) : Option (Text × Text) :=
  (splitFirst needle s).map fun parts => (parts.1, parts.2.drop needle.length)

/-! ## §2 — case mapping -/

/-- The Unicode tables of the standard library, as far as strings are mapped or tested by them. -/
structure Unicode where
  /-- `char::to_lowercase`. -/
  lower : Char → Text
  /-- `char::to_uppercase`. -/
  upper : Char → Text
  /-- `char::is_alphanumeric`. -/
  isAlphanumeric : Char → Bool
  /-- Whether a `Σ` is the last letter of its word, by the text before it, last character first, and
  the text after it. -/
  finalSigma : Text → Text → Bool

namespace Unicode

/-- `str::to_lowercase`, after some characters, last first. -/
def lowercaseAfter (u : Unicode) : Text → Text → Text
  | _, [] => []
  | before, c :: s =>
    (if c = 'Σ' then [if u.finalSigma before s then 'ς' else 'σ'] else u.lower c) ++
      u.lowercaseAfter (c :: before) s

def toLowercase (u : Unicode) (s : Text) : Text := u.lowercaseAfter [] s

end Unicode

end Lerdr.Rust
