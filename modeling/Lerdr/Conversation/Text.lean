/-
# Lerdr.Conversation.Text — text and JSON helpers of the transcript readers
(`lerdr-coord/src/conversation/util.rs`).

A transcript line is JSON that some agent wrote. `serde_json`, SHA-256 and the Unicode tables are
libraries and enter as the fields of a `Host`. Escape sequences are ASCII, so stripping them
character by character is stripping them byte by byte.
-/
import Lerdr.Rust.Serde

namespace Lerdr.Conversation

open Lib Lerdr.Rust

/-! ## §1 — JSON values -/

/-- `serde_json::Number`. Of a number that is no integer the readers only use texts: its own, and
the one `go_json_number` makes of it. -/
inductive Number where
  | int (n : Int)
  | float (text go : Text)
  deriving DecidableEq, Repr

/-- `Number::to_string`. -/
def Number.text : Number → Text
  | .int n => Json.number n
  | .float text _ => text

/-- `serde_json::Value`; the members of an object stand in the map's order. -/
inductive Value where
  | null
  | bool (b : Bool)
  | number (n : Number)
  | string (s : Text)
  | array (items : List Value)
  | object (members : List (Text × Value))

/-- `serde_json::Map`. -/
abbrev Record := List (Text × Value)

/-- What the readers take from libraries. -/
structure Host where
  unicode : Unicode
  /-- `Sha256::digest`. -/
  sha256 : Bytes → Block 32
  /-- `serde_json::from_slice::<Value>`. -/
  fromSlice : Bytes → Option Value

namespace Value

def asObject : Value → Option Record
  | .object members => some members
  | _ => none

def asArray : Value → Option (List Value)
  | .array items => some items
  | _ => none

/-- `string_value`: the text of a string, else nothing. -/
def stringValue : Value → Text
  | .string s => s
  | _ => []

def isNull : Value → Bool
  | .null => true
  | _ => false

mutual

/-- A value of the plain grammar, as serde reads it. -/
def ofJson : Json → Value
  | .null => .null
  | .bool b => .bool b
  | .num n => .number (.int n)
  | .str s => .string s
  | .arr items => .array (ofItems items)
  | .obj members => .object (ofMembers members)

def ofItems : List Json → List Value
  | [] => []
  | item :: items => ofJson item :: ofItems items

def ofMembers : List (Text × Json) → Record
  | [] => []
  | (key, item) :: members => (key, ofJson item) :: ofMembers members

end

end Value

/-- `record.get(key)`. -/
def Record.get (record : Record) (key : String) : Option Value := record.lookup key.toList

/-- `value.get(key)`. -/
def Value.get (value : Value) (key : String) : Option Value :=
  value.asObject.bind fun record => Record.get record key

/-- `record.get(key).unwrap_or(&Value::Null)`. -/
def Record.getOr (record : Record) (key : String) : Value := (Record.get record key).getD .null

/-- `record.get(key) == Some(&Value::Bool(true))`. -/
def Record.isTrue (record : Record) (key : String) : Bool :=
  match Record.get record key with
  | some (.bool true) => true
  | _ => false

/-- `string_value(record.get(key)…)`. -/
def Record.text (record : Record) (key : String) : Text := (Record.getOr record key).stringValue

/-- `first_string`: the first named key that holds a text with something in it. -/
def firstString (record : Record) : List String → Text
  | [] => []
  | key :: keys =>
    if (Record.text record key).isEmpty then firstString record keys else Record.text record key

/-- `first_value`: the first named key that holds something other than null. -/
def firstValue (record : Record) : List String → Option Value
  | [] => none
  | key :: keys =>
    match Record.get record key with
    | some value => if value.isNull then firstValue record keys else some value
    | none => firstValue record keys

/-! ## §2 — cleaning text -/

def esc : Char := Char.ofNat 0x1b

def bel : Char := Char.ofNat 0x07

def isAsciiAlphabetic (c : Char) : Bool :=
  (0x41 ≤ c.toNat && c.toNat ≤ 0x5a) || (0x61 ≤ c.toNat && c.toNat ≤ 0x7a)

/-- A character of the parameters of a control sequence. -/
def isParameter (c : Char) : Bool := isAsciiDigit c || c = ';'

/-- The final characters of a private control sequence. -/
def isPrivateFinal (c : Char) : Bool :=
  c = 'h' || c = 'l' || c = 'J' || c = 'K' || c = 'H' || c = 'f' || c = 'G'

/-- The length of a control sequence whose parameters begin at `body`, `before` characters in. -/
def controlLen (isFinal : Char → Bool) (before : Nat) (body : Text) : Option Nat :=
  match body.dropWhile isParameter with
  | final :: _ =>
    if isFinal final then some (before + (body.takeWhile isParameter).length + 1) else none
  | [] => none

/-- `ansi_escape_len` of an `ESC` with `s` behind it. -/
def ansiEscapeLen (s : Text) : Option Nat :=
  match s with
  | '[' :: '?' :: body => controlLen isPrivateFinal 3 body
  | '[' :: body => controlLen isAsciiAlphabetic 2 body
  | ']' :: body =>
    match body.dropWhile (· ≠ bel) with
    | _ :: _ => some (2 + (body.takeWhile (· ≠ bel)).length + 1)
    | [] => none
  | '(' :: c :: _ => if isAsciiDigit c || c = 'A' || c = 'B' then some 3 else none
  | ')' :: c :: _ => if isAsciiDigit c || c = 'A' || c = 'B' then some 3 else none
  | '>' :: _ => some 2
  | '=' :: _ => some 2
  | '<' :: _ => some 2
  | _ => none

/-- The text without escape sequences, after `skip` characters of one. -/
def stripFrom : Nat → Text → Text
  | _, [] => []
  | skip + 1, _ :: s => stripFrom skip s
  | 0, c :: s =>
    if c = esc then
      match ansiEscapeLen s with
      | some n => stripFrom (n - 1) s
      | none => c :: stripFrom 0 s
    else c :: stripFrom 0 s

def stripAnsi (s : Text) : Text := stripFrom 0 s

def normalizeLine (s : Text) : Text :=
  ((stripAnsi s).filter (· ≠ '\r')).rdropWhile fun c => c = ' ' || c = '\t' || c = '\n'

def sanitizeText (s : Text) : Text := trim ((normalizeLine s).filter (· ≠ Char.ofNat 0))

/-- The characters that fit into `n` bytes. -/
def takeBytes : Nat → Text → Text
  | _, [] => []
  | n, c :: s => if c.utf8Size ≤ n then c :: takeBytes (n - c.utf8Size) s else []

/-- `clamp_text`: the text cut to a number of bytes, and whether it was. -/
def clampText (s : Text) (limit : Nat) : Text × Bool :=
  if len s ≤ limit then (s, false) else (trim (takeBytes limit s), true)

/-- Lower case, without `-`, `_` and blanks. -/
def normalizedName (host : Host) (s : Text) : Text :=
  (host.unicode.toLowercase s).filter fun c => c ≠ '-' && c ≠ '_' && c ≠ ' '

def normalizedAgent (host : Host) (agent : Text) : Text := normalizedName host (trim agent)

def normalizedBlockType (host : Host) (value : Value) : Text :=
  normalizedName host value.stringValue

/-! ## §3 — the text of a value -/

def blockText (value : Value) : Option Text :=
  match value.asObject with
  | none => none
  | some block =>
    let kind := Record.text block "type"
    if kind ≠ "text".toList ∧ kind ≠ "input_text".toList ∧ kind ≠ "output_text".toList then none
    else if (Record.text block "text").isEmpty then none
    else some (Record.text block "text")

def textBlockList (value : Value) : List Text := (value.asArray.getD []).filterMap blockText

def textBlocks (value : Value) : Text :=
  match value with
  | .string s => s
  | _ => join ['\n'] (textBlockList value)

/-- `write_go_json_string`, one character of it. -/
def writeGoChar (c : Char) : Text :=
  if c = '"' then ['\\', '"']
  else if c = '\\' then ['\\', '\\']
  else if c = '\n' then ['\\', 'n']
  else if c = '\r' then ['\\', 'r']
  else if c = '\t' then ['\\', 't']
  else if c = '<' then ['\\', 'u', '0', '0', '3', 'c']
  else if c = '>' then ['\\', 'u', '0', '0', '3', 'e']
  else if c = '&' then ['\\', 'u', '0', '0', '2', '6']
  else if c.toNat = 0x2028 then ['\\', 'u', '2', '0', '2', '8']
  else if c.toNat = 0x2029 then ['\\', 'u', '2', '0', '2', '9']
  else if c.toNat < 0x20 then
    ['\\', 'u', '0', '0', Nat.digitChar (c.toNat / 16), Nat.digitChar (c.toNat % 16)]
  else [c]

/-- `write_go_json_string`. -/
def writeGoString (s : Text) : Text := '"' :: (s.flatMap writeGoChar ++ ['"'])

mutual

def goJsonMarshal : Value → Text
  | .null => "null".toList
  | .bool true => "true".toList
  | .bool false => "false".toList
  | .number (.int n) => (toString n).toList
  | .number (.float _ go) => go
  | .string s => writeGoString s
  | .array items => '[' :: (join [','] (goJsonItems items) ++ [']'])
  | .object members => '\x7b' :: (join [','] (goJsonMembers members) ++ ['\x7d'])

def goJsonItems : List Value → List Text
  | [] => []
  | item :: items => goJsonMarshal item :: goJsonItems items

def goJsonMembers : Record → List Text
  | [] => []
  | (key, item) :: members =>
    (writeGoString key ++ ':' :: goJsonMarshal item) :: goJsonMembers members

end

def textValue (value : Value) : Text :=
  match value with
  | .string s => s
  | _ =>
    if (textBlocks value).isEmpty then
      if goJsonMarshal value = "null".toList then [] else goJsonMarshal value
    else textBlocks value

/-- `inner_tag`: what stands between the first tag of a name and its end. -/
def innerTag (s : Text) (name : String) : Text :=
  match splitOnce ('<' :: name.toList ++ ['>']) s with
  | none => []
  | some (_, rest) =>
    match splitOnce ('<' :: '/' :: name.toList ++ ['>']) rest with
    | none => []
    | some (inner, _) => trim inner

/-! ## §4 — row ids -/

/-- `hex::encode`. -/
def hex (bs : Bytes) : Text :=
  bs.flatMap fun b => [Nat.digitChar (b.toNat / 16), Nat.digitChar (b.toNat % 16)]

theorem hex_no_dash (bs : Bytes) : '-' ∉ hex bs := by
  have hdigit : ∀ d < 16, Nat.digitChar d ≠ '-' := by decide
  intro h
  obtain ⟨b, -, hb⟩ := List.mem_flatMap.mp h
  have hlt := b.toNat_lt
  simp only [List.mem_cons, List.not_mem_nil, or_false] at hb
  rcases hb with hb | hb
  · exact hdigit _ (by omega) hb.symm
  · exact hdigit _ (by omega) hb.symm

/-- The digest that a line's id begins with. -/
def rowBase (host : Host) (line : Bytes) : Text := hex ((host.sha256 line).toList.take 12)

theorem rowBase_ne_nil (host : Host) (line : Bytes) : rowBase host line ≠ [] := by
  intro h
  have hlength := congrArg List.length h
  rw [rowBase, hex, List.length_flatMap] at hlength
  simp at hlength

/-- The id of the `n`th line with a digest. -/
def rowId (base : Text) (n : Nat) : Text :=
  if n = 0 then base else base ++ '-' :: Nat.toDigits 10 n

/-- `stable_row_id`: the id, and the lines seen of each digest. -/
def stableRowId (host : Host) (line : Bytes) (seen : Text → Nat) : Text × (Text → Nat) :=
  let base := rowBase host line
  (rowId base (seen base), Function.update seen base (seen base + 1))

def toolAssociationKey (host : Host) (agent id : Text) : Text :=
  hex (host.sha256 (Utf8.bytes agent ++ 0 :: Utf8.bytes id)).toList

/-- **An id says its digest and its number.** -/
theorem rowId_inj {a b : Text} {n m : Nat} (ha : '-' ∉ a) (hb : '-' ∉ b)
    (h : rowId a n = rowId b m) : a = b ∧ n = m := by
  have hsplit : ∀ (base : Text) (k : Nat), '-' ∉ base →
      (rowId base k).takeWhile (· ≠ '-') = base ∧
        (rowId base k).dropWhile (· ≠ '-') = if k = 0 then [] else '-' :: Nat.toDigits 10 k := by
    intro base k hbase
    have hall : ∀ c ∈ base, (decide (c ≠ '-')) = true := by
      intro c hc
      exact decide_eq_true (fun heq => hbase (heq ▸ hc))
    rw [rowId]
    split
    · exact ⟨List.takeWhile_eq_self_iff.mpr hall, List.dropWhile_eq_nil_iff.mpr hall⟩
    · constructor
      · rw [List.takeWhile_append_of_pos hall]
        simp
      · rw [List.dropWhile_append_of_pos hall]
        simp
  obtain ⟨hta, hda⟩ := hsplit a n ha
  obtain ⟨htb, hdb⟩ := hsplit b m hb
  rw [h] at hta hda
  refine ⟨hta.symm.trans htb, ?_⟩
  rw [hdb] at hda
  split at hda
  · next hm =>
    split at hda
    · next hn => rw [hn, hm]
    · cases hda
  · split at hda
    · cases hda
    · -- the digits after the dash are read back
      have hdigits := congrArg (Nat.ofDigitChars 10 · 0) (List.cons.inj hda).2
      simp only [Nat.ofDigitChars_toDigits (by decide : 1 < 10) (by decide : 10 ≤ 10)] at hdigits
      exact hdigits.symm

/-! ## §5 — a small host -/

/-- Lower case for ASCII letters only. -/
def asciiTables : Unicode where
  lower c := [c.toLower]
  upper c := [c.toUpper]
  isAlphanumeric c := c.isAlphanum
  finalSigma _ _ := false

def sampleDigest (bs : Bytes) : Block 32 :=
  let h := bs.foldl (fun h b => (h * 257 + b.toNat + 1) % 2 ^ 96) 7
  ⟨(List.range 32).map fun i => UInt8.ofNat (h / 256 ^ i),
    by rw [List.length_map, List.length_range]⟩

/-- A host that reads compact JSON. -/
def sampleHost : Host where
  unicode := asciiTables
  sha256 := sampleDigest
  fromSlice raw := ((Utf8.decode raw).bind Json.parse).map Value.ofJson

end Lerdr.Conversation
