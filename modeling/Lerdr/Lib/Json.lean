/-
# Lib.Json — compact JSON text, and reading it back.

A value is printed without blanks; how a character is escaped inside a literal is a parameter, as
writers differ in that. The reader is one for every writer whose escapes are JSON's: what is printed
is read back as it was (`parse_print`).

Numbers are integers.
-/
import Mathlib.Data.Bool.AllAny
import Mathlib.Data.List.TakeWhile
import Mathlib.Tactic

namespace Lib

/-- A JSON value. The members of an object keep their order. -/
inductive Json where
  | null
  | bool (value : Bool)
  | num (value : Int)
  | str (text : List Char)
  | arr (items : List Json)
  | obj (members : List (List Char × Json))
  deriving Repr

namespace Json

/-- Whether a value has no parts. -/
def isAtom : Json → Bool
  | .arr _ | .obj _ => false
  | _ => true

/-! ## §1 — printing -/

section Print

variable (esc : Char → List Char)

def literal (text : List Char) : List Char := '"' :: (text.flatMap esc ++ ['"'])

/-- An integer. -/
def number (n : Int) : List Char :=
  if n < 0 then '-' :: Nat.toDigits 10 n.natAbs else Nat.toDigits 10 n.natAbs

mutual

def print : Json → List Char
  | .null => ['n', 'u', 'l', 'l']
  | .bool true => ['t', 'r', 'u', 'e']
  | .bool false => ['f', 'a', 'l', 's', 'e']
  | .num n => number n
  | .str text => literal esc text
  | .arr [] => ['[', ']']
  | .arr (item :: items) => '[' :: (print item ++ printItems items)
  | .obj [] => ['{', '}']
  | .obj ((key, item) :: members) =>
    '{' :: (literal esc key ++ ':' :: (print item ++ printMembers members))

def printItems : List Json → List Char
  | [] => [']']
  | item :: items => ',' :: (print item ++ printItems items)

/-- The members of an object after the first, and its end. -/
def printMembers : List (List Char × Json) → List Char
  | [] => ['}']
  | (key, item) :: members =>
    ',' :: (literal esc key ++ ':' :: (print item ++ printMembers members))

end

end Print

/-! ## §2 — reading -/

/-- What follows a word. -/
def expect (word text : List Char) : Option (List Char) :=
  if word.isPrefixOf text then some (text.drop word.length) else none

/-- The value of a hexadecimal digit. -/
def hex? (c : Char) : Option Nat :=
  if '0' ≤ c ∧ c ≤ '9' then some (c.toNat - 48)
  else if 'a' ≤ c ∧ c ≤ 'f' then some (c.toNat - 87)
  else if 'A' ≤ c ∧ c ≤ 'F' then some (c.toNat - 55)
  else none

/-- Four hexadecimal digits. -/
def hex4? : List Char → Option (Nat × List Char)
  | a :: b :: c :: d :: rest => do
    let a ← hex? a
    let b ← hex? b
    let c ← hex? c
    let d ← hex? d
    some (a * 4096 + b * 256 + c * 16 + d, rest)
  | _ => none

/-- The character of `\u`, whose second half follows if the first is one of a pair. -/
def readUnicode (text : List Char) : Option (Char × List Char) := do
  let (high, rest) ← hex4? text
  if 0xD800 ≤ high ∧ high < 0xDC00 then
    let rest ← expect ['\\', 'u'] rest
    let (low, rest) ← hex4? rest
    if 0xDC00 ≤ low ∧ low < 0xE000 then
      some (Char.ofNat (0x10000 + (high - 0xD800) * 0x400 + (low - 0xDC00)), rest)
    else none
  else if 0xDC00 ≤ high ∧ high < 0xE000 then none
  else some (Char.ofNat high, rest)

/-- The character that a letter stands for after a backslash. -/
def shortEscape? (c : Char) : Option Char :=
  if c = '"' then some '"'
  else if c = '\\' then some '\\'
  else if c = '/' then some '/'
  else if c = 'b' then some '\x08'
  else if c = 'f' then some '\x0c'
  else if c = 'n' then some '\n'
  else if c = 'r' then some '\r'
  else if c = 't' then some '\t'
  else none

def readChar : List Char → Option (Char × List Char)
  | [] => none
  | c :: rest =>
    if c = '"' then none
    else if c = '\\' then
      match rest with
      | [] => none
      | e :: rest =>
        if e = 'u' then readUnicode rest else (shortEscape? e).map fun c => (c, rest)
    else if c.toNat < 0x20 then none
    else some (c, rest)

/-- The characters of a literal up to its end. -/
def readBody : Nat → List Char → Option (List Char × List Char)
  | 0, _ => none
  | _, [] => none
  | n + 1, c :: rest =>
    if c = '"' then some ([], rest)
    else do
      let (first, rest) ← readChar (c :: rest)
      let (text, rest) ← readBody n rest
      some (first :: text, rest)

def readLiteral (n : Nat) : List Char → Option (List Char × List Char)
  | c :: rest => if c = '"' then readBody n rest else none
  | [] => none

/-- A run of digits, which is not empty and has no zero to spare. -/
def readDigits (text : List Char) : Option (Nat × List Char) :=
  let digits := text.takeWhile Char.isDigit
  let k := Nat.ofDigitChars 10 digits 0
  if digits = Nat.toDigits 10 k then some (k, text.dropWhile Char.isDigit) else none

/-- An integer; zero has no sign. -/
def readNumber : List Char → Option (Int × List Char)
  | [] => none
  | c :: rest =>
    if c = '-' then ((readDigits rest).filter (0 < ·.1)).map fun p => (-(p.1 : Int), p.2)
    else (readDigits (c :: rest)).map fun p => ((p.1 : Int), p.2)

mutual

/-- A value, and what follows it. -/
def value : Nat → List Char → Option (Json × List Char)
  | 0, _ => none
  | _, [] => none
  | n + 1, c :: rest =>
    if c = '"' then (readBody n rest).map fun p => (.str p.1, p.2)
    else if c = '[' then
      if rest.head? = some ']' then some (.arr [], rest.tail)
      else do
        let (first, rest) ← value n rest
        let (others, rest) ← items n rest
        some (.arr (first :: others), rest)
    else if c = '{' then
      if rest.head? = some '}' then some (.obj [], rest.tail)
      else do
        let (key, rest) ← readLiteral n rest
        let rest ← expect [':'] rest
        let (first, rest) ← value n rest
        let (others, rest) ← members n rest
        some (.obj ((key, first) :: others), rest)
    else if c = 'n' then (expect ['u', 'l', 'l'] rest).map fun rest => (.null, rest)
    else if c = 't' then (expect ['r', 'u', 'e'] rest).map fun rest => (.bool true, rest)
    else if c = 'f' then (expect ['a', 'l', 's', 'e'] rest).map fun rest => (.bool false, rest)
    else (readNumber (c :: rest)).map fun p => (.num p.1, p.2)

def items : Nat → List Char → Option (List Json × List Char)
  | 0, _ => none
  | _, [] => none
  | n + 1, c :: rest =>
    if c = ']' then some ([], rest)
    else if c = ',' then do
      let (first, rest) ← value n rest
      let (others, rest) ← items n rest
      some (first :: others, rest)
    else none

def members : Nat → List Char → Option (List (List Char × Json) × List Char)
  | 0, _ => none
  | _, [] => none
  | n + 1, c :: rest =>
    if c = '}' then some ([], rest)
    else if c = ',' then do
      let (key, rest) ← readLiteral n rest
      let rest ← expect [':'] rest
      let (first, rest) ← value n rest
      let (others, rest) ← members n rest
      some ((key, first) :: others, rest)
    else none

end

def parse (text : List Char) : Option Json :=
  match value (text.length + 1) text with
  | some (v, []) => some v
  | _ => none

/-! ## §3 — what is printed is read -/

/-- **Escapes that are JSON's**: each is read as the character it stands for. -/
def Escapes (esc : Char → List Char) : Prop :=
  ∀ c rest, readChar (esc c ++ rest) = some (c, rest)

/-- A text that does not go on with a digit. -/
def Ends (text : List Char) : Prop := ∀ c ∈ text.head?, c.isDigit = false

theorem ends_nil : Ends [] := by simp [Ends]

theorem ends_cons {c : Char} (h : c.isDigit = false) (rest : List Char) : Ends (c :: rest) := by
  simpa [Ends] using h

theorem hex4?_append {text rest more : List Char} {k : Nat} (h : hex4? text = some (k, rest)) :
    hex4? (text ++ more) = some (k, rest ++ more) := by
  rcases text with _ | ⟨a, _ | ⟨b, _ | ⟨c, _ | ⟨d, others⟩⟩⟩⟩ <;> simp only [hex4?] at h
  all_goals first | cases h | skip
  simp only [List.cons_append, hex4?, Option.bind_eq_bind, Option.bind_eq_some_iff] at h ⊢
  obtain ⟨a', ha, b', hb, c', hc, d', hd, hrest⟩ := h
  refine ⟨a', ha, b', hb, c', hc, d', hd, ?_⟩
  simp only [Option.some.injEq, Prod.mk.injEq] at hrest ⊢
  exact ⟨hrest.1, by rw [hrest.2]⟩

/-- **A character written by its four digits**, below the surrogates. -/
theorem readChar_unicode {a b c d : Char} {k : Nat} (h : hex4? [a, b, c, d] = some (k, []))
    (hk : k < 0xD800) (rest : List Char) :
    readChar (['\\', 'u', a, b, c, d] ++ rest) = some (Char.ofNat k, rest) := by
  have hread : readUnicode (a :: b :: c :: d :: rest) = some (Char.ofNat k, rest) := by
    have hdigits : hex4? (a :: b :: c :: d :: rest) = some (k, rest) := hex4?_append h
    simp only [readUnicode, hdigits, Option.bind_eq_bind, Option.bind_some]
    rw [if_neg (by omega), if_neg (by omega)]
  exact hread

section RoundTrip

variable {esc : Char → List Char}

/-- An escape is not empty, and does not begin with the end of a literal. -/
theorem Escapes.cons (hesc : Escapes esc) (c : Char) :
    ∃ first rest, esc c = first :: rest ∧ first ≠ '"' := by
  have hread := hesc c []
  cases hc : esc c with
  | nil => simp [hc, readChar] at hread
  | cons first rest =>
    refine ⟨first, rest, rfl, ?_⟩
    rintro rfl
    simp [hc, readChar] at hread

theorem readBody_escape (hesc : Escapes esc) {text : List Char} {n : Nat} (hn : text.length < n)
    (rest : List Char) : readBody n (text.flatMap esc ++ '"' :: rest) = some (text, rest) := by
  induction text generalizing n with
  | nil =>
    obtain ⟨m, rfl⟩ := Nat.exists_eq_succ_of_ne_zero (Nat.ne_of_gt hn)
    simp [readBody]
  | cons c text ih =>
    obtain ⟨m, rfl⟩ := Nat.exists_eq_succ_of_ne_zero (Nat.ne_of_gt (Nat.zero_lt_of_lt hn))
    obtain ⟨first, others, hc, hfirst⟩ := hesc.cons c
    have hread := hesc c (text.flatMap esc ++ '"' :: rest)
    rw [hc, List.cons_append] at hread
    have hrest := ih (Nat.lt_of_succ_lt_succ hn)
    rw [List.flatMap_cons, hc, List.append_assoc, List.cons_append, readBody, if_neg hfirst, hread]
    simp [hrest]

theorem length_le_literal (hesc : Escapes esc) (text : List Char) :
    text.length + 2 ≤ (literal esc text).length := by
  have hflat : text.length ≤ (text.flatMap esc).length := by
    induction text with
    | nil => simp
    | cons c text ih =>
      obtain ⟨first, rest, hc, -⟩ := hesc.cons c
      simp only [List.flatMap_cons, List.length_append, List.length_cons, hc]
      omega
  simp only [literal, List.length_cons, List.length_append, List.length_nil]
  omega

theorem readLiteral_literal (hesc : Escapes esc) {text : List Char} {n : Nat}
    (hn : (literal esc text).length ≤ n) (rest : List Char) :
    readLiteral n (literal esc text ++ rest) = some (text, rest) := by
  have hlength := length_le_literal hesc text
  rw [literal, List.cons_append, readLiteral, if_pos rfl, List.append_assoc]
  exact readBody_escape hesc (by omega) rest

theorem isDigit_of_mem {k : Nat} {c : Char} (h : c ∈ Nat.toDigits 10 k) : c.isDigit = true :=
  Nat.isDigit_of_mem_toDigits (by decide) (by decide) h

theorem readDigits_toDigits (k : Nat) {rest : List Char} (hrest : Ends rest) :
    readDigits (Nat.toDigits 10 k ++ rest) = some (k, rest) := by
  have hdigits : ∀ c ∈ Nat.toDigits 10 k, c.isDigit = true := fun c hc => isDigit_of_mem hc
  have htake : (Nat.toDigits 10 k ++ rest).takeWhile Char.isDigit = Nat.toDigits 10 k := by
    rw [List.takeWhile_append_of_pos hdigits]
    cases rest with
    | nil => simp
    | cons c rest =>
      have hc : c.isDigit = false := hrest c (by simp)
      rw [List.takeWhile_cons_of_neg (by simp [hc]), List.append_nil]
  have hdrop : (Nat.toDigits 10 k ++ rest).dropWhile Char.isDigit = rest := by
    rw [List.dropWhile_append_of_pos hdigits]
    cases rest with
    | nil => rfl
    | cons c rest =>
      have hc : c.isDigit = false := hrest c (by simp)
      rw [List.dropWhile_cons_of_neg (by simp [hc])]
  simp only [readDigits, htake, hdrop]
  rw [Nat.ofDigitChars_toDigits (by decide) (by decide), if_pos rfl]

theorem number_natCast (k : Nat) : number k = Nat.toDigits 10 k := by
  rw [number, if_neg (by omega), Int.natAbs_natCast]

/-- The text of an integer begins with a sign or a digit. -/
theorem number_cons (n : Int) :
    ∃ first rest, number n = first :: rest ∧ (first = '-' ∨ first.isDigit = true) := by
  unfold number
  split
  · exact ⟨'-', _, rfl, .inl rfl⟩
  · cases hdigits : Nat.toDigits 10 n.natAbs with
    | nil => exact absurd hdigits Nat.toDigits_ne_nil
    | cons first rest =>
      refine ⟨first, rest, rfl, .inr ?_⟩
      exact isDigit_of_mem (k := n.natAbs) (by rw [hdigits]; simp)

theorem readNumber_number (n : Int) {rest : List Char} (hrest : Ends rest) :
    readNumber (number n ++ rest) = some (n, rest) := by
  unfold number
  split
  · rename_i hneg
    have hfilter : (some (n.natAbs, rest)).filter (0 < ·.1) = some (n.natAbs, rest) := by
      rw [Option.filter_some_pos]
      exact decide_eq_true (by show 0 < n.natAbs; omega)
    rw [List.cons_append, readNumber, if_pos rfl, readDigits_toDigits _ hrest, hfilter]
    simp only [Option.map_some, Option.some.injEq, Prod.mk.injEq, and_true]
    omega
  · rename_i hpos
    have hread := readDigits_toDigits n.natAbs hrest
    cases hdigits : Nat.toDigits 10 n.natAbs with
    | nil => exact absurd hdigits Nat.toDigits_ne_nil
    | cons first others =>
      have hfirst : first.isDigit = true :=
        isDigit_of_mem (k := n.natAbs) (by rw [hdigits]; simp)
      have hsign : first ≠ '-' := by
        rintro rfl
        revert hfirst
        decide
      rw [hdigits, List.cons_append] at hread
      rw [List.cons_append, readNumber, if_neg hsign, hread]
      simp only [Option.map_some, Option.some.injEq, Prod.mk.injEq, and_true]
      omega

/-- What the reader of values looks at first. -/
theorem sign_or_digit_ne {c : Char} (h : c = '-' ∨ c.isDigit = true) :
    c ≠ '"' ∧ c ≠ '[' ∧ c ≠ '{' ∧ c ≠ 'n' ∧ c ≠ 't' ∧ c ≠ 'f' ∧ c ≠ ']' := by
  rcases h with rfl | hdigit
  · decide
  · refine ⟨?_, ?_, ?_, ?_, ?_, ?_, ?_⟩ <;> (rintro rfl; revert hdigit; decide)

theorem print_head (esc : Char → List Char) (v : Json) :
    ∃ first rest, print esc v = first :: rest ∧ first ≠ ']' := by
  cases v with
  | null => exact ⟨_, _, rfl, by decide⟩
  | bool b => cases b <;> exact ⟨_, _, rfl, by decide⟩
  | num n =>
    obtain ⟨first, rest, hnumber, hfirst⟩ := number_cons n
    exact ⟨first, rest, by rw [print, hnumber], (sign_or_digit_ne hfirst).2.2.2.2.2.2⟩
  | str text => exact ⟨_, _, rfl, by decide⟩
  | arr items => cases items <;> exact ⟨_, _, rfl, by decide⟩
  | obj members =>
    cases members with
    | nil => exact ⟨_, _, rfl, by decide⟩
    | cons member members => exact ⟨_, _, rfl, by decide⟩

theorem printItems_ends (items : List Json) (rest : List Char) :
    Ends (printItems esc items ++ rest) := by
  cases items <;> exact ends_cons (by decide) _

theorem printMembers_ends (members : List (List Char × Json)) (rest : List Char) :
    Ends (printMembers esc members ++ rest) := by
  rcases members with _ | ⟨⟨key, item⟩, members⟩ <;> exact ends_cons (by decide) _

theorem print_length_pos (v : Json) : 0 < (print esc v).length := by
  obtain ⟨first, rest, hprint, -⟩ := print_head esc v
  simp [hprint]

mutual

/-- **A printed value is read back**, with a step for each of its characters. -/
theorem value_print (hesc : Escapes esc) : ∀ (v : Json) (n : Nat) (rest : List Char),
    (print esc v).length ≤ n → Ends rest → value n (print esc v ++ rest) = some (v, rest)
  | v, 0, rest, hn, _ => absurd hn (Nat.not_le_of_lt (print_length_pos v))
  | .null, n + 1, rest, _, _ => by simp [print, value, expect]
  | .bool true, n + 1, rest, _, _ => by simp [print, value, expect]
  | .bool false, n + 1, rest, _, _ => by simp [print, value, expect]
  | .num k, n + 1, rest, _, hrest => by
    obtain ⟨first, others, hnumber, hfirst⟩ := number_cons k
    obtain ⟨h1, h2, h3, h4, h5, h6, -⟩ := sign_or_digit_ne hfirst
    have hread := readNumber_number k hrest
    rw [hnumber, List.cons_append] at hread
    rw [print, hnumber, List.cons_append, value]
    simp [h1, h2, h3, h4, h5, h6, hread]
  | .str text, n + 1, rest, hn, _ => by
    have hlength := length_le_literal hesc text
    rw [print] at hn
    have hfuel : text.length < n := by omega
    have hread := readBody_escape hesc hfuel rest
    rw [print, literal, List.cons_append, List.append_assoc, value, if_pos rfl]
    simp only [List.cons_append, List.nil_append, hread, Option.map_some]
  | .arr [], n + 1, rest, _, _ => by simp [print, value]
  | .arr (item :: others), n + 1, rest, hn, _ => by
    simp only [print, List.length_cons, List.length_append] at hn
    obtain ⟨first, tail, hhead, hfirst⟩ := print_head esc item
    have hitem := value_print hesc item n (printItems esc others ++ rest) (by omega)
      (printItems_ends others rest)
    have hothers := items_print hesc others n rest (by omega)
    have hopen : (print esc item ++ (printItems esc others ++ rest)).head? ≠ some ']' := by
      simp [hhead, hfirst]
    rw [print, List.cons_append, List.append_assoc, value, if_neg (by decide), if_pos rfl,
      if_neg hopen, hitem]
    simp [hothers]
  | .obj [], n + 1, rest, _, _ => by simp [print, value]
  | .obj ((key, item) :: others), n + 1, rest, hn, _ => by
    simp only [print, List.length_cons, List.length_append] at hn
    have hfuel : (literal esc key).length ≤ n := by omega
    have hkey := readLiteral_literal hesc hfuel
      (':' :: (print esc item ++ (printMembers esc others ++ rest)))
    have hitem := value_print hesc item n (printMembers esc others ++ rest) (by omega)
      (printMembers_ends others rest)
    have hothers := members_print hesc others n rest (by omega)
    have hopen : (literal esc key ++
        ':' :: (print esc item ++ (printMembers esc others ++ rest))).head? ≠ some '}' := by
      simp [literal]
    simp only [print, List.cons_append, List.append_assoc]
    rw [value, if_neg (by decide), if_neg (by decide), if_pos rfl, if_neg hopen, hkey]
    simp [expect, hitem, hothers]

theorem items_print (hesc : Escapes esc) : ∀ (vs : List Json) (n : Nat) (rest : List Char),
    (printItems esc vs).length ≤ n → items n (printItems esc vs ++ rest) = some (vs, rest)
  | [], 0, _, hn => by simp [printItems] at hn
  | _ :: _, 0, _, hn => by simp [printItems] at hn
  | [], n + 1, rest, _ => by simp [printItems, items]
  | item :: others, n + 1, rest, hn => by
    simp only [printItems, List.length_cons, List.length_append] at hn
    have hitem := value_print hesc item n (printItems esc others ++ rest) (by omega)
      (printItems_ends others rest)
    have hothers := items_print hesc others n rest (by omega)
    rw [printItems, List.cons_append, List.append_assoc, items, if_neg (by decide), if_pos rfl,
      hitem]
    simp [hothers]

theorem members_print (hesc : Escapes esc) : ∀ (ms : List (List Char × Json)) (n : Nat)
    (rest : List Char), (printMembers esc ms).length ≤ n →
      members n (printMembers esc ms ++ rest) = some (ms, rest)
  | [], 0, _, hn => by simp [printMembers] at hn
  | _ :: _, 0, _, hn => by simp [printMembers] at hn
  | [], n + 1, rest, _ => by simp [printMembers, members]
  | (key, item) :: others, n + 1, rest, hn => by
    simp only [printMembers, List.length_cons, List.length_append] at hn
    have hfuel : (literal esc key).length ≤ n := by omega
    have hkey := readLiteral_literal hesc hfuel
      (':' :: (print esc item ++ (printMembers esc others ++ rest)))
    have hitem := value_print hesc item n (printMembers esc others ++ rest) (by omega)
      (printMembers_ends others rest)
    have hothers := members_print hesc others n rest (by omega)
    simp only [printMembers, List.cons_append, List.append_assoc]
    rw [members, if_neg (by decide), if_pos rfl, hkey]
    simp [expect, hitem, hothers]

end

/-- **What is printed is read back.** -/
theorem parse_print (hesc : Escapes esc) (v : Json) : parse (print esc v) = some v := by
  have hread := value_print hesc v ((print esc v).length + 1) [] (by omega) ends_nil
  rw [List.append_nil] at hread
  rw [parse, hread]

end RoundTrip

/-- **No value begins with a control character.** -/
theorem parse_control {c : Char} (h : c.toNat < 0x20) (rest : List Char) :
    parse (c :: rest) = none := by
  have hne : ∀ d : Char, 0x20 ≤ d.toNat → c ≠ d := by
    rintro d hd rfl
    omega
  have hdigit : c.isDigit = false := by
    rw [Char.isDigit, Bool.and_eq_false_iff]
    exact .inl (decide_eq_false fun hle => by
      have : 48 ≤ c.toNat := UInt32.le_iff_toNat_le.mp hle
      omega)
  have hnumber : readNumber (c :: rest) = none := by
    rw [readNumber, if_neg (hne '-' (by decide))]
    have hdigits : readDigits (c :: rest) = none := by
      simp only [readDigits, List.takeWhile_cons_of_neg (by simpa using hdigit)]
      exact if_neg (by decide)
    rw [hdigits, Option.map_none]
  have hvalue : value ((c :: rest).length + 1) (c :: rest) = none := by
    rw [value, if_neg (hne _ (by decide)), if_neg (hne _ (by decide)), if_neg (hne _ (by decide)),
      if_neg (hne _ (by decide)), if_neg (hne _ (by decide)), if_neg (hne _ (by decide)), hnumber,
      Option.map_none]
  rw [parse, hvalue]

/-! ## §4 — what a printed text is made of -/

section Made

variable {esc : Char → List Char}

section

variable (esc : Char → List Char) {v : Json} {items : List Json} (h : v ∈ items)
include h

theorem length_printItems : (print esc v).length ≤ (printItems esc items).length := by
  induction items with
  | nil => cases h
  | cons item items ih =>
    rw [printItems, List.length_cons, List.length_append]
    rcases List.mem_cons.mp h with rfl | h
    · omega
    · have := ih h
      omega

/-- An array is as long as each of its items. -/
theorem length_print_arr : (print esc v).length ≤ (print esc (.arr items)).length := by
  cases items with
  | nil => cases h
  | cons item items =>
    -- an array is its items behind a bracket in the place of the first comma
    have hitems := length_printItems esc h
    rw [printItems] at hitems
    rw [print]
    exact hitems

end

section

variable (esc : Char → List Char) {key : List Char} {v : Json} {members : List
  (List Char × Json)} (h : (key, v) ∈ members)
include h

theorem length_printMembers : (print esc v).length ≤ (printMembers esc members).length := by
  induction members with
  | nil => cases h
  | cons member members ih =>
    obtain ⟨key', item⟩ := member
    rw [printMembers, List.length_cons, List.length_append, List.length_cons, List.length_append]
    rcases List.mem_cons.mp h with heq | h
    · rw [(Prod.mk.inj heq).2]
      omega
    · have := ih h
      omega

/-- An object is as long as each of its members. -/
theorem length_print_obj : (print esc v).length ≤ (print esc (.obj members)).length := by
  cases members with
  | nil => cases h
  | cons member members =>
    have hmembers := length_printMembers esc h
    rw [printMembers] at hmembers
    rw [print]
    exact hmembers

end

end Made

end Json

end Lib
