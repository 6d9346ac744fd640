/-
# Lerdr.Actions.Timestamps — RFC 3339 timestamps (`push.rs`, `uploads.rs`, `activity.rs`).

Three parsers read the same strings, and two printers write them. `Stamp` is the grammar, with the
instant that a string of it denotes. On every string the parser of `push.rs` gives that instant, and
the one of `activity.rs` its milliseconds; the one of `uploads.rs` adds the minutes of an offset as
seconds (`offset_minutes_misread`), and keeps only 64 bits of the nanoseconds (`zero_time_misread`).

Strings are taken as their bytes. A parser's index is kept as the bytes that are left.
-/
import Lerdr.Actions.Calendar
import Lerdr.Lib.Utf8

namespace Lerdr.Actions

open Lib Lib.Gregorian Lerdr.Rust

/-! ## §1 — reading -/

def isAsciiDigit (b : UInt8) : Bool := 48 ≤ b.toNat && b.toNat ≤ 57

def value (bs : Bytes) : Nat := bs.foldl (fun n b => 10 * n + (b.toNat - 48)) 0

/-- `ascii_digits`, and the closures `digits` of the other two. -/
def digits (b : Bytes) (offset count : Nat) : Option Int :=
  let slice := (b.drop offset).take count
  if slice.length = count ∧ slice.all isAsciiDigit then some (value slice) else none

/-- `days_in_month`, which all three have. -/
def daysInMonth (year month : Int) : Int :=
  if month = 1 ∨ month = 3 ∨ month = 5 ∨ month = 7 ∨ month = 8 ∨ month = 10 ∨ month = 12 then 31
  else if month = 4 ∨ month = 6 ∨ month = 9 ∨ month = 11 then 30
  else if month = 2 then
    if year.tmod 4 = 0 ∧ (year.tmod 100 ≠ 0 ∨ year.tmod 400 = 0) then 29 else 28
  else 0

/-- The offset of a zone in seconds, and what comes after it; `seconds` is what the hours and
minutes of an offset come to, if they are taken at all. -/
def parseZone (seconds : Int → Int → Option Int) (rest : Bytes) : Option (Int × Bytes) :=
  match rest with
  | [] => none
  | c :: after =>
    if c = 90 ∨ c = 122 then some (0, after)
    else if c = 43 ∨ c = 45 then
      match digits rest 1 2, digits rest 4 2 with
      | some hour, some minute =>
        if rest[3]? = some 58 then
          (seconds hour minute).map fun s => (if c = 45 then -s else s, rest.drop 6)
        else none
      | _, _ => none
    else none

/-- The hours and minutes of an offset, checked as `uploads.rs` and `activity.rs` do. -/
def checkedOffset (seconds : Int → Int → Int) (hour minute : Int) : Option Int :=
  if 23 < hour ∨ 59 < minute then none else some (seconds hour minute)

namespace Push

structure Timestamp where
  secs : Int
  nanos : Nat
  deriving DecidableEq, Repr

/-- The loop over the fraction: the place of the next digit, and the sum so far. -/
def fraction : Bytes → Nat → Nat → Nat × Bytes
  | [], _, nanos => (nanos, [])
  | b :: rest, scale, nanos =>
    if isAsciiDigit b then
      if 0 < scale then fraction rest (scale / 10) (nanos + (b.toNat - 48) * scale)
      else fraction rest scale nanos
    else (nanos, b :: rest)

/-- The fraction, if there is one; after a point or a comma there must be a digit. -/
def parseFraction : Bytes → Option (Nat × Bytes)
  | [] => some (0, [])
  | b :: rest =>
    if b = 46 ∨ b = 44 then
      if (rest.head?.any isAsciiDigit) then some (fraction rest 100000000 0) else none
    else some (0, b :: rest)

/-- `checked_mul`, `checked_add`, `checked_sub`. -/
def checkedI64 (a : Int) : Option Int := if -2 ^ 63 ≤ a ∧ a < 2 ^ 63 then some a else none

/-- Date, time, fraction, and `Z` or an offset. -/
def parseRfc3339 (b : Bytes) : Option Timestamp := do
  guard (20 ≤ b.length)
  let year ← digits b 0 4
  guard (b[4]? = some 45 ∧ b[7]? = some 45 ∧ b[13]? = some 58 ∧ b[16]? = some 58)
  let month ← digits b 5 2
  let day ← digits b 8 2
  guard (b[10]? = some 84 ∨ b[10]? = some 116)
  let hour ← digits b 11 2
  let minute ← digits b 14 2
  let second ← digits b 17 2
  let (nanos, rest) ← parseFraction (b.drop 19)
  let (offset, rest) ← parseZone (fun hour minute => some (hour * 3600 + minute * 60)) rest
  guard (rest = [])
  guard (1 ≤ month ∧ month ≤ 12 ∧ day ≠ 0 ∧ day ≤ daysInMonth year month ∧ hour ≤ 23 ∧
    minute ≤ 59 ∧ second ≤ 59)
  let days ← checkedI64 (daysFromCivil year month day * 86400)
  let clock ← checkedI64 (days + (hour * 3600 + minute * 60 + second))
  let secs ← checkedI64 (clock - offset)
  return ⟨secs, nanos⟩

end Push

namespace Uploads

/-- The loop over the fraction: how many digits were taken, and their number. -/
def fraction : Bytes → Nat → Nat → Nat × Nat × Bytes
  | [], seen, sub => (sub, seen, [])
  | b :: rest, seen, sub =>
    if isAsciiDigit b then
      if seen < 9 then fraction rest (seen + 1) (sub * 10 + (b.toNat - 48))
      else fraction rest seen sub
    else (sub, seen, b :: rest)

/-- The fraction, if there is one; after a point there must be a digit. -/
def parseFraction : Bytes → Option (Nat × Bytes)
  | [] => some (0, [])
  | b :: rest =>
    if b = 46 then
      if rest.head?.any isAsciiDigit then
        let found := fraction rest 0 0
        some (found.1 * 10 ^ (9 - found.2.1), found.2.2)
      else none
    else some (0, b :: rest)

/-- The steps that `uploads.rs` and `activity.rs` share, up to the seconds and the fraction;
`colons` says whether the colons of the time are looked at, and `offset` what an offset comes to. -/
def parseParts (colons : Bool) (offset : Int → Int → Int) (b : Bytes) : Option (Int × Nat) := do
  guard (20 ≤ b.length)
  guard (b[4]? = some 45 ∧ b[7]? = some 45)
  let year ← digits b 0 4
  let month ← digits b 5 2
  let day ← digits b 8 2
  guard (1 ≤ month ∧ month ≤ 12 ∧ 1 ≤ day ∧ day ≤ daysInMonth year month)
  guard (b[10]? = some 84 ∨ b[10]? = some 116)
  guard (colons = true → b[13]? = some 58 ∧ b[16]? = some 58)
  let hour ← digits b 11 2
  let minute ← digits b 14 2
  let second ← digits b 17 2
  guard (hour ≤ 23 ∧ minute ≤ 59 ∧ second ≤ 59)
  let (sub, rest) ← parseFraction (b.drop 19)
  let (offset, rest) ← parseZone (checkedOffset offset) rest
  guard (rest = [])
  return (daysFromCivil year month day * 86400 + hour * 3600 + minute * 60 + second - offset, sub)

/-- `time_from_nanos`: a `SystemTime` is its nanoseconds from the epoch. -/
def timeFromNanos (nanos : Int) : Int := if 0 ≤ nanos then nanos % 2 ^ 64 else -((-nanos) % 2 ^ 64)

def parseTimestamp (b : Bytes) : Option Int :=
  (parseParts true (fun hour minute => hour * 3600 + minute) b).map fun parts =>
    timeFromNanos (parts.1 * 1000000000 + parts.2)

end Uploads

def Activity.rfc3339Millis (b : Bytes) : Option Int :=
  (Uploads.parseParts false (fun hour minute => hour * 3600 + minute * 60) b).bind fun parts =>
    Push.checkedI64 ((parts.1 * 1000000000 + parts.2) / 1000000)

/-! ## §2 — writing -/

/-- `{n:0w}`. -/
def pad (w : Nat) (n : Int) : Text :=
  let text := Nat.toDigits 10 n.natAbs
  if n < 0 then '-' :: (List.replicate (w - 1 - text.length) '0' ++ text)
  else List.replicate (w - text.length) '0' ++ text

/-- The text that both printers write, of a date, the seconds of the day and the nanoseconds. -/
def rfc3339Nano (c : Civil) (clock : Int) (nanos : Nat) : Text :=
  pad 4 c.year ++ '-' :: pad 2 c.month ++ '-' :: pad 2 c.day ++ 'T' :: pad 2 (clock / 3600) ++
    ':' :: pad 2 (clock % 3600 / 60) ++ ':' :: pad 2 (clock % 60) ++
    (if 0 < nanos then '.' :: (pad 9 nanos).rdropWhile (· = '0') else []) ++ ['Z']

def Push.toRfc3339Nano (t : Timestamp) : Text :=
  rfc3339Nano (civilFromDays (t.secs / 86400)) (t.secs % 86400) t.nanos

def Uploads.formatTimestamp (time : Int) : Text :=
  let seconds := wrapI64 (time / 1000000000)
  rfc3339Nano (civilFromDays (seconds / 86400)) (seconds % 86400) (time % 1000000000).toNat

/-! ## §3 — the grammar -/

/-- So many digits. -/
structure Digits (w : Nat) where
  bytes : Bytes
  length : bytes.length = w
  digit : ∀ b ∈ bytes, isAsciiDigit b = true

def Digits.value {w : Nat} (d : Digits w) : Nat := Actions.value d.bytes

/-- `Z`, or an offset. -/
inductive Zone where
  | utc
  | offset (west : Bool) (hour minute : Digits 2)

def Zone.bytes : Zone → Bytes
  | .utc => [90]
  | .offset west hour minute => (if west then 45 else 43) :: (hour.bytes ++ 58 :: minute.bytes)

def Zone.minutes : Zone → Nat
  | .utc => 0
  | .offset _ _ minute => minute.value

/-- What is taken from the local time, in seconds; `minutes` is how many seconds a minute has. -/
def Zone.seconds (minutes : Int) : Zone → Int
  | .utc => 0
  | .offset west hour minute =>
    if west then -(hour.value * 3600 + minute.value * minutes)
    else hour.value * 3600 + minute.value * minutes

/-- **An RFC 3339 timestamp**: a valid date, an upper-case `T`, seconds to 59, perhaps a fraction,
and a zone. -/
structure Stamp where
  year : Digits 4
  month : Digits 2
  day : Digits 2
  hour : Digits 2
  minute : Digits 2
  second : Digits 2
  /-- The digits of the fraction; none when there is no fraction. -/
  fraction : Bytes
  fraction_digit : ∀ b ∈ fraction, isAsciiDigit b = true
  zone : Zone
  date_valid : (⟨year.value, month.value, day.value⟩ : Civil).Valid
  hour_le : hour.value ≤ 23
  minute_le : minute.value ≤ 59
  second_le : second.value ≤ 59
  zone_le : ∀ west h m, zone = .offset west h m → h.value ≤ 23 ∧ m.value ≤ 59

namespace Stamp

variable (s : Stamp)

def tail : Bytes := (if s.fraction = [] then [] else 46 :: s.fraction) ++ s.zone.bytes

def bytes : Bytes :=
  s.year.bytes ++ 45 :: s.month.bytes ++ 45 :: s.day.bytes ++ 84 :: s.hour.bytes ++
    58 :: s.minute.bytes ++ 58 :: s.second.bytes ++ s.tail

def date : Civil := ⟨s.year.value, s.month.value, s.day.value⟩

/-- The nanoseconds of the fraction, rounded down. -/
def nanos : Nat := value s.fraction * 10 ^ 9 / 10 ^ s.fraction.length

/-- The seconds from the epoch: local time minus the offset. -/
def secs (minutes : Int) : Int :=
  toDays s.date * 86400 + s.hour.value * 3600 + s.minute.value * 60 + s.second.value -
    s.zone.seconds minutes

/-- **The instant that the string denotes**, in nanoseconds from the epoch. -/
def instant : Int := s.secs 60 * 10 ^ 9 + s.nanos

end Stamp

/-! ## §4 — digits and fractions -/

theorem value_from (bs : Bytes) (n : Nat) :
    bs.foldl (fun n b => 10 * n + (b.toNat - 48)) n = n * 10 ^ bs.length + value bs := by
  induction bs generalizing n with
  | nil => simp [value]
  | cons b bs ih =>
    rw [value, List.foldl_cons, List.foldl_cons, ih, ih (10 * 0 + _), List.length_cons, pow_succ]
    ring

theorem value_cons (b : UInt8) (bs : Bytes) :
    value (b :: bs) = (b.toNat - 48) * 10 ^ bs.length + value bs := by
  rw [value, List.foldl_cons, value_from, Nat.mul_zero, Nat.zero_add]

theorem value_lt {bs : Bytes} (h : ∀ b ∈ bs, isAsciiDigit b = true) :
    value bs < 10 ^ bs.length := by
  induction bs with
  | nil => decide
  | cons b bs ih =>
    have hb := h b List.mem_cons_self
    have htail := ih fun c hc => h c (List.mem_cons_of_mem _ hc)
    simp only [isAsciiDigit, Bool.and_eq_true, decide_eq_true_eq] at hb
    have hdigit : b.toNat - 48 ≤ 9 := by omega
    have hle := Nat.mul_le_mul_right (10 ^ bs.length) hdigit
    rw [value_cons, List.length_cons, pow_succ]
    omega

/-- One digit of a fraction counts `10 ^ k`, and the rest is a fraction of that. -/
theorem fraction_cons (b : UInt8) (bs : Bytes) (k : Nat) :
    value (b :: bs) * 10 ^ (k + 1) / 10 ^ (b :: bs).length =
      (b.toNat - 48) * 10 ^ k + value bs * 10 ^ k / 10 ^ bs.length := by
  have hpos : 0 < 10 ^ bs.length := by positivity
  have hsum : value (b :: bs) * 10 ^ k =
      value bs * 10 ^ k + (b.toNat - 48) * 10 ^ k * 10 ^ bs.length := by
    rw [value_cons]
    ring
  rw [List.length_cons, pow_succ, pow_succ, ← Nat.mul_assoc, Nat.mul_div_mul_right _ _ (by decide),
    hsum, Nat.add_mul_div_right _ _ hpos, Nat.add_comm]

theorem fraction_done {bs : Bytes} (h : ∀ b ∈ bs, isAsciiDigit b = true) :
    value bs * 10 ^ 0 / 10 ^ bs.length = 0 := by
  rw [pow_zero, Nat.mul_one]
  exact Nat.div_eq_of_lt (value_lt h)

section Loops

variable {f rest : Bytes} (h : ∀ b ∈ f, isAsciiDigit b = true)
  (hrest : rest.head?.any isAsciiDigit = false)

include h hrest

/-- The loop of `push.rs`: `k` places are left. -/
theorem push_fraction (k acc : Nat) : Push.fraction (f ++ rest) (10 ^ k / 10) acc =
    (acc + value f * 10 ^ k / 10 ^ f.length, rest) := by
  induction f generalizing k acc with
  | nil =>
    cases rest with
    | nil => simp [Push.fraction, value]
    | cons b rest => simp_all [Push.fraction, value]
  | cons b f ih =>
    have hb := h b List.mem_cons_self
    have hf : ∀ c ∈ f, isAsciiDigit c = true := fun c hc => h c (List.mem_cons_of_mem _ hc)
    rw [List.cons_append, Push.fraction, if_pos hb]
    cases k with
    | zero => rw [if_neg (by decide), ih hf 0, fraction_done hf, fraction_done h]
    | succ k =>
      have hscale : 10 ^ (k + 1) / 10 = 10 ^ k := by rw [pow_succ, Nat.mul_div_cancel _ (by decide)]
      rw [hscale, if_pos (by positivity), ih hf k, fraction_cons, Nat.add_assoc]

/-- The loop of the other two. -/
theorem uploads_fraction (k : Nat) (hk : k ≤ 9) (sub : Nat) :
    (Uploads.fraction (f ++ rest) (9 - k) sub).1 *
        10 ^ (9 - (Uploads.fraction (f ++ rest) (9 - k) sub).2.1) =
      sub * 10 ^ k + value f * 10 ^ k / 10 ^ f.length ∧
    (Uploads.fraction (f ++ rest) (9 - k) sub).2.2 = rest := by
  induction f generalizing k sub with
  | nil =>
    have hsub : 9 - (9 - k) = k := by omega
    cases rest with
    | nil => simp [Uploads.fraction, value, hsub]
    | cons b rest => simp_all [Uploads.fraction, value]
  | cons b f ih =>
    have hb := h b List.mem_cons_self
    have hf : ∀ c ∈ f, isAsciiDigit c = true := fun c hc => h c (List.mem_cons_of_mem _ hc)
    rw [List.cons_append, Uploads.fraction, if_pos hb]
    cases k with
    | zero =>
      rw [if_neg (by omega)]
      obtain ⟨hvalue, hleft⟩ := ih hf 0 (by omega) sub
      exact ⟨by rw [hvalue, fraction_done hf, fraction_done h], hleft⟩
    | succ k =>
      rw [if_pos (by omega), show 9 - (k + 1) + 1 = 9 - k by omega]
      obtain ⟨hvalue, hleft⟩ := ih hf k (by omega) (sub * 10 + (b.toNat - 48))
      refine ⟨?_, hleft⟩
      rw [hvalue, fraction_cons, pow_succ]
      ring

end Loops

/-! ## §5 — reading a stamp -/

theorem guard_bind {α : Type} {p : Prop} [Decidable p] (h : p) (k : Unit → Option α) :
    ((guard p : Option Unit) >>= k) = k () := by
  rw [guard, if_pos h]
  rfl

theorem some_bind {α β : Type} (a : α) (k : α → Option β) : (some a >>= k) = k a := rfl

theorem checkedI64_eq {a : Int} (hlo : -2 ^ 63 ≤ a) (hhi : a < 2 ^ 63) :
    Push.checkedI64 a = some a := if_pos ⟨hlo, hhi⟩

theorem digits_of {b : Bytes} {offset w : Nat} (d : Digits w)
    (h : (b.drop offset).take w = d.bytes) : digits b offset w = some (d.value : Int) := by
  have hall : d.bytes.all isAsciiDigit = true := List.all_eq_true.mpr d.digit
  simp only [digits, h, d.length, hall, and_self, if_true, Digits.value]

theorem Digits.two (d : Digits 2) : ∃ a b, d.bytes = [a, b] := List.length_eq_two.mp d.length

theorem Digits.four (d : Digits 4) : ∃ a b c e, d.bytes = [a, b, c, e] := by
  obtain ⟨bytes, hlength, -⟩ := d
  match bytes, hlength with
  | [a, b, c, e], _ => exact ⟨a, b, c, e, rfl⟩

namespace Stamp

variable (s : Stamp)

/-- Where the parts of a stamp are. -/
structure Layout (b : Bytes) : Prop where
  length : 20 ≤ b.length
  year : digits b 0 4 = some (s.year.value : Int)
  month : digits b 5 2 = some (s.month.value : Int)
  day : digits b 8 2 = some (s.day.value : Int)
  hour : digits b 11 2 = some (s.hour.value : Int)
  minute : digits b 14 2 = some (s.minute.value : Int)
  second : digits b 17 2 = some (s.second.value : Int)
  dashes : b[4]? = some 45 ∧ b[7]? = some 45
  letter : b[10]? = some 84
  colons : b[13]? = some 58 ∧ b[16]? = some 58
  tail : b.drop 19 = s.tail

theorem zone_bytes_pos (z : Zone) : 0 < z.bytes.length := by
  cases z <;> simp [Zone.bytes]

theorem layout : s.Layout s.bytes := by
  obtain ⟨y₁, y₂, y₃, y₄, hy⟩ := s.year.four
  obtain ⟨m₁, m₂, hm⟩ := s.month.two
  obtain ⟨d₁, d₂, hd⟩ := s.day.two
  obtain ⟨h₁, h₂, hh⟩ := s.hour.two
  obtain ⟨n₁, n₂, hn⟩ := s.minute.two
  obtain ⟨s₁, s₂, hs⟩ := s.second.two
  have hbytes : s.bytes = y₁ :: y₂ :: y₃ :: y₄ :: 45 :: m₁ :: m₂ :: 45 :: d₁ :: d₂ :: 84 :: h₁ ::
      h₂ :: 58 :: n₁ :: n₂ :: 58 :: s₁ :: s₂ :: s.tail := by
    simp [bytes, hy, hm, hd, hh, hn, hs]
  have htail : 0 < s.tail.length := by
    have := zone_bytes_pos s.zone
    rw [tail, List.length_append]
    omega
  rw [hbytes]
  refine ⟨by simp only [List.length_cons]; omega, digits_of _ hy.symm, digits_of _ hm.symm,
    digits_of _ hd.symm, digits_of _ hh.symm, digits_of _ hn.symm, digits_of _ hs.symm,
    ⟨rfl, rfl⟩, rfl, ⟨rfl, rfl⟩, rfl⟩

theorem zone_head (z : Zone) : z.bytes.head?.any isAsciiDigit = false := by
  cases z with
  | utc => rfl
  | offset west h m => cases west <;> rfl

theorem zone_not_point (z : Zone) : ∃ b rest, z.bytes = b :: rest ∧ b ≠ 46 ∧ b ≠ 44 := by
  cases z with
  | utc => exact ⟨90, [], rfl, by decide, by decide⟩
  | offset west h m => cases west <;> exact ⟨_, _, rfl, by decide, by decide⟩

theorem fraction_head (hf : s.fraction ≠ []) :
    (s.fraction ++ s.zone.bytes).head?.any isAsciiDigit = true := by
  cases hbytes : s.fraction with
  | nil => exact absurd hbytes hf
  | cons b f => exact s.fraction_digit b (hbytes ▸ List.mem_cons_self)

theorem push_parseFraction : Push.parseFraction s.tail = some (s.nanos, s.zone.bytes) := by
  obtain ⟨b, rest, hzone, hpoint, hcomma⟩ := zone_not_point s.zone
  by_cases hf : s.fraction = []
  · rw [tail, if_pos hf, List.nil_append, hzone, Push.parseFraction,
      if_neg (not_or.mpr ⟨hpoint, hcomma⟩), nanos, hf]
    rfl
  · have hloop := push_fraction s.fraction_digit (zone_head s.zone) 9 0
    rw [tail, if_neg hf, List.cons_append, Push.parseFraction, if_pos (.inl rfl),
      if_pos (s.fraction_head hf), nanos]
    rw [Nat.zero_add] at hloop
    exact congrArg some hloop

theorem uploads_parseFraction : Uploads.parseFraction s.tail = some (s.nanos, s.zone.bytes) := by
  obtain ⟨b, rest, hzone, hpoint, -⟩ := zone_not_point s.zone
  by_cases hf : s.fraction = []
  · rw [tail, if_pos hf, List.nil_append, hzone, Uploads.parseFraction, if_neg hpoint, nanos, hf]
    rfl
  · obtain ⟨hvalue, hleft⟩ := uploads_fraction s.fraction_digit (zone_head s.zone) 9 le_rfl 0
    rw [tail, if_neg hf, List.cons_append, Uploads.parseFraction, if_pos rfl,
      if_pos (s.fraction_head hf), nanos]
    rw [Nat.zero_mul, Nat.zero_add] at hvalue
    exact congrArg some (Prod.ext hvalue hleft)

theorem parseZone_bytes {seconds : Int → Int → Option Int} (minutes : Int) (z : Zone)
    (h : ∀ west hour minute, z = .offset west hour minute →
      seconds hour.value minute.value = some (hour.value * 3600 + minute.value * minutes)) :
    parseZone seconds z.bytes = some (z.seconds minutes, []) := by
  cases z with
  | utc => rfl
  | offset west hour minute =>
    obtain ⟨h₁, h₂, hh⟩ := hour.two
    obtain ⟨m₁, m₂, hm⟩ := minute.two
    have hseconds := h west hour minute rfl
    have hbytes : (Zone.offset west hour minute).bytes =
        [if west then 45 else 43, h₁, h₂, 58, m₁, m₂] := by
      simp [Zone.bytes, hh, hm]
    rw [hbytes, parseZone, digits_of hour (by exact hh.symm), digits_of minute (by exact hm.symm)]
    simp only [hseconds]
    cases west <;> simp [Zone.seconds]

theorem daysInMonth_eq {c : Civil} (h : c.Valid) (hyear : 0 ≤ c.year) :
    daysInMonth c.year c.month = monthLength c.year c.month := by
  have hlo := h.month_pos
  have hhi := h.month_le
  simp only [daysInMonth, monthLength, leap, Int.tmod_eq_emod_of_nonneg hyear]
  split_ifs <;> first | rfl | omega

theorem year_le : s.year.value ≤ 9999 := by
  have := value_lt s.year.digit
  rw [s.year.length] at this
  exact Nat.le_of_lt_succ this

theorem date_bounds : 365 * ((s.year.value : Int) - 1970) - 2000 ≤ toDays s.date ∧
    toDays s.date ≤ 365 * (s.year.value - 1970) + 4000 ∧ s.year.value ≤ 9999 := by
  have hdays := toDays_bounds s.date_valid
  have hyear := s.year_le
  simp only [date] at hdays ⊢
  omega

theorem date_inRange : InRange (toDays s.date) := by
  have := s.date_bounds
  constructor <;> omega

theorem day_le : (s.day.value : Int) ≤ daysInMonth s.year.value s.month.value := by
  have heq := daysInMonth_eq s.date_valid (Int.natCast_nonneg _)
  exact heq ▸ s.date_valid.day_le

theorem seconds_bounds {minutes : Int} (hlo : 0 ≤ minutes) (hhi : minutes ≤ 60) :
    -86400 < s.zone.seconds minutes ∧ s.zone.seconds minutes < 86400 := by
  cases hz : s.zone with
  | utc => exact ⟨show (-86400 : Int) < 0 by decide, show (0 : Int) < 86400 by decide⟩
  | offset west hour minute =>
    obtain ⟨hh, hm⟩ := s.zone_le west hour minute hz
    have hpos := Int.mul_nonneg (Int.natCast_nonneg minute.value) hlo
    have hle := Int.mul_le_mul_of_nonneg_left hhi (Int.natCast_nonneg minute.value)
    rw [Zone.seconds]
    split_ifs <;> constructor <;> omega

theorem nanos_lt : s.nanos < 10 ^ 9 := by
  have hpos : 0 < 10 ^ s.fraction.length := by positivity
  rw [nanos, Nat.div_lt_iff_lt_mul hpos, Nat.mul_comm]
  exact Nat.mul_lt_mul_of_pos_left (value_lt s.fraction_digit) (by decide)

/-- **The parser of `push.rs` reads every stamp.** -/
theorem push_parse : Push.parseRfc3339 s.bytes = some ⟨s.secs 60, s.nanos⟩ := by
  have hl := s.layout
  have hdays := s.date_bounds
  have hhour := s.hour_le
  have hminute := s.minute_le
  have hsecond := s.second_le
  have hzone := s.seconds_bounds (show (0 : Int) ≤ 60 by decide) le_rfl
  have hvalid := s.date_valid
  have hpos := hvalid.day_pos
  have hcivil := push_daysFromCivil (c := s.date) hvalid s.date_inRange
  simp only [date] at hcivil hpos hdays
  rw [Push.parseRfc3339, guard_bind hl.length, hl.year, some_bind,
    guard_bind ⟨hl.dashes.1, hl.dashes.2, hl.colons⟩, hl.month, some_bind, hl.day, some_bind,
    guard_bind (.inl hl.letter), hl.hour, some_bind, hl.minute, some_bind, hl.second, some_bind,
    hl.tail, s.push_parseFraction, some_bind]
  simp only
  rw [parseZone_bytes 60 s.zone fun _ _ _ _ => rfl, some_bind]
  simp only
  rw [guard_bind trivial, guard_bind ⟨hvalid.month_pos, hvalid.month_le, by omega, s.day_le,
    by omega, by omega, by omega⟩, hcivil, checkedI64_eq (by omega) (by omega), some_bind,
    checkedI64_eq (by omega) (by omega), some_bind, checkedI64_eq (by omega) (by omega), some_bind]
  rw [secs, date]
  congr 2
  omega

/-- **The other two**, up to what they make of the minutes of an offset. -/
theorem uploads_parseParts (colons : Bool) (offset : Int → Int → Int) (minutes : Int)
    (hoffset : ∀ hour minute, offset hour minute = hour * 3600 + minute * minutes) :
    Uploads.parseParts colons offset s.bytes = some (s.secs minutes, s.nanos) := by
  have hl := s.layout
  have hhour := s.hour_le
  have hminute := s.minute_le
  have hsecond := s.second_le
  have hvalid := s.date_valid
  have hcivil := uploads_daysFromCivil (c := s.date) hvalid s.date_inRange
  simp only [date] at hcivil
  have hzone : parseZone (checkedOffset offset) s.zone.bytes = some (s.zone.seconds minutes, []) :=
    by
    apply parseZone_bytes
    intro west hour minute hz
    obtain ⟨hh, hm⟩ := s.zone_le west hour minute hz
    rw [checkedOffset, if_neg (by omega), hoffset]
  rw [Uploads.parseParts, guard_bind hl.length, guard_bind hl.dashes, hl.year, some_bind, hl.month,
    some_bind, hl.day, some_bind, guard_bind ⟨hvalid.month_pos, hvalid.month_le, hvalid.day_pos,
    s.day_le⟩, guard_bind (.inl hl.letter), guard_bind fun _ => hl.colons, hl.hour, some_bind,
    hl.minute, some_bind, hl.second, some_bind, guard_bind ⟨by omega, by omega, by omega⟩, hl.tail,
    s.uploads_parseFraction, some_bind]
  simp only
  rw [hzone, some_bind]
  simp only
  rw [guard_bind trivial, hcivil]
  rfl

theorem instant_ediv : s.instant / 10 ^ 9 = s.secs 60 := by
  have := s.nanos_lt
  rw [instant]
  omega

theorem instant_emod : s.instant % 10 ^ 9 = s.nanos := by
  have := s.nanos_lt
  rw [instant]
  omega

/-- The minutes of an offset, counted as seconds, make no difference only if there are none. -/
theorem secs_one_eq_iff : s.secs 1 = s.secs 60 ↔ s.zone.minutes = 0 := by
  cases hz : s.zone with
  | utc => simp [secs, hz, Zone.seconds, Zone.minutes]
  | offset west hour minute =>
    simp only [secs, hz, Zone.seconds, Zone.minutes]
    split_ifs <;> constructor <;> intro h <;> omega

/-- **The parser of `uploads.rs`** takes a minute of an offset for a second. -/
theorem uploads_parse : Uploads.parseTimestamp s.bytes =
    some (Uploads.timeFromNanos (s.secs 1 * 1000000000 + s.nanos)) := by
  have hparts := s.uploads_parseParts true (fun hour minute => hour * 3600 + minute) 1
    fun hour minute => by rw [Int.mul_one]
  rw [Uploads.parseTimestamp, hparts, Option.map_some]

theorem timeFromNanos_eq_iff (n : Int) :
    Uploads.timeFromNanos n = n ↔ -2 ^ 64 < n ∧ n < 2 ^ 64 := by
  rw [Uploads.timeFromNanos]
  split_ifs <;> omega

theorem activity_parse :
    Activity.rfc3339Millis s.bytes = some (s.instant / 10 ^ 6) := by
  have hdays := s.date_bounds
  have hhour := s.hour_le
  have hminute := s.minute_le
  have hsecond := s.second_le
  have hnanos := s.nanos_lt
  have hzone := s.seconds_bounds (show (0 : Int) ≤ 60 by decide) le_rfl
  rw [Activity.rfc3339Millis, s.uploads_parseParts false _ 60 fun _ _ => rfl,
    Option.bind_some, instant]
  apply checkedI64_eq <;> simp only [secs] <;> omega

end Stamp

/-- **What the three parsers read.** For every stamp of the years 1971 to 2199 the parser of
`push.rs` gives the instant and the one of `activity.rs` its milliseconds; the one of `uploads.rs`
gives the instant exactly when the offset has no minutes. -/
theorem parsers_read_instant (s : Stamp) (hlo : 1971 ≤ s.year.value) (hhi : s.year.value ≤ 2199) :
    Push.parseRfc3339 s.bytes = some ⟨s.instant / 10 ^ 9, (s.instant % 10 ^ 9).toNat⟩ ∧
    Activity.rfc3339Millis s.bytes = some (s.instant / 10 ^ 6) ∧
    (Uploads.parseTimestamp s.bytes = some s.instant ↔ s.zone.minutes = 0) := by
  refine ⟨?_, s.activity_parse, ?_⟩
  · rw [s.push_parse, s.instant_ediv, s.instant_emod, Int.toNat_natCast]
  · have hdays := s.date_bounds
    have hhour := s.hour_le
    have hminute := s.minute_le
    have hsecond := s.second_le
    have hnanos := s.nanos_lt
    have hzone := s.seconds_bounds (show (0 : Int) ≤ 1 by decide) (by decide)
    have hread := (Stamp.timeFromNanos_eq_iff (s.secs 1 * 1000000000 + s.nanos)).mpr
      (by simp only [Stamp.secs]; omega)
    rw [s.uploads_parse, hread, ← s.secs_one_eq_iff, Option.some.injEq, Stamp.instant]
    omega

/-- `2024-02-29T12:00:00.5` with an offset east of so many minutes. -/
def halfPast (minute : Digits 2) (h : minute.value ≤ 59) : Stamp where
  year := ⟨[50, 48, 50, 52], rfl, List.all_eq_true.mp rfl⟩
  month := ⟨[48, 50], rfl, List.all_eq_true.mp rfl⟩
  day := ⟨[50, 57], rfl, List.all_eq_true.mp rfl⟩
  hour := ⟨[49, 50], rfl, List.all_eq_true.mp rfl⟩
  minute := ⟨[48, 48], rfl, List.all_eq_true.mp rfl⟩
  second := ⟨[48, 48], rfl, List.all_eq_true.mp rfl⟩
  fraction := [53]
  fraction_digit := List.all_eq_true.mp rfl
  zone := .offset false ⟨[48, 48], rfl, List.all_eq_true.mp rfl⟩ minute
  date_valid := ⟨by decide, by decide, by decide, by decide⟩
  hour_le := by decide
  minute_le := by decide
  second_le := by decide
  zone_le := by
    rintro west hour minute' hz
    cases hz
    exact ⟨by decide, h⟩

/-- `+00:30`. -/
def thirty : Digits 2 := ⟨[51, 48], rfl, List.all_eq_true.mp rfl⟩

theorem parsers_read_sample :
    Push.parseRfc3339 (halfPast thirty (by decide)).bytes = some ⟨1709206200, 500000000⟩ :=
  (parsers_read_instant (halfPast thirty (by decide)) (by decide) (by decide)).1.trans
    (by decide +kernel)

/-- With `+00:30` the parser of `uploads.rs` is 29 minutes and 30 seconds off. -/
theorem offset_minutes_misread :
    Uploads.parseTimestamp (halfPast thirty (by decide)).bytes =
      some ((halfPast thirty (by decide)).instant + 1770 * 10 ^ 9) ∧
    Push.parseRfc3339 (halfPast thirty (by decide)).bytes = some ⟨1709206200, 500000000⟩ ∧
    Activity.rfc3339Millis (halfPast thirty (by decide)).bytes = some 1709206200500 := by
  refine ⟨?_, ?_, ?_⟩ <;> decide +kernel

/-! ## §6 — printing -/

theorem bytes_digits {t : Text} (h : ∀ c ∈ t, c.isDigit = true) :
    Utf8.bytes t = t.map fun c => UInt8.ofNat c.toNat := by
  refine Utf8.bytes_ascii fun c hc => ?_
  have := Utf8.toNat_of_isDigit (h c hc)
  omega

theorem isAsciiDigit_bytes {t : Text} (h : ∀ c ∈ t, c.isDigit = true) :
    ∀ b ∈ Utf8.bytes t, isAsciiDigit b = true := by
  intro b hb
  rw [bytes_digits h] at hb
  obtain ⟨c, hc, rfl⟩ := List.mem_map.mp hb
  have := Utf8.toNat_of_isDigit (h c hc)
  simp only [isAsciiDigit, Bool.and_eq_true, decide_eq_true_eq, UInt8.toNat_ofNat']
  omega

theorem value_bytes {t : Text} (h : ∀ c ∈ t, c.isDigit = true) :
    value (Utf8.bytes t) = Nat.ofDigitChars 10 t 0 := by
  rw [bytes_digits h, value, List.foldl_map, Nat.ofDigitChars]
  refine List.foldl_ext _ _ _ fun n c hc => ?_
  have := Utf8.toNat_of_isDigit (h c hc)
  rw [UInt8.toNat_ofNat', Nat.mod_eq_of_lt (by omega)]
  rfl

section Pad

variable {w n : Nat}

theorem pad_eq : pad w (n : Int) =
    List.replicate (w - (Nat.toDigits 10 n).length) '0' ++ Nat.toDigits 10 n := by
  rw [pad, if_neg (by omega), Int.natAbs_natCast]

theorem pad_isDigit : ∀ c ∈ pad w (n : Int), c.isDigit = true := by
  intro c hc
  rw [pad_eq, List.mem_append] at hc
  rcases hc with hc | hc
  · rw [List.eq_of_mem_replicate hc]
    rfl
  · exact Nat.isDigit_of_mem_toDigits (by decide) (by decide) hc

theorem pad_length (hw : 0 < w) (h : n < 10 ^ w) : (pad w (n : Int)).length = w := by
  have := Nat.toDigits_length 10 n w hw h
  rw [pad_eq, List.length_append, List.length_replicate]
  omega

theorem pad_value : Nat.ofDigitChars 10 (pad w (n : Int)) 0 = n := by
  rw [pad_eq, Nat.ofDigitChars_append, Nat.ofDigitChars_replicate_zero, Nat.mul_zero,
    Nat.ofDigitChars_toDigits (by decide) (by decide)]

theorem pad_digits (hw : 0 < w) (h : n < 10 ^ w) :
    ∃ d : Digits w, d.bytes = Utf8.bytes (pad w (n : Int)) ∧ d.value = n := by
  refine ⟨⟨Utf8.bytes (pad w (n : Int)), ?_, isAsciiDigit_bytes pad_isDigit⟩, rfl, ?_⟩
  · rw [bytes_digits pad_isDigit, List.length_map, pad_length hw h]
  · rw [Digits.value, value_bytes pad_isDigit, pad_value]

/-- Without the zeros at its end a fraction is the same. -/
theorem trimmed_value (h : n < 10 ^ 9) :
    let f := (pad 9 (n : Int)).rdropWhile (· = '0')
    Nat.ofDigitChars 10 f 0 * 10 ^ 9 / 10 ^ f.length = n := by
  intro f
  have happend : f ++ (pad 9 (n : Int)).rtakeWhile (· = '0') = pad 9 n :=
    List.rdropWhile_append_rtakeWhile
  obtain ⟨k, hk⟩ : ∃ k, (pad 9 (n : Int)).rtakeWhile (· = '0') = List.replicate k '0' :=
    ⟨_, List.eq_replicate_of_mem fun c hc => by simpa using List.mem_rtakeWhile_imp hc⟩
  rw [hk] at happend
  have hlength : f.length + k = 9 := by
    rw [← pad_length (by decide) h, ← happend, List.length_append, List.length_replicate]
  have hvalue : 10 ^ k * Nat.ofDigitChars 10 f 0 = n := by
    rw [← Nat.ofDigitChars_replicate_zero, ← Nat.ofDigitChars_append, happend, pad_value]
  rw [← hlength, pow_add, Nat.mul_comm (10 ^ f.length), ← Nat.mul_assoc,
    Nat.mul_div_cancel _ (by positivity), Nat.mul_comm, hvalue]

theorem fraction_bytes (h : n < 10 ^ 9) : ∃ f : Bytes, (∀ b ∈ f, isAsciiDigit b = true) ∧
    value f * 10 ^ 9 / 10 ^ f.length = n ∧ (if f = [] then [] else 46 :: f) =
      Utf8.bytes (if 0 < n then '.' :: (pad 9 (n : Int)).rdropWhile (· = '0') else []) := by
  by_cases hn : 0 < n
  · have hdigit : ∀ c ∈ (pad 9 (n : Int)).rdropWhile (· = '0'), c.isDigit = true := fun c hc =>
      pad_isDigit c ((List.rdropWhile_prefix _ _).subset hc)
    have hvalue := trimmed_value h
    have hbytes := bytes_digits hdigit
    refine ⟨Utf8.bytes ((pad 9 (n : Int)).rdropWhile (· = '0')), isAsciiDigit_bytes hdigit, ?_, ?_⟩
    · rw [value_bytes hdigit, hbytes, List.length_map]
      exact hvalue
    · rw [if_pos hn, Utf8.bytes_cons, if_neg]
      · rfl
      -- an empty fraction would be zero
      · intro hempty
        rw [hbytes, List.map_eq_nil_iff] at hempty
        simp only [hempty, Nat.ofDigitChars, List.foldl_nil, Nat.zero_mul, Nat.zero_div] at hvalue
        omega
  · obtain rfl : n = 0 := by omega
    exact ⟨[], by simp, by decide, by decide⟩

end Pad

/-- **What is printed is a stamp** of the same date, time and fraction. -/
theorem rfc3339Nano_stamp {c : Civil} {clock : Int} {nanos : Nat} (hc : c.Valid)
    (hlo : 0 ≤ c.year) (hhi : c.year ≤ 9999) (hclock : 0 ≤ clock) (hday : clock < 86400)
    (hnanos : nanos < 10 ^ 9) :
    ∃ s : Stamp, s.bytes = Utf8.bytes (rfc3339Nano c clock nanos) ∧ s.zone = .utc ∧
      (∀ minutes, s.secs minutes = toDays c * 86400 + clock) ∧ s.nanos = nanos := by
  obtain ⟨year, month, day⟩ := c
  lift year to Nat using hlo
  lift month to Nat using by have := hc.month_pos; simp only at this; omega
  lift day to Nat using by have := hc.day_pos; simp only at this; omega
  lift clock to Nat using hclock
  have hmonth := hc.month_le
  have hlength := hc.day_le
  have hbounds := monthLength_bounds year month
  simp only at hhi hmonth hlength
  obtain ⟨y, hy, hyv⟩ := pad_digits (w := 4) (n := year) (by decide) (by omega)
  obtain ⟨m, hm, hmv⟩ := pad_digits (w := 2) (n := month) (by decide) (by omega)
  obtain ⟨d, hd, hdv⟩ := pad_digits (w := 2) (n := day) (by decide) (by omega)
  obtain ⟨hh, hhb, hhv⟩ := pad_digits (w := 2) (n := clock / 3600) (by decide) (by omega)
  obtain ⟨mi, hmi, hmiv⟩ := pad_digits (w := 2) (n := clock % 3600 / 60) (by decide) (by omega)
  obtain ⟨se, hse, hsev⟩ := pad_digits (w := 2) (n := clock % 60) (by decide) (by omega)
  obtain ⟨f, hf, hfv, hfb⟩ := fraction_bytes hnanos
  refine ⟨⟨y, m, d, hh, mi, se, f, hf, .utc, by rw [hyv, hmv, hdv]; exact hc, by omega, by omega,
    by omega, by simp⟩, ?_, rfl, ?_, hfv⟩
  · simp only [Stamp.bytes, Stamp.tail, hy, hm, hd, hhb, hmi, hse, hfb, rfc3339Nano,
      Utf8.bytes_append, Utf8.bytes_cons, List.append_assoc, List.cons_append]
    rfl
  · intro minutes
    simp only [Stamp.secs, Stamp.date, Zone.seconds, hyv, hmv, hdv, hhv, hmiv, hsev]
    omega

/-! ## §7 — there and back -/

def utcYear (days : Int) : Int := (after ⟨1970, 1, 1⟩ days).year

/-- **What is printed of a time** in the years with four digits, as a stamp. -/
theorem printed_stamp {civilFromDays : Int → Civil}
    (hcivil : ∀ {days}, InRange days → civilFromDays days = ofDays days) {secs : Int} {nanos : Nat}
    (hlo : 1 ≤ utcYear (secs / 86400)) (hhi : utcYear (secs / 86400) ≤ 9999)
    (hnanos : nanos < 10 ^ 9) :
    ∃ s : Stamp, s.bytes = Utf8.bytes (rfc3339Nano (civilFromDays (secs / 86400)) (secs % 86400)
      nanos) ∧ (∀ minutes, s.secs minutes = secs) ∧ s.nanos = nanos := by
  rw [utcYear, ← ofDays_eq_after] at hlo hhi
  have hvalid := ofDays_valid (secs / 86400)
  have hbounds := toDays_bounds hvalid
  rw [toDays_ofDays] at hbounds
  rw [hcivil (show InRange (secs / 86400) by constructor <;> omega)]
  obtain ⟨s, hbytes, -, hsecs, hs⟩ := rfc3339Nano_stamp hvalid (by omega) hhi
    (Int.emod_nonneg secs (by decide)) (Int.emod_lt_of_pos secs (by decide)) hnanos
  refine ⟨s, hbytes, fun minutes => ?_, hs⟩
  rw [hsecs, toDays_ofDays]
  omega

/-- **What the parser of `uploads.rs` reads of a printed time**: the time, exactly when its distance
from the epoch fits 64 bits of nanoseconds. -/
theorem upload_time_round_trip (t : Int) (hlo : 1 ≤ utcYear (t / 10 ^ 9 / 86400))
    (hhi : utcYear (t / 10 ^ 9 / 86400) ≤ 9999) :
    Uploads.parseTimestamp (Utf8.bytes (Uploads.formatTimestamp t)) = some t ↔
      -2 ^ 64 < t ∧ t < 2 ^ 64 := by
  have hnanos : (t % 1000000000).toNat < 10 ^ 9 := by omega
  obtain ⟨s, hbytes, hsecs, hs⟩ := printed_stamp uploads_civilFromDays hlo hhi hnanos
  have hwrap : wrapI64 (t / 1000000000) = t / 10 ^ 9 := by
    rw [utcYear, ← ofDays_eq_after] at hlo hhi
    have hbounds := toDays_bounds (ofDays_valid (t / 10 ^ 9 / 86400))
    rw [toDays_ofDays] at hbounds
    exact wrapI64_eq (by omega) (by omega)
  have ht : t / 10 ^ 9 * 1000000000 + ((t % 1000000000).toNat : Int) = t := by omega
  rw [Uploads.formatTimestamp, hwrap, ← hbytes, s.uploads_parse, hsecs, hs, ht, Option.some.injEq,
    Stamp.timeFromNanos_eq_iff]

theorem upload_time_sample :
    Uploads.parseTimestamp (Utf8.bytes (Uploads.formatTimestamp (-1500000000))) =
      some (-1500000000) :=
  (upload_time_round_trip (-1500000000) (by decide) (by decide)).mpr (by decide)

/-- Go's zero time does not come back. -/
theorem zero_time_misread : utcYear (-62135596800 * 10 ^ 9 / 10 ^ 9 / 86400) = 1 ∧
    Uploads.parseTimestamp (Utf8.bytes (Uploads.formatTimestamp (-62135596800 * 10 ^ 9))) ≠
      some (-62135596800 * 10 ^ 9) := by
  constructor
  · rw [utcYear, ← ofDays_eq_after]
    rfl
  · decide +kernel

/-- **The calendar functions**: in range they give the date that many days from 1970-01-01, and are
inverse to each other; and what `push.rs` prints of a timestamp it reads back. -/
theorem calendar_exact :
    (∀ d, InRange d → (after ⟨1970, 1, 1⟩ d).Valid ∧ Push.civilFromDays d = after ⟨1970, 1, 1⟩ d ∧
      Uploads.civilFromDays d = after ⟨1970, 1, 1⟩ d ∧
      Audit.civilFromDays d = after ⟨1970, 1, 1⟩ d) ∧
    (∀ c : Civil, c.Valid → InRange (toDays c) →
      Push.civilFromDays (Push.daysFromCivil c.year c.month c.day) = c ∧
      Uploads.civilFromDays (Uploads.daysFromCivil c.year c.month c.day) = c) ∧
    (∀ d, InRange d →
      Push.daysFromCivil (Push.civilFromDays d).year (Push.civilFromDays d).month
        (Push.civilFromDays d).day = d ∧
      Uploads.daysFromCivil (Uploads.civilFromDays d).year (Uploads.civilFromDays d).month
        (Uploads.civilFromDays d).day = d) ∧
    ∀ t : Push.Timestamp, t.nanos < 10 ^ 9 → 1 ≤ utcYear (t.secs / 86400) →
      utcYear (t.secs / 86400) ≤ 9999 →
      Push.parseRfc3339 (Utf8.bytes (Push.toRfc3339Nano t)) = some t := by
  refine ⟨?_, ?_, ?_, ?_⟩
  · intro d hd
    rw [← ofDays_eq_after, Audit.civilFromDays]
    exact ⟨ofDays_valid d, push_civilFromDays hd, uploads_civilFromDays hd, push_civilFromDays hd⟩
  · intro c hc hrange
    rw [push_daysFromCivil hc hrange, uploads_daysFromCivil hc hrange, push_civilFromDays hrange,
      uploads_civilFromDays hrange, ofDays_toDays hc]
    exact ⟨rfl, rfl⟩
  · intro d hd
    have hrange : InRange (toDays (ofDays d)) := (toDays_ofDays d).symm ▸ hd
    rw [push_civilFromDays hd, uploads_civilFromDays hd, push_daysFromCivil (ofDays_valid d) hrange,
      uploads_daysFromCivil (ofDays_valid d) hrange, toDays_ofDays]
    exact ⟨rfl, rfl⟩
  · intro t hnanos hlo hhi
    obtain ⟨s, hbytes, hsecs, hs⟩ := printed_stamp push_civilFromDays hlo hhi hnanos
    rw [Push.toRfc3339Nano, ← hbytes, s.push_parse, hsecs, hs]

theorem calendar_sample : Push.civilFromDays (-1) = ⟨1969, 12, 31⟩ ∧
    Push.parseRfc3339 (Utf8.bytes (Push.toRfc3339Nano ⟨-1, 5⟩)) = some ⟨-1, 5⟩ :=
  ⟨(calendar_exact.1 (-1) ⟨by decide, by decide⟩).2.1,
    calendar_exact.2.2.2 ⟨-1, 5⟩ (by decide) (by decide) (by decide)⟩

/-- The last day numbers wrap. -/
theorem last_day_wraps : Push.civilFromDays (2 ^ 63 - 1) ≠ after ⟨1970, 1, 1⟩ (2 ^ 63 - 1) ∧
    Uploads.civilFromDays (2 ^ 63 - 1) ≠ after ⟨1970, 1, 1⟩ (2 ^ 63 - 1) := by
  rw [← ofDays_eq_after]
  decide

end Lerdr.Actions
