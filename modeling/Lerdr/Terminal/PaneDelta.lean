/-
# Lerdr.Terminal.PaneDelta — the client's delta application (`PaneDelta.applyStrict`).

The client does not split the previous text into lines. It collects a table of newline boundaries,
reads `copy_start` and `copy_lines` out of untyped JSON through a double, and cuts the copied range
out of the previous text with two table lookups. A malformed segment makes the whole application
`null`; an index outside the table throws.
-/
import Lerdr.Kotlin.Runtime

namespace Lerdr.Terminal.PaneDelta

variable {a b : Int} {copyStart copyLines : Int}

open Lerdr.Kotlin Lib

/-! ## §1 — `applyStrict` -/

/-- `jsIntegerOrNull` — integral numeric primitives only. The comparison is with the doubles of
`Long.MIN_VALUE` and `Long.MAX_VALUE`, which are `-2^63` and `2^63`; `toLong` saturates. -/
def jsIntegerOrNull : JsonElement → Option Int
  | .number n =>
    match (Binary64.ofDecimal n.digits n.exponent).integer? with
    | none => none
    | some magnitude =>
      let value : Int := if n.negative then -magnitude else magnitude
      if value < -2 ^ 63 ∨ 2 ^ 63 < value then none else some (min value longMax)
  | _ => none

/-- The boundary table: `0`, the position behind every newline, and the length. -/
def boundaries (previous : Units) : List Nat :=
  0 :: Pieces.cutPoints newline 0 previous ++ [previous.length]

/-- `copy_lines` and `copy_start` of a segment that has a `copy_lines` member; `none` where the
source returns `null`. -/
def copyRange (candidate : JsonObject) (copyLinesElement : JsonElement) : Option (Int × Int) :=
  match jsIntegerOrNull copyLinesElement with
  | none => none
  | some copyLines =>
    if 0 < copyLines then
      match member candidate "copy_start" with
      | none => some (0, copyLines)
      | some element =>
        match jsIntegerOrNull element with
        | none => none
        | some copyStart => if copyStart < 0 then none else some (copyStart, copyLines)
    else none

/-- The cut `previous.substring(boundaries[start], boundaries[end])`. -/
def copyOut (previous : Units) (table : List Nat) (copyStart copyEnd : Int) : Except Exn Units := do
  let start ← listGet table (toInt copyStart)
  let stop ← listGet table (toInt copyEnd)
  substring previous start stop

/-- One turn of the segment loop: what is appended, or `none` for `return null`. -/
def applySegment (previous : Units) (table : List Nat) : JsonElement → Except Exn (Option Units)
  | .object candidate =>
    match member candidate "copy_lines" with
    | some element =>
      match copyRange candidate element with
      | none => .ok none
      | some (copyStart, copyLines) =>
        let copyEnd := plus copyStart copyLines
        -- the only bound: a sum that has wrapped is negative and passes
        if (table.length : Int) - 1 < copyEnd then .ok none
        else do
          let text ← copyOut previous table copyStart copyEnd
          return some text
    | none =>
      match member candidate "text" with
      | some (.string content) => .ok (some content)
      | _ => .ok none
  | _ => .ok none

def applyLoop (previous : Units) (table : List Nat) :
    List JsonElement → Units → Except Exn (Option Units)
  | [], output => .ok (some output)
  | candidate :: rest, output =>
    match applySegment previous table candidate with
    | .error e => .error e
    | .ok none => .ok none
    | .ok (some text) => applyLoop previous table rest (output ++ text)

/-- `applyStrict` — the client's apply; a missing or non-array segment list is `null`. -/
def applyStrict (previous : Units) : Option JsonElement → Except Exn (Option Units)
  | some (.array items) => applyLoop previous (boundaries previous) items []
  | _ => .ok none

/-! ## §2 — the boundary table -/

theorem boundaries_eq (previous : Units) :
    boundaries previous = Pieces.offsets 0 (Pieces.pieces newline previous) := by
  rw [← Pieces.cons_cutPoints_append]
  simp [boundaries]

theorem length_boundaries (previous : Units) :
    (boundaries previous).length = (Pieces.pieces newline previous).length + 1 := by
  rw [boundaries_eq, Pieces.length_offsets]

/-- Entry `i` is where line `i` starts. -/
theorem getElem?_boundaries (previous : Units) {i : Nat} (hi : i < (boundaries previous).length) :
    (boundaries previous)[i]?
      = some ((Pieces.pieces newline previous).take i).flatten.length := by
  rw [length_boundaries] at hi
  rw [boundaries_eq, Pieces.getElem?_offsets 0 _ (by omega), Nat.zero_add]

theorem le_length_of_getElem?_boundaries {previous : Units} {i b : Nat}
    (h : (boundaries previous)[i]? = some b) : b ≤ previous.length := by
  obtain ⟨hi, -⟩ := List.getElem?_eq_some_iff.mp h
  rw [getElem?_boundaries previous hi, Option.some.injEq] at h
  have hmono := Pieces.length_flatten_take_mono (Pieces.pieces newline previous)
    (Nat.le_of_lt_succ (length_boundaries previous ▸ hi))
  rw [List.take_length, Pieces.flatten_pieces] at hmono
  omega

/-- A text the client can hold: its boundary table is one `ArrayList`, indexed by `Int`. -/
structure KotlinString where
  units : Units
  fits : (boundaries units).length < 2 ^ 31

/-- Two table indices that cut: both inside the table, in the order of the text. -/
def InTable (previous : Units) (i j : Int) : Prop :=
  0 ≤ i ∧ 0 ≤ j ∧ ∃ start stop, (boundaries previous)[i.toNat]? = some start ∧
    (boundaries previous)[j.toNat]? = some stop ∧ start ≤ stop

theorem listGet_eq_ok_iff {α : Type} {xs : List α} {i : Int} {a : α} :
    listGet xs i = .ok a ↔ 0 ≤ i ∧ xs[i.toNat]? = some a := by
  by_cases hi : 0 ≤ i
  · cases h : xs[i.toNat]? <;> simp [listGet, hi, h]
  · simp [listGet, hi]

/-- **When the cut does not throw**, and what it then gives. -/
theorem copyOut_eq_ok_iff {previous : Units} {text : Units} :
    copyOut previous (boundaries previous) a b = .ok text ↔
      0 ≤ toInt a ∧ 0 ≤ toInt b ∧ ∃ start stop,
        (boundaries previous)[(toInt a).toNat]? = some start ∧
        (boundaries previous)[(toInt b).toNat]? = some stop ∧ start ≤ stop ∧
        (previous.take stop).drop start = text := by
  constructor
  · intro h
    cases hstart : listGet (boundaries previous) (toInt a) with
    | error e => simp [copyOut, hstart, bind, Except.bind] at h
    | ok start =>
      cases hstop : listGet (boundaries previous) (toInt b) with
      | error e => simp [copyOut, hstart, hstop, bind, Except.bind] at h
      | ok stop =>
        simp only [copyOut, hstart, hstop, bind, Except.bind, substring] at h
        obtain ⟨ha, hga⟩ := listGet_eq_ok_iff.mp hstart
        obtain ⟨hb, hgb⟩ := listGet_eq_ok_iff.mp hstop
        split at h
        · rename_i hle
          exact ⟨ha, hb, start, stop, hga, hgb, by omega, by simpa using h⟩
        · cases h
  · rintro ⟨ha, hb, start, stop, hga, hgb, hle, htext⟩
    have hstart := listGet_eq_ok_iff.mpr ⟨ha, hga⟩
    have hstop := listGet_eq_ok_iff.mpr ⟨hb, hgb⟩
    have hlen := le_length_of_getElem?_boundaries hgb
    have hcond : 0 ≤ (start : Int) ∧ (start : Int) ≤ stop ∧ (stop : Int) ≤ previous.length := by
      omega
    simp only [copyOut, hstart, hstop, bind, Except.bind, substring, if_pos hcond]
    simpa using htext

theorem exists_copyOut_iff {previous : Units} :
    (∃ text, copyOut previous (boundaries previous) a b = .ok text)
      ↔ InTable previous (toInt a) (toInt b) := by
  constructor
  · rintro ⟨text, h⟩
    obtain ⟨ha, hb, start, stop, hga, hgb, hle, -⟩ := copyOut_eq_ok_iff.mp h
    exact ⟨ha, hb, start, stop, hga, hgb, hle⟩
  · rintro ⟨ha, hb, start, stop, hga, hgb, hle⟩
    exact ⟨_, copyOut_eq_ok_iff.mpr ⟨ha, hb, start, stop, hga, hgb, hle, rfl⟩⟩

/-- **A copy inside the line count gives those lines.** -/
theorem copyOut_lines (previous : KotlinString) {start n : Nat}
    (h : start + n ≤ (Pieces.pieces newline previous.units).length) :
    copyOut previous.units (boundaries previous.units) start ((start + n : Nat) : Int)
      = .ok (((Pieces.pieces newline previous.units).drop start).take n).flatten := by
  have hfits := previous.fits
  have hlen := length_boundaries previous.units
  have hstart : toInt (start : Int) = start := toInt_eq (by omega) (by omega)
  have hstop : toInt ((start + n : Nat) : Int) = (start + n : Nat) :=
    toInt_eq (by omega) (by omega)
  refine copyOut_eq_ok_iff.mpr ?_
  rw [hstart, hstop, Int.toNat_natCast, Int.toNat_natCast]
  refine ⟨by omega, by omega, _, _, getElem?_boundaries _ (by omega),
    getElem?_boundaries _ (by omega), Pieces.length_flatten_take_mono _ (by omega), ?_⟩
  have hslice := Pieces.slice_flatten (Pieces.pieces newline previous.units)
    (Nat.le_add_right start n)
  rw [Pieces.flatten_pieces] at hslice
  rw [hslice, List.drop_take]
  simp

/-! ## §3 — when the application throws -/

/-- The range a segment asks to copy, if it passes the checks in front of the sum. -/
def copyRequest : JsonElement → Option (Int × Int)
  | .object candidate => (member candidate "copy_lines").bind (copyRange candidate)
  | _ => none

/-- A literal insertion: an object without `copy_lines` whose `text` is a string. -/
def IsInsertion : JsonElement → Prop
  | .object candidate => member candidate "copy_lines" = none ∧
      ∃ content, member candidate "text" = some (.string content)
  | _ => False

/-- **The overrunning segment**: the sum leaves the range of `Long`, so it wraps below the bound it
is compared with, and the low 32 bits of the two positions do not cut the table. -/
def Overruns (previous : Units) (segment : JsonElement) : Prop :=
  ∃ copyStart copyLines, copyRequest segment = some (copyStart, copyLines) ∧
    longMax < copyStart + copyLines ∧
    ¬ InTable previous (toInt copyStart) (toInt (copyStart + copyLines))

/-- The segments that append something: insertions, copies inside the table, and the sums that leave
the range of `Long` and still cut the table. -/
def Accepted (previous : Units) (segment : JsonElement) : Prop :=
  IsInsertion segment ∨
  ∃ copyStart copyLines, copyRequest segment = some (copyStart, copyLines) ∧
    (copyStart + copyLines < (boundaries previous).length ∨
      (longMax < copyStart + copyLines ∧
        InTable previous (toInt copyStart) (toInt (copyStart + copyLines))))

/-- No segment up to the first one that is not accepted overruns. -/
def OverrunFree (previous : Units) : List JsonElement → Prop
  | [] => True
  | segment :: rest =>
    ¬ Overruns previous segment ∧ (Accepted previous segment → OverrunFree previous rest)

theorem jsIntegerOrNull_le {element : JsonElement} {v : Int}
    (h : jsIntegerOrNull element = some v) : longMin ≤ v ∧ v ≤ longMax := by
  cases element with
  | number n =>
    simp only [jsIntegerOrNull] at h
    split at h
    · cases h
    rename_i magnitude _
    generalize (if n.negative then -(magnitude : Int) else magnitude) = value at h
    split at h
    · cases h
    rename_i hin
    simp only [Option.some.injEq] at h
    simp only [longMin, longMax] at h ⊢
    omega
  | _ => simp [jsIntegerOrNull] at h

/-- What survives the checks: a non-negative start and a positive count, both of `Long` range. -/
theorem copyRange_spec {candidate : JsonObject} {element : JsonElement}
    (h : copyRange candidate element = some (copyStart, copyLines)) :
    0 ≤ copyStart ∧ copyStart ≤ longMax ∧ 0 < copyLines ∧ copyLines ≤ longMax := by
  simp only [copyRange] at h
  split at h
  · cases h
  rename_i lines hlines
  have hbound := jsIntegerOrNull_le hlines
  split at h
  case isFalse => cases h
  rename_i hpos
  split at h
  · simp only [Option.some.injEq, Prod.mk.injEq] at h
    obtain ⟨rfl, rfl⟩ := h
    exact ⟨le_rfl, by decide, hpos, hbound.2⟩
  split at h
  · cases h
  rename_i start hstart
  have hbound' := jsIntegerOrNull_le hstart
  split at h
  · cases h
  simp only [Option.some.injEq, Prod.mk.injEq] at h
  obtain ⟨rfl, rfl⟩ := h
  exact ⟨by omega, hbound'.2, hpos, hbound.2⟩

theorem copyRequest_spec {segment : JsonElement}
    (h : copyRequest segment = some (copyStart, copyLines)) :
    0 ≤ copyStart ∧ copyStart ≤ longMax ∧ 0 < copyLines ∧ copyLines ≤ longMax := by
  cases segment with
  | object candidate =>
    obtain ⟨element, -, hrange⟩ := Option.bind_eq_some_iff.mp h
    exact copyRange_spec hrange
  | _ => cases h

/-- A sum of two `Long`s that leaves their range wraps below zero; the low 32 bits stay. -/
theorem plus_wraps (ha : a ≤ longMax) (hb : b ≤ longMax) (h : longMax < a + b) :
    plus a b < 0 ∧ toInt (plus a b) = toInt (a + b) := by
  simp only [longMax] at ha hb h
  -- one turn of the 64-bit circle, which the low 32 bits do not see
  have hplus : plus a b = a + b - 2 ^ 64 := by
    rw [plus, Int.bmod_def]
    have hmod : (a + b) % ((2 ^ 64 : Nat) : Int) = a + b :=
      Int.emod_eq_of_lt (by omega) (by omega)
    rw [hmod, if_neg (by omega)]
    rfl
  refine ⟨by omega, ?_⟩
  rw [hplus, toInt, toInt, show a + b - 2 ^ 64 = a + b + ((2 ^ 32 : Nat) : Int) * -2 ^ 32 by ring,
    Int.add_mul_bmod_self_left]

/-- A segment that asks for a copy, and what its cut gives. -/
theorem applySegment_of_copyRequest (previous : Units) {segment : JsonElement}
    (h : copyRequest segment = some (copyStart, copyLines)) :
    applySegment previous (boundaries previous) segment =
      if ((boundaries previous).length : Int) - 1 < plus copyStart copyLines then .ok none
      else (copyOut previous (boundaries previous) copyStart (plus copyStart copyLines)).map some
      := by
  cases segment with
  | object candidate =>
    obtain ⟨element, hmem, hrange⟩ := Option.bind_eq_some_iff.mp h
    simp only [applySegment, hmem, hrange]
    rfl
  | _ => cases h

theorem applySegment_of_isInsertion (previous : Units) (table : List Nat) {segment : JsonElement}
    (h : IsInsertion segment) : ∃ text, applySegment previous table segment = .ok (some text) := by
  cases segment with
  | object candidate =>
    obtain ⟨hnone, content, htext⟩ := h
    exact ⟨content, by simp only [applySegment, hnone, htext]⟩
  | _ => exact h.elim

/-- Everything else is `return null`. -/
theorem applySegment_of_neither (previous : Units) (table : List Nat) {segment : JsonElement}
    (hcopy : copyRequest segment = none) (hins : ¬ IsInsertion segment) :
    applySegment previous table segment = .ok none := by
  cases segment with
  | object candidate =>
    cases hmem : member candidate "copy_lines" with
    | some element =>
      simp only [copyRequest, hmem, Option.bind_some] at hcopy
      simp only [applySegment, hmem, hcopy]
    | none =>
      cases htext : member candidate "text" with
      | none => simp only [applySegment, hmem, htext]
      | some element =>
        cases element with
        | string content => exact absurd ⟨hmem, content, htext⟩ hins
        | _ => simp only [applySegment, hmem, htext]
  | _ => rfl

section

variable {previous : Units} {segment : JsonElement}

/-- Overrunning is a property of the range a segment asks for. -/
theorem overruns_iff (h : copyRequest segment = some (a, b)) :
    Overruns previous segment ↔
      longMax < a + b ∧ ¬ InTable previous (toInt a) (toInt (a + b)) := by
  constructor
  · rintro ⟨a', b', h', hover⟩
    rw [h] at h'
    cases h'
    exact hover
  · exact fun hover => ⟨a, b, h, hover⟩

/-- So is acceptance, for a segment that asks for a copy at all. -/
theorem accepted_iff (h : copyRequest segment = some (a, b)) :
    Accepted previous segment ↔
      a + b < (boundaries previous).length ∨
        (longMax < a + b ∧ InTable previous (toInt a) (toInt (a + b))) := by
  constructor
  · rintro (hins | ⟨a', b', h', hacc⟩)
    · -- an insertion has no `copy_lines`, so it asks for nothing
      cases segment with
      | object candidate => simp [copyRequest, hins.1] at h
      | _ => exact hins.elim
    · rw [h] at h'
      cases h'
      exact hacc
  · exact fun hacc => .inr ⟨a, b, h, hacc⟩

/-- A segment that asks for no copy is an insertion or `null`. -/
theorem accepted_iff_of_none
    (h : copyRequest segment = none) : Accepted previous segment ↔ IsInsertion segment := by
  constructor
  · rintro (hins | ⟨a, b, h', -⟩)
    · exact hins
    · rw [h] at h'
      cases h'
  · exact .inl

theorem not_overruns_of_none (h : copyRequest segment = none) : ¬ Overruns previous segment := by
  rintro ⟨a, b, h', -⟩
  rw [h] at h'
  cases h'

end

section

variable (previous : KotlinString)

/-- **A sum inside the range of `Long`** is compared as it is: the lines it names, or `null`. -/
theorem applySegment_of_le {segment : JsonElement}
    (h : copyRequest segment = some (a, b)) (hrange : a + b ≤ longMax) :
    if a + b < (boundaries previous.units).length then
      ∃ text, applySegment previous.units (boundaries previous.units) segment = .ok (some text)
    else applySegment previous.units (boundaries previous.units) segment = .ok none := by
  obtain ⟨ha, -, hb, -⟩ := copyRequest_spec h
  have hplus : plus a b = a + b := by
    refine plus_eq ?_ hrange
    simp only [longMin]
    omega
  have happly := applySegment_of_copyRequest previous.units h
  rw [hplus] at happly
  split_ifs with hin
  · rw [if_neg (by omega)] at happly
    obtain ⟨i, rfl⟩ := Int.eq_ofNat_of_zero_le ha
    obtain ⟨n, rfl⟩ := Int.eq_ofNat_of_zero_le hb.le
    have hcut := copyOut_lines previous
      (show i + n ≤ (Pieces.pieces newline previous.units).length by
        rw [length_boundaries] at hin
        omega)
    rw [Nat.cast_add] at hcut
    rw [hcut] at happly
    exact ⟨_, happly⟩
  · rw [if_pos (by omega)] at happly
    exact happly

/-- **A sum that leaves the range of `Long`** passes the bound and is cut by its low 32 bits: text
that nobody asked for, or a throw. -/
theorem applySegment_of_lt {segment : JsonElement}
    (h : copyRequest segment = some (a, b)) (hwrap : longMax < a + b) :
    (InTable previous.units (toInt a) (toInt (a + b)) ∧
      ∃ text, applySegment previous.units (boundaries previous.units) segment = .ok (some text)) ∨
    (¬ InTable previous.units (toInt a) (toInt (a + b)) ∧
      ∃ e, applySegment previous.units (boundaries previous.units) segment = .error e) := by
  obtain ⟨-, ha, -, hb⟩ := copyRequest_spec h
  obtain ⟨hneg, hlow⟩ := plus_wraps ha hb hwrap
  have happly := applySegment_of_copyRequest previous.units h
  rw [if_neg (by omega)] at happly
  cases hcut : copyOut previous.units (boundaries previous.units) a (plus a b) with
  | ok text =>
    have hin := exists_copyOut_iff.mp ⟨text, hcut⟩
    rw [hlow] at hin
    exact .inl ⟨hin, text, by rw [happly, hcut]; rfl⟩
  | error e =>
    refine .inr ⟨fun hin => ?_, e, by rw [happly, hcut]; rfl⟩
    rw [← hlow] at hin
    obtain ⟨text, htext⟩ := exists_copyOut_iff.mpr hin
    rw [hcut] at htext
    cases htext

/-- **One segment, three ways**: accepted and appended, `null`, or thrown. -/
theorem applySegment_cases (segment : JsonElement) :
    (Accepted previous.units segment ∧ ¬ Overruns previous.units segment ∧
      ∃ text, applySegment previous.units (boundaries previous.units) segment = .ok (some text)) ∨
    (¬ Accepted previous.units segment ∧ ¬ Overruns previous.units segment ∧
      applySegment previous.units (boundaries previous.units) segment = .ok none) ∨
    (Overruns previous.units segment ∧
      ∃ e, applySegment previous.units (boundaries previous.units) segment = .error e) := by
  cases hreq : copyRequest segment with
  | none =>
    have hno := @not_overruns_of_none previous.units segment hreq
    rw [accepted_iff_of_none hreq]
    by_cases hins : IsInsertion segment
    · exact .inl ⟨hins, hno, applySegment_of_isInsertion _ _ hins⟩
    · exact .inr (.inl ⟨hins, hno, applySegment_of_neither _ _ hreq hins⟩)
  | some range =>
    obtain ⟨a, b⟩ := range
    rw [accepted_iff hreq, overruns_iff hreq]
    by_cases hwrap : longMax < a + b
    · rcases applySegment_of_lt previous hreq hwrap with ⟨hin, htext⟩ | ⟨hout, hthrow⟩
      · exact .inl ⟨.inr ⟨hwrap, hin⟩, fun h => h.2 hin, htext⟩
      · exact .inr (.inr ⟨⟨hwrap, hout⟩, hthrow⟩)
    · have happly := applySegment_of_le previous hreq (not_lt.mp hwrap)
      split_ifs at happly with hin
      · exact .inl ⟨.inl hin, fun h => hwrap h.1, happly⟩
      · refine .inr (.inl ⟨?_, fun h => hwrap h.1, happly⟩)
        rintro (h | h)
        · exact hin h
        · exact hwrap h.1

theorem applyLoop_ok_iff (items : List JsonElement) : ∀ output,
    (∃ result, applyLoop previous.units (boundaries previous.units) items output = .ok result)
      ↔ OverrunFree previous.units items := by
  induction items with
  | nil => intro output; simp [applyLoop, OverrunFree]
  | cons segment rest ih =>
    intro output
    rcases applySegment_cases previous segment with
      ⟨hacc, hno, text, h⟩ | ⟨hacc, hno, h⟩ | ⟨hover, e, h⟩
    · simp only [applyLoop, h, OverrunFree, ih, hno, hacc, not_false_eq_true, true_and,
        true_imp_iff]
    · simp [applyLoop, h, OverrunFree, hno, hacc]
    · simp [applyLoop, h, OverrunFree, hover]

/-- **When the client's apply returns.** For every text the client can hold and every decoded JSON
value, `applyStrict` returns (a string or `null`) exactly when no segment it reaches overruns. -/
theorem applyStrict_returns_iff (segments : Option JsonElement) :
    (∃ result, applyStrict previous.units segments = .ok result)
      ↔ ∀ items, segments = some (.array items) → OverrunFree previous.units items := by
  match segments with
  | some (.array items) => simp [applyStrict, applyLoop_ok_iff]
  | none => simp [applyStrict]
  | some .null => simp [applyStrict]
  | some (.bool _) => simp [applyStrict]
  | some (.number _) => simp [applyStrict]
  | some (.string _) => simp [applyStrict]
  | some (.object _) => simp [applyStrict]

end

/-- `copy_start` at `Long.MAX_VALUE` throws on any text, here on the empty one: the double nearest
to it is `2^63`, which passes the range check and saturates, the sum wraps to `Long.MIN_VALUE` and
`boundaries[-1]` is out of bounds. -/
theorem applyStrict_throws_on_wrapped_sum :
    applyStrict [] (some (.array [.object
      [("copy_start", .number (.ofInt longMax)), ("copy_lines", .number (.ofInt 1))]]))
      = .error .indexOutOfBounds := by
  rfl

end Lerdr.Terminal.PaneDelta
