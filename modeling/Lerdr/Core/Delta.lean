/-
# Lerdr.Core.Delta — the relay's pane delta codec (`lerdr-core/src/delta.rs`).

A delta is a list of segments. A segment with `copyLines > 0` copies a run of lines of the previous
text, any other segment is a literal insertion. Lines keep their `\n`, and a text that ends in `\n`
has one more, empty, line: the phantom line. `build` scans the current lines left to right, looks
the next three lines up in an index of the previous text, and takes the longest match among at most
64 candidates; lines without a match of three or more are held back and flushed as one literal.

Strings are lists of Unicode scalar values. Positions are `Nat`s where the source has `usize`;
segment fields are `Int`s in the range of `i64`, and `apply` checks that range as the source does.
-/
import Lerdr.Lib.Pieces

namespace Lerdr.Core.Delta

open Lib.Pieces

/-- A Rust string: a sequence of Unicode scalar values. -/
abbrev Text := List Char

/-- `MINIMUM_COPY_LINES` — a copy segment must cover at least this many lines. -/
def minimumCopyLines : Nat := 3
/-- `MAX_CANDIDATES` — per-anchor candidate cap; later duplicates are dropped. -/
def maxCandidates : Nat := 64
/-- `SEGMENT_OVERHEAD_BYTES` — per-segment overhead charged by `efficient`. -/
def segmentOverheadBytes : Nat := 64

/-- The largest `i64`, and the largest Rust allocation in bytes (`isize::MAX`). -/
def i64Max : Int := 2 ^ 63 - 1

/-- One delta segment. -/
structure Segment where
  copyStart : Int := 0
  copyLines : Int := 0
  text : Text := []
  deriving DecidableEq, Repr

/-! ## §1 — lines -/

/-- `str::split_inclusive('\n')`: every element keeps its `\n`; no element for a trailing `\n`. -/
def splitInclusive : Text → List Text
  | [] => []
  | c :: cs =>
    if c = '\n' then [c] :: splitInclusive cs
    else match splitInclusive cs with
      | [] => [[c]]
      | l :: ls => (c :: l) :: ls

/-- `split_after`: as `split_inclusive`, and the phantom line `""` after a final `\n` (or for an
empty text). -/
def splitAfter (s : Text) : List Text :=
  let parts := splitInclusive s
  if parts.isEmpty || s.getLast? == some '\n' then parts ++ [[]] else parts

/-- `split_inclusive` is the cut without its empty tail. -/
theorem splitInclusive_append (s : Text) :
    splitInclusive s ++ (if s = [] ∨ s.getLast? = some '\n' then [[]] else [])
      = pieces '\n' s := by
  induction s with
  | nil => rfl
  | cons c cs ih =>
    by_cases hc : c = '\n'
    · subst hc
      have hlast : (('\n' :: cs) = [] ∨ ('\n' :: cs).getLast? = some '\n')
          ↔ (cs = [] ∨ cs.getLast? = some '\n') := by
        cases cs <;> simp [List.getLast?_cons_cons]
      simp only [splitInclusive, if_true, pieces_cons_sep, hlast, List.cons_append, ih]
    · rw [pieces_cons_ne hc, ← ih]
      cases cs with
      | nil => simp [splitInclusive, hc]
      | cons d ds =>
        obtain ⟨l, ls, hl⟩ : ∃ l ls, splitInclusive (d :: ds) = l :: ls := by
          by_cases hd : d = '\n'
          · exact ⟨[d], splitInclusive ds, by simp [splitInclusive, hd]⟩
          · cases h : splitInclusive ds with
            | nil => exact ⟨[d], [], by simp [splitInclusive, hd, h]⟩
            | cons l ls => exact ⟨d :: l, ls, by simp [splitInclusive, hd, h]⟩
        rw [splitInclusive, if_neg hc, hl]
        simp [List.getLast?_cons_cons]

/-- **`split_after` is the cut after every newline.** -/
theorem splitAfter_eq_pieces (s : Text) : splitAfter s = pieces '\n' s := by
  rw [← splitInclusive_append]
  have hempty : (splitInclusive s).isEmpty = true ↔ s = [] := by
    cases s with
    | nil => simp [splitInclusive]
    | cons c cs =>
      by_cases hc : c = '\n'
      · simp [splitInclusive, hc]
      · cases h : splitInclusive cs <;> simp [splitInclusive, hc, h]
  by_cases h : s = [] ∨ s.getLast? = some '\n'
  · have h' : ((splitInclusive s).isEmpty || s.getLast? == some '\n') = true := by
      simpa [hempty] using h
    simp only [splitAfter, h', if_true, if_pos h]
  · have h' : ((splitInclusive s).isEmpty || s.getLast? == some '\n') = false := by
      rw [Bool.eq_false_iff]
      simpa [hempty] using h
    simp [splitAfter, h', if_neg h]

@[simp] theorem flatten_splitAfter (s : Text) : (splitAfter s).flatten = s := by
  rw [splitAfter_eq_pieces, flatten_pieces]

/-- A text the relay can hold: the line vector `split_after` collects is one allocation of 16-byte
slices, and no Rust allocation is larger than `isize::MAX` bytes. -/
structure RustString where
  text : Text
  fits : (16 * (splitAfter text).length : Int) ≤ i64Max

/-- `String::new()`. -/
def RustString.empty : RustString := ⟨[], by decide⟩

/-! ## §2 — the anchor index and the longest match -/

/-- `LineKey` — three consecutive lines. -/
abbrev LineKey := Text × Text × Text

/-- `key_at`. The source indexes unchecked; `build` only asks for positions with two more lines
after them. -/
def keyAt (lines : List Text) (index : Nat) : LineKey :=
  (lines.getD index [], lines.getD (index + 1) [], lines.getD (index + 2) [])

/-- How many leading lines agree. -/
def runLength : List Text → List Text → Nat
  | p :: ps, c :: cs => if p = c then runLength ps cs + 1 else 0
  | _, _ => 0

/-- `matching_lines` — longest run of equal lines starting at the two positions. -/
def matchingLines (previous current : List Text) (previousIndex currentIndex : Nat) : Nat :=
  runLength (previous.drop previousIndex) (current.drop currentIndex)

/-- One turn of the index loop: `matches.entry(key).or_default()`, pushed to while under the cap.
The map is a total function, the absent entry being the empty vector. -/
def recordAnchor (lines : List Text) (matches_ : LineKey → List Nat) (index : Nat) :
    LineKey → List Nat :=
  let key := keyAt lines index
  if (matches_ key).length < maxCandidates then
    Function.update matches_ key (matches_ key ++ [index])
  else matches_

/-- The anchor index of a text: `for index in 0..len.saturating_sub(2)`. -/
def anchors (lines : List Text) : LineKey → List Nat :=
  (List.range (lines.length - (minimumCopyLines - 1))).foldl (recordAnchor lines) fun _ => []

/-- One turn of the candidate loop: a strictly longer match replaces `(best_start, best_lines)`. -/
def keepLonger (previous current : List Text) (currentIndex : Nat) (best : Nat × Nat)
    (previousIndex : Nat) : Nat × Nat :=
  let matched := matchingLines previous current previousIndex currentIndex
  if best.2 < matched then (previousIndex, matched) else best

/-- The candidate loop: `(best_start, best_lines)`, the first longest match winning. -/
def bestMatch (previous current : List Text) (currentIndex : Nat) : Nat × Nat :=
  (anchors previous (keyAt current currentIndex)).foldl
    (keepLonger previous current currentIndex) (0, 0)

/-! ## §3 — `build`, `efficient`, `apply` -/

/-- `flush_literal` — emit the pending literal, if there is one. -/
def flushLiteral (segments : List Segment) (currentLines : List Text) (literalStart stop : Nat) :
    List Segment :=
  if stop ≤ literalStart then segments
  else segments ++ [{ text := ((currentLines.take stop).drop literalStart).flatten }]

/-- The mutable variables of `build`'s scan. -/
structure Scan where
  segments : List Segment
  literalStart : Nat
  currentIndex : Nat

/-- The `while` loop of `build`. Every turn moves `currentIndex` forward, so the number of lines
left is fuel enough. -/
def scan (previous current : List Text) : Nat → Scan → Scan
  | 0, st => st
  | fuel + 1, st =>
    if st.currentIndex < current.length then
      -- `break`: too few lines are left for a key
      if current.length < st.currentIndex + minimumCopyLines then st
      else
        let best := bestMatch previous current st.currentIndex
        if best.2 < minimumCopyLines then
          scan previous current fuel { st with currentIndex := st.currentIndex + 1 }
        else
          scan previous current fuel
            { segments := flushLiteral st.segments current st.literalStart st.currentIndex
                ++ [{ copyStart := best.1, copyLines := best.2 }]
              literalStart := st.currentIndex + best.2
              currentIndex := st.currentIndex + best.2 }
    else st

/-- `build` — greedy left-to-right anchor matching. -/
def build (previous current : Text) : List Segment :=
  let previousLines := splitAfter previous
  let currentLines := splitAfter current
  let st := scan previousLines currentLines currentLines.length ⟨[], 0, 0⟩
  flushLiteral st.segments currentLines st.literalStart currentLines.length

/-- `str::len` — UTF-8 bytes. -/
def byteLen (s : Text) : Nat := (s.map Char.utf8Size).sum

/-- `efficient` — the sender-side gate. -/
def efficient (segments : List Segment) (current : Text) : Bool :=
  let literalBytes := (segments.map fun s => byteLen s.text).sum
  decide (literalBytes + segments.length * segmentOverheadBytes < byteLen current * 3 / 4)

def checkedAdd (a b : Int) : Option Int :=
  if -i64Max - 1 ≤ a + b ∧ a + b ≤ i64Max then some (a + b) else none

/-- The segment loop of `apply`, over the lines of the previous text. -/
def applyLoop (lines : List Text) : List Segment → Text → Option Text
  | [], output => some output
  | segment :: rest, output =>
    if 0 < segment.copyLines then
      match checkedAdd segment.copyStart segment.copyLines with
      | none => none
      | some stop =>
        if segment.copyStart < 0 ∨ stop < segment.copyStart ∨ (lines.length : Int) < stop then none
        else
          applyLoop lines rest
            (output ++ ((lines.take stop.toNat).drop segment.copyStart.toNat).flatten)
    else applyLoop lines rest (output ++ segment.text)

/-- `apply` — splice `segments` onto `previous`; `none` on an out-of-range copy. -/
def apply (previous : Text) (segments : List Segment) : Option Text :=
  applyLoop (splitAfter previous) segments []

end Lerdr.Core.Delta
