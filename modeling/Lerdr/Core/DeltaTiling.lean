/-
# Lerdr.Core.DeltaTiling — what `build` emits, as a relation, and the relay-side round trip.

`Tiles previous held rest segments` is the abstract reading of the greedy scan: with the lines
`held` back as a pending literal and the lines `rest` still to be scanned, the scan emits exactly
`segments`. It names no index, no loop variable and no accumulator. `build_tiles` connects it to the
loop; the facts about deltas are then inductions over the three ways a tiling can go on.
-/
import Lerdr.Core.Delta
import Mathlib.Data.List.Chain

namespace Lerdr.Core.Delta

variable {previous rest : List Text} {segments : List Segment}

open Lib.Pieces

/-! ## §1 — the match `build` takes is a real match -/

theorem runLength_spec : ∀ ps cs : List Text,
    runLength ps cs ≤ ps.length ∧ runLength ps cs ≤ cs.length ∧
      ps.take (runLength ps cs) = cs.take (runLength ps cs)
  | [], cs => by simp [runLength]
  | p :: ps, [] => by simp [runLength]
  | p :: ps, c :: cs => by
    by_cases h : p = c
    · subst h
      obtain ⟨hp, hc, htake⟩ := runLength_spec ps cs
      rw [runLength, if_pos rfl, List.take_succ_cons, List.take_succ_cons, htake]
      exact ⟨by simp; omega, by simp; omega, rfl⟩
    · simp [runLength, h]

/-- The scan only looks at what is left of the current lines. -/
theorem bestMatch_drop (previous current : List Text) (i : Nat) :
    bestMatch previous (current.drop i) 0 = bestMatch previous current i := by
  have hkey : keyAt (current.drop i) 0 = keyAt current i := by
    simp [keyAt, List.getD_eq_getElem?_getD, List.getElem?_drop]
  have hkeep : keepLonger previous (current.drop i) 0 = keepLonger previous current i := by
    funext best j
    have hmatch : matchingLines previous (current.drop i) j 0
        = matchingLines previous current j i := rfl
    rw [keepLonger, keepLonger, hmatch]
  rw [bestMatch, bestMatch, hkey, hkeep]

/-- The candidate loop only ever holds nothing, or a start with the length matched there. -/
theorem foldl_keepLonger (previous rest : List Text) : ∀ (cands : List Nat) (best : Nat × Nat),
    (best.2 = 0 ∨ best.2 = runLength (previous.drop best.1) rest) →
    (cands.foldl (keepLonger previous rest 0) best).2 = 0 ∨
      (cands.foldl (keepLonger previous rest 0) best).2
        = runLength (previous.drop (cands.foldl (keepLonger previous rest 0) best).1) rest := by
  intro cands
  induction cands with
  | nil => intro best hb; exact hb
  | cons i cands ih =>
    intro best hb
    refine ih (keepLonger previous rest 0 best i) ?_
    by_cases hlt : best.2 < matchingLines previous rest i 0
    · right
      rw [keepLonger, if_pos hlt]
      rfl
    · rw [keepLonger, if_neg hlt]
      exact hb

/-- **The winner of the candidate loop is a match**: it lies inside the previous lines, inside what
is left of the current ones, and the two runs are equal. The index plays no part in this: whatever
it offers, the loop re-compares. -/
theorem bestMatch_spec (previous rest : List Text) (h : 0 < (bestMatch previous rest 0).2) :
    (bestMatch previous rest 0).1 + (bestMatch previous rest 0).2 ≤ previous.length ∧
      (bestMatch previous rest 0).2 ≤ rest.length ∧
      (previous.drop (bestMatch previous rest 0).1).take (bestMatch previous rest 0).2
        = rest.take (bestMatch previous rest 0).2 := by
  have hrun : (bestMatch previous rest 0).2
      = runLength (previous.drop (bestMatch previous rest 0).1) rest := by
    rcases foldl_keepLonger previous rest (anchors previous (keyAt rest 0)) (0, 0)
      (Or.inl rfl) with hzero | hrun
    · exact absurd hzero (Nat.pos_iff_ne_zero.mp h)
    · exact hrun
  obtain ⟨hp, hc, htake⟩ := runLength_spec (previous.drop (bestMatch previous rest 0).1) rest
  rw [← hrun] at hp hc htake
  rw [List.length_drop] at hp
  exact ⟨by omega, hc, htake⟩

theorem bestMatch_pos {i : Nat}
    (h : minimumCopyLines ≤ (bestMatch previous rest i).2) : 0 < (bestMatch previous rest i).2 := by
  simp only [minimumCopyLines] at h
  omega

/-! ## §2 — tilings -/

/-- The literal segment for the lines held back, if any. -/
def literal (lines : List Text) : List Segment :=
  if lines = [] then [] else [{ text := lines.flatten }]

/-- The copy segment for the best match of what is left. -/
def copyBest (previous rest : List Text) : Segment :=
  { copyStart := (bestMatch previous rest 0).1, copyLines := (bestMatch previous rest 0).2 }

/-- **The greedy tiling.** Fewer than three lines left: everything pending is one literal. No match
of three lines: the next line is held back. Otherwise: flush what was held, copy the longest match,
go on behind it. -/
inductive Tiles (previous : List Text) : List Text → List Text → List Segment → Prop
  | done {held rest : List Text} (hlen : rest.length < minimumCopyLines) :
      Tiles previous held rest (literal (held ++ rest))
  | skip {held rest : List Text} {line : Text} {segments : List Segment}
      (hlen : minimumCopyLines ≤ (line :: rest).length)
      (hbest : (bestMatch previous (line :: rest) 0).2 < minimumCopyLines)
      (tail : Tiles previous (held ++ [line]) rest segments) :
      Tiles previous held (line :: rest) segments
  | copy {held rest : List Text} {segments : List Segment}
      (hlen : minimumCopyLines ≤ rest.length)
      (hbest : minimumCopyLines ≤ (bestMatch previous rest 0).2)
      (tail : Tiles previous [] (rest.drop (bestMatch previous rest 0).2) segments) :
      Tiles previous held rest (literal held ++ copyBest previous rest :: segments)

theorem flushLiteral_eq (segments : List Segment) {current : List Text} {start stop : Nat}
    (h : start ≤ stop) (hstop : stop ≤ current.length) :
    flushLiteral segments current start stop
      = segments ++ literal ((current.take stop).drop start) := by
  have hlen : ((current.take stop).drop start).length = stop - start := by
    simp [Nat.min_eq_left hstop]
  by_cases heq : stop = start
  · have hnil : (current.take stop).drop start = [] := List.eq_nil_of_length_eq_zero (by omega)
    rw [literal, if_pos hnil, flushLiteral, if_pos (by omega), List.append_nil]
  · have hne : (current.take stop).drop start ≠ [] := List.ne_nil_of_length_pos (by omega)
    simp [flushLiteral, literal, hne, show ¬ stop ≤ start by omega]

/-- What is held and what is left, put together, is what the last flush will see. -/
theorem held_append_rest {current : List Text} {start i : Nat} (h : start ≤ i)
    (hi : i ≤ current.length) :
    (current.take i).drop start ++ current.drop i
      = (current.take current.length).drop start := by
  rw [List.take_length]
  conv_rhs => rw [← List.take_append_drop i current]
  rw [List.drop_append_of_le_length (by simp; omega)]

/-- What a loop state has still to emit: the last flush, seen from here, adds a tiling of the lines
held back and the lines left. -/
def Emits (previous current : List Text) (st final : Scan) : Prop :=
  ∃ segments,
    flushLiteral final.segments current final.literalStart current.length
      = st.segments ++ segments ∧
    Tiles previous ((current.take st.currentIndex).drop st.literalStart)
      (current.drop st.currentIndex) segments

/-- Leaving the loop with fewer than three lines to go: the last flush is the whole tiling. -/
theorem flush_tiles (previous current : List Text) (st : Scan)
    (hls : st.literalStart ≤ st.currentIndex) (hci : st.currentIndex ≤ current.length)
    (hfew : current.length < st.currentIndex + minimumCopyLines) :
    Emits previous current st st := by
  refine ⟨_, flushLiteral_eq st.segments (hls.trans hci) le_rfl, ?_⟩
  rw [← held_append_rest hls hci]
  exact .done (by rw [List.length_drop]; omega)

section

variable {previous current : List Text} {st final : Scan}
  (hls : st.literalStart ≤ st.currentIndex)
  (hlen : st.currentIndex + minimumCopyLines ≤ current.length)
include hls hlen

/-- A line without a match joins the held ones. -/
theorem Emits.skip (hbest : (bestMatch previous current st.currentIndex).2 < minimumCopyLines)
    (h : Emits previous current { st with currentIndex := st.currentIndex + 1 } final) :
    Emits previous current st final := by
  obtain ⟨segments, hflush, htiles⟩ := h
  have hlt : st.currentIndex < current.length := by
    simp only [minimumCopyLines] at hlen
    omega
  have hrest : current.drop st.currentIndex
      = current[st.currentIndex] :: current.drop (st.currentIndex + 1) :=
    List.drop_eq_getElem_cons hlt
  have hheld : (current.take (st.currentIndex + 1)).drop st.literalStart
      = (current.take st.currentIndex).drop st.literalStart ++ [current[st.currentIndex]] := by
    rw [List.take_add_one, List.getElem?_eq_getElem hlt, Option.toList_some,
      List.drop_append_of_le_length (by simp; omega)]
  refine ⟨segments, hflush, ?_⟩
  have hlong : minimumCopyLines ≤ (current.drop st.currentIndex).length := by simp; omega
  rw [← bestMatch_drop, hrest] at hbest
  rw [hrest] at hlong ⊢
  refine .skip hlong hbest ?_
  rw [← hheld]
  exact htiles

/-- A match is flushed in front of and copied; nothing is held behind it. -/
theorem Emits.copy (hbest : minimumCopyLines ≤ (bestMatch previous current st.currentIndex).2)
    (h : Emits previous current
      { segments := flushLiteral st.segments current st.literalStart st.currentIndex
          ++ [{ copyStart := (bestMatch previous current st.currentIndex).1
                copyLines := (bestMatch previous current st.currentIndex).2 }]
        literalStart := st.currentIndex + (bestMatch previous current st.currentIndex).2
        currentIndex := st.currentIndex + (bestMatch previous current st.currentIndex).2 } final) :
    Emits previous current st final := by
  obtain ⟨segments, hflush, htiles⟩ := h
  refine ⟨literal ((current.take st.currentIndex).drop st.literalStart)
      ++ copyBest previous (current.drop st.currentIndex) :: segments, ?_, ?_⟩
  · rw [hflush, flushLiteral_eq _ hls (by omega)]
    simp [copyBest, bestMatch_drop]
  · refine .copy (by simp; omega) (by rw [bestMatch_drop]; exact hbest) ?_
    rw [bestMatch_drop, List.drop_drop]
    simpa using htiles

end

/-- A match ends inside the current lines. -/
theorem add_bestMatch_le {previous current : List Text} {i : Nat}
    (hi : i ≤ current.length) (hbest : minimumCopyLines ≤ (bestMatch previous current i).2) :
    i + (bestMatch previous current i).2 ≤ current.length := by
  rw [← bestMatch_drop] at hbest ⊢
  have hfit := (bestMatch_spec previous (current.drop i) (bestMatch_pos hbest)).2.1
  rw [List.length_drop] at hfit
  omega

/-- One scan from any loop state emits a tiling of what it still has to cover. The fuel is enough:
every turn moves `currentIndex` on. -/
theorem scan_tiles (previous current : List Text) : ∀ (fuel : Nat) (st : Scan),
    st.literalStart ≤ st.currentIndex → st.currentIndex ≤ current.length →
    current.length ≤ fuel + st.currentIndex →
    Emits previous current st (scan previous current fuel st) := by
  intro fuel
  induction fuel with
  | zero =>
    intro st hls hci hfuel
    exact flush_tiles previous current st hls hci (by simp [minimumCopyLines]; omega)
  | succ fuel ih =>
    intro st hls hci hfuel
    by_cases hlt : st.currentIndex < current.length
    case neg =>
      simp only [scan, if_neg hlt]
      exact flush_tiles previous current st hls hci (by simp [minimumCopyLines]; omega)
    by_cases hbreak : current.length < st.currentIndex + minimumCopyLines
    · simp only [scan, if_pos hlt, if_pos hbreak]
      exact flush_tiles previous current st hls hci hbreak
    have hlen : st.currentIndex + minimumCopyLines ≤ current.length := not_lt.mp hbreak
    by_cases hbest : (bestMatch previous current st.currentIndex).2 < minimumCopyLines
    · simp only [scan, if_pos hlt, if_neg hbreak, if_pos hbest]
      exact .skip hls hlen hbest (ih _ (by simp; omega) (by simp; omega) (by simp; omega))
    · have hge : minimumCopyLines ≤ (bestMatch previous current st.currentIndex).2 :=
        not_lt.mp hbest
      have hfit := add_bestMatch_le hci hge
      simp only [scan, if_pos hlt, if_neg hbreak, if_neg hbest]
      refine .copy hls hlen hge (ih _ le_rfl hfit ?_)
      simp only [minimumCopyLines] at hge ⊢
      omega

/-- **The loop refines the tiling.** -/
theorem build_tiles (previous current : Text) :
    Tiles (splitAfter previous) [] (splitAfter current) (build previous current) := by
  obtain ⟨segments, hflush, htiles⟩ :=
    scan_tiles (splitAfter previous) (splitAfter current) (splitAfter current).length ⟨[], 0, 0⟩
      le_rfl (Nat.zero_le _) (by simp)
  have hbuild : build previous current = segments := by simpa [build] using hflush
  rw [hbuild]
  simpa using htiles

/-! ## §3 — what every tiling satisfies -/

/-- A segment is a literal when it copies nothing. -/
def Segment.isLiteral (s : Segment) : Prop := s.copyLines ≤ 0

theorem literal_isLiteral {lines : List Text} {s : Segment} (h : s ∈ literal lines) :
    s.copyLines = 0 ∧ s.text = lines.flatten ∧ lines ≠ [] := by
  by_cases hl : lines = []
  · simp [literal, hl] at h
  · simp only [literal, if_neg hl, List.mem_singleton] at h
    exact ⟨by rw [h], by rw [h], hl⟩

section

variable {previous held rest : List Text}

/-- **Copies are long and stay inside the previous text.** -/
theorem Tiles.copy_in_range (h : Tiles previous held rest segments) :
    ∀ s ∈ segments, 0 < s.copyLines →
      (minimumCopyLines : Int) ≤ s.copyLines ∧ 0 ≤ s.copyStart ∧
        s.copyStart + s.copyLines ≤ previous.length := by
  induction h with
  | done hlen =>
    intro s hs hpos
    have := (literal_isLiteral hs).1
    omega
  | skip _ _ _ ih => exact ih
  | @copy held rest segments hlen hbest tail ih =>
    intro s hs hpos
    rcases List.mem_append.mp hs with hs | hs
    · have := (literal_isLiteral hs).1
      omega
    rcases List.mem_cons.mp hs with rfl | hs
    · have hfit := (bestMatch_spec previous rest (bestMatch_pos hbest)).1
      simp only [copyBest]
      exact ⟨by exact_mod_cast hbest, by omega, by exact_mod_cast hfit⟩
    · exact ih s hs hpos

/-- **Literals never touch**: the scan flushes only in front of a copy or at the end. -/
theorem Tiles.alternates (h : Tiles previous held rest segments) :
    segments.IsChain fun a b => ¬ (a.isLiteral ∧ b.isLiteral) := by
  induction h with
  | @done held rest hlen =>
    by_cases hl : held ++ rest = [] <;> simp [literal, hl]
  | skip _ _ _ ih => exact ih
  | @copy held rest segments hlen hbest tail ih =>
    -- whatever is flushed stands next to this copy, and the copy is no literal
    have hcopy : ¬ (copyBest previous rest).isLiteral := by
      simp only [Segment.isLiteral, copyBest, minimumCopyLines] at hbest ⊢
      omega
    have htail : (copyBest previous rest :: segments).IsChain
        fun a b => ¬ (a.isLiteral ∧ b.isLiteral) :=
      List.isChain_cons.mpr ⟨fun _ _ hb => hcopy hb.1, ih⟩
    by_cases hl : held = []
    · rw [literal, if_pos hl]
      exact htail
    · rw [literal, if_neg hl]
      exact List.isChain_cons_cons.mpr ⟨fun hb => hcopy hb.2, htail⟩

theorem applyLoop_literal (lines : List Text) (held : List Text) (rest : List Segment)
    (output : Text) :
    applyLoop lines (literal held ++ rest) output
      = applyLoop lines rest (output ++ held.flatten) := by
  by_cases hl : held = []
  · simp [literal, hl]
  · simp [literal, hl, applyLoop]

/-- Splicing one copy that stays inside the previous lines. -/
theorem applyLoop_copy {lines : List Text} (hfits : (lines.length : Int) ≤ i64Max) {start n : Nat}
    (hn : 0 < n) (hin : start + n ≤ lines.length) (rest : List Segment) (output : Text) :
    applyLoop lines ({ copyStart := start, copyLines := n } :: rest) output
      = applyLoop lines rest (output ++ ((lines.drop start).take n).flatten) := by
  have hadd : checkedAdd (start : Int) (n : Int) = some ((start + n : Nat) : Int) := by
    have hrange : -i64Max - 1 ≤ (start : Int) + n ∧ (start : Int) + n ≤ i64Max := by
      simp only [i64Max] at hfits ⊢
      omega
    rw [checkedAdd, if_pos hrange]
    push_cast
    rfl
  have hslice : (lines.take (start + n)).drop start = (lines.drop start).take n := by
    rw [List.drop_take]
    simp
  have hok : ¬ ((start : Int) < 0 ∨ ((start + n : Nat) : Int) < start
      ∨ (lines.length : Int) < ((start + n : Nat) : Int)) := by omega
  simp only [applyLoop, hadd, if_neg hok, Int.toNat_natCast, hslice]
  simp [hn]

/-- **Splicing a tiling back gives what it tiled.** -/
theorem Tiles.applyLoop_eq
    (hfits : (previous.length : Int) ≤ i64Max) (h : Tiles previous held rest segments) :
    ∀ output, applyLoop previous segments output
      = some (output ++ (held ++ rest).flatten) := by
  induction h with
  | @done held rest hlen =>
    intro output
    have hlit := applyLoop_literal previous (held ++ rest) [] output
    rw [List.append_nil] at hlit
    rw [hlit, applyLoop]
  | skip _ _ _ ih =>
    intro output
    rw [ih output]
    simp
  | @copy held rest segments hlen hbest tail ih =>
    intro output
    have hpos := bestMatch_pos hbest
    obtain ⟨hin, -, hmatch⟩ := bestMatch_spec previous rest hpos
    rw [applyLoop_literal, copyBest, applyLoop_copy hfits hpos hin, ih, hmatch]
    -- the copied lines of the previous text are the first lines of what was left
    simp only [List.flatten_append, List.nil_append, List.append_assoc]
    rw [flatten_take_append_drop]

/-- The line vector of a text the relay can hold has an `i64` length. -/
theorem RustString.length_le (s : RustString) :
    ((splitAfter s.text).length : Int) ≤ i64Max := by
  have := s.fits
  omega

/-- Splicing the built segments onto the previous text gives the current text. -/
theorem splice_build (previous : RustString) (current : Text) :
    apply previous.text (build previous.text current) = some current := by
  rw [apply, (build_tiles previous.text current).applyLoop_eq previous.length_le]
  simp

/-- **The relay's delta codec round-trips.** Splicing the built segments onto the previous text
gives the current text; every copy has at least three lines and lies inside the previous lines; no
two neighbouring segments are both literals. -/
theorem apply_build (previous : RustString) (current : Text) :
    apply previous.text (build previous.text current) = some current ∧
    (∀ s ∈ build previous.text current, 0 < s.copyLines →
      (minimumCopyLines : Int) ≤ s.copyLines ∧ 0 ≤ s.copyStart ∧
        s.copyStart + s.copyLines ≤ (splitAfter previous.text).length) ∧
    (build previous.text current).IsChain fun a b => ¬ (a.isLiteral ∧ b.isLiteral) := by
  have htiles := build_tiles previous.text current
  exact ⟨splice_build previous current, htiles.copy_in_range, htiles.alternates⟩

/-! ## §4 — the phantom line -/

/-- The first 64 places of the previous text that hold the next three lines. -/
def candidates (previous rest : List Text) : List Nat :=
  ((List.range (previous.length - 2)).filter fun i => keyAt previous i = keyAt rest 0).take
    maxCandidates

/-- How many lines the longest copy from one of these places covers. -/
def longestCopy (previous rest : List Text) : Nat :=
  ((candidates previous rest).map fun i => runLength (previous.drop i) rest).foldl max 0

/-- The index loop keeps, for every key, its first 64 places in order. -/
theorem foldl_recordAnchor (lines : List Text) (key : LineKey) (is : List Nat) :
    is.foldl (recordAnchor lines) (fun _ => []) key
      = (is.filter fun i => keyAt lines i = key).take maxCandidates := by
  induction is using List.reverseRecOn with
  | nil => rfl
  | append_singleton is i ih =>
    rw [List.foldl_concat, List.filter_append]
    generalize is.foldl (recordAnchor lines) (fun _ => []) = matches_ at ih
    by_cases hkey : keyAt lines i = key
    · subst hkey
      rw [List.filter_cons_of_pos (by simp), List.filter_nil]
      -- under the cap the place is appended, at the cap it is dropped; `take` says both
      by_cases hroom : (matches_ (keyAt lines i)).length < maxCandidates
      · rw [recordAnchor, if_pos hroom, Function.update_self, ih]
        rw [ih, List.length_take] at hroom
        rw [List.take_of_length_le (by omega), List.take_of_length_le (by simp; omega)]
      · rw [recordAnchor, if_neg hroom, ih]
        rw [ih, List.length_take] at hroom
        rw [List.take_append_of_le_length (by omega)]
    · rw [List.filter_cons_of_neg (by simpa using hkey), List.filter_nil, List.append_nil, ← ih,
        recordAnchor]
      split
      · rw [Function.update_of_ne (Ne.symm hkey)]
      · rfl

/-- The candidate loop ends with the maximum. -/
theorem foldl_keepLonger_snd (previous rest : List Text) (cands : List Nat) : ∀ best : Nat × Nat,
    (cands.foldl (keepLonger previous rest 0) best).2
      = (cands.map fun i => runLength (previous.drop i) rest).foldl max best.2 := by
  induction cands with
  | nil => intro best; rfl
  | cons i cands ih =>
    intro best
    have hstep : (keepLonger previous rest 0 best i).2
        = max best.2 (runLength (previous.drop i) rest) := by
      have hmatch : matchingLines previous rest i 0 = runLength (previous.drop i) rest := rfl
      rw [keepLonger, hmatch]
      split
      · exact (max_eq_right (by omega)).symm
      · exact (max_eq_left (by omega)).symm
    rw [List.foldl_cons, ih, hstep, List.map_cons, List.foldl_cons]

/-- **What the index and the candidate loop compute.** -/
theorem bestMatch_snd (previous rest : List Text) :
    (bestMatch previous rest 0).2 = longestCopy previous rest := by
  rw [bestMatch, anchors, foldl_recordAnchor, foldl_keepLonger_snd]
  rfl

/-- **A copy stops right in front of the phantom line**: going through the lines of the current text
from the left, holding back a line with no copy of three or more and skipping over the longest copy
otherwise, some copy leaves exactly the empty last line. -/
inductive EndsAtPhantom (previous : List Text) : List Text → Prop
  | copied {rest : List Text} (hlen : minimumCopyLines ≤ rest.length)
      (hcopy : minimumCopyLines ≤ longestCopy previous rest)
      (hend : rest.drop (longestCopy previous rest) = [[]]) : EndsAtPhantom previous rest
  | skip {line : Text} {rest : List Text} (hlen : minimumCopyLines ≤ (line :: rest).length)
      (hcopy : longestCopy previous (line :: rest) < minimumCopyLines)
      (tail : EndsAtPhantom previous rest) : EndsAtPhantom previous (line :: rest)
  | jump {rest : List Text} (hlen : minimumCopyLines ≤ rest.length)
      (hcopy : minimumCopyLines ≤ longestCopy previous rest)
      (tail : EndsAtPhantom previous (rest.drop (longestCopy previous rest))) :
      EndsAtPhantom previous rest

theorem not_endsAtPhantom_of_length_lt
    (h : rest.length < minimumCopyLines) : ¬ EndsAtPhantom previous rest := by
  rintro (⟨hlen, -, -⟩ | ⟨hlen, -, -⟩ | ⟨hlen, -, -⟩) <;> omega

/-- A text copied to its last line has left nothing, not even the phantom line. -/
theorem not_endsAtPhantom_of_longestCopy
    (h : longestCopy previous rest = rest.length) (hlen : minimumCopyLines ≤ rest.length) :
    ¬ EndsAtPhantom previous rest := by
  rintro (⟨-, -, hend⟩ | ⟨-, hcopy, -⟩ | ⟨-, -, tail⟩)
  · simp [h] at hend
  · omega
  · rw [h, List.drop_length] at tail
    exact not_endsAtPhantom_of_length_lt (by decide) tail

/-- The segment that serializes as `{}`. -/
def Segment.isBlank (s : Segment) : Prop := s.copyLines = 0 ∧ s.text = []

theorem exists_blank_literal_iff (lines : List Text) (hne : ∀ l ∈ lines.dropLast, l ≠ []) :
    (∃ s ∈ literal lines, s.isBlank) ↔ lines = [[]] := by
  constructor
  · rintro ⟨s, hs, -, htext⟩
    obtain ⟨-, hflat, hl⟩ := literal_isLiteral hs
    rw [htext, eq_comm, List.flatten_eq_nil_iff] at hflat
    rw [← List.dropLast_append_getLast hl]
    have hnil : lines.dropLast = [] := List.eq_nil_iff_forall_not_mem.mpr fun l hmem =>
      hne l hmem (hflat l (List.mem_of_mem_dropLast hmem))
    rw [hnil, hflat _ (List.getLast_mem hl)]
    rfl
  · rintro rfl
    exact ⟨{}, by simp [literal], rfl, rfl⟩

theorem not_isBlank_copyBest (hbest : minimumCopyLines ≤ (bestMatch previous rest 0).2) :
    ¬ (copyBest previous rest).isBlank := by
  intro h
  have := h.1
  simp only [copyBest, minimumCopyLines] at this hbest
  omega

/-- Neither is what was held back in front of it. -/
theorem not_isBlank_literal {held rest : List Text} (hrest : rest ≠ [])
    (hne : ∀ l ∈ (held ++ rest).dropLast, l ≠ []) : ¬ ∃ s ∈ literal held, s.isBlank := by
  rw [List.dropLast_append_of_ne_nil hrest] at hne
  rw [exists_blank_literal_iff held fun l hl =>
    hne l (List.mem_append_left _ (List.mem_of_mem_dropLast hl))]
  rintro rfl
  exact hne [] (by simp) rfl

/-- Three lines are more than the phantom line. -/
theorem append_ne_phantom {held rest : List Text} (hlen : minimumCopyLines ≤ rest.length) :
    held ++ rest ≠ [[]] := by
  intro h
  have := congrArg List.length h
  simp [minimumCopyLines] at this hlen
  omega

theorem endsAtPhantom_skip_iff {line : Text} (hlen : minimumCopyLines ≤ (line :: rest).length)
    (hcopy : longestCopy previous (line :: rest) < minimumCopyLines) :
    EndsAtPhantom previous (line :: rest) ↔ EndsAtPhantom previous rest := by
  constructor
  · rintro (⟨-, hge, -⟩ | ⟨-, -, h⟩ | ⟨-, hge, -⟩)
    · omega
    · exact h
    · omega
  · exact .skip hlen hcopy

theorem endsAtPhantom_copy_iff (hlen : minimumCopyLines ≤ rest.length)
    (hcopy : minimumCopyLines ≤ longestCopy previous rest) :
    EndsAtPhantom previous rest ↔
      rest.drop (longestCopy previous rest) = [[]] ∨
        EndsAtPhantom previous (rest.drop (longestCopy previous rest)) := by
  constructor
  · rintro (⟨-, -, h⟩ | ⟨-, hlt, -⟩ | ⟨-, -, h⟩)
    · exact .inl h
    · omega
    · exact .inr h
  · rintro (h | h)
    · exact .copied hlen hcopy h
    · exact .jump hlen hcopy h

/-- **When a tiling has a blank segment**: only the phantom line, alone behind a copy, gives one.
By induction on the tiling; `hne` says that only the last line can be empty. -/
theorem Tiles.exists_blank_iff
    (h : Tiles previous held rest segments) (hne : ∀ l ∈ (held ++ rest).dropLast, l ≠ []) :
    (∃ s ∈ segments, s.isBlank) ↔ held ++ rest = [[]] ∨ EndsAtPhantom previous rest := by
  induction h with
  | @done held rest hlen =>
    rw [exists_blank_literal_iff _ hne]
    simp [not_endsAtPhantom_of_length_lt hlen]
  | @skip held rest line segments hlen hbest tail ih =>
    rw [bestMatch_snd] at hbest
    rw [ih (by simpa using hne), endsAtPhantom_skip_iff hlen hbest, List.append_assoc,
      List.singleton_append]
  | @copy held rest segments hlen hbest tail ih =>
    have hrest : rest ≠ [] := by
      rintro rfl
      simp [minimumCopyLines] at hlen
    have hheld := not_isBlank_literal hrest hne
    have hcopy := not_isBlank_copyBest hbest
    rw [bestMatch_snd] at hbest ih
    -- the lines behind the copy are a suffix, so their last line is the last line
    have htail : ∀ l ∈ ([] ++ rest.drop (longestCopy previous rest)).dropLast, l ≠ [] := by
      intro l hl
      have hdrop : rest.drop (longestCopy previous rest) ≠ [] := by
        intro h
        simp [h] at hl
      rw [← List.take_append_drop (longestCopy previous rest) rest, ← List.append_assoc,
        List.dropLast_append_of_ne_nil hdrop] at hne
      exact hne l (List.mem_append_right _ hl)
    have hsplit : (∃ s ∈ literal held ++ copyBest previous rest :: segments, s.isBlank)
        ↔ ∃ s ∈ segments, s.isBlank := by
      simp only [List.mem_append, List.mem_cons]
      constructor
      · rintro ⟨s, hs | rfl | hs, hb⟩
        · exact absurd ⟨s, hs, hb⟩ hheld
        · exact absurd hb hcopy
        · exact ⟨s, hs, hb⟩
      · rintro ⟨s, hs, hb⟩
        exact ⟨s, .inr (.inr hs), hb⟩
    rw [hsplit, ih htail, List.nil_append, endsAtPhantom_copy_iff hlen hbest]
    simp [append_ne_phantom hlen]

end

/-- **When `build` emits a blank segment**, for a text that is not empty. -/
theorem exists_blank_build_iff (previous : Text) {current : Text} (hcur : current ≠ []) :
    (∃ s ∈ build previous current, s.isBlank)
      ↔ EndsAtPhantom (splitAfter previous) (splitAfter current) := by
  have hne : ∀ l ∈ ([] ++ splitAfter current).dropLast, l ≠ [] := by
    rw [List.nil_append, splitAfter_eq_pieces]
    exact ne_nil_of_mem_dropLast '\n' current
  have hphantom : splitAfter current ≠ [[]] := by
    intro h
    have := flatten_splitAfter current
    rw [h] at this
    exact hcur this.symm
  rw [(build_tiles previous current).exists_blank_iff hne, List.nil_append]
  simp [hphantom]

end Lerdr.Core.Delta
