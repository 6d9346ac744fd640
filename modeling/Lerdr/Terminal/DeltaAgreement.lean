/-
# Lerdr.Terminal.DeltaAgreement — the relay's deltas under the client's apply.

The relay builds segments over scalar values and counts lines; the client cuts UTF-16 code units
with a boundary table. Between them stands the wire form of a segment, which leaves out zero and
empty members, so that the blank literal becomes `{}`. The two sides agree on every text except
where the scan leaves the phantom line alone behind a copy: that literal is the blank one, and the
client refuses it.
-/
import Lerdr.Core.DeltaTiling
import Lerdr.Terminal.PaneDelta

namespace Lerdr.Terminal.DeltaAgreement

open Lerdr.Kotlin Lerdr.Core.Delta Lerdr.Terminal.PaneDelta Lib

/-! ## §1 — the wire form -/

/-- `Segment`'s serde form: a zero `copy_start`, a zero `copy_lines` and an empty `text` are
skipped. -/
def encodeSegment (s : Segment) : JsonElement :=
  .object <|
    (if s.copyStart = 0 then [] else [("copy_start", .number (.ofInt s.copyStart))]) ++
    (if s.copyLines = 0 then [] else [("copy_lines", .number (.ofInt s.copyLines))]) ++
    (if s.text = [] then [] else [("text", .string (utf16 s.text))])

/-- The `segments` member of a `pane_delta`, as the client decodes it. -/
def encodeSegments (segments : List Segment) : JsonElement := .array (segments.map encodeSegment)

/-- A text both sides can hold. -/
structure SharedText where
  text : Text
  fits : (boundaries (utf16 text)).length < 2 ^ 31

def SharedText.client (s : SharedText) : KotlinString := ⟨utf16 s.text, s.fits⟩

theorem pieces_client (s : SharedText) :
    Pieces.pieces newline s.client.units = (splitAfter s.text).map utf16 := by
  rw [splitAfter_eq_pieces]
  exact pieces_utf16 s.text

/-- Both sides count the same lines. -/
theorem SharedText.length_lt (s : SharedText) : (splitAfter s.text).length < 2 ^ 31 := by
  have hfits := s.client.fits
  rw [length_boundaries, pieces_client, List.length_map] at hfits
  omega

/-! ## §2 — one segment -/

/-- Line counts cross the double exactly. -/
theorem jsIntegerOrNull_ofInt {n : Nat} (h : n < 2 ^ 53) :
    jsIntegerOrNull (.number (.ofInt n)) = some (n : Int) := by
  have hread : (Binary64.ofDecimal (n : Int).natAbs 0).integer? = some n := by
    rw [Int.natAbs_natCast]
    exact Binary64.integer?_ofDecimal_zero h
  have hneg : ¬ ((n : Int) < 0) := by omega
  have hin : ¬ ((n : Int) < -2 ^ 63 ∨ 2 ^ 63 < (n : Int)) := by omega
  have hmin : min (n : Int) longMax = n := by
    simp only [longMax]
    omega
  simp only [jsIntegerOrNull, JsonNumber.ofInt, hread, hneg, decide_false, hin, hmin, if_false,
    Bool.false_eq_true]

/-- A copy segment asks the client for the range it names. -/
theorem copyRequest_encodeSegment {start n : Nat} (hn : 0 < n) (hstart : start < 2 ^ 53)
    (hlt : n < 2 ^ 53) :
    copyRequest (encodeSegment { copyStart := start, copyLines := n })
      = some ((start : Int), (n : Int)) := by
  have hlines := jsIntegerOrNull_ofInt hlt
  by_cases hzero : start = 0
  · subst hzero
    simp [encodeSegment, copyRequest, copyRange, hn, hn.ne', hlines]
  · have hstart' := jsIntegerOrNull_ofInt hstart
    simp [encodeSegment, copyRequest, copyRange, hn, hn.ne', hzero, hlines,
      hstart']

/-- **A copy inside the previous lines appends those lines.** -/
theorem applySegment_copy (previous : SharedText) {start n : Nat} (hn : 0 < n)
    (hin : start + n ≤ (splitAfter previous.text).length) :
    applySegment previous.client.units (boundaries previous.client.units)
        (encodeSegment { copyStart := start, copyLines := n })
      = .ok (some (utf16 (((splitAfter previous.text).drop start).take n).flatten)) := by
  have hlen := previous.length_lt
  have hreq := copyRequest_encodeSegment hn (show start < 2 ^ 53 by omega)
    (show n < 2 ^ 53 by omega)
  have hplus : plus (start : Int) n = ((start + n : Nat) : Int) := by
    rw [plus_eq (by simp only [longMin]; omega) (by simp only [longMax]; omega)]
    push_cast
    rfl
  have htable : (boundaries previous.client.units).length
      = (splitAfter previous.text).length + 1 := by
    rw [length_boundaries, pieces_client, List.length_map]
  rw [applySegment_of_copyRequest _ hreq, hplus, if_neg (by omega),
    copyOut_lines previous.client (by rw [pieces_client, List.length_map]; exact hin),
    pieces_client, ← List.map_drop, ← List.map_take, ← utf16_flatten]
  rfl

/-- A literal that is not blank appends its text. -/
theorem applySegment_text (previous : Units) (table : List Nat) {text : Text} (h : text ≠ []) :
    applySegment previous table (encodeSegment { text := text })
      = .ok (some (utf16 text)) := by
  simp [encodeSegment, applySegment, h]

/-- The blank literal is `{}`, which the client takes for malformed. -/
theorem applySegment_blank (previous : Units) (table : List Nat) :
    applySegment previous table (encodeSegment { text := [] }) = .ok none := by
  simp [encodeSegment, applySegment]

/-! ## §3 — the whole delta -/

/-- What the client makes of a tiling, segment by segment: `null` on the blank literal. -/
theorem applyLoop_literal (previous : Units) (table : List Nat) (held : List Text)
    (rest : List JsonElement) (output : Units) (h : ¬ ∃ s ∈ literal held, s.isBlank) :
    applyLoop previous table ((literal held).map encodeSegment ++ rest) output
      = applyLoop previous table rest (output ++ utf16 held.flatten) := by
  by_cases hl : held = []
  · simp [literal, hl, utf16]
  · have hflat : held.flatten ≠ [] := by
      intro hnil
      exact h ⟨{ text := held.flatten }, by simp [literal, hl], rfl, hnil⟩
    simp only [literal, if_neg hl, List.map_cons, List.map_nil, List.cons_append, List.nil_append]
    rw [PaneDelta.applyLoop, applySegment_text _ _ hflat]

/-- **Without a blank literal the client rebuilds what was tiled.** -/
theorem applyLoop_of_tiles (previous : SharedText) {held rest : List Text}
    {segments : List Segment} (h : Tiles (splitAfter previous.text) held rest segments) :
    (¬ ∃ s ∈ segments, s.isBlank) → ∀ output,
      applyLoop previous.client.units (boundaries previous.client.units)
          (segments.map encodeSegment) output
        = .ok (some (output ++ utf16 (held ++ rest).flatten)) := by
  induction h with
  | @done held rest hlen =>
    intro hblank output
    have hlit := applyLoop_literal previous.client.units (boundaries previous.client.units)
      (held ++ rest) [] output hblank
    rw [List.append_nil] at hlit
    rw [hlit, PaneDelta.applyLoop]
  | skip _ _ _ ih =>
    intro hblank output
    rw [ih hblank output]
    simp
  | @copy held rest segments hlen hbest tail ih =>
    intro hblank output
    have hpos := bestMatch_pos hbest
    obtain ⟨hin, -, hmatch⟩ := bestMatch_spec (splitAfter previous.text) rest hpos
    have hheld : ¬ ∃ s ∈ literal held, s.isBlank := by
      rintro ⟨s, hs, hb⟩
      exact hblank ⟨s, List.mem_append_left _ hs, hb⟩
    have htail : ¬ ∃ s ∈ segments, s.isBlank := by
      rintro ⟨s, hs, hb⟩
      exact hblank ⟨s, List.mem_append_right _ (List.mem_cons_of_mem _ hs), hb⟩
    rw [List.map_append, List.map_cons, applyLoop_literal _ _ _ _ _ hheld, PaneDelta.applyLoop,
      copyBest, applySegment_copy previous hpos hin]
    simp only
    rw [ih htail, hmatch]
    have hsplit := Pieces.flatten_take_append_drop rest
      (bestMatch (splitAfter previous.text) rest 0).2
    simp only [List.flatten_append, List.nil_append, List.append_assoc, utf16_append, ← hsplit]

/-- A `null` segment behind segments that do not throw ends the loop with `null`. -/
theorem applyLoop_null (previous : Units) (table : List Nat) (items : List JsonElement) :
    (∀ item ∈ items, ∃ r, applySegment previous table item = .ok r) →
    (∃ item ∈ items, applySegment previous table item = .ok none) →
    ∀ output, applyLoop previous table items output = .ok none := by
  induction items with
  | nil => rintro - ⟨item, hmem, -⟩; cases hmem
  | cons item items ih =>
    rintro hok ⟨bad, hbad, hnull⟩ output
    obtain ⟨r, hr⟩ := hok item List.mem_cons_self
    cases r with
    | none => simp only [PaneDelta.applyLoop, hr]
    | some text =>
      simp only [PaneDelta.applyLoop, hr]
      refine ih (fun i hi => hok i (List.mem_cons_of_mem _ hi)) ⟨bad, ?_, hnull⟩ _
      rcases List.mem_cons.mp hbad with rfl | hbad
      · rw [hr] at hnull
        cases hnull
      · exact hbad

/-- No segment of a tiling throws, and a blank one is `null`. -/
theorem applySegment_of_tiles (previous : SharedText) {held rest : List Text}
    {segments : List Segment} (h : Tiles (splitAfter previous.text) held rest segments) :
    ∀ s ∈ segments,
      (∃ r, applySegment previous.client.units (boundaries previous.client.units)
        (encodeSegment s) = .ok r) ∧
      (s.isBlank → applySegment previous.client.units (boundaries previous.client.units)
        (encodeSegment s) = .ok none) := by
  have hlit : ∀ lines, ∀ s ∈ literal lines,
      (∃ r, applySegment previous.client.units (boundaries previous.client.units)
        (encodeSegment s) = .ok r) ∧
      (s.isBlank → applySegment previous.client.units (boundaries previous.client.units)
        (encodeSegment s) = .ok none) := by
    intro lines s hs
    obtain rfl : s = { text := lines.flatten } := by
      by_cases hl : lines = []
      · simp [literal, hl] at hs
      · simpa [literal, hl] using hs
    by_cases hflat : lines.flatten = []
    · rw [hflat]
      exact ⟨⟨_, applySegment_blank _ _⟩, fun _ => applySegment_blank _ _⟩
    · exact ⟨⟨_, applySegment_text _ _ hflat⟩, fun hb => absurd hb.2 hflat⟩
  induction h with
  | done hlen => exact hlit _
  | skip _ _ _ ih => exact ih
  | @copy held rest segments hlen hbest tail ih =>
    intro s hs
    have hpos := bestMatch_pos hbest
    rcases List.mem_append.mp hs with hs | hs
    · exact hlit held s hs
    rcases List.mem_cons.mp hs with rfl | hs
    · obtain ⟨hin, -, -⟩ := bestMatch_spec (splitAfter previous.text) rest hpos
      refine ⟨⟨_, applySegment_copy previous hpos hin⟩, fun hb => ?_⟩
      have := hb.1
      simp only [copyBest] at this
      omega
    · exact ih s hs

/-- A delta worth sending is of a text that is not empty. -/
theorem ne_nil_of_efficient {segments : List Segment} {current : Text}
    (h : efficient segments current = true) : current ≠ [] := by
  rintro rfl
  simp [efficient, byteLen] at h

/-- **Relay and client agree on every delta the relay ships, except behind the phantom line.** For
an efficient delta the client's apply returns exactly the current text if and only if the scan does
not leave the phantom line alone behind a copy; where it does, the apply is `null`. -/
theorem applyStrict_build_iff (previous : SharedText) (current : Text)
    (hefficient : efficient (build previous.text current) current = true) :
    applyStrict previous.client.units (some (encodeSegments (build previous.text current)))
        = .ok (some (utf16 current))
      ↔ ¬ EndsAtPhantom (splitAfter previous.text) (splitAfter current) := by
  have htiles := build_tiles previous.text current
  rw [← exists_blank_build_iff previous.text (ne_nil_of_efficient hefficient)]
  constructor
  · -- a blank segment is `null`, and nothing in front of it throws
    rintro h ⟨s, hs, hb⟩
    have hseg := applySegment_of_tiles previous htiles
    have hnull := applyLoop_null previous.client.units (boundaries previous.client.units)
      ((build previous.text current).map encodeSegment)
      (by
        intro item hitem
        obtain ⟨t, ht, rfl⟩ := List.mem_map.mp hitem
        exact (hseg t ht).1)
      ⟨encodeSegment s, List.mem_map_of_mem hs, (hseg s hs).2 hb⟩ []
    rw [encodeSegments, applyStrict, hnull] at h
    simp at h
  · intro hblank
    rw [encodeSegments, applyStrict, applyLoop_of_tiles previous htiles hblank]
    simp

/-- Three lines of thirty letters, and the phantom line. -/
def screen : Text :=
  List.replicate 30 'a' ++ '\n' :: List.replicate 30 'b' ++ '\n' :: List.replicate 30 'c' ++ ['\n']

theorem applyStrict_build_unchanged_screen :
    efficient (build screen screen) screen = true ∧
    applyStrict (utf16 screen) (some (encodeSegments (build screen screen)))
      = .ok (some (utf16 screen)) := by
  have hefficient : efficient (build screen screen) screen = true := by decide +kernel
  refine ⟨hefficient, (applyStrict_build_iff ⟨screen, by decide +kernel⟩ screen hefficient).mpr ?_⟩
  exact not_endsAtPhantom_of_longestCopy (by decide +kernel) (by decide +kernel)

/-- Six lines and a seventh without newline; then the seventh goes. The scan copies the six lines
and is left with the phantom line, and the client answers `null`. -/
theorem applyStrict_build_shrunk_screen_null :
    efficient (build (screen ++ screen ++ ['d']) (screen ++ screen)) (screen ++ screen) = true ∧
    applyStrict (utf16 (screen ++ screen ++ ['d']))
        (some (encodeSegments (build (screen ++ screen ++ ['d']) (screen ++ screen))))
      = .ok none := by
  constructor
  · decide +kernel
  · decide +kernel

end Lerdr.Terminal.DeltaAgreement
