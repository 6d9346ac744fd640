/-
# Lerdr.Conversation.Ranges — the byte ranges of JSONL records
(`lerdr-coord/src/conversation/records.rs`).

`collect_jsonl_records_bytes` scans a window of a file for lines and gives each record the range of
its line, in offsets of the file (`collectJsonlRecordsBytes_eq`). The end of the window is a sum of
`i64`; where that wraps, the scan does not start (`wrapped_window_unread`).
-/
import Lerdr.Conversation.Records

namespace Lerdr.Conversation

open Lerdr.Rust

/-! ## §1 — the scan -/

/-- `JsonlRecord`; its `oversized` is never set. -/
structure JsonlRecord where
  raw : Bytes
  complete : Bool
  trailing : Bool
  start : Int
  stop : Int
  startsInside : Bool
  deriving DecidableEq, Repr

/-- The fragment that `memchr` finds. -/
def readSlice (rest : Bytes) : Bytes :=
  match rest.findIdx? (· = newline) with
  | some i => rest.take (i + 1)
  | none => rest

theorem readSlice_length_pos {rest : Bytes} (h : rest ≠ []) : 0 < (readSlice rest).length := by
  have := List.length_pos_iff.mpr h
  unfold readSlice
  split
  · rw [List.length_take]
    omega
  · exact this

/-- `content` of a fragment. -/
def fragmentContent (fragment : Bytes) : Bytes :=
  if fragment.getLast? = some newline then
    if fragment.dropLast.getLast? = some 0x0d then fragment.dropLast.dropLast else fragment.dropLast
  else fragment

section Scan

variable (host : Host) (start : Int) (startsInside : Bool) (maxBytes : Int)

def fragmentRecord (position : Int) (fragment : Bytes) : JsonlRecord :=
  let raw := fragmentContent fragment
  let hadNewline : Bool := fragment.getLast? = some newline
  let complete := hadNewline || (host.fromSlice raw).isSome
  { raw, complete, trailing := !hadNewline || !complete, start := position
    stop := position + fragment.length, startsInside := startsInside && position = start }

/-- The outer loop; before the end of the window there is something left. Its inner loop takes one
fragment: that ends with a line feed, or the window does. -/
def collectFrom (stop position : Int) (first : Bool) (rest : Bytes) : List JsonlRecord × Nat :=
  if h : position < stop ∧ rest ≠ [] then
    let fragment := readSlice rest
    let found := collectFrom stop (position + fragment.length) false (rest.drop fragment.length)
    if startsInside && first then found
    else if maxBytes < (fragmentContent fragment).length then (found.1, found.2 + 1)
    else if (fragmentContent fragment).all isAsciiWhitespace then found
    else (fragmentRecord host start startsInside position fragment :: found.1, found.2)
  else ([], 0)
termination_by rest.length
decreasing_by
  have := readSlice_length_pos h.2
  have := List.length_pos_iff.mpr h.2
  rw [List.length_drop]
  omega

def collectJsonlRecordsBytes (data : Bytes) : List JsonlRecord × Nat :=
  collectFrom host start startsInside maxBytes ((start + data.length).bmod (2 ^ 64)) start true data

end Scan

/-! ## §2 — lines with their places -/

/-- The lines of a window, each with whether a line feed ends it. -/
def windowLines (data : Bytes) : List (Bytes × Bool) :=
  let pieces := data.splitOn newline
  pieces.dropLast.map (fun piece => (piece, true)) ++
    (pieces.getLast?.toList.filter (!·.isEmpty)).map fun piece => (piece, false)

/-- The content of a line: a carriage return before the line feed goes with it. -/
def lineContent (line : Bytes × Bool) : Bytes :=
  if line.2 ∧ line.1.getLast? = some 0x0d then line.1.dropLast else line.1

def lineBytes (line : Bytes × Bool) : Bytes := line.1 ++ if line.2 then [newline] else []

def located : Int → List (Bytes × Bool) → List (Int × Bytes × Bool)
  | _, [] => []
  | place, line :: lines => (place, line) :: located (place + (lineBytes line).length) lines

/-- **Where the lines are**: one behind the other, each in its own bytes. -/
theorem located_spec (position : Int) (lines : List (Bytes × Bool)) :
    (located position lines).Pairwise (fun x y => x.1 + ((lineBytes x.2).length : Int) ≤ y.1) ∧
      ∀ x ∈ located position lines, ∃ before after, lines = before ++ x.2 :: after ∧
        x.1 = position + (before.flatMap lineBytes).length := by
  induction lines generalizing position with
  | nil => exact ⟨List.Pairwise.nil, fun x hx => absurd hx List.not_mem_nil⟩
  | cons line lines ih =>
    obtain ⟨hsorted, hplace⟩ := ih (position + (lineBytes line).length)
    refine ⟨List.pairwise_cons.mpr ⟨fun x hx => ?_, hsorted⟩, fun x hx => ?_⟩
    · obtain ⟨before, -, -, hx⟩ := hplace x hx
      show position + (lineBytes line).length ≤ x.1
      omega
    · rcases List.mem_cons.mp hx with rfl | hx
      · exact ⟨[], lines, rfl, by simp⟩
      · obtain ⟨before, after, rfl, hstart⟩ := hplace x hx
        refine ⟨line :: before, after, rfl, ?_⟩
        rw [hstart, List.flatMap_cons, List.length_append]
        omega

variable {a b : Bytes}

theorem windowLines_append (h : newline ∉ a) :
    windowLines (a ++ newline :: b) = (a, true) :: windowLines b := by
  obtain ⟨piece, pieces, hpieces⟩ := List.exists_cons_of_ne_nil (List.splitOn_ne_nil newline b)
  simp [windowLines, List.splitOn_append_cons_self_of_not_mem h, hpieces]

theorem windowLines_last (h : newline ∉ a) (hne : a ≠ []) : windowLines a = [(a, false)] := by
  simp [windowLines, List.splitOn_eq_singleton h, hne]

theorem findIdx?_newline (h : newline ∉ a) : a.findIdx? (· = newline) = none := by
  rw [List.findIdx?_eq_none_iff]
  intro byte hbyte
  exact decide_eq_false fun heq => h (heq ▸ hbyte)

/-- **Bytes are read line by line**: the next fragment is the next line. -/
theorem lines_induction {P : Bytes → Prop} (nil : P [])
    (cons : ∀ line after, newline ∉ line.1 → lineBytes line ≠ [] →
      readSlice (lineBytes line ++ after) = lineBytes line →
      windowLines (lineBytes line ++ after) = line :: windowLines after → P after →
      P (lineBytes line ++ after)) (data : Bytes) : P data := by
  induction hn : data.length using Nat.strongRecOn generalizing data with
  | _ n ih =>
    by_cases hmem : newline ∈ data
    · obtain ⟨before, after, rfl, hbefore⟩ := List.eq_append_cons_of_mem hmem
      rw [List.length_append, List.length_cons] at hn
      have hbytes : lineBytes (before, true) ++ after = before ++ newline :: after := by
        simp [lineBytes]
      rw [← hbytes]
      refine cons _ after hbefore (by simp [lineBytes]) ?_ ?_ (ih _ (by omega) after rfl)
      · simp [readSlice, List.findIdx?_append, findIdx?_newline hbefore,
          List.findIdx?_cons, lineBytes, List.take_append]
      · rw [hbytes, windowLines_append hbefore]
    · by_cases hnil : data = []
      · exact hnil ▸ nil
      · have hbytes : lineBytes (data, false) ++ [] = data := by simp [lineBytes]
        rw [← hbytes]
        refine cons _ [] hmem (by simpa [lineBytes] using hnil) ?_ ?_ nil
        · simp [lineBytes, readSlice, findIdx?_newline hmem]
        · rw [hbytes, windowLines_last hmem hnil]
          rfl

theorem windowLines_spec (data : Bytes) : (windowLines data).flatMap lineBytes = data ∧
    ∀ line ∈ windowLines data, newline ∉ line.1 ∧ lineBytes line ≠ [] := by
  induction data using lines_induction with
  | nil => simp [windowLines]
  | cons line after hline hne _ hlines ih =>
    rw [hlines, List.flatMap_cons, ih.1, List.forall_mem_cons]
    exact ⟨rfl, ⟨hline, hne⟩, ih.2⟩

theorem fragmentContent_lineBytes {line : Bytes × Bool} (h : newline ∉ line.1) :
    fragmentContent (lineBytes line) = lineContent line ∧
      decide ((lineBytes line).getLast? = some newline) = line.2 := by
  obtain ⟨bytes, ended⟩ := line
  cases ended with
  | true => simp [fragmentContent, lineBytes, lineContent]
  | false =>
    have hlast : bytes.getLast? ≠ some newline := fun heq => h (List.mem_of_getLast? heq)
    simp [fragmentContent, lineBytes, lineContent, hlast]

/-! ## §3 — records and ranges -/

section Records

variable (host : Host) (start : Int) (startsInside : Bool) (maxBytes : Int)

def lineRecord (line : Int × Bytes × Bool) : JsonlRecord :=
  let raw := lineContent line.2
  let complete := line.2.2 || (host.fromSlice raw).isSome
  { raw, complete, trailing := !line.2.2 || !complete, start := line.1
    stop := line.1 + (lineBytes line.2).length, startsInside := startsInside && line.1 = start }

/-- The line is longer than a record may be. -/
def tooLong (line : Int × Bytes × Bool) : Bool := maxBytes < (lineContent line.2).length

/-- The line is neither too long nor blank. -/
def recorded (line : Int × Bytes × Bool) : Bool :=
  !tooLong maxBytes line && !(lineContent line.2).all isAsciiWhitespace

/-- The lines of a window, without the first if that began before it. -/
def wholeLines (data : Bytes) : List (Int × Bytes × Bool) :=
  (located start (windowLines data)).drop (if startsInside then 1 else 0)

/-- **The scan, line by line.** -/
theorem collectFrom_eq (first : Bool) (rest : Bytes) (position : Int) :
    collectFrom host start startsInside maxBytes (position + rest.length) position first rest =
      let lines := wholeLines position (startsInside && first) rest
      ((lines.filter (recorded maxBytes)).map (lineRecord host start startsInside),
        lines.countP (tooLong maxBytes)) := by
  induction rest using lines_induction generalizing first position with
  | nil => simp [collectFrom, wholeLines, windowLines, located]
  | cons line after hline hne hslice hlines ih =>
    obtain ⟨hcontent, hended⟩ := fragmentContent_lineBytes hline
    have hpos := List.length_pos_iff.mpr hne
    have hrecord : fragmentRecord host start startsInside position (lineBytes line) =
        lineRecord host start startsInside (position, line) := by
      simp only [fragmentRecord, lineRecord, hcontent, hended]
    have hrest := ih false (position + (lineBytes line).length)
    have hwhole : wholeLines (position + (lineBytes line).length) (startsInside && false) after =
        located (position + (lineBytes line).length) (windowLines after) := by
      simp [wholeLines]
    rw [hwhole, Int.add_assoc, ← Int.natCast_add, ← List.length_append] at hrest
    rw [collectFrom, dif_pos ⟨by rw [List.length_append]; omega, by simp [hne]⟩, hslice]
    dsimp only
    rw [List.drop_left, hrest, hcontent, hrecord, wholeLines, hlines, located]
    cases hskip : startsInside && first with
    | true => rfl
    | false =>
      simp only [if_neg Bool.false_ne_true, List.drop_zero, List.filter_cons, List.countP_cons,
        recorded]
      by_cases hlong : maxBytes < (lineContent line).length
      · simp [tooLong, hlong]
      · by_cases hblank : (lineContent line).all isAsciiWhitespace = true
        · simp [tooLong, hlong, hblank]
        · simp [tooLong, hlong, hblank]

theorem collectJsonlRecordsBytes_eq {data : Bytes} (hlo : -2 ^ 63 ≤ start)
    (hhi : start + data.length < 2 ^ 63) :
    collectJsonlRecordsBytes host start startsInside maxBytes data =
      let lines := wholeLines start startsInside data
      ((lines.filter (recorded maxBytes)).map (lineRecord host start startsInside),
        lines.countP (tooLong maxBytes)) := by
  have hstop : (start + data.length).bmod (2 ^ 64) = start + data.length := by
    rw [Int.bmod_eq_of_le] <;> omega
  rw [collectJsonlRecordsBytes, hstop, collectFrom_eq, Bool.and_true]

/-- **The ranges of the records.** Where the end of the window fits an `i64`: there is one record
for each line that is neither too long nor blank, in order, its range the line's and its content the
line's; the ranges follow each other inside the window; and the lines too long are counted. -/
theorem records_partition (data : Bytes) (hlo : -2 ^ 63 ≤ start)
    (hhi : start + data.length < 2 ^ 63) :
    let found := collectJsonlRecordsBytes host start startsInside maxBytes data
    let lines := wholeLines start startsInside data
    (windowLines data).flatMap lineBytes = data ∧ (∀ line ∈ windowLines data, newline ∉ line.1) ∧
    found.1 = (lines.filter (recorded maxBytes)).map (lineRecord host start startsInside) ∧
    found.2 = lines.countP (tooLong maxBytes) ∧
    found.1.Pairwise (fun r s => r.stop ≤ s.start) ∧
    ∀ r ∈ found.1, ∃ before line after, data = before ++ lineBytes line ++ after ∧
      line ∈ windowLines data ∧ lineBytes line ≠ [] ∧ r.raw = lineContent line ∧
      r.start = start + before.length ∧ r.stop = r.start + (lineBytes line).length := by
  obtain ⟨hsorted, hplace⟩ := located_spec start (windowLines data)
  obtain ⟨hflat, hbytes⟩ := windowLines_spec data
  rw [collectJsonlRecordsBytes_eq host start startsInside maxBytes hlo hhi]
  refine ⟨hflat, fun line hline => (hbytes line hline).1, rfl, rfl, ?_, ?_⟩
  · refine List.Pairwise.map _ (fun x y hxy => hxy) (List.Pairwise.filter _ ?_)
    exact hsorted.sublist (List.drop_sublist _ _)
  · intro r hr
    obtain ⟨x, hx, rfl⟩ := List.mem_map.mp hr
    have hmem := List.mem_of_mem_drop (List.mem_filter.mp hx).1
    obtain ⟨before, after, hlines, hstart⟩ := hplace x hmem
    have hin : x.2 ∈ windowLines data := hlines ▸ List.mem_append_right _ List.mem_cons_self
    refine ⟨before.flatMap lineBytes, x.2, after.flatMap lineBytes, ?_, hin, (hbytes _ hin).2, rfl,
      hstart, rfl⟩
    rw [hlines] at hflat
    rw [← hflat]
    simp

end Records

theorem records_partition_blank_line : (collectJsonlRecordsBytes sampleHost 7 false 9
    [0x61, 0x0d, 0x0a, 0x20, 0x0a, 0x62]).1.map (fun r => (r.start, r.stop, r.raw)) =
      [(7, 10, [0x61]), (12, 13, [0x62])] := by
  rw [(records_partition sampleHost 7 false 9 _ (by decide) (by decide)).2.2.1]
  rfl

/-- Where the end of the window wraps, nothing is read. -/
theorem wrapped_window_unread :
    collectJsonlRecordsBytes sampleHost (2 ^ 63 - 1) false 9 [0x61] = ([], 0) ∧
      wholeLines (2 ^ 63 - 1) false [0x61] = [(2 ^ 63 - 1, [0x61], false)] := by
  refine ⟨?_, rfl⟩
  rw [collectJsonlRecordsBytes, collectFrom, dif_neg (by decide)]

end Lerdr.Conversation
