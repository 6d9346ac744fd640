/-
# Lerdr.Conversation.Tail — the end of a transcript, and the ids of its entries
(`lerdr-coord/src/conversation/reader.rs`).

A transcript is read from its end: at most `limit` bytes, and of those what follows the first line
feed. So a read sees the lines from some line on (`loadTail_terminate`), and the id of a line is its
digest with the number of entries of that digest *in the window* (`ids_loadTail`). Two reads agree
on a line exactly if no entry with the same digest has left the window in between
(`tailId_append_iff`, `duplicate_renumbered`).
-/
import Lerdr.Conversation.Records

namespace Lerdr.Conversation

open Lib Lib.Lines Lerdr.Rust

/-! ## §1 — the window -/

/-- `load_tail_file`, of a regular file: what is read, and whether anything was left out. -/
def loadTail (limit : Nat) (data : Bytes) : Bytes × Bool :=
  if limit < data.length then (afterFirst newline (data.drop (data.length - limit)), true)
  else (data, false)

/-- How many lines of a transcript a read leaves out. -/
def dropped (limit : Nat) (lines : List Bytes) : Nat :=
  if limit < (terminate newline lines).length then
    cutAt ((terminate newline lines).length - limit) lines
  else 0

/-- **The id a read gives to line `j` of a transcript.** -/
def tailId (host : Host) (agent : Text) (limit : Nat) (lines : List Bytes) (j : Nat) :
    Option Text :=
  if j < dropped limit lines then none
  else
    lineId host (normalizedAgent host agent) (lines.drop (dropped limit lines))
      (j - dropped limit lines)

section Window

variable {limit : Nat} {lines more : List Bytes}

theorem dropped_le_length (limit : Nat) (lines : List Bytes) :
    dropped limit lines ≤ lines.length := by
  rw [dropped]
  split
  · exact cutAt_le_length _ _
  · exact Nat.zero_le _

/-- **A window is the lines from some line on.** -/
theorem loadTail_terminate (h : ∀ line ∈ lines, newline ∉ line) :
    (loadTail limit (terminate newline lines)).1 =
      terminate newline (lines.drop (dropped limit lines)) := by
  rw [loadTail, dropped]
  split
  · exact afterFirst_drop_terminate h _
  · rfl

/-- The window moves only forward, when lines are added behind or less of the end is read. -/
theorem dropped_mono {limit limit' : Nat} (h : limit' ≤ limit) (lines more : List Bytes) :
    dropped limit lines ≤ dropped limit' (lines ++ more) := by
  rw [dropped]
  split
  · next hclipped =>
    have hlen := congrArg List.length (terminate_append newline lines more)
    rw [List.length_append] at hlen
    rw [dropped, if_pos (by omega)]
    calc cutAt ((terminate newline lines).length - limit) lines
        ≤ cutAt ((terminate newline lines).length - limit) (lines ++ more) :=
          cutAt_append_le _ _ _
      _ ≤ cutAt ((terminate newline (lines ++ more)).length - limit') (lines ++ more) :=
          cutAt_mono (by omega) _
  · exact Nat.zero_le _

/-- The empty text behind the last line feed is no entry. -/
theorem lineId_blank (host : Host) (agent : Text) (lines : List Bytes) :
    lineId host agent (lines ++ [[]]) lines.length = none := by
  have hyields : yields host agent [] = false := rfl
  rw [lineId, List.getElem?_append_right (Nat.le_refl _), Nat.sub_self]
  simp [hyields]

theorem ids_terminate (host : Host) (agent : Text) (h : ∀ line ∈ lines, newline ∉ line) :
    (parseTranscript host agent (terminate newline lines)).map Entry.id =
      (List.range lines.length).filterMap (lineId host (normalizedAgent host agent) lines) := by
  rw [ids_parseTranscript, splitOn_terminate h, List.length_append, List.length_singleton,
    List.range_succ, List.filterMap_append, List.filterMap_cons, lineId_blank, List.filterMap_nil,
    List.append_nil]
  apply List.filterMap_congr
  intro i hi
  exact lineId_append (List.mem_range.mp hi)

/-- **The ids of a read are those of its lines**, in the transcript's order. -/
theorem ids_loadTail (host : Host) (agent : Text) (h : ∀ line ∈ lines, newline ∉ line) :
    (parseTranscript host agent (loadTail limit (terminate newline lines)).1).map Entry.id =
      (List.range lines.length).filterMap (tailId host agent limit lines) := by
  have hle := dropped_le_length limit lines
  have hrange : List.range lines.length =
      List.range (dropped limit lines) ++
        (List.range (lines.length - dropped limit lines)).map (dropped limit lines + ·) := by
    rw [← List.range_add, Nat.add_sub_cancel' hle]
  rw [loadTail_terminate h,
    ids_terminate host agent (fun line hline => h line (List.mem_of_mem_drop hline)), hrange,
    List.filterMap_append, List.filterMap_map, List.length_drop]
  -- lines before the window have no id
  have hbefore : (List.range (dropped limit lines)).filterMap (tailId host agent limit lines) =
      [] := by
    apply List.filterMap_eq_nil_iff.mpr
    intro j hj
    rw [tailId, if_pos (List.mem_range.mp hj)]
  rw [hbefore, List.nil_append]
  apply List.filterMap_congr
  intro j _
  rw [Function.comp_apply, tailId, if_neg (by omega), Nat.add_sub_cancel_left]

end Window

/-! ## §2 — two reads of one transcript -/

section TwoReads

variable {host : Host} {agent : Text} {limit : Nat} {lines more : List Bytes} {j : Nat}

/-- Nothing that becomes an entry and is left out by the second window, but not by the first, has
the digest of line `j`. -/
def DigestKept (host : Host) (agent : Text) (limit limit' : Nat) (lines more : List Bytes)
    (j : Nat) : Prop :=
  ∀ i line line', dropped limit lines ≤ i → i < dropped limit' (lines ++ more) →
    lines[i]? = some line → lines[j]? = some line' →
    yields host (normalizedAgent host agent) line = true → rowBase host line ≠ rowBase host line'

/-- What a line inside the window is called. -/
theorem tailId_eq_some {id : Text} (h : tailId host agent limit lines j = some id) :
    dropped limit lines ≤ j ∧ ∃ line, lines[j]? = some line ∧
      yields host (normalizedAgent host agent) line = true ∧
      id = rowId (rowBase host line) (occurrences host (normalizedAgent host agent)
        (rowBase host line) ((lines.take j).drop (dropped limit lines))) := by
  rw [tailId] at h
  split at h
  · cases h
  · next hj =>
    obtain ⟨line, hline, hid⟩ := Option.bind_eq_some_iff.mp h
    rw [List.getElem?_drop, Nat.add_sub_cancel' (by omega)] at hline
    split at hid
    · next hyields =>
      refine ⟨by omega, line, hline, hyields, ?_⟩
      rw [List.drop_take]
      exact (Option.some.inj hid).symm
    · cases hid

/-- What a line inside the window is called, once it is known to be an entry's. -/
theorem tailId_of_yields {line : Bytes} (hj : dropped limit lines ≤ j)
    (hline : lines[j]? = some line)
    (hyields : yields host (normalizedAgent host agent) line = true) :
    tailId host agent limit lines j =
      some (rowId (rowBase host line) (occurrences host (normalizedAgent host agent)
        (rowBase host line) ((lines.take j).drop (dropped limit lines)))) := by
  rw [tailId, if_neg (by omega), lineId, List.getElem?_drop, Nat.add_sub_cancel' hj, hline,
    Option.bind_some, if_pos hyields, List.drop_take]

/-- The digest is kept when the lines between the two windows hold no entry of it. -/
theorem digestKept_iff {limit' : Nat} {line : Bytes} (hline : lines[j]? = some line) :
    DigestKept host agent limit limit' lines more j ↔
      occurrences host (normalizedAgent host agent) (rowBase host line)
        ((lines.take (dropped limit' (lines ++ more))).drop (dropped limit lines)) = 0 := by
  rw [occurrences, List.countP_eq_zero]
  constructor
  · intro hkept other hother
    obtain ⟨k, hk⟩ := List.mem_iff_getElem?.mp hother
    rw [List.getElem?_drop, List.getElem?_take] at hk
    split at hk
    · next hbound =>
      by_cases hyields : yields host (normalizedAgent host agent) other = true
      · have hne := hkept _ other line (Nat.le_add_right _ k) hbound hk hline hyields
        simp [hne]
      · simp [hyields]
    · cases hk
  · intro hnone i other line' hlo hhi hother hline' hyields heq
    obtain rfl := Option.some.inj (hline.symm.trans hline')
    refine hnone other (List.mem_iff_getElem?.mpr ⟨i - dropped limit lines, ?_⟩) (by simp [*])
    rw [List.getElem?_drop, Nat.add_sub_cancel' hlo, List.getElem?_take, if_pos hhi, hother]

/-- **What two windows call a line that is inside both**: the first has counted what the second
left out. -/
theorem tailId_two {limit' : Nat} {line : Bytes}
    (hmove : dropped limit lines ≤ dropped limit' (lines ++ more))
    (hj : dropped limit' (lines ++ more) ≤ j) (hline : lines[j]? = some line)
    (hyields : yields host (normalizedAgent host agent) line = true) :
    ∃ n, tailId host agent limit' (lines ++ more) j = some (rowId (rowBase host line) n) ∧
      tailId host agent limit lines j = some (rowId (rowBase host line)
        (occurrences host (normalizedAgent host agent) (rowBase host line)
          ((lines.take (dropped limit' (lines ++ more))).drop (dropped limit lines)) + n)) := by
  have hlt : j < lines.length := (List.getElem?_eq_some_iff.mp hline).1
  refine ⟨_, tailId_of_yields hj (by rw [List.getElem?_append_left hlt, hline]) hyields, ?_⟩
  rw [tailId_of_yields (hmove.trans hj) hline hyields, List.take_append_of_le_length (by omega),
    drop_take_eq_append hmove hj (by omega), occurrences, List.countP_append]
  rfl

/-- **A line keeps its id** as long as no entry with its digest is left out by the one window and
not by the other. -/
theorem tailId_moved {limit' : Nat} (hmove : dropped limit lines ≤ dropped limit' (lines ++ more))
    (hkept : DigestKept host agent limit limit' lines more j)
    {id : Text} (h : tailId host agent limit lines j = some id) :
    tailId host agent limit' (lines ++ more) j = some id := by
  obtain ⟨hj, line, hline, hyields, -⟩ := tailId_eq_some h
  have hj' : dropped limit' (lines ++ more) ≤ j := by
    by_contra hgone
    exact hkept j line line hj (by omega) hline hline hyields rfl
  obtain ⟨n, hlater, hfirst⟩ := tailId_two hmove hj' hline hyields
  rw [(digestKept_iff hline).mp hkept, Nat.zero_add] at hfirst
  rw [hlater, ← hfirst, h]

/-- **When two reads agree on a line**: it is not an entry inside both windows, or its digest is
kept. -/
theorem tailId_append_iff :
    (∀ first later, tailId host agent limit lines j = some first →
      tailId host agent limit (lines ++ more) j = some later → first = later) ↔
    (dropped limit (lines ++ more) ≤ j →
      ∀ line, lines[j]? = some line → yields host (normalizedAgent host agent) line = true →
        DigestKept host agent limit limit lines more j) := by
  have hmove := dropped_mono (Nat.le_refl limit) lines more
  constructor
  · intro hsame hj line hline hyields
    obtain ⟨n, hlater, hfirst⟩ := tailId_two hmove hj hline hyields
    have hcount := (rowId_inj (hex_no_dash _) (hex_no_dash _) (hsame _ _ hfirst hlater)).2
    exact (digestKept_iff hline).mpr (by omega)
  · intro hkept first later hfirst hlater
    obtain ⟨-, line, hline, hyields, -⟩ := tailId_eq_some hfirst
    have hmoved := tailId_moved hmove
      (hkept (tailId_eq_some hlater).1 line hline hyields) hfirst
    exact Option.some.inj (hmoved.symm.trans hlater)

/-- **Entry ids are stable and distinct.** The ids of a read are those `tailId` gives to the lines,
no two alike; and two reads give a line that is an entry inside both windows one id exactly if no
entry with its digest has left the window in between. -/
theorem entry_ids_stable (host : Host) (agent : Text) (limit : Nat) (lines more : List Bytes)
    (hlines : ∀ line ∈ lines ++ more, newline ∉ line) (j : Nat) :
    (∀ read : List Bytes, read = lines ∨ read = lines ++ more →
      (parseTranscript host agent (loadTail limit (terminate newline read)).1).map Entry.id =
          (List.range read.length).filterMap (tailId host agent limit read) ∧
        ((parseTranscript host agent (loadTail limit (terminate newline read)).1).map
          Entry.id).Nodup) ∧
      ((∀ first later, tailId host agent limit lines j = some first →
          tailId host agent limit (lines ++ more) j = some later → first = later) ↔
        (dropped limit (lines ++ more) ≤ j →
          ∀ line, lines[j]? = some line → yields host (normalizedAgent host agent) line = true →
            DigestKept host agent limit limit lines more j)) := by
  refine ⟨?_, tailId_append_iff⟩
  rintro read hread
  refine ⟨ids_loadTail host agent ?_, nodup_ids host agent _⟩
  intro line hline
  rcases hread with rfl | rfl
  · exact hlines line (List.mem_append_left _ hline)
  · exact hlines line hline

end TwoReads

/-! ## §3 — a repeated line -/

/-- A message as the codex agent writes it. -/
def sampleRecord (role : String) (text : Text) : Json :=
  .obj [("type".toList, .str "response_item".toList),
    ("payload".toList, .obj [("type".toList, .str "message".toList),
      ("role".toList, .str role.toList), ("content".toList, .str text)])]

def sampleLine (role : String) (text : Text) : Bytes :=
  Utf8.bytes (Json.print serdeEscape (sampleRecord role text))

def threeLines : List Bytes :=
  [sampleLine "user" ['a'], sampleLine "user" ['b'], sampleLine "user" ['c']]

/-- The id of a line in a codex transcript of which 180 bytes are read. -/
def codexId (lines : List Bytes) (j : Nat) : Option Text :=
  tailId sampleHost "codex".toList 180 lines j

/-- The third line keeps its id, though two lines have left the window. -/
theorem entry_ids_stable_sample :
    ∃ id, codexId threeLines 2 = some id ∧
      codexId (threeLines ++ [sampleLine "user" ['d']]) 2 = some id := by
  have hsame := (entry_ids_stable sampleHost "codex".toList 180 threeLines
    [sampleLine "user" ['d']] (by decide +kernel) 2).2.mpr (by
      intro _ _ _ _ i line line' hlo hhi hline hline' _
      have hone : dropped 180 threeLines = 1 := by decide +kernel
      have htwo : dropped 180 (threeLines ++ [sampleLine "user" ['d']]) = 2 := by decide +kernel
      obtain rfl : i = 1 := by omega
      rw [← Option.some.inj hline, ← Option.some.inj hline']
      decide +kernel)
  obtain ⟨first, hfirst⟩ : ∃ id, codexId threeLines 2 = some id :=
    Option.isSome_iff_exists.mp (by decide +kernel)
  obtain ⟨later, hlater⟩ : ∃ id, codexId (threeLines ++ [sampleLine "user" ['d']]) 2 = some id :=
    Option.isSome_iff_exists.mp (by decide +kernel)
  obtain rfl := hsame first later hfirst hlater
  exact ⟨first, hfirst, hlater⟩

/-- The id of a message's line, after so many others with its digest. -/
def sampleId (text : Text) (n : Nat) : Text := rowId (rowBase sampleHost (sampleLine "user" text)) n

/-- One message, twice. -/
def twoLines : List Bytes := [sampleLine "user" ['a'], sampleLine "user" ['a']]

/-- **A repeated line is renumbered.** Of two equal lines the second is called `…-1` as long as the
first is in the window, and by the bare digest once it is not. -/
theorem duplicate_renumbered :
    codexId twoLines 1 = some (sampleId ['a'] 1) ∧
      (parseTranscript sampleHost "codex".toList
          (loadTail 180 (terminate newline twoLines)).1).map Entry.id =
        [sampleId ['a'] 0, sampleId ['a'] 1] ∧
      codexId (twoLines ++ [sampleLine "user" ['b']]) 1 = some (sampleId ['a'] 0) ∧
      (parseTranscript sampleHost "codex".toList
          (loadTail 180 (terminate newline (twoLines ++ [sampleLine "user" ['b']]))).1).map
          Entry.id =
        [sampleId ['a'] 0, sampleId ['b'] 0] ∧
      sampleId ['a'] 1 ≠ sampleId ['a'] 0 := by
  decide +kernel

end Lerdr.Conversation
