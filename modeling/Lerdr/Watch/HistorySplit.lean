/-
# Lerdr.Watch.HistorySplit — the scrollback in front of a screen (`pane_stream.rs`).

A pane's history is what a `recent` read holds above the screen that a `visible` read showed. For an
application's transcript the seam is a run of three non-blank rows that both reads share and that
stands in `recent` once; for Herdr's scrollback it is looked for near the end of `recent`. Rows are
compared without escapes, carriage returns and trailing blanks.
-/
import Lerdr.Lib.Lines
import Lerdr.Rust.Text

namespace Lerdr.Watch

open Lib.Lines Rust

/-! ## §1 — rows -/

/-- Where `comparable_row` stands in its row. -/
inductive Escape
  | text
  | escape
  | csi
  | osc
  | st

/-- The loop of `comparable_row`: what is left of a row without its escapes and carriage returns. -/
def comparable : Escape → Text → Text
  | _, [] => []
  | .text, c :: row =>
    if c = '\x1b' then comparable .escape row
    else if c = '\r' then comparable .text row
    else c :: comparable .text row
  | .escape, c :: row =>
    if c = '[' then comparable .csi row
    else if c = ']' then comparable .osc row
    else comparable .text row
  | .csi, c :: row => if '@' ≤ c ∧ c ≤ '~' then comparable .text row else comparable .csi row
  | .osc, c :: row =>
    if c = '\x07' then comparable .text row
    -- the backslash is only looked at here: it is taken in the next state
    else if c = '\x1b' ∧ row.head? = some '\\' then comparable .st row
    else comparable .osc row
  | .st, _ :: row => comparable .text row

/-- `comparable_row`. -/
def comparableRow (row : Text) : Text := (comparable .text row).rdropWhile isWhitespace

/-- `application_row`: also without a scrollbar at the right edge. -/
def applicationRow (row : Text) : Text :=
  let row := comparableRow row
  match row.getLast? with
  | none => row
  | some bar =>
    if (bar = '│' ∨ bar = '┃') ∧ "  ".toList.isSuffixOf row.dropLast then
      row.dropLast.rdropWhile isWhitespace
    else row

/-- `text_rows`: a newline at the end of the text ends its last row and begins none. -/
def textRows (text : Text) : List Text :=
  let rows := text.splitOn '\n'
  if rows.getLast? = some [] then rows.dropLast else rows

/-- `HostHistory`: the rows above a screen, as text, and whether the read they are of was cut. -/
structure HostHistory where
  text : Text
  truncated : Bool
  deriving DecidableEq

/-- `SCREEN_MATCH_ROWS`. -/
def screenMatchRows : Nat := 3

/-! ## §2 — an application's transcript -/

/-- How many rows it takes to see `n + 1` non-blank ones. -/
def spanOf : Nat → List Text → Option Nat
  | _, [] => none
  | n, row :: rows =>
    if row.isEmpty then (spanOf n rows).map (· + 1)
    else match n with
      | 0 => some 1
      | n + 1 => (spanOf n rows).map (· + 1)

/-- The rows that the search takes for the seam at `start`. -/
def anchorAt (screen : List Text) (start : Nat) : Option (List Text) :=
  (spanOf (screenMatchRows - 1) (screen.drop start)).map fun span => (screen.drop start).take span

/-- The indices of the `windows` of `rows` that equal `block`. -/
def occurrences (rows block : List Text) : List Nat :=
  (List.range (rows.length + 1 - block.length)).filter fun index =>
    (rows.drop index).take block.length = block

/-- One turn of the loop of `split_application_history`. -/
def splitStep (rows screen : List Text) (best : Option (Nat × Nat)) (start : Nat) :
    Option (Nat × Nat) :=
  match (anchorAt screen start).map (occurrences rows) with
  | some [cut] => if best.all (·.1 < cut - start) then some (cut - start, cut) else best
  | _ => best

/-- `split_application_history`: the rows of `recent` in front of the seam that is found. -/
def splitApplicationHistory (recent : Text) (truncated : Bool) (visible : Text) :
    Option HostHistory :=
  let raw := textRows recent
  let rows := raw.map applicationRow
  let screen := (textRows visible).map applicationRow
  ((List.range screen.length).foldl (splitStep rows screen) none).map fun best =>
    ⟨terminate '\n' (raw.take best.2), truncated⟩

/-- The screen's rows from `start` to the third non-blank one stand in a read at one place. -/
def seamOnce (rows screen : List Text) (start : Nat) : Bool :=
  (anchorAt screen start).any fun block => (occurrences rows block).length = 1

/-- The screen's own rows are one place where a seam stands. -/
theorem mem_occurrences {screen block : List Text} {start : Nat}
    (h : anchorAt screen start = some block) (above : List Text) :
    above.length + start ∈ occurrences (above ++ screen) block := by
  obtain ⟨span, hspan, rfl⟩ := Option.map_eq_some_iff.mp h
  have hstart : start < screen.length := by
    by_contra hle
    rw [List.drop_eq_nil_of_le (Nat.le_of_not_lt hle)] at hspan
    cases hspan
  refine List.mem_filter.mpr ⟨List.mem_range.mpr ?_, ?_⟩
  · simp only [List.length_append, List.length_take, List.length_drop]
    omega
  · rw [List.drop_length_add_append]
    simp

/-- Every seam that the search accepts is as far from the top of its read as the screen is. -/
theorem splitStep_found (above screen : List Text) (cut start : Nat) :
    splitStep (above ++ screen) screen (some (above.length, cut)) start =
      some (above.length, cut) := by
  rw [splitStep]
  split
  · next found heq =>
    obtain ⟨block, hblock, hfound⟩ := Option.map_eq_some_iff.mp heq
    have hmem := mem_occurrences hblock above
    rw [hfound, List.mem_singleton] at hmem
    rw [if_neg]
    simp only [Option.all_some, decide_eq_true_eq]
    omega
  · rfl

/-- Before anything is found a turn takes a seam that stands once, and only such a one. -/
theorem splitStep_none (above screen : List Text) (start : Nat) :
    splitStep (above ++ screen) screen none start =
      if seamOnce (above ++ screen) screen start then some (above.length, above.length + start)
      else none := by
  rw [splitStep, seamOnce]
  cases hblock : anchorAt screen start with
  | none => rfl
  | some block =>
    have hmem := mem_occurrences hblock above
    rw [Option.map_some, Option.any_some]
    split
    · next cut hcut =>
      rw [Option.some.inj hcut] at hmem ⊢
      obtain rfl := List.mem_singleton.mp hmem
      simp
    · next hother =>
      rw [if_neg]
      intro hone
      obtain ⟨cut, hcut⟩ := List.length_eq_one_iff.mp (of_decide_eq_true hone)
      exact hother cut (by rw [hcut])

/-- **The search stops at the first seam that stands once.** -/
theorem foldl_splitStep (above screen : List Text) (starts : List Nat) :
    starts.foldl (splitStep (above ++ screen) screen) none =
      (starts.find? (seamOnce (above ++ screen) screen)).map fun start =>
        (above.length, above.length + start) := by
  induction starts with
  | nil => rfl
  | cons start starts ih =>
    rw [List.foldl_cons, splitStep_none, List.find?_cons]
    cases seamOnce (above ++ screen) screen start with
    | true => exact List.foldl_fixed' (splitStep_found above screen (above.length + start)) starts
    | false => exact ih

/-- More rows are more text. -/
theorem terminate_append_eq_self {rows more : List Text} :
    terminate '\n' (rows ++ more) = terminate '\n' rows ↔ more = [] := by
  cases more with
  | nil => simp
  | cons row more => simp [terminate_append, terminate_cons]

/-- **The history of an application is what stands above the first seam**: the rows `H` above the
screen, and the screen's rows above the first three non-blank ones that stand in the transcript
once. That is `H` alone exactly when the seam is at the screen's first row; without any such seam
there is no history. -/
theorem application_history_split (recent visible : Text) (truncated : Bool) (H V : List Text)
    (hrecent : textRows recent = H ++ V) (hvisible : textRows visible = V) :
    (splitApplicationHistory recent truncated visible = none ↔ ∀ start < V.length,
      ¬ seamOnce ((H ++ V).map applicationRow) (V.map applicationRow) start) ∧
    ∀ history, splitApplicationHistory recent truncated visible = some history →
      ∃ start < V.length, seamOnce ((H ++ V).map applicationRow) (V.map applicationRow) start ∧
        (∀ above < start,
          ¬ seamOnce ((H ++ V).map applicationRow) (V.map applicationRow) above) ∧
        history = ⟨terminate '\n' (H ++ V.take start), truncated⟩ ∧
        (history.text = terminate '\n' H ↔ start = 0) := by
  have hfold := foldl_splitStep (H.map applicationRow) (V.map applicationRow) (List.range V.length)
  simp only [splitApplicationHistory, hrecent, hvisible, List.map_append, List.length_map]
    at hfold ⊢
  rw [hfold, Option.map_map]
  constructor
  · simp
  · intro history h
    obtain ⟨start, hfind, rfl⟩ := Option.map_eq_some_iff.mp h
    obtain ⟨hseam, hmem, hfirst⟩ := List.find?_range_eq_some.mp hfind
    have hlt : start < V.length := List.mem_range.mp hmem
    have hcut : (H ++ V).take (H.length + start) = H ++ V.take start :=
      List.take_length_add_append _
    refine ⟨start, hlt, hseam, by simpa using hfirst, by simp [hcut], ?_⟩
    show terminate '\n' ((H ++ V).take (H.length + start)) = _ ↔ _
    rw [hcut, terminate_append_eq_self, List.take_eq_nil_iff]
    exact or_iff_left (List.ne_nil_of_length_pos (Nat.zero_lt_of_lt hlt))

theorem application_history_split_sample :
    ∃ start < 3, (⟨"x\n".toList, false⟩ : HostHistory) =
      ⟨terminate '\n' (["x".toList] ++ ["a".toList, "b".toList, "c".toList].take start),
        false⟩ := by
  obtain ⟨start, hlt, -, -, hhistory, -⟩ := (application_history_split "x\na\nb\nc\n".toList
    "a\nb\nc".toList false ["x".toList] ["a".toList, "b".toList, "c".toList] (by decide)
    (by decide)).2 ⟨"x\n".toList, false⟩ (by decide)
  exact ⟨start, hlt, hhistory⟩

/-- A transcript that repeats the screen's first rows right above it: the seam is found one row
further down, and the screen's first row is shown twice. -/
theorem application_history_repeats_row :
    textRows "a\nb\nc\na\nb\nc\nd\n".toList =
        textRows "a\nb\nc\n".toList ++ textRows "a\nb\nc\nd\n".toList ∧
      splitApplicationHistory "a\nb\nc\na\nb\nc\nd\n".toList false "a\nb\nc\nd\n".toList =
        some ⟨"a\nb\nc\na\n".toList, false⟩ := by
  decide

/-! ## §3 — Herdr's scrollback -/

/-- `matches_at`: no probed row differs, and at least one of them is there. -/
def matchesAt (rows : List Text) (probe : List (Text × Nat)) (start : Nat) : Bool :=
  probe.all (fun row => rows[start + row.2]?.all fun found => comparableRow found = row.1) &&
    probe.any fun row => start + row.2 < rows.length

/-- The `probe`: the screen's first rows that are not blank, with their places. -/
def probeOf (screen : List Text) : List (Text × Nat) :=
  (screen.zipIdx.filter (!·.1.isEmpty)).take screenMatchRows

/-- Where `split_host_history` cuts the rows of `recent`. -/
def hostCut (rows screen : List Text) : Option Nat :=
  if screen.isEmpty then some rows.length
  else if rows.length < screen.length then none
  else
    let expected := rows.length - screen.length
    (List.range (screen.length + 1)).findSome? fun distance =>
      ((if distance ≤ expected then [expected - distance] else []) ++
        [expected + distance]).find? (matchesAt rows (probeOf screen))

/-- The `screen` of `split_host_history`: a `visible` read without its last blank rows. -/
def hostScreen (visible : Text) : List Text :=
  ((textRows visible).map comparableRow).rdropWhile List.isEmpty

/-- `split_host_history`: the rows of `recent` in front of the screen. -/
def splitHostHistory (recent : Text) (truncated : Bool) (visible : Text) : Option HostHistory :=
  (hostCut (textRows recent) (hostScreen visible)).map fun cut =>
    ⟨terminate '\n' ((textRows recent).take cut), truncated⟩

theorem matchesAt_lt {rows : List Text} {probe : List (Text × Nat)} {start : Nat}
    (h : matchesAt rows probe start = true) : start < rows.length := by
  obtain ⟨row, -, hrow⟩ := List.any_eq_true.mp (Bool.and_eq_true_iff.mp h).2
  exact (Nat.le_add_right start row.2).trans_lt (of_decide_eq_true hrow)

theorem hostCut_le {rows screen : List Text} {cut : Nat} (h : hostCut rows screen = some cut) :
    cut ≤ rows.length := by
  rw [hostCut] at h
  split at h
  · exact (Option.some.inj h).ge
  split at h
  · cases h
  obtain ⟨distance, -, hfind⟩ := List.exists_of_findSome?_eq_some h
  exact (matchesAt_lt (List.find?_some hfind)).le

/-- A read that ends in the screen matches where the screen begins. -/
theorem matchesAt_screen (above : List Text) {shown : List Text}
    (h : ∃ row ∈ shown, comparableRow row ≠ []) :
    matchesAt (above ++ shown) (probeOf (shown.map comparableRow)) above.length = true := by
  have hprobe : ∀ row ∈ probeOf (shown.map comparableRow),
      ∃ found, shown[row.2]? = some found ∧ comparableRow found = row.1 := by
    intro row hrow
    have hmem := List.mem_zipIdx_iff_getElem?.mp (List.mem_filter.mp (List.mem_of_mem_take hrow)).1
    rw [List.getElem?_map] at hmem
    exact Option.map_eq_some_iff.mp hmem
  rw [matchesAt, Bool.and_eq_true, List.all_eq_true, List.any_eq_true]
  constructor
  · intro row hrow
    obtain ⟨found, hfound, heq⟩ := hprobe row hrow
    simp [List.getElem?_append_right, hfound, heq]
  · obtain ⟨shownRow, hmem, hne⟩ := h
    obtain ⟨i, hi⟩ := List.mem_iff_getElem?.mp hmem
    have hfilter : (comparableRow shownRow, i) ∈
        (shown.map comparableRow).zipIdx.filter (!·.1.isEmpty) := by
      simp [List.mem_zipIdx_iff_getElem?, hi, hne]
    obtain ⟨row, rest, hcons⟩ := List.exists_cons_of_ne_nil (List.ne_nil_of_mem hfilter)
    have hrow : row ∈ probeOf (shown.map comparableRow) := by
      rw [probeOf, hcons]
      exact List.mem_cons_self
    obtain ⟨found, hfound, -⟩ := hprobe row hrow
    refine ⟨row, hrow, decide_eq_true ?_⟩
    rw [List.length_append]
    exact Nat.add_lt_add_left (List.getElem?_eq_some_iff.mp hfound).1 _

theorem hostCut_screen (above : List Text) {shown : List Text}
    (h : shown ≠ [] → ∃ row ∈ shown, comparableRow row ≠ []) :
    hostCut (above ++ shown) (shown.map comparableRow) = some above.length := by
  by_cases hshown : shown = []
  · simp [hshown, hostCut]
  · have hmatch := matchesAt_screen above (h hshown)
    rw [hostCut, if_neg (by simpa using hshown), if_neg (by simp)]
    simp [List.range_succ_eq_map, hmatch]

/-- **Herdr's history is a front of the read, and all that stands above the screen** when the read
ends with the screen's last row that is not blank. -/
theorem host_history_split (recent visible : Text) (truncated : Bool) :
    (∀ history, splitHostHistory recent truncated visible = some history →
      ∃ cut, hostCut (textRows recent) (hostScreen visible) = some cut ∧
        cut ≤ (textRows recent).length ∧
        history = ⟨terminate '\n' ((textRows recent).take cut), truncated⟩) ∧
    ∀ H, textRows recent =
        H ++ (textRows visible).rdropWhile (fun row => (comparableRow row).isEmpty) →
      splitHostHistory recent truncated visible = some ⟨terminate '\n' H, truncated⟩ := by
  constructor
  · intro history h
    obtain ⟨cut, hcut, rfl⟩ := Option.map_eq_some_iff.mp h
    exact ⟨cut, hcut, hostCut_le hcut, rfl⟩
  · intro H hrecent
    have hscreen : hostScreen visible = ((textRows visible).rdropWhile
        fun row => (comparableRow row).isEmpty).map comparableRow := by
      simp [hostScreen, List.rdropWhile, ← List.map_reverse, List.dropWhile_map, Function.comp_def]
    rw [splitHostHistory, hrecent, hscreen, hostCut_screen H, Option.map_some, List.take_left]
    intro hne
    exact ⟨_, List.getLast_mem hne, by simpa using List.rdropWhile_last_not _ _ hne⟩

theorem host_history_split_sample :
    splitHostHistory "x\na\n".toList false "a\n\n".toList = some ⟨"x\n".toList, false⟩ :=
  (host_history_split "x\na\n".toList "a\n\n".toList false).2 ["x".toList] (by decide)

/-- Blank rows at the end of `recent` move the place where the screen is looked for. -/
theorem host_history_loses_screen :
    (textRows "a\n\n\n".toList).rdropWhile List.isEmpty = textRows "a\n".toList ∧
      splitHostHistory "a\n\n\n".toList false "a\n".toList = none := by
  decide

end Lerdr.Watch
