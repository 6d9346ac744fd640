/-
# Lerdr.Watch.Render — the lines of a terminal that a watch sees (`pane_stream.rs`, `watches.rs`).

`render_rows` moves a view over scrollback and screen and collects the last rows, tile by tile: each
row once, in order (`tiles_visit_lines`). Blank rows at the end are dropped after the budget has
been spent on them, and joined rows are counted before they are joined, so that what is shown is not
always the end of the whole rendering (`blank_rows_use_budget`), and the flag that something is
missing counts rows, not lines (`truncated_counts_rows`). `Enough` and `FlagExact` say in terms of
the rows where it is, and where the flag is right.
-/
import Lerdr.Rust.Text

namespace Lerdr.Watch.Render

open Lerdr.Rust

/-! ## §1 — the screen of `vt100` -/

/-- A row, as plain text and with its escape codes, written on its own. -/
structure Row where
  plain : Text
  formatted : Text
  wrapped : Bool
  plain_line : '\n' ∉ plain
  formatted_line : '\n' ∉ formatted

/-- A screen: the rows that were scrolled off, the rows of the screen, the offset of the view, and
how `rows_formatted` writes the rows of a view. -/
structure Screen where
  history : List Row
  rows : List Row
  offset : Nat := 0
  rowsFormatted : List Row → List Text
  history_lt : history.length < 2 ^ 64

namespace Screen

variable (s : Screen)

/-- `set_scrollback` clamps the offset. -/
def setScrollback (n : Nat) : Screen := { s with offset := min n s.history.length }

/-- What the view shows: as many lines as the screen has rows. -/
def view : List Row :=
  ((s.history ++ s.rows).drop (s.history.length - s.offset)).take s.rows.length

/-- `row_wrapped`. -/
def rowWrapped (row : Nat) : Bool := s.view[row]?.any Row.wrapped

/-- **What is assumed of `rows_formatted`**: a row is written alike wherever it stands in a view,
also below a row that wraps onto it. -/
def RowsApart : Prop := ∀ view, s.rowsFormatted view = view.map Row.formatted

end Screen

/-- `ReadSource`. -/
inductive ReadSource where
  | visible
  | recent
  | recentUnwrapped
  | detection
  | unrecognized
  deriving DecidableEq

/-! ## §2 — rendering -/

/-- A kept row: its text, whether it is blank, and whether it is wrapped. -/
structure Kept where
  rendered : Text
  blank : Bool
  wrapped : Bool
  deriving DecidableEq

/-- The loop over the rows of a view. -/
def drain (view : Screen) (formatted : Option (List Text)) (total : Nat) :
    List (Text × Nat) → Nat → List Kept → Nat × List Kept
  | [], line, kept => (line, kept)
  | (text, viewRow) :: rest, line, kept =>
    if total ≤ line then (line, kept)
    else
      drain view formatted total rest (line + 1) (kept ++
        [⟨(formatted.bind fun f => f[viewRow]?).getD text, (trim text).isEmpty,
          view.rowWrapped viewRow⟩])

/-- The loop over the views; `none` if `fuel` iterations are not enough. -/
def tiles (screen : Screen) (ansi : Bool) (scrollback total : Nat) :
    Nat → Nat → List Kept → Option (List Kept)
  | fuel, line, kept =>
    if total ≤ line then some kept
    else
      match fuel with
      | 0 => none
      | fuel + 1 =>
        let offset := scrollback - line
        let view := screen.setScrollback offset
        let viewTop := scrollback - offset
        let plain := view.view.map Row.plain
        let formatted := if ansi then some (screen.rowsFormatted view.view) else none
        let next := drain view formatted total
          ((plain.drop (line - viewTop)).zipIdx (line - viewTop))
          line kept
        tiles screen ansi scrollback total fuel next.1 next.2

/-- The text of the kept rows; joined rows have no newline. -/
def contents (unwrapped : Bool) (kept : List Kept) : Text :=
  kept.flatMap fun k => k.rendered ++ if !unwrapped || !k.wrapped then ['\n'] else []

/-- `scrollback`, found by asking for the largest offset. -/
def scrollbackOf (screen : Screen) (withScrollback : Bool) : Nat :=
  if withScrollback then (screen.setScrollback (2 ^ 64 - 1)).offset else 0

/-- `render_rows`: the last rows, without the blank ones at the end, and whether any were left out.
-/
def renderRows (screen : Screen) (withScrollback ansi unwrapped : Bool) (lines : Nat) :
    Text × Bool :=
  if screen.rows.length = 0 then ([], false)
  else
    let total := scrollbackOf screen withScrollback + screen.rows.length
    let skip := total - min (max lines 1) total
    let kept := (tiles screen ansi (scrollbackOf screen withScrollback) total total skip []).getD []
    (contents unwrapped (kept.rdropWhile Kept.blank), 0 < skip)

/-- The loop of `cap_pane_content_lines`, from the end. -/
def capFrom (content : Text) : Nat → Nat → Text
  | 0, _ => content
  | index + 1, remaining =>
    if content[index]? ≠ some '\n' then capFrom content index remaining
    else if remaining - 1 = 0 then content.drop (index + 1)
    else capFrom content index (remaining - 1)

/-- Where a text ends, without one newline at its end. -/
def bodyLength (content : Text) : Nat :=
  if content.getLast? = some '\n' then content.length - 1 else content.length

/-- `cap_pane_content_lines`. A newline is one byte, so characters may be counted for bytes. -/
def capPaneContentLines (content : Text) (limit : Nat) : Text :=
  if limit < 1 ∨ content = [] then content else capFrom content (bodyLength content) limit

/-- The rows that are asked for, in 32 bits. -/
def budget (source : ReadSource) (lines : Nat) : Nat :=
  if source = .recentUnwrapped then (lines * 8 + 64) % 2 ^ 32 else lines

/-- `render_parser`. -/
def renderParser (screen : Screen) (source : ReadSource) (ansi : Bool) (lines : Nat) :
    Text × Bool :=
  let rendered := renderRows screen (source ≠ .visible) ansi (source = .recentUnwrapped)
    (budget source lines)
  (capPaneContentLines rendered.1 lines, rendered.2)

/-! ## §3 — the tiles -/

/-- A row as it is kept. -/
def Row.kept (ansi : Bool) (r : Row) : Kept :=
  ⟨if ansi then r.formatted else r.plain, (trim r.plain).isEmpty, r.wrapped⟩

/-- The lines of a source: scrollback and screen, or the screen alone. -/
def Screen.lines (s : Screen) (withScrollback : Bool) : List Row :=
  if withScrollback then s.history ++ s.rows else s.rows

section Tiles

variable (s : Screen) (withScrollback ansi : Bool)

theorem scrollbackOf_eq :
    scrollbackOf s withScrollback = if withScrollback then s.history.length else 0 := by
  have := s.history_lt
  cases withScrollback with
  | false => rfl
  | true => exact Nat.min_eq_right (by omega)

theorem length_lines :
    (s.lines withScrollback).length = scrollbackOf s withScrollback + s.rows.length := by
  rw [scrollbackOf_eq]
  cases withScrollback <;> simp [Screen.lines]

/-- **What a view shows**: the lines from its top on. -/
theorem view_setScrollback (line : Nat) :
    (s.setScrollback (scrollbackOf s withScrollback - line)).view =
      ((s.lines withScrollback).drop (scrollbackOf s withScrollback -
        (scrollbackOf s withScrollback - line))).take s.rows.length := by
  rw [scrollbackOf_eq]
  cases withScrollback with
  | false | true => simp [Screen.view, Screen.setScrollback, Screen.lines]

/-- One view is drained from some row on, to its end or to the last line. -/
theorem drain_eq (view : Screen) (total : Nat) (rows : List Row) (j line : Nat) (kept : List Kept)
    (hrows : view.view.drop j = rows) (htotal : line + rows.length ≤ total) :
    drain view (if ansi then some (view.view.map Row.formatted) else none) total
      ((rows.map Row.plain).zipIdx j) line kept =
        (line + rows.length, kept ++ rows.map (Row.kept ansi)) := by
  induction rows generalizing j line kept with
  | nil => simp [drain]
  | cons r rows ih =>
    have hj : view.view[j]? = some r := by
      rw [← List.head?_drop, hrows, List.head?_cons]
    have hnext : view.view.drop (j + 1) = rows := by
      rw [← List.tail_drop, hrows, List.tail_cons]
    have htext : ((if ansi then some (view.view.map Row.formatted) else none).bind
        fun f => f[j]?).getD r.plain = if ansi then r.formatted else r.plain := by
      cases ansi <;> simp [hj]
    rw [List.length_cons] at htotal
    rw [List.map_cons, List.zipIdx_cons, drain, if_neg (by omega), ih _ _ _ hnext (by omega), htext,
      Screen.rowWrapped, hj, List.length_cons, List.map_cons, List.append_assoc]
    simp [Row.kept, Nat.add_comm, Nat.add_left_comm]

/-- **The loop**: with enough fuel it ends, with the lines from `line` on behind what was kept. -/
theorem tiles_eq (hrows : 0 < s.rows.length) (hformat : ansi = true → s.RowsApart)
    (fuel line : Nat) (kept : List Kept) (hfuel : (s.lines withScrollback).length ≤ line + fuel) :
    tiles s ansi (scrollbackOf s withScrollback) (s.lines withScrollback).length fuel line kept =
      some (kept ++ ((s.lines withScrollback).drop line).map (Row.kept ansi)) := by
  induction fuel generalizing line kept with
  | zero =>
    rw [tiles, if_pos (by omega), List.drop_eq_nil_of_le (by omega), List.map_nil, List.append_nil]
  | succ fuel ih =>
    rw [tiles]
    split
    · next hend => rw [List.drop_eq_nil_of_le hend, List.map_nil, List.append_nil]
    · next hline =>
      have hlength := length_lines s withScrollback
      have hview := view_setScrollback s withScrollback line
      generalize hlines : s.lines withScrollback = lines at *
      generalize scrollbackOf s withScrollback = scrollback at *
      -- `j` rows of the view come before `line`, and `q` are left
      generalize hj : line - (scrollback - (scrollback - line)) = j
      have hdrop : (s.setScrollback (scrollback - line)).view.drop j =
          (lines.drop line).take (s.rows.length - j) := by
        rw [hview, List.drop_take, List.drop_drop]
        congr 2
        omega
      have hq : ((lines.drop line).take (s.rows.length - j)).length = s.rows.length - j := by
        rw [List.length_take, List.length_drop]
        omega
      have hwritten : (if ansi then
            some (s.rowsFormatted (s.setScrollback (scrollback - line)).view) else none) =
          if ansi then some ((s.setScrollback (scrollback - line)).view.map Row.formatted)
          else none := by
        split
        · next hansi => rw [hformat hansi]
        · rfl
      simp only
      rw [hwritten, hj, ← List.map_drop, hdrop,
        drain_eq ansi _ _ _ j line kept hdrop (by rw [hq]; omega), hq, ih _ _ (by omega),
        List.append_assoc, ← List.map_append]
      congr 3
      rw [← List.drop_drop, List.take_append_drop]

end Tiles

/-- A row of one letter. -/
def letterRow (c : Char) (h : '\n' ≠ c) (wrapped : Bool) : Row :=
  ⟨[c], [c], wrapped, by simpa using h, by simpa using h⟩

/-- The rows of a source, as they are asked for. -/
def sourceLines (s : Screen) (source : ReadSource) (ansi : Bool) : List Kept :=
  (s.lines (source ≠ .visible)).map (Row.kept ansi)

section Rows

variable (rows : List Kept) (room : Nat)

/-- The rows without the blank ones at the end. -/
def written : List Kept := rows.rdropWhile Kept.blank

/-- Those of them among the last `room` rows; one row is always shown. -/
def bottom : List Kept := (written rows).drop (rows.length - max room 1)

/-- Those of them above the last `room` rows. -/
def top : List Kept := (written rows).take (rows.length - max room 1)

end Rows

/-- Dropping rows at the top and blank ones at the end, in either order. -/
theorem rdropWhile_drop {α : Type} (p : α → Bool) (k : Nat) (xs : List α) :
    (xs.drop k).rdropWhile p = (xs.rdropWhile p).drop k := by
  induction xs using List.reverseRecOn with
  | nil => simp
  | append_singleton xs x ih =>
    rw [List.rdropWhile_concat, List.drop_append]
    by_cases hk : k ≤ xs.length
    · rw [show k - xs.length = 0 by omega, List.drop_zero, List.rdropWhile_concat]
      split
      · exact ih
      · rw [List.drop_append, show k - xs.length = 0 by omega, List.drop_zero]
    · have hlength : (xs.rdropWhile p).length ≤ xs.length := (List.rdropWhile_prefix p xs).length_le
      rw [List.drop_eq_nil_of_le (by omega), List.drop_eq_nil_of_le (by simp; omega)]
      split
      · rw [List.drop_eq_nil_of_le (by omega)]
        rfl
      · rw [List.drop_eq_nil_of_le (by simp; omega)]
        rfl

/-- **What is rendered**: what is written in the rows that there is room for. -/
theorem renderRows_eq (s : Screen) (source : ReadSource) (ansi : Bool)
    (hformat : ansi = true → s.RowsApart) (hrows : 0 < s.rows.length) (room : Nat) :
    renderRows s (source ≠ .visible) ansi (source = .recentUnwrapped) room =
      (contents (source = .recentUnwrapped) (bottom (sourceLines s source ansi) room),
        decide (max room 1 < (sourceLines s source ansi).length)) := by
  have htotal : (sourceLines s source ansi).length =
      scrollbackOf s (source ≠ .visible) + s.rows.length := by
    rw [sourceLines, List.length_map, length_lines]
  have hskip : (sourceLines s source ansi).length -
      min (max room 1) (sourceLines s source ansi).length =
        (sourceLines s source ansi).length - max room 1 := by omega
  have htiles := tiles_eq s (source ≠ .visible) ansi hrows hformat
    (sourceLines s source ansi).length ((sourceLines s source ansi).length - max room 1) []
    (by rw [length_lines, htotal]; omega)
  rw [length_lines, ← htotal, List.nil_append, List.map_drop] at htiles
  rw [renderRows, if_neg (by omega), ← htotal]
  simp only
  rw [hskip, htiles, Option.getD_some, bottom, written, ← rdropWhile_drop]
  exact congrArg (Prod.mk _) (decide_eq_decide.mpr (by omega))

/-- Whether a text ends with a newline, if there is any text. -/
def textLast (content : Text) : Option Bool := content.getLast?.map (· = '\n')

/-- The lines of a text; a newline at its end begins none. -/
def textLines (content : Text) : Nat :=
  content.count '\n' + if textLast content = some false then 1 else 0

/-- The newlines that the cap counts. -/
def breaks (content : Text) : Nat := (content.take (bodyLength content)).count '\n'

section Cap

variable {p k : Text} {i r : Nat}

/-- The loop inside the end of a text, and what is left to count when it leaves it. -/
theorem capFrom_append (hi : i ≤ k.length) (hr : 1 ≤ r) :
    ((k.take i).count '\n' < r → capFrom k i r = k ∧
      capFrom (p ++ k) (p.length + i) r =
        capFrom (p ++ k) p.length (r - (k.take i).count '\n')) ∧
    (r ≤ (k.take i).count '\n' → capFrom (p ++ k) (p.length + i) r = capFrom k i r) := by
  induction i generalizing r with
  | zero => simp [capFrom]; omega
  | succ i ih =>
    obtain ⟨c, hc⟩ : ∃ c, k[i]? = some c := ⟨_, List.getElem?_eq_getElem (by omega)⟩
    have happend : (p ++ k)[p.length + i]? = k[i]? := by
      rw [List.getElem?_append_right (by omega), Nat.add_sub_cancel_left]
    have hcount : (k.take (i + 1)).count '\n' =
        (k.take i).count '\n' + if c = '\n' then 1 else 0 := by
      rw [List.take_add_one, hc, List.count_append]
      by_cases h : c = '\n' <;> simp [h]
    rw [← Nat.add_assoc, capFrom, capFrom, happend, hc, hcount]
    by_cases hnewline : c = '\n'
    · subst hnewline
      simp only [ne_eq, not_true_eq_false, if_false, if_true]
      by_cases hlast : r - 1 = 0
      · have hdrop : (p ++ k).drop (p.length + i + 1) = k.drop (i + 1) := by
          rw [Nat.add_assoc, List.drop_append, List.drop_eq_nil_of_le (by omega), List.nil_append]
          congr 1
          omega
        rw [if_pos hlast, if_pos hlast, hdrop]
        exact ⟨fun h => by omega, fun _ => rfl⟩
      · rw [if_neg hlast, if_neg hlast]
        obtain ⟨hless, hmore⟩ := ih (r := r - 1) (by omega) (by omega)
        refine ⟨fun h => ?_, fun h => hmore (by omega)⟩
        obtain ⟨hwhole, hleft⟩ := hless (by omega)
        exact ⟨hwhole, by rw [hleft]; congr 1; omega⟩
    · have hsome : some c ≠ some '\n' := fun h => hnewline (Option.some.inj h)
      rw [if_pos hsome, if_pos hsome, if_neg hnewline, Nat.add_zero]
      exact ih (by omega) hr

theorem bodyLength_append (hk : k ≠ []) : bodyLength (p ++ k) = p.length + bodyLength k := by
  have hpos := List.length_pos_iff.mpr hk
  rw [bodyLength, bodyLength, List.getLast?_append_of_ne_nil _ hk, List.length_append]
  split <;> omega

theorem bodyLength_le (k : Text) : bodyLength k ≤ k.length := by
  rw [bodyLength]
  split <;> omega

theorem breaks_add_one (hk : k ≠ []) : breaks k + 1 = textLines k := by
  obtain ⟨front, c, rfl⟩ := (List.eq_nil_or_concat' k).resolve_left hk
  have htake : (front ++ [c]).take (front.length + 1) = front ++ [c] :=
    List.take_of_length_le (by simp)
  by_cases hc : c = '\n' <;> simp [breaks, bodyLength, textLines, textLast, hc, htake]

/-- The loop leaves what it has passed. -/
theorem length_capFrom_ge (k : Text) (i r : Nat) : k.length - i ≤ (capFrom k i r).length := by
  induction i generalizing r with
  | zero => exact Nat.sub_le _ _
  | succ i ih =>
    have hrest : ∀ r, k.length - (i + 1) ≤ (capFrom k i r).length := fun r => by
      have := ih r
      omega
    rw [capFrom]
    split
    · exact hrest r
    · split
      · rw [List.length_drop]
      · exact hrest _

/-- Where there are newlines enough something is cut off. -/
theorem length_capFrom_lt (hr : 1 ≤ r) (h : r ≤ (k.take i).count '\n') :
    (capFrom k i r).length < k.length := by
  induction i generalizing r with
  | zero => simp at h; omega
  | succ i ih =>
    rw [List.take_add_one, List.count_append] at h
    rw [capFrom]
    split
    · next hother =>
      refine ih hr (h.trans_eq ?_)
      rw [Nat.add_eq_left, List.count_eq_zero]
      exact fun hmem => hother (by simpa using hmem)
    · next hnewline =>
      rw [not_not] at hnewline
      have hi := (List.getElem?_eq_some_iff.mp hnewline).1
      rw [hnewline] at h
      split
      · rw [List.length_drop]
        omega
      · exact ih (by omega) (by simp at h; omega)

/-- Something is left of what is not empty. -/
theorem cap_ne_nil (hk : k ≠ []) : capPaneContentLines k r ≠ [] := by
  rw [capPaneContentLines]
  split
  · exact hk
  obtain ⟨front, c, rfl⟩ := (List.eq_nil_or_concat' k).resolve_left hk
  have hlong := length_capFrom_ge (front ++ [c]) front.length r
  rw [List.length_append, List.length_singleton, Nat.add_sub_cancel_left] at hlong
  have hbody : capFrom (front ++ [c]) (bodyLength (front ++ [c])) r =
      capFrom (front ++ [c]) front.length r := by
    by_cases hc : c = '\n'
    · simp [bodyLength, hc]
    · simp [bodyLength, hc, capFrom]
  rw [hbody]
  exact List.ne_nil_of_length_pos hlong

/-- **What is cut**: a text with more lines than the limit. -/
theorem cap_eq_self_iff : capPaneContentLines k r = k ↔ r = 0 ∨ textLines k ≤ r := by
  rcases Nat.eq_zero_or_pos r with rfl | hr
  · simp [capPaneContentLines]
  by_cases hk : k = []
  · simp [hk, capPaneContentLines, textLines, textLast]
  have hlines := breaks_add_one hk
  rw [capPaneContentLines, if_neg (not_or.mpr ⟨by omega, hk⟩)]
  constructor
  · intro heq
    refine .inr (Nat.le_of_not_lt fun hlt => ?_)
    have hshort := length_capFrom_lt (i := bodyLength k) hr (show r ≤ breaks k by omega)
    rw [heq] at hshort
    exact lt_irrefl _ hshort
  · intro h
    exact ((capFrom_append (p := []) (bodyLength_le k) hr).1 (show breaks k < r by omega)).1

/-- **Enough lines at the end decide**: more than the limit, or as many, behind a newline. -/
theorem cap_append_iff (hr : 1 ≤ r) :
    capPaneContentLines k r = capPaneContentLines (p ++ k) r ↔
      textLast p = none ∨ r < textLines k ∨ r = textLines k ∧ textLast p = some true := by
  rcases List.eq_nil_or_concat' p with rfl | ⟨q, c, rfl⟩
  · simp [textLast]
  have hlast : textLast (q ++ [c]) = some (decide (c = '\n')) := by simp [textLast]
  have hpk : q ++ [c] ++ k ≠ [] := by simp
  by_cases hk : k = []
  · have hzero : textLines k = 0 := by rw [hk]; rfl
    have hnil : capPaneContentLines k r = [] := by simp [hk, capPaneContentLines]
    rw [hnil, hlast, hzero]
    exact iff_of_false (cap_ne_nil hpk).symm (by simp; omega)
  have hlines := breaks_add_one hk
  rw [capPaneContentLines, capPaneContentLines, if_neg (not_or.mpr ⟨by omega, hk⟩),
    if_neg (not_or.mpr ⟨by omega, hpk⟩), bodyLength_append hk, hlast]
  obtain ⟨hless, hmore⟩ := capFrom_append (p := q ++ [c]) (bodyLength_le k) hr
  rw [← breaks] at hless hmore
  by_cases hcut : r ≤ breaks k
  · exact iff_of_true (hmore hcut).symm (.inr (.inl (by omega)))
  obtain ⟨hwhole, hleft⟩ := hless (Nat.lt_of_not_le hcut)
  have hat : (q ++ [c] ++ k)[q.length]? = some c := by simp
  have hlong : ∀ r', k ≠ capFrom (q ++ [c] ++ k) q.length r' := fun r' heq => by
    have := length_capFrom_ge (q ++ [c] ++ k) q.length r'
    rw [← heq] at this
    simp at this
  rw [hwhole, hleft, List.length_append, List.length_singleton, capFrom, hat]
  by_cases hc : c = '\n'
  · rw [if_neg (by simp [hc])]
    by_cases hone : r - breaks k - 1 = 0
    · rw [if_pos hone]
      refine iff_of_true ?_ (.inr (.inr ⟨by omega, by simp [hc]⟩))
      exact (List.drop_left' (by simp)).symm
    · rw [if_neg hone]
      exact iff_of_false (hlong _) (by simp; omega)
  · rw [if_pos (by simpa using hc)]
    exact iff_of_false (hlong _) (by simp [hc]; omega)

/-- What the cap leaves is the end of the text. -/
theorem cap_suffix (k : Text) (r : Nat) : capPaneContentLines k r <:+ k := by
  have hfrom : ∀ i r, capFrom k i r <:+ k := by
    intro i
    induction i with
    | zero => exact fun r => List.suffix_rfl
    | succ i ih =>
      intro r
      rw [capFrom]
      split
      · exact ih r
      · split
        · exact List.drop_suffix _ _
        · exact ih _
  rw [capPaneContentLines]
  split
  · exact List.suffix_rfl
  · exact hfrom _ _

end Cap

/-! ## §5 — budgets -/

section Lines

variable {unwrapped : Bool} {kept : List Kept}

theorem contents_append (a b : List Kept) :
    contents unwrapped (a ++ b) = contents unwrapped a ++ contents unwrapped b :=
  List.flatMap_append

/-- A row ends its line unless it is joined to the next one. -/
def endsLine (unwrapped : Bool) (k : Kept) : Bool := !unwrapped || !k.wrapped

/-- Whether the last row that shows anything ends its line, if one does. -/
def lastEnds (unwrapped : Bool) (rows : List Kept) : Option Bool :=
  (rows.filter fun k => endsLine unwrapped k || !k.rendered.isEmpty).getLast?.map
    (endsLine unwrapped)

/-- The lines that rows make. -/
def lineCount (unwrapped : Bool) (rows : List Kept) : Nat :=
  rows.countP (endsLine unwrapped) + if lastEnds unwrapped rows = some false then 1 else 0

theorem contents_concat (kept : List Kept) (k : Kept) :
    contents unwrapped (kept ++ [k]) = contents unwrapped kept ++
      (k.rendered ++ if endsLine unwrapped k then ['\n'] else []) := by
  rw [contents_append]
  simp [contents, endsLine]

/-- The rows make as many lines as there are rows at most. -/
theorem lineCount_le_length (unwrapped : Bool) (rows : List Kept) :
    lineCount unwrapped rows ≤ rows.length := by
  rw [lineCount]
  split
  · next hlast =>
    obtain ⟨k, hk, hends⟩ := Option.map_eq_some_iff.mp hlast
    have hmem := List.mem_of_mem_filter (List.mem_of_getLast? hk)
    exact List.countP_lt_length_iff.mpr ⟨k, hmem, hends⟩
  · exact List.countP_le_length

/-- **How the text of rows ends, and how many lines it has**, where no row has a newline. -/
theorem text_contents (unwrapped : Bool) (h : ∀ k ∈ kept, '\n' ∉ k.rendered) :
    textLast (contents unwrapped kept) = lastEnds unwrapped kept ∧
      textLines (contents unwrapped kept) = lineCount unwrapped kept := by
  have hboth : textLast (contents unwrapped kept) = lastEnds unwrapped kept ∧
      (contents unwrapped kept).count '\n' = kept.countP (endsLine unwrapped) := by
    induction kept using List.reverseRecOn with
    | nil => exact ⟨rfl, rfl⟩
    | append_singleton kept k ih =>
      obtain ⟨hlast, hcount⟩ := ih fun j hj => h j (List.mem_append_left _ hj)
      have hrow := h k (List.mem_append_right _ List.mem_cons_self)
      have hnone : k.rendered.count '\n' = 0 := List.count_eq_zero.mpr hrow
      rw [contents_concat, List.countP_append, List.count_append, hcount]
      rw [lastEnds, List.filter_append]
      cases hends : endsLine unwrapped k with
      | true => simp [textLast, hends, hnone]
      | false =>
        rcases List.eq_nil_or_concat' k.rendered with hnil | ⟨front, c, hfront⟩
        · simpa [hends, hnil, lastEnds] using hlast
        · have hc : c ≠ '\n' := by
            rintro rfl
            exact hrow (by simp [hfront])
          rw [hfront] at hnone
          simp [textLast, hends, hfront, hc, hnone]
  refine ⟨hboth.1, ?_⟩
  rw [textLines, lineCount, hboth.1, hboth.2]

end Lines

section Budgets

variable (s : Screen) (source : ReadSource) (ansi : Bool) (n N : Nat)

/-- A budget that is not smaller than the number of rows, also after the over-read's 32 bits. -/
structure Unlimited : Prop where
  lines : (sourceLines s source ansi).length ≤ N
  rows : (sourceLines s source ansi).length ≤ budget source N

/-- The text of all rows. -/
def whole : Text := contents (source = .recentUnwrapped) (written (sourceLines s source ansi))

/-- **Where a window is enough.** Of the rows in the room for them, and blank rows at the end of the
source aside: nothing shows above them, or they make more lines than the limit, or as many below a
row that ends its line. -/
def Enough (unwrapped : Bool) (rows : List Kept) (room n : Nat) : Prop :=
  lastEnds unwrapped (top rows room) = none ∨ n < lineCount unwrapped (bottom rows room) ∨
    n = lineCount unwrapped (bottom rows room) ∧ lastEnds unwrapped (top rows room) = some true

/-- **Where the flag is exact.** All rows have room, and make no more lines than the limit (if there
is one); or some have not, and show something, or the others make more lines than the limit. -/
def FlagExact (unwrapped : Bool) (rows : List Kept) (room n : Nat) : Prop :=
  if rows.length ≤ max room 1 then n = 0 ∨ lineCount unwrapped (written rows) ≤ n
  else lastEnds unwrapped (top rows room) ≠ none ∨
    n ≠ 0 ∧ n < lineCount unwrapped (bottom rows room)

theorem rendered_line : ∀ k ∈ written (sourceLines s source ansi), '\n' ∉ k.rendered := by
  intro k hk
  obtain ⟨r, -, rfl⟩ := List.mem_map.mp ((List.rdropWhile_prefix _ _).subset hk)
  cases ansi
  · exact r.plain_line
  · exact r.formatted_line

variable {s source ansi n N}

theorem top_line (room : Nat) : ∀ k ∈ top (sourceLines s source ansi) room, '\n' ∉ k.rendered :=
  fun k hk => rendered_line s source ansi k (List.mem_of_mem_take hk)

theorem bottom_line (room : Nat) :
    ∀ k ∈ bottom (sourceLines s source ansi) room, '\n' ∉ k.rendered :=
  fun k hk => rendered_line s source ansi k (List.mem_of_mem_drop hk)

theorem renderParser_empty (hrows : s.rows.length = 0) :
    renderParser s source ansi n = ([], false) := by
  rw [renderParser, renderRows, if_pos hrows]
  simp [capPaneContentLines]

theorem renderParser_eq (hformat : ansi = true → s.RowsApart) (hrows : 0 < s.rows.length) :
    renderParser s source ansi n =
      (capPaneContentLines (contents (source = .recentUnwrapped)
        (bottom (sourceLines s source ansi) (budget source n))) n,
        decide (max (budget source n) 1 < (sourceLines s source ansi).length)) := by
  rw [renderParser, renderRows_eq s source ansi hformat hrows]

/-- **Without a limit all is rendered.** -/
theorem renderParser_unlimited (hformat : ansi = true → s.RowsApart) (hrows : 0 < s.rows.length)
    (h : Unlimited s source ansi N) :
    (renderParser s source ansi N).1 = whole s source ansi := by
  have hskip : (sourceLines s source ansi).length - max (budget source N) 1 = 0 := by
    have := h.rows
    omega
  have hlines := (text_contents (source = .recentUnwrapped) (rendered_line s source ansi)).2
  have hlength :
      (written (sourceLines s source ansi)).length ≤ (sourceLines s source ansi).length :=
    (List.rdropWhile_prefix _ _).length_le
  have hcount := lineCount_le_length (source = .recentUnwrapped)
    (written (sourceLines s source ansi))
  rw [renderParser_eq hformat hrows, bottom, hskip, List.drop_zero]
  exact cap_eq_self_iff.mpr (.inr (hlines.trans_le (hcount.trans (hlength.trans h.lines))))

/-- The text of all rows is that of those above and of those that have room. -/
theorem whole_eq (room : Nat) : whole s source ansi =
    contents (source = .recentUnwrapped) (top (sourceLines s source ansi) room) ++
      contents (source = .recentUnwrapped) (bottom (sourceLines s source ansi) room) := by
  rw [whole, ← contents_append, top, bottom, List.take_append_drop]

theorem textLast_eq_none {content : Text} : textLast content = none ↔ content = [] := by
  rw [textLast, Option.map_eq_none_iff, List.getLast?_eq_none_iff]

/-- **When nothing is missing**: nothing shows above, and nothing is cut. -/
theorem cap_eq_whole_iff (room n : Nat) :
    capPaneContentLines (contents (source = .recentUnwrapped)
        (bottom (sourceLines s source ansi) room)) n = whole s source ansi ↔
      lastEnds (source = .recentUnwrapped) (top (sourceLines s source ansi) room) = none ∧
        (n = 0 ∨ lineCount (source = .recentUnwrapped)
          (bottom (sourceLines s source ansi) room) ≤ n) := by
  rw [← (text_contents _ (top_line room)).1, ← (text_contents _ (bottom_line room)).2,
    textLast_eq_none, ← cap_eq_self_iff, whole_eq room]
  generalize contents _ (top (sourceLines s source ansi) room) = above
  generalize contents _ (bottom (sourceLines s source ansi) room) = shown
  refine ⟨fun heq => ?_, fun ⟨habove, hshown⟩ => by rw [habove, hshown, List.nil_append]⟩
  have hle := (cap_suffix shown n).length_le
  rw [heq, List.length_append] at hle
  obtain rfl : above = [] := List.length_eq_zero_iff.mp (by omega)
  exact ⟨rfl, heq⟩

end Budgets

/-- **A rendered window is the capped rendering of all rows** exactly where it is enough. -/
theorem window_is_capped (s : Screen) (source : ReadSource) (ansi : Bool)
    (hformat : ansi = true → s.RowsApart) (n N : Nat) (hn : 1 ≤ n)
    (hN : Unlimited s source ansi N) :
    (renderParser s source ansi n).1 = capPaneContentLines (renderParser s source ansi N).1 n ↔
      s.rows.length = 0 ∨ Enough (source = .recentUnwrapped) (sourceLines s source ansi)
        (budget source n) n := by
  rcases Nat.eq_zero_or_pos s.rows.length with hrows | hrows
  · rw [renderParser_empty hrows, renderParser_empty hrows]
    exact iff_of_true (by simp [capPaneContentLines]) (.inl hrows)
  rw [renderParser_unlimited hformat hrows hN, renderParser_eq hformat hrows,
    whole_eq (budget source n), cap_append_iff hn, (text_contents _ (top_line _)).1,
    (text_contents _ (bottom_line _)).2]
  exact (or_iff_right (by omega)).symm

def twoLetters : List Row := [letterRow 'a' (by decide) false, letterRow 'b' (by decide) false]

/-- A screen of given rows above blank ones. -/
def sampleScreen (letters : List Row) (blank : Nat) : Screen where
  history := []
  rowsFormatted := List.map Row.formatted
  rows := letters ++ List.replicate blank ⟨[], [], false, by simp, by simp⟩
  history_lt := by decide

theorem window_is_capped_sample :
    (renderParser (sampleScreen twoLetters 0) .recent false 1).1 =
      capPaneContentLines (renderParser (sampleScreen twoLetters 0) .recent false 2).1 1 :=
  (window_is_capped _ _ _ (fun h => by cases h) 1 2 (by decide) ⟨by decide, by decide⟩).mpr
    (.inr (.inr (.inr (by decide +kernel))))

/-- Two lines above two blank rows, and a budget of two: nothing is shown. -/
theorem blank_rows_use_budget :
    (renderParser (sampleScreen twoLetters 2) .visible false 2).1 = [] ∧
    capPaneContentLines (renderParser (sampleScreen twoLetters 2) .visible false 4).1 2 =
      ['a', '\n', 'b', '\n'] := by
  decide +kernel

/-- **When the flag is exact.** The content is the end of the whole rendering; the flag says that it
is less exactly under the condition. -/
theorem truncated_exact (s : Screen) (source : ReadSource) (ansi : Bool)
    (hformat : ansi = true → s.RowsApart) (n N : Nat) (hN : Unlimited s source ansi N) :
    (renderParser s source ansi n).1 <:+ (renderParser s source ansi N).1 ∧
    (((renderParser s source ansi n).2 = true ↔
        (renderParser s source ansi n).1 ≠ (renderParser s source ansi N).1) ↔
      s.rows.length = 0 ∨ FlagExact (source = .recentUnwrapped) (sourceLines s source ansi)
        (budget source n) n) := by
  rcases Nat.eq_zero_or_pos s.rows.length with hrows | hrows
  · rw [renderParser_empty hrows, renderParser_empty hrows]
    exact ⟨List.suffix_rfl, iff_of_true (by simp) (.inl hrows)⟩
  have hall := @cap_eq_whole_iff s source ansi (budget source n) n
  rw [renderParser_unlimited hformat hrows hN, renderParser_eq hformat hrows]
  refine ⟨(cap_suffix _ n).trans ⟨_, (whole_eq (budget source n)).symm⟩, ?_⟩
  rw [or_iff_right (by omega), ne_eq, hall, FlagExact, decide_eq_true_eq]
  split
  · next hfits =>
    -- no row is left out: the rows above are none, and those below are all
    have hcut : (sourceLines s source ansi).length - max (budget source n) 1 = 0 := by omega
    have htop : lastEnds (source = .recentUnwrapped)
        (top (sourceLines s source ansi) (budget source n)) = none := by
      rw [top, hcut, List.take_zero]
      rfl
    rw [bottom, hcut, List.drop_zero, htop]
    simp [Nat.not_lt.mpr hfits, or_iff_not_imp_left]
  · next hover =>
    rw [not_and_or, not_or, not_le]
    exact iff_true_left (Nat.lt_of_not_le hover)

theorem truncated_exact_sample :
    (renderParser (sampleScreen twoLetters 0) .recent false 1).2 = true :=
  ((truncated_exact _ _ _ (fun h => by cases h) 1 2 ⟨by decide, by decide⟩).2.mpr
    (.inr (by rw [FlagExact]; decide +kernel))).mpr (by decide +kernel)

/-- A blank screen of two rows is truncated to one, and shows all there is; two short lines are cut
to one after the rows were counted, and are not truncated. -/
theorem truncated_counts_rows :
    renderParser (sampleScreen [] 2) .visible false 1 = ([], true) ∧
    renderParser (sampleScreen [] 2) .visible false 2 = ([], false) ∧
    renderParser (sampleScreen twoLetters 0)
      .recentUnwrapped false 1 = (['b', '\n'], false) ∧
    renderParser (sampleScreen twoLetters 0)
      .recentUnwrapped false 2 = (['a', '\n', 'b', '\n'], false) := by
  decide +kernel

end Lerdr.Watch.Render
