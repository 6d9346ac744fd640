/-
# Lerdr.Terminal.Sgr — select graphic rendition in the terminal view (`AnsiSpans.kt`).

A sequence `ESC [ params m` changes the style of the text behind it. Read as a sequence, its codes
act one by one, a colour takes its arguments with it, and `0` resets what came before. `applySgr`
looks for a `0` anywhere first, clears the style once if there is one, and has no case for it in its
loop. So a reset that does not come first undoes nothing, and a colour argument that is `0` undoes
what it should not; the two readings differ exactly where that shows (`applySgr_sequential`).
-/
import Mathlib.Data.List.DropRight
import Mathlib.Tactic

namespace Lerdr.Terminal

/-! ## §1 — the code -/

/-- `TerminalScheme`. -/
inductive TerminalScheme where
  | dark
  | light
  deriving DecidableEq, Repr

/-- The colours of 30 to 37, then those of 90 to 97. -/
def TerminalScheme.palette : TerminalScheme → List String
  | .dark =>
    ["#555", "#ff5f5f", "#5fd75f", "#ffd75f", "#5fafff", "#d75fff", "#1abc9c", "#e5e5e5",
      "#777", "#ff8080", "#80ff80", "#ffff80", "#80bfff", "#ff80ff", "#80ffff", "#fff"]
  | .light =>
    ["#5c5f77", "#d20f39", "#40a02b", "#df8e1d", "#1e66f5", "#ea76cb", "#179299", "#acb0be",
      "#6c6f85", "#de293e", "#49af3d", "#eea02d", "#456eff", "#fe85d8", "#2d9fa8", "#bcc0cc"]

/-- `colors[code]`. -/
def TerminalScheme.colors (scheme : TerminalScheme) (code : Nat) : Option String :=
  if 30 ≤ code ∧ code ≤ 37 then scheme.palette[code - 30]?
  else if 90 ≤ code ∧ code ≤ 97 then scheme.palette[code - 82]? else none

/-- `SgrStyle`. -/
structure SgrStyle where
  color : Option String := none
  backgroundColor : Option String := none
  bold : Bool := false
  dim : Bool := false
  italic : Bool := false
  underline : Bool := false
  deriving DecidableEq, Repr

/-- What a call of `parse` fixes: the scheme, and `normalizedAnsiForeground` and
`normalizedAnsiBackground` at its flags. -/
structure Paint where
  scheme : TerminalScheme
  foreground : String → String
  background : String → String

/-- `Double.toInt` of a whole number; a parameter too long to be an exact double is far above the
bound it stops at. -/
def toInt (code : Nat) : Nat := min code (2 ^ 31 - 1)

/-- A colour as CSS writes it. -/
def rgb (r g b : Nat) : String :=
  "rgb(" ++ toString r ++ "," ++ toString g ++ "," ++ toString b ++ ")"

/-- `ansi256Color`: the scheme's sixteen colours, a cube of 216, and grays. -/
def ansi256Color (scheme : TerminalScheme) (value : Nat) : Option String :=
  let level (n : Nat) : Nat := [0, 95, 135, 175, 215, 255].getD n 0
  if 255 < value then none
  else if value < 8 then scheme.colors (30 + value)
  else if value < 16 then scheme.colors (90 + value - 8)
  else if value < 232 then
    let offset := value - 16
    some (rgb (level (offset / 36)) (level (offset % 36 / 6)) (level (offset % 6)))
  else
    let gray := 8 + (value - 232) * 10
    some (rgb gray gray gray)

/-- `ansiExtendedColor`, of the codes behind: the colour, and how many codes it takes. -/
def ansiExtendedColor (scheme : TerminalScheme) : List Nat → Option String × Nat
  | 2 :: r :: g :: b :: _ => (some (rgb (toInt r) (toInt g) (toInt b)), 4)
  | 5 :: n :: _ => (ansi256Color scheme n, 2)
  | _ => (none, 0)

namespace Paint

variable (paint : Paint)

/-- The `when` of `applySgr`, and how many codes are skipped. -/
def sgrCode (code : Nat) (behind : List Nat) (s : SgrStyle) : SgrStyle × Nat :=
  if code = 1 then ({ s with bold := true }, 0)
  else if code = 2 then ({ s with dim := true }, 0)
  else if code = 3 then ({ s with italic := true }, 0)
  else if code = 4 then ({ s with underline := true }, 0)
  else if code = 22 then ({ s with bold := false, dim := false }, 0)
  else if code = 23 then ({ s with italic := false }, 0)
  else if code = 24 then ({ s with underline := false }, 0)
  else if code = 39 then ({ s with color := none }, 0)
  else if code = 49 then ({ s with backgroundColor := none }, 0)
  else if code = 38 ∨ code = 48 then
    let extended := ansiExtendedColor paint.scheme behind
    (match extended.1 with
      | none => s
      | some color =>
        if code = 38 then { s with color := some (paint.foreground color) }
        else { s with backgroundColor := some (paint.background color) }, extended.2)
  else
    match paint.scheme.colors (toInt code), paint.scheme.colors (toInt code - 10) with
    | some color, _ => ({ s with color := some (paint.foreground color) }, 0)
    | none, some color => ({ s with backgroundColor := some (paint.background color) }, 0)
    | none, none => (s, 0)

/-- The loop, with the number of codes still to skip. -/
def sgrLoop : Nat → List Nat → SgrStyle → SgrStyle
  | _, [], s => s
  | skip + 1, _ :: codes, s => sgrLoop skip codes s
  | 0, code :: codes, s =>
    let (s, consumed) := paint.sgrCode code codes s
    sgrLoop consumed codes s

/-- The codes of digits and semicolons. -/
def codesOf (params : List Char) : List Nat :=
  if params.isEmpty then [0]
  else (params.splitOn ';').map fun part => part.foldl (fun n c => 10 * n + (c.toNat - 48)) 0

/-- `applySgr`: a zero anywhere clears the style before the loop. -/
def applySgr (params : List Char) (styles : SgrStyle) : SgrStyle :=
  paint.sgrLoop 0 (codesOf params) (if (codesOf params).any (· = 0) then {} else styles)

end Paint

/-! ## §2 — the sequence -/

/-- What a colour is put on. -/
inductive Layer where
  | foreground
  | background
  deriving DecidableEq, Repr

/-- What a parameter list is made of. -/
inductive Sgr where
  | reset | bold | dim | italic | underline | noIntensity | noItalic | noUnderline
  | default (layer : Layer)
  | palette (layer : Layer) (bright : Bool) (index : Fin 8)
  | indexed (layer : Layer) (index : Nat)
  | direct (layer : Layer) (r g b : Nat)
  deriving DecidableEq, Repr

/-- The first of the layer's codes. -/
def Layer.base : Layer → Nat
  | .foreground => 30
  | .background => 40

/-- The codes of an item, a colour's arguments among them. -/
def Sgr.codes : Sgr → List Nat
  | .reset => [0]
  | .bold => [1]
  | .dim => [2]
  | .italic => [3]
  | .underline => [4]
  | .noIntensity => [22]
  | .noItalic => [23]
  | .noUnderline => [24]
  | .default layer => [layer.base + 9]
  | .palette layer bright index => [layer.base + (if bright then 60 else 0) + index]
  | .indexed layer index => [layer.base + 8, 5, index]
  | .direct layer r g b => [layer.base + 8, 2, r, g, b]

/-- The fields of a style. -/
inductive Facet where
  | color | backgroundColor | bold | dim | italic | underline

/-- What a style has in a field, if it is set. -/
def SgrStyle.value (s : SgrStyle) : Facet → Option String
  | .color => s.color
  | .backgroundColor => s.backgroundColor
  | .bold => if s.bold then some "" else none
  | .dim => if s.dim then some "" else none
  | .italic => if s.italic then some "" else none
  | .underline => if s.underline then some "" else none

theorem SgrStyle.value_default (facet : Facet) : ({} : SgrStyle).value facet = none := by
  cases facet <;> rfl

/-- A style is what it has in its fields. -/
theorem SgrStyle.ext_value {s s' : SgrStyle} :
    s = s' ↔ ∀ facet, s.value facet = s'.value facet := by
  refine ⟨fun h _ => by rw [h], fun h => ?_⟩
  obtain ⟨color, background, bold, dim, italic, underline⟩ := s
  obtain ⟨color', background', bold', dim', italic', underline'⟩ := s'
  have hflag : ∀ {b b' : Bool}, (if b then some "" else none) = (if b' then some "" else none) →
      b = b' := by decide
  rw [SgrStyle.mk.injEq]
  exact ⟨h .color, h .backgroundColor, hflag (h .bold), hflag (h .dim), hflag (h .italic),
    hflag (h .underline)⟩

namespace Paint

variable (paint : Paint)

/-- The style with a colour, if it is one. -/
def put (s : SgrStyle) : Layer → Option String → SgrStyle
  | _, none => s
  | .foreground, some color => { s with color := some (paint.foreground color) }
  | .background, some color => { s with backgroundColor := some (paint.background color) }

/-- **What one of them does**, whatever stands around it. -/
def interpret (s : SgrStyle) : Sgr → SgrStyle
  | .reset => {}
  | .bold => { s with bold := true }
  | .dim => { s with dim := true }
  | .italic => { s with italic := true }
  | .underline => { s with underline := true }
  | .noIntensity => { s with bold := false, dim := false }
  | .noItalic => { s with italic := false }
  | .noUnderline => { s with underline := false }
  | .default .foreground => { s with color := none }
  | .default .background => { s with backgroundColor := none }
  | .palette layer bright index =>
    paint.put s layer paint.scheme.palette[(if bright then 8 else 0) + index.val]?
  | .indexed layer index => paint.put s layer (ansi256Color paint.scheme index)
  | .direct layer r g b => paint.put s layer (some (rgb (toInt r) (toInt g) (toInt b)))

/-- The field of a style that an item gives a value, and the value; a reset is not one item's. -/
def sets : Sgr → Facet → Option (Option String)
  | .bold, .bold | .dim, .dim | .italic, .italic | .underline, .underline => some (some "")
  | .noIntensity, .bold | .noIntensity, .dim | .noItalic, .italic | .noUnderline, .underline =>
    some none
  | .default .foreground, .color | .default .background, .backgroundColor => some none
  | .palette .foreground bright index, .color =>
    paint.scheme.palette[(if bright then 8 else 0) + index.val]?.map (some ∘ paint.foreground)
  | .palette .background bright index, .backgroundColor =>
    paint.scheme.palette[(if bright then 8 else 0) + index.val]?.map (some ∘ paint.background)
  | .indexed .foreground index, .color =>
    (ansi256Color paint.scheme index).map (some ∘ paint.foreground)
  | .indexed .background index, .backgroundColor =>
    (ansi256Color paint.scheme index).map (some ∘ paint.background)
  | .direct .foreground r g b, .color =>
    some (some (paint.foreground (rgb (toInt r) (toInt g) (toInt b))))
  | .direct .background r g b, .backgroundColor =>
    some (some (paint.background (rgb (toInt r) (toInt g) (toInt b))))
  | _, _ => none

/-- What a list of items leaves in a field, its resets aside. -/
def left (items : List Sgr) (facet : Facet) : Option (Option String) :=
  (items.filterMap (paint.sets · facet)).getLast?

/-- **What a list should have cleared shows nowhere**: a field that the items in front of the last
reset leave set, or without a reset the style itself, is given a value behind it. -/
def Covered (styles : SgrStyle) (items : List Sgr) : Prop :=
  ∀ facet, (paint.left (items.rtakeWhile (· ≠ .reset)) facet).isSome ∨
    if .reset ∈ items then (paint.left (items.rdropWhile (· ≠ .reset)) facet).join = none
    else styles.value facet = none

variable {paint}

/-- **One turn of the loop**, or several, is one item; a reset does nothing. -/
theorem sgrLoop_codes (item : Sgr) (codes : List Nat) (s : SgrStyle) :
    paint.sgrLoop 0 (item.codes ++ codes) s =
      paint.sgrLoop 0 codes (if item = .reset then s else paint.interpret s item) := by
  cases item with
  | default layer => cases layer <;> rfl
  | palette layer bright index =>
    obtain ⟨scheme, foreground, background⟩ := paint
    cases scheme <;> cases layer <;> cases bright <;> fin_cases index <;> rfl
  | indexed layer index =>
    cases layer <;>
      simp only [Sgr.codes, Layer.base, List.cons_append, List.nil_append, sgrLoop, sgrCode,
        ansiExtendedColor, interpret] <;>
      cases ansi256Color paint.scheme index <;> rfl
  | direct layer r g b => cases layer <;> rfl
  | reset =>
    obtain ⟨scheme, foreground, background⟩ := paint
    cases scheme <;> rfl
  | _ => rfl

/-- What an item does to a field. -/
theorem value_interpret {item : Sgr} (h : item ≠ .reset) (s : SgrStyle) (facet : Facet) :
    (paint.interpret s item).value facet = (paint.sets item facet).getD (s.value facet) := by
  cases item with
  | reset => exact absurd rfl h
  | default layer => cases layer <;> cases facet <;> rfl
  | palette layer bright index =>
    cases layer <;> cases facet <;>
      cases hcolor : paint.scheme.palette[(if bright then 8 else 0) + index.val]? <;>
      simp [interpret, sets, put, hcolor, SgrStyle.value]
  | indexed layer index =>
    cases layer <;> cases facet <;> cases hcolor : ansi256Color paint.scheme index <;>
      simp [interpret, sets, put, hcolor, SgrStyle.value]
  | direct layer r g b => cases layer <;> cases facet <;> rfl
  | _ => cases facet <;> rfl

theorem sets_reset (facet : Facet) : paint.sets .reset facet = none := by
  cases facet <;> rfl

/-- What the loop leaves in a field. -/
theorem value_sgrLoop (items : List Sgr) (s : SgrStyle) (facet : Facet) :
    (paint.sgrLoop 0 (items.flatMap Sgr.codes) s).value facet =
      (paint.left items facet).getD (s.value facet) := by
  induction items generalizing s with
  | nil => rfl
  | cons item items ih =>
    rw [List.flatMap_cons, sgrLoop_codes, ih, left, left, List.filterMap_cons]
    by_cases hreset : item = .reset
    · rw [hreset, if_pos rfl, sets_reset]
    · rw [if_neg hreset, value_interpret hreset]
      cases paint.sets item facet with
      | none => rfl
      | some value => rw [List.getLast?_cons, Option.getD_some, Option.getD_some]

theorem left_append (items more : List Sgr) (facet : Facet) :
    paint.left (items ++ more) facet = (paint.left more facet).or (paint.left items facet) := by
  rw [left, List.filterMap_append, List.getLast?_append]
  rfl

/-- What the sequence leaves in a field: what the items behind the last reset do. -/
theorem value_interpret_all (items : List Sgr) (s : SgrStyle) (facet : Facet) :
    (items.foldl paint.interpret s).value facet =
      (paint.left (items.rtakeWhile (· ≠ .reset)) facet).getD
        (if .reset ∈ items then none else s.value facet) := by
  induction items using List.reverseRecOn with
  | nil => rfl
  | append_singleton items item ih =>
    rw [List.foldl_append, List.foldl_cons, List.foldl_nil]
    by_cases hreset : item = .reset
    · rw [hreset, List.rtakeWhile_concat_neg _ _ _ (by simp), if_pos (by simp)]
      cases facet <;> rfl
    · rw [List.rtakeWhile_concat_pos _ _ _ (by simpa using hreset), value_interpret hreset, ih,
        left_append]
      have hmem : Sgr.reset ∈ items ++ [item] ↔ Sgr.reset ∈ items := by simp [Ne.symm hreset]
      have hone : paint.left [item] facet = paint.sets item facet := by
        rw [left, List.filterMap_cons]
        cases paint.sets item facet <;> rfl
      rw [hone]
      cases paint.sets item facet <;> simp [hmem]

/-- **The code is the sequence** exactly if there is no zero among the codes, be it a colour's
argument, or nothing shows of what the zero clears. -/
theorem applySgr_sequential (paint : Paint) (params : List Char) (styles : SgrStyle)
    (items : List Sgr) (hitems : codesOf params = items.flatMap Sgr.codes) :
    paint.applySgr params styles = items.foldl paint.interpret styles ↔
      (0 ∈ codesOf params → paint.Covered styles items) := by
  have hsplit : items.rdropWhile (· ≠ .reset) ++ items.rtakeWhile (· ≠ .reset) = items :=
    List.rdropWhile_append_rtakeWhile
  rw [SgrStyle.ext_value, applySgr]
  by_cases hzero : 0 ∈ codesOf params
  · rw [if_pos (by simpa using hzero), hitems, forall_prop_of_true (hitems ▸ hzero)]
    refine forall_congr' fun facet => ?_
    have hleft := @left_append paint (items.rdropWhile (· ≠ .reset))
      (items.rtakeWhile (· ≠ .reset)) facet
    rw [hsplit] at hleft
    rw [value_sgrLoop, value_interpret_all, hleft]
    cases paint.left (items.rtakeWhile (· ≠ .reset)) facet with
    | some value => simp
    | none =>
      rw [SgrStyle.value_default]
      by_cases hreset : .reset ∈ items
      · cases paint.left (items.rdropWhile (· ≠ .reset)) facet <;> simp [hreset]
      · have hnone : items.rdropWhile (· ≠ .reset) = [] := by
          rw [List.rdropWhile_eq_nil_iff]
          exact fun item hitem => decide_eq_true (fun heq => hreset (heq ▸ hitem))
        rw [hnone]
        simp [hreset, left, eq_comm]
  · have hreset : .reset ∉ items := fun hmem =>
      hzero (hitems ▸ List.mem_flatMap.mpr ⟨.reset, hmem, List.mem_singleton_self 0⟩)
    have hall : items.rtakeWhile (· ≠ .reset) = items := by
      rw [List.rtakeWhile_eq_self_iff]
      exact fun item hitem => decide_eq_true (fun heq => hreset (heq ▸ hitem))
    rw [if_neg (by simpa using hzero), hitems]
    refine iff_of_true (fun facet => ?_) (fun h => absurd (hitems ▸ h) hzero)
    rw [value_sgrLoop, value_interpret_all, hall, if_neg hreset]

/-- The dark scheme, with the colours as they are. -/
def plain : Paint := ⟨.dark, id, id⟩

theorem applySgr_sequential_sample :
    plain.applySgr "0;1;38;5;0".toList { dim := true } =
      { color := some "#555", bold := true } :=
  (applySgr_sequential plain _ _ [.reset, .bold, .indexed .foreground 0] (by decide)).mpr
    fun _ facet => by cases facet <;> decide

/-- **A reset that comes late, and a zero that is none.** After `1;0` the text is bold, and after
`38;5;0` it no longer is. -/
theorem sgr_zero_misread :
    (codesOf "1;0".toList = [Sgr.bold, .reset].flatMap Sgr.codes ∧
      (plain.applySgr "1;0".toList {}).bold = true ∧
      ([Sgr.bold, .reset].foldl plain.interpret {}).bold = false) ∧
    codesOf "38;5;0".toList = [Sgr.indexed .foreground 0].flatMap Sgr.codes ∧
      (plain.applySgr "38;5;0".toList { bold := true }).bold = false ∧
      ([Sgr.indexed .foreground 0].foldl plain.interpret { bold := true }).bold = true := by
  decide

end Paint

end Lerdr.Terminal
