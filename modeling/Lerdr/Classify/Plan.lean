/-
# Lerdr.Classify.Plan — the keys that answer a Claude question (`classify/input.rs`).

`planClaudeInput` turns an answer into keys and texts for the form on the screen. It never looks at
the form while they are sent: it keeps a copy of the interaction, moves the copy's focus and marks
with each step it plans, and counts rows from there. So its correctness is a simulation: the form,
after the steps planned so far, is the one the copy describes.

The form of §2 is the screen: rows for the options and for `Other` unless it is hidden, then Submit,
then Chat. It is strict: a key that would take the focus off the rows, or one that means nothing
where it is pressed, is not accepted at all.
-/
import Lerdr.Classify.Model

namespace Lerdr.Classify

open Lerdr.Rust

/-! ## §1 — the planner -/

/-- The keys of a plan. -/
inductive Key where
  | up
  | down
  | enter
  | ctrlU
  | space
  | tab
  | escape
  | right
  deriving DecidableEq, Repr

structure InputStep where
  keys : List Key := []
  text : Text := []
  deriving DecidableEq, Repr

/-- `position` of `navigation_keys`. -/
def Interaction.position (interaction : Interaction) (focus : QuestionFocus) : Int :=
  match focus.kind with
  | .option => focus.index
  | .submit => if interaction.kind = .multiSelect then interaction.allOptionCount else 0
  | .chat => interaction.allOptionCount + if interaction.kind = .multiSelect then 1 else 0
  | .other => 0

/-- `Up` or `Down`, as often as two positions are apart: the end of each navigation function. -/
def travelKeys (start stop : Int) : List Key :=
  let distance := stop - start
  if distance < 0 then List.replicate (-distance).toNat .up
  else List.replicate distance.toNat .down

/-- The keys from the focus to a target, by the positions of `place`. -/
def route (place : Interaction → QuestionFocus → Int) (interaction : Interaction)
    (target : QuestionFocus) : List Key :=
  travelKeys (place interaction interaction.focus) (place interaction target)

def navigationKeys : Interaction → QuestionFocus → List Key := route Interaction.position

/-- The row of `Other`, as the planner addresses it: the last option row. -/
def Interaction.otherTarget (interaction : Interaction) : QuestionFocus :=
  { kind := .option, index := interaction.allOptionCount - 1 }

/-- One turn of the loop over the options, where the copy records the toggle. -/
def markOption (keysTo : Interaction → QuestionFocus → List Key) (payload : QuestionPayload)
    (plan : Interaction × List InputStep) (index : Nat) : Interaction × List InputStep :=
  let (current, steps) := plan
  let desired := payload.selected.contains (index : Int)
  match current.options[index]? with
  | none => plan
  | some option =>
    if option.selected = desired then plan
    else
      let target : QuestionFocus := { kind := .option, index }
      ({ current with
          focus := target
          options := current.options.set index { option with selected := desired } },
        steps ++ [{ keys := keysTo current target ++ [.enter] }])

/-- The loop over the options of `plan_claude_input`. -/
def planOptions (interaction : Interaction) (payload : QuestionPayload) :
    Interaction × List InputStep :=
  (List.range interaction.options.length).foldl (markOption navigationKeys payload)
    (interaction, [])

/-- The free text is cleared and typed, where it differs. -/
def planOtherText (payload : QuestionPayload) (plan : Interaction × List InputStep) :
    Interaction × List InputStep :=
  let (current, steps) := plan
  if current.other.text ≠ payload.otherText then
    ({ current with focus := current.otherTarget },
      steps ++ [{ keys := navigationKeys current current.otherTarget ++ [.ctrlU] }] ++
        if payload.otherText ≠ [] then [{ text := payload.otherText }] else [])
  else plan

/-- `Other` is toggled, where it differs. -/
def planOtherMark (payload : QuestionPayload) (plan : Interaction × List InputStep) :
    Interaction × List InputStep :=
  let (current, steps) := plan
  if current.other.selected ≠ payload.otherSelected then
    ({ current with focus := current.otherTarget },
      steps ++ [{ keys := navigationKeys current current.otherTarget ++ [.enter] }])
  else plan

/-- The single-select half of `plan_claude_input`. -/
def planClaudeSingle (interaction : Interaction) (payload : QuestionPayload) : List InputStep :=
  match payload.selected with
  | first :: _ =>
    let target : QuestionFocus := { kind := .option, index := first.toNat }
    if !interaction.other.hidden && interaction.other.text ≠ [] && payload.otherText = [] then
      [{ keys := navigationKeys interaction interaction.otherTarget ++ [.ctrlU] },
        { keys := navigationKeys { interaction with focus := interaction.otherTarget } target ++
            [.enter] }]
    else [{ keys := navigationKeys interaction target ++ [.enter] }]
  | [] =>
    [{ keys := navigationKeys interaction interaction.otherTarget ++ [.ctrlU] }] ++
      (if payload.otherText ≠ [] then [{ text := payload.otherText }] else []) ++
      [{ keys := [.enter] }]

def planClaudeInput (interaction : Interaction) (payload : QuestionPayload) : List InputStep :=
  if interaction.kind = .singleSelect then planClaudeSingle interaction payload
  else
    let (current, steps) :=
      planOtherMark payload (planOtherText payload (planOptions interaction payload))
    steps ++ [{ keys := navigationKeys current { kind := .submit } ++ [.enter] }]

/-! ## §2 — the form on the screen -/

/-- The row of a free answer, where there is one: its mark and its text. -/
abbrev OtherRow := Option (Bool × Text)

def OtherRow.mark (row : OtherRow) : Bool := (row.map Prod.fst).getD false

def OtherRow.text (row : OtherRow) : Text := (row.map Prod.snd).getD []

/-- Something that takes keys and typed text, and may refuse them. -/
class Screen (σ : Type) where
  press : σ → Key → Option σ
  type : σ → Text → Option σ

namespace Screen

variable {σ : Type} [Screen σ]

/-- One step as it is sent: its text, if there is one, and then its keys. -/
def enact (s : σ) (step : InputStep) : Option σ := do
  let typed ← if step.text.isEmpty then some s else type s step.text
  step.keys.foldlM press typed

def run (s : σ) (steps : List InputStep) : Option σ := steps.foldlM enact s

theorem run_append (s : σ) (xs ys : List InputStep) :
    run s (xs ++ ys) = (run s xs).bind fun t => run t ys := by
  rw [run, List.foldlM_append]
  rfl

theorem run_keys (s : σ) (keys : List Key) : run s [{ keys }] = keys.foldlM press s := by
  simp [run, enact]

end Screen

/-- A Claude multi-select form: the marks of the option rows, the mark and text of `Other` unless it
is hidden, the row of the focus, and whether it was submitted. -/
structure Form where
  options : List Bool
  other : OtherRow
  focus : Nat
  submitted : Bool := false
  deriving DecidableEq, Repr

namespace Form

/-- The number of option rows, `Other` included: the row of Submit. Chat comes after it. -/
def submitRow (f : Form) : Nat := f.options.length + if f.other.isSome then 1 else 0

/-- One key, if it means something where it is pressed and keeps the focus on the rows. -/
def press (f : Form) (key : Key) : Option Form :=
  if f.submitted then none
  else match key with
    | .up => if f.focus = 0 then none else some { f with focus := f.focus - 1 }
    | .down => if f.focus ≤ f.submitRow then some { f with focus := f.focus + 1 } else none
    | .enter =>
      match f.options[f.focus]? with
      | some mark => some { f with options := f.options.set f.focus !mark }
      | none =>
        if f.focus = f.submitRow then some { f with submitted := true }
        else match f.other with
          | some (mark, text) =>
            if f.focus = f.options.length then some { f with other := some (!mark, text) } else none
          | none => none
    | .ctrlU =>
      match f.other with
      | some (mark, _) =>
        if f.focus = f.options.length then some { f with other := some (mark, []) } else none
      | none => none
    | .space | .tab | .escape | .right => none

/-- Text typed: it goes to the end of `Other`'s. -/
def type (f : Form) (typed : Text) : Option Form :=
  match f.other with
  | some (mark, text) =>
    if f.focus = f.options.length ∧ f.submitted = false then
      some { f with other := some (mark, text ++ typed) }
    else none
  | none => none

instance : Screen Form := ⟨press, type⟩

theorem screen_press : (Screen.press : Form → Key → Option Form) = press := rfl

theorem screen_type : (Screen.type : Form → Text → Option Form) = type := rfl

end Form

def Interaction.row (interaction : Interaction) (focus : QuestionFocus) : Nat :=
  match focus.kind with
  | .option => focus.index
  | .other => interaction.allOptionCount - 1
  | .submit => interaction.allOptionCount
  | .chat => interaction.allOptionCount + 1

def Interaction.form (interaction : Interaction) : Form where
  options := interaction.options.map (·.selected)
  other :=
    if interaction.other.hidden then none
    else some (interaction.other.selected, interaction.other.text)
  focus := interaction.row interaction.focus

/-- **A multi-select interaction of a Claude form**: its rows are the options and, unless hidden,
`Other`; a hidden `Other` has no mark and no text; and the focus is addressed by one of these rows,
Submit or Chat. `Other` is the last option row, as the parser has it. -/
structure Interaction.Formed (interaction : Interaction) : Prop where
  kind : interaction.kind = .multiSelect
  rows : interaction.allOptionCount =
    interaction.options.length + if interaction.other.hidden then 0 else 1
  hidden : interaction.other.hidden = true →
    interaction.other.selected = false ∧ interaction.other.text = []
  focus : interaction.focus.kind ≠ .other ∧
    (interaction.focus.kind = .option → interaction.focus.index < interaction.allOptionCount)

/-! ## §3 — walking -/

section Walk

variable {σ : Type} {press : σ → Key → Option σ} {F : Nat → σ} {last : Nat}

theorem foldlM_down (hdown : ∀ r < last, press (F r) .down = some (F (r + 1)))
    (n : Nat) {row : Nat} (hn : row + n ≤ last) :
    (List.replicate n Key.down).foldlM press (F row) = some (F (row + n)) := by
  induction n generalizing row with
  | zero => rfl
  | succ n ih =>
    have hrest : row + 1 + n ≤ last := by omega
    rw [List.replicate_succ, List.foldlM_cons, hdown row (by omega), Option.bind_eq_bind,
      Option.bind_some, ih hrest, Nat.add_assoc, Nat.add_comm 1 n]

theorem foldlM_up (hup : ∀ r < last, press (F (r + 1)) .up = some (F r))
    (n : Nat) {row : Nat} (hrow : row + n ≤ last) :
    (List.replicate n Key.up).foldlM press (F (row + n)) = some (F row) := by
  induction n with
  | zero => rfl
  | succ n ih =>
    have hfirst : row + n < last := by omega
    rw [List.replicate_succ, List.foldlM_cons, ← Nat.add_assoc, hup _ hfirst, Option.bind_eq_bind,
      Option.bind_some, ih hfirst.le]

/-- **The keys between two rows walk from the one to the other**, on any form whose `Up` and `Down`
move by one row. -/
theorem foldlM_travelKeys (hup : ∀ r < last, press (F (r + 1)) .up = some (F r))
    (hdown : ∀ r < last, press (F r) .down = some (F (r + 1)))
    {start stop : Nat} (hstart : start ≤ last) (hstop : stop ≤ last) :
    (travelKeys start stop).foldlM press (F start) = some (F stop) := by
  simp only [travelKeys]
  split
  · obtain ⟨n, rfl⟩ := Nat.exists_eq_add_of_le (show stop ≤ start by omega)
    have hn : (-((stop : Int) - (stop + n : Nat))).toNat = n := by omega
    rw [hn, foldlM_up hup n hstart]
  · obtain ⟨n, rfl⟩ := Nat.exists_eq_add_of_le (show start ≤ stop by omega)
    have hn : (((start + n : Nat) : Int) - start).toNat = n := by omega
    rw [hn, foldlM_down hdown n hstop]

end Walk

/-- **The copy describes the form**: its rows and their marks, and the focus. What the planner
writes into `Other` it does not enter into its copy. -/
structure Tracks (current : Interaction) (f : Form) : Prop where
  formed : current.Formed
  focus : f.focus = current.row current.focus
  options : f.options = current.options.map (·.selected)
  shown : f.other.isSome = !current.other.hidden
  unsent : f.submitted = false

theorem Interaction.Formed.tracks {interaction : Interaction} (h : interaction.Formed) :
    Tracks interaction interaction.form where
  formed := h
  focus := rfl
  options := rfl
  shown := by
    cases hhidden : interaction.other.hidden <;> simp [form, hhidden]
  unsent := rfl

/-- The form's `Other` is the interaction's. -/
theorem Interaction.Formed.other_form {interaction : Interaction} (h : interaction.Formed) :
    interaction.form.other.mark = interaction.other.selected ∧
      interaction.form.other.text = interaction.other.text := by
  cases hhidden : interaction.other.hidden with
  | false => simp [OtherRow.mark, OtherRow.text, form, hhidden]
  | true => simp [OtherRow.mark, OtherRow.text, form, hhidden, h.hidden hhidden]

namespace Tracks

variable {current : Interaction} {f : Form} {payload : QuestionPayload}

theorem submitRow (h : Tracks current f) : f.submitRow = current.allOptionCount := by
  rw [Form.submitRow, h.options, List.length_map, h.formed.rows, h.shown]
  cases current.other.hidden <;> rfl

section

variable (h : Tracks current f) {target : QuestionFocus} (hkind : target.kind ≠ .other)
  (hindex : target.kind = .option → target.index < current.allOptionCount)
include h hkind hindex

/-- **The planned keys walk to their target**, over rows only. -/
theorem walk :
    (navigationKeys current target).foldlM Form.press f
      = some { f with focus := current.row target } := by
  have hposition : ∀ focus : QuestionFocus, focus.kind ≠ .other →
      current.position focus = current.row focus := by
    intro focus hother
    unfold Interaction.position Interaction.row
    cases hfocus : focus.kind with
    | option => rfl
    | submit => simp [h.formed.kind]
    | chat => simp [h.formed.kind]
    | other => exact absurd hfocus hother
  have hrows : ∀ focus : QuestionFocus, focus.kind ≠ .other →
      (focus.kind = .option → focus.index < current.allOptionCount) →
      current.row focus ≤ current.allOptionCount + 1 := by
    intro focus hother hoption
    unfold Interaction.row
    cases hfocus : focus.kind with
    | option => exact (hoption hfocus).le.trans (Nat.le_succ _)
    | submit => exact Nat.le_succ _
    | chat => exact le_refl _
    | other => exact absurd hfocus hother
  have hhere : f.focus ≤ current.allOptionCount + 1 := by
    rw [h.focus]
    exact hrows current.focus h.formed.focus.1 h.formed.focus.2
  have hkeys : navigationKeys current target = travelKeys f.focus (current.row target) := by
    rw [h.focus, ← hposition target hkind, ← hposition current.focus h.formed.focus.1]
    rfl
  rw [hkeys]
  refine foldlM_travelKeys (F := fun row => { f with focus := row }) ?_ ?_ hhere
    (hrows target hkind hindex)
  · intro row _
    simp [Form.press, h.unsent]
  · intro row hrow
    have hle : row ≤ f.submitRow := by
      rw [h.submitRow]
      omega
    simp only [Form.press, h.unsent, Bool.false_eq_true, if_false]
    exact if_pos hle

theorem refocus :
    Tracks { current with focus := target } { f with focus := current.row target } :=
  ⟨⟨h.formed.kind, h.formed.rows, h.formed.hidden, hkind, hindex⟩, rfl, h.options, h.shown,
    h.unsent⟩

/-! ## §4 — the four parts of a plan -/

/-- Walking to a row and pressing one more key there. -/
theorem walk_then (key : Key) :
    Screen.run f [{ keys := navigationKeys current target ++ [key] }]
      = Form.press { f with focus := current.row target } key := by
  rw [Screen.run_keys, Form.screen_press, List.foldlM_append, h.walk hkind hindex]
  simp

end

/-- One turn of the loop: the option has the mark the answer gives it, the others keep theirs. -/
theorem planOption (payload : QuestionPayload) (h : Tracks current f) {index : Nat}
    (hindex : index < current.options.length) (steps : List InputStep) :
    ∃ current' new g,
      Classify.markOption navigationKeys payload (current, steps) index = (current', steps ++ new) ∧
      Screen.run f new = some g ∧ Tracks current' g ∧ g.other = f.other ∧
      current'.other = current.other ∧ current'.options.length = current.options.length ∧
      g.options = f.options.set index (payload.selected.contains (index : Int)) := by
  have hget : current.options[index]? = some (current.options[index]) :=
    List.getElem?_eq_getElem hindex
  have hflag : f.options[index]? = some current.options[index].selected := by
    rw [h.options, List.getElem?_map, hget]
    rfl
  simp only [Classify.markOption, hget]
  by_cases hsame : current.options[index].selected = payload.selected.contains (index : Int)
  · rw [if_pos hsame]
    refine ⟨current, [], f, by rw [List.append_nil], rfl, h, rfl, rfl, rfl, ?_⟩
    obtain ⟨hlt, heq⟩ := List.getElem?_eq_some_iff.mp (hsame ▸ hflag)
    rw [← heq, List.set_getElem_self]
  · rw [if_neg hsame]
    have hrow : index < current.allOptionCount := by
      have := h.formed.rows
      omega
    -- the two marks differ, so the toggle gives the answer's
    have hflip : (!current.options[index].selected) = payload.selected.contains (index : Int) := by
      revert hsame
      cases current.options[index].selected <;> simp
    refine ⟨_, _, { f with
      focus := index, options := f.options.set index !current.options[index].selected },
      rfl, ?_, ?_, rfl, rfl, List.length_set, by rw [hflip]⟩
    · rw [h.walk_then (by simp) (fun _ => hrow)]
      simp [Form.press, h.unsent, Interaction.row, hflag]
    · have hrows : current.allOptionCount =
          (current.options.set index { current.options[index] with
            selected := payload.selected.contains (index : Int) }).length +
            if current.other.hidden then 0 else 1 := by
        rw [List.length_set]
        exact h.formed.rows
      refine ⟨⟨h.formed.kind, hrows, h.formed.hidden, by simp, fun _ => hrow⟩, rfl, ?_, h.shown,
        h.unsent⟩
      simp only [h.options, List.map_set, hflip]

/-- The loop over the options: every option has the answer's mark. -/
theorem planOptions (payload : QuestionPayload) (h : Tracks current f) :
    ∃ current' steps g, Classify.planOptions current payload = (current', steps) ∧
      Screen.run f steps = some g ∧ Tracks current' g ∧ g.other = f.other ∧
      current'.other = current.other ∧ g.options.length = current.options.length ∧
      ∀ i < current.options.length, g.options[i]? = some (payload.selected.contains (i : Int)) := by
  -- by the number of options done; the flags of the later ones are untouched
  have hloop : ∀ n ≤ current.options.length, ∃ current' steps g,
      (List.range n).foldl (markOption navigationKeys payload) (current, []) = (current', steps) ∧
      Screen.run f steps = some g ∧ Tracks current' g ∧ g.other = f.other ∧
      current'.other = current.other ∧ current'.options.length = current.options.length ∧
      ∀ i < n, g.options[i]? = some (payload.selected.contains (i : Int)) := by
    intro n
    induction n with
    | zero => exact fun _ => ⟨current, [], f, rfl, rfl, h, rfl, rfl, rfl, fun i hi => by omega⟩
    | succ n ih =>
      intro hn
      obtain ⟨mid, steps, m, hplan, hrun, htracks, hother, hkept, hlength, hdone⟩ := ih (by omega)
      have hindex : n < mid.options.length := by omega
      obtain ⟨next, new, g, hturn, hnew, htracks', hother', hkept', hlength', hset⟩ :=
        htracks.planOption payload hindex steps
      refine ⟨next, steps ++ new, g, ?_, ?_, htracks', hother'.trans hother, hkept'.trans hkept,
        hlength'.trans hlength, ?_⟩
      · rw [List.range_succ, List.foldl_append, hplan, List.foldl_cons, hturn, List.foldl_nil]
      · rw [Screen.run_append, hrun, Option.bind_some, hnew]
      · intro i hi
        have hm : m.options.length = current.options.length := by
          rw [htracks.options, List.length_map, hlength]
        rw [hset]
        by_cases heq : i = n
        · subst heq
          rw [List.getElem?_set_self (by omega)]
        · rw [List.getElem?_set_ne (Ne.symm heq)]
          exact hdone i (by omega)
  obtain ⟨current', steps, g, hplan, hrun, htracks, hother, hkept, hlength, hdone⟩ :=
    hloop current.options.length (le_refl _)
  refine ⟨current', steps, g, hplan, hrun, htracks, hother, hkept, ?_, hdone⟩
  rw [htracks.options, List.length_map, hlength]

section

variable (h : Tracks current f) (hshown : current.other.hidden = false)
include h hshown

/-- The row of `Other`, where it is shown. -/
theorem other_row :
    current.otherTarget.index < current.allOptionCount ∧
      current.row current.otherTarget = f.options.length := by
  have hrows := h.formed.rows
  rw [hshown] at hrows
  simp only [Bool.false_eq_true, if_false] at hrows
  simp only [Interaction.otherTarget, Interaction.row, h.options, List.length_map, hrows]
  omega

/-- The focus moved to `Other`, whatever its mark and text are there. -/
theorem at_other (other : Bool × Text) :
    Tracks { current with focus := current.otherTarget }
      { f with focus := f.options.length, other := some other } := by
  obtain ⟨hindex, hrow⟩ := h.other_row hshown
  have hkind : current.otherTarget.kind ≠ .other := by simp [Interaction.otherTarget]
  exact ⟨(h.refocus hkind fun _ => hindex).formed, hrow.symm, h.options, by rw [hshown]; rfl,
    h.unsent⟩

theorem shown_other :
    ∃ mark text, f.other = some (mark, text) := by
  have hsome := h.shown
  rw [hshown] at hsome
  obtain ⟨⟨mark, text⟩, hother⟩ := Option.isSome_iff_exists.mp hsome
  exact ⟨mark, text, hother⟩

end

/-- The text of `Other` becomes the answer's, where `Other` is shown or the texts agree. -/
theorem planOtherText (h : Tracks current f) (htext : f.other.text = current.other.text)
    (hhidden : current.other.hidden = true → current.other.text = payload.otherText)
    (steps : List InputStep) :
    ∃ current' new g, Classify.planOtherText payload (current, steps) = (current', steps ++ new) ∧
      Screen.run f new = some g ∧ Tracks current' g ∧ g.other.text = payload.otherText ∧
      g.other.mark = f.other.mark ∧ g.options = f.options ∧ current'.other = current.other := by
  simp only [Classify.planOtherText]
  by_cases hsame : current.other.text = payload.otherText
  · rw [if_neg (not_not.mpr hsame)]
    exact ⟨current, [], f, by rw [List.append_nil], rfl, h, htext.trans hsame, rfl, rfl, rfl⟩
  · rw [if_pos hsame]
    have hshown : current.other.hidden = false :=
      Bool.eq_false_iff.mpr fun hh => hsame (hhidden hh)
    obtain ⟨hindex, hrow⟩ := h.other_row hshown
    obtain ⟨mark, text, hother⟩ := h.shown_other hshown
    have hcleared : Screen.run f
          [{ keys := navigationKeys current current.otherTarget ++ [.ctrlU] }]
        = some { f with focus := f.options.length, other := some (mark, []) } := by
      rw [h.walk_then (by simp [Interaction.otherTarget]) (fun _ => hindex), hrow]
      simp [Form.press, h.unsent, hother]
    have htyped : Screen.run { f with focus := f.options.length, other := some (mark, []) }
          (if payload.otherText ≠ [] then [{ text := payload.otherText }] else [])
        = some { f with focus := f.options.length, other := some (mark, payload.otherText) } := by
      by_cases hempty : payload.otherText = []
      · rw [if_neg (not_not.mpr hempty), hempty]
        rfl
      · rw [if_pos hempty]
        simp [Screen.run, Screen.enact, Form.screen_type, Form.type, hempty, h.unsent]
    refine ⟨{ current with focus := current.otherTarget }, _,
      { f with focus := f.options.length, other := some (mark, payload.otherText) },
      by rw [List.append_assoc], ?_, ?_, rfl, ?_, rfl, rfl⟩
    · rw [Screen.run_append, hcleared, Option.bind_some, htyped]
    · exact h.at_other hshown _
    · rw [OtherRow.mark, OtherRow.mark, hother]
      rfl

/-- The mark of `Other` becomes the answer's, where `Other` is shown or the marks agree. -/
theorem planOtherMark (h : Tracks current f) (hmark : f.other.mark = current.other.selected)
    (hhidden : current.other.hidden = true → current.other.selected = payload.otherSelected)
    (steps : List InputStep) :
    ∃ current' new g, Classify.planOtherMark payload (current, steps) = (current', steps ++ new) ∧
      Screen.run f new = some g ∧ Tracks current' g ∧ g.other.mark = payload.otherSelected ∧
      g.other.text = f.other.text ∧ g.options = f.options := by
  simp only [Classify.planOtherMark]
  by_cases hsame : current.other.selected = payload.otherSelected
  · rw [if_neg (not_not.mpr hsame)]
    exact ⟨current, [], f, by rw [List.append_nil], rfl, h, hmark.trans hsame, rfl, rfl⟩
  · rw [if_pos hsame]
    have hshown : current.other.hidden = false :=
      Bool.eq_false_iff.mpr fun hh => hsame (hhidden hh)
    obtain ⟨hindex, hrow⟩ := h.other_row hshown
    obtain ⟨mark, text, hother⟩ := h.shown_other hshown
    have hold : mark = current.other.selected := by
      rw [← hmark, OtherRow.mark, hother]
      rfl
    have htoggled : Screen.run f
          [{ keys := navigationKeys current current.otherTarget ++ [.enter] }]
        = some { f with focus := f.options.length, other := some (!mark, text) } := by
      rw [h.walk_then (by simp [Interaction.otherTarget]) (fun _ => hindex), hrow]
      simp [Form.press, h.unsent, hother, Form.submitRow]
    refine ⟨{ current with focus := current.otherTarget }, _,
      { f with focus := f.options.length, other := some (!mark, text) }, rfl, htoggled, ?_, ?_, ?_,
      rfl⟩
    · exact h.at_other hshown _
    · rw [← hold] at hsame
      show (!mark) = payload.otherSelected
      revert hsame
      cases mark <;> simp
    · rw [OtherRow.text, OtherRow.text, hother]
      rfl

/-- The last step submits the form as it is. -/
theorem submit (h : Tracks current f) :
    Screen.run f [{ keys := navigationKeys current { kind := .submit } ++ [.enter] }]
      = some { f with focus := current.allOptionCount, submitted := true } := by
  rw [h.walk_then (by simp) (by simp)]
  have hrow := h.submitRow
  have hpast : f.options[current.allOptionCount]? = none := by
    rw [List.getElem?_eq_none_iff, ← hrow, Form.submitRow]
    exact Nat.le_add_right _ _
  have hkeep : ∀ sent, Form.submitRow
      { f with focus := current.allOptionCount, submitted := sent } = current.allOptionCount :=
    fun _ => hrow
  simp [Form.press, h.unsent, Interaction.row, hpast, hkeep]

end Tracks

/-- Marks that agree with an answer on every option mark the answer's options and no others. -/
theorem selected_iff_marked {payload : QuestionPayload} {interaction : Interaction}
    (h : payload.Answers interaction) {marks : List Bool}
    (hlength : marks.length = interaction.options.length)
    (hmarks : ∀ i < interaction.options.length,
      marks[i]? = some (payload.selected.contains (i : Int))) (k : Int) :
    k ∈ payload.selected ↔ ∃ i : Nat, k = i ∧ marks[i]? = some true := by
  constructor
  · intro hk
    obtain ⟨hlo, hhi⟩ := h.options k hk
    obtain ⟨i, rfl⟩ := Int.eq_ofNat_of_zero_le hlo
    refine ⟨i, rfl, ?_⟩
    rw [hmarks i (by exact_mod_cast hhi)]
    exact congrArg some (List.contains_iff_mem.mpr hk)
  · rintro ⟨i, rfl, hi⟩
    have hlt : i < interaction.options.length := by
      rw [← hlength]
      exact (List.getElem?_eq_some_iff.mp hi).1
    rw [hmarks i hlt] at hi
    exact List.contains_iff_mem.mp (Option.some.inj hi)

/-- **A Claude plan gives the answer.** From the form that a multi-select interaction describes, all
keys and texts of the plan of an accepted answer are accepted by the form, so that the focus never
leaves its rows, and they end with its submission, in which the options of the answer and no others
are selected, and `Other` has the answer's mark and text. -/
theorem plan_claude_answers {interaction : Interaction} (hformed : interaction.Formed)
    {message : AnswerMessage} {payload : QuestionPayload}
    (hdecode : decodeAnswer message = .ok payload)
    (hvalid : validateQuestionPayload interaction payload = .ok ()) :
    ∃ final, Screen.run interaction.form (planClaudeInput interaction payload) = some final ∧
      final.submitted = true ∧
      (∀ k : Int, k ∈ payload.selected ↔ ∃ i : Nat, k = i ∧ final.options[i]? = some true) ∧
      final.other.mark = payload.otherSelected ∧ final.other.text = payload.otherText := by
  have hanswers := answers_of_accepted hdecode hvalid
  obtain ⟨hmark, htext⟩ := hformed.other_form
  obtain ⟨c₁, steps₁, f₁, hplan₁, hrun₁, htracks₁, hother₁, hkept₁, hlength₁, hdone⟩ :=
    hformed.tracks.planOptions payload
  have htext₁ : f₁.other.text = c₁.other.text := by
    rw [OtherRow.text, hother₁, hkept₁]
    exact htext
  have hhideText : c₁.other.hidden = true → c₁.other.text = payload.otherText := by
    rw [hkept₁]
    intro hhidden
    -- a hidden `Other` is as the answer has it: without a mark and without text
    rw [(hformed.hidden hhidden).2, hanswers.noText (hanswers.hidden hhidden)]
  obtain ⟨c₂, steps₂, f₂, hplan₂, hrun₂, htracks₂, htext₂, hmark₂, hoptions₂, hkept₂⟩ :=
    htracks₁.planOtherText htext₁ hhideText steps₁
  have hmark₂' : f₂.other.mark = c₂.other.selected := by
    rw [hmark₂, hkept₂, hkept₁, OtherRow.mark, hother₁]
    exact hmark
  have hhideMark : c₂.other.hidden = true → c₂.other.selected = payload.otherSelected := by
    rw [hkept₂, hkept₁]
    intro hhidden
    rw [(hformed.hidden hhidden).1, hanswers.hidden hhidden]
  obtain ⟨c₃, steps₃, f₃, hplan₃, hrun₃, htracks₃, hmark₃, htext₃, hoptions₃⟩ :=
    htracks₂.planOtherMark hmark₂' hhideMark (steps₁ ++ steps₂)
  have hplan : planClaudeInput interaction payload = steps₁ ++ steps₂ ++ steps₃ ++
      [{ keys := navigationKeys c₃ { kind := .submit } ++ [.enter] }] := by
    simp only [planClaudeInput, hformed.kind, reduceCtorEq, if_false, hplan₁, hplan₂, hplan₃]
  have hrun : Screen.run interaction.form (planClaudeInput interaction payload)
      = some { f₃ with focus := c₃.allOptionCount, submitted := true } := by
    rw [hplan, Screen.run_append, Screen.run_append, Screen.run_append, hrun₁, Option.bind_some,
      hrun₂, Option.bind_some, hrun₃, Option.bind_some, htracks₃.submit]
  refine ⟨_, hrun, rfl, ?_, hmark₃, htext₃.trans htext₂⟩
  have hfinal : f₃.options = f₁.options := hoptions₃.trans hoptions₂
  show ∀ k : Int, k ∈ payload.selected ↔ ∃ i : Nat, k = i ∧ f₃.options[i]? = some true
  rw [hfinal]
  exact selected_iff_marked hanswers hlength₁ hdone

/-! ### An answer, and two interactions that no Claude form has -/

/-- Three options, of which the second is selected; the focus is on the first. -/
def sampleQuestion : Interaction where
  kind := .multiSelect
  question := ['?']
  options := [{ index := 0 }, { index := 1, selected := true }, { index := 2 }]
  other := { text := ['x'] }
  submitLabel := []
  canChat := true
  canGoBack := false
  questionIndex := 1
  questionTotal := 1
  focus := {}
  allOptionCount := 4
  agent := .claude

/-- The third option, and a text of one's own. -/
def sampleMessage : AnswerMessage where
  interactionId := ['i']
  selectedIndices := [2]
  otherSelected := true
  otherText := ['y']

/-- The answer that `sampleMessage` is decoded to. -/
def sampleAnswer : QuestionPayload where
  interactionId := ['i']
  selected := [2]
  otherSelected := true
  otherText := ['y']

theorem sampleMessage_decoded : decodeAnswer sampleMessage = .ok sampleAnswer := by
  have hselected : sortedUnique [2] = [2] := sortedUnique_of_increasing (by decide)
  simp [decodeAnswer, hselected, sampleMessage, sampleAnswer, otherTextMaxRunes]

theorem plan_claude_answers_sample :
    sampleQuestion.Formed ∧ decodeAnswer sampleMessage = .ok sampleAnswer ∧
      ∃ final, Screen.run sampleQuestion.form (planClaudeInput sampleQuestion sampleAnswer)
          = some final ∧
        final.submitted = true ∧ final.other.text = ['y'] := by
  have hformed : sampleQuestion.Formed :=
    ⟨rfl, rfl, by decide, by decide, fun _ => by decide⟩
  have hvalid : validateQuestionPayload sampleQuestion sampleAnswer = .ok () := by
    decide +kernel
  obtain ⟨final, hrun, hsubmitted, -, -, htext⟩ :=
    plan_claude_answers hformed sampleMessage_decoded hvalid
  exact ⟨hformed, sampleMessage_decoded, final, hrun, hsubmitted, htext⟩

/-- The focus on `Other` under the name the other families use for it. -/
def otherFocused : Interaction := { sampleQuestion with focus := { kind := .other } }

/-- A hidden `Other` that is selected all the same. -/
def hiddenMarked : Interaction :=
  { sampleQuestion with other := { hidden := true, selected := true }, allOptionCount := 3 }

/-- **The planner relies on the parser.** `navigation_keys` takes a focus of kind `other` for the
first row, and the keys for a focus on the last row then leave the form; and the mark of a hidden
`Other` is cleared on the last option, which the answer selected. -/
theorem unformed_interactions_misread :
    ∃ payload, decodeAnswer { interactionId := ['i'], selectedIndices := [2] } = .ok payload ∧
      validateQuestionPayload otherFocused payload = .ok () ∧
      Screen.run otherFocused.form (planClaudeInput otherFocused payload) = none ∧
      validateQuestionPayload hiddenMarked payload = .ok () ∧
      (Screen.run hiddenMarked.form (planClaudeInput hiddenMarked payload)).map Form.options
        = some [false, false, false] := by
  refine ⟨{ interactionId := ['i'], selected := [2] }, ?_, by decide +kernel, by decide +kernel,
    by decide +kernel, by decide +kernel⟩
  have hselected : sortedUnique [2] = [2] := sortedUnique_of_increasing (by decide)
  simp [decodeAnswer, hselected, otherTextMaxRunes]

end Lerdr.Classify
