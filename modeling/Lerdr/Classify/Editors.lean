/-
# Lerdr.Classify.Editors — answers to forms with an editor for `Other` (`classify/input.rs`).

Qoder, OpenCode and OMP open an editor for a free answer. While it is open it has the keys, and a
plan that believes it open when it is not, or closed when it is open, sends everything that follows
to the wrong place. As in `Lerdr.Classify.Plan` the planners never look at the form again: each
keeps a copy of the interaction and counts rows from there.

The three forms share §2 and the simulation of §3 to §5; `Lerdr.Classify.EditorPlans` puts the
plans together from it. The forms differ in where `Other` and Submit stand, in the key that toggles
an option, in what `Enter` does on an option and on a selected `Other`, and in the key that submits.
Every form is strict: a key without meaning where it is pressed is not accepted.
-/
import Lerdr.Classify.Plan

namespace Lerdr.Classify

open Lerdr.Rust

/-! ## §1 — the planners -/

/-- `position` of `qoder_navigation_keys`. -/
def Interaction.qoderPosition (interaction : Interaction) (focus : QuestionFocus) : Int :=
  match focus.kind with
  | .option => focus.index
  | .submit => interaction.options.length
  | .other => interaction.options.length + if interaction.kind = .multiSelect then 1 else 0
  | .chat => 0

/-- `position` of `opencode_navigation_keys`. -/
def Interaction.opencodePosition (interaction : Interaction) (focus : QuestionFocus) : Int :=
  if focus.kind = .other then interaction.options.length else focus.index

def qoderNavigationKeys : Interaction → QuestionFocus → List Key := route Interaction.qoderPosition

def opencodeNavigationKeys : Interaction → QuestionFocus → List Key :=
  route Interaction.opencodePosition

/-- `other_target` of the Qoder and OpenCode planners. -/
def otherFocus : QuestionFocus := { kind := .other }

/-- Keys that leave an empty editor open, the text of the answer, and `Enter`. -/
def editSteps (keys : List Key) (text : Text) : List InputStep :=
  [{ keys := keys }] ++ (if text ≠ [] then [{ text := text }] else []) ++ [{ keys := [.enter] }]

/-- The open editor of `plan_qoder_multi_input`: filled if the answer has a text, closed in any
case, which leaves `Other` selected. -/
def planQoderNotes (interaction : Interaction) (payload : QuestionPayload) :
    Interaction × List InputStep :=
  if interaction.notesActive then
    ({ interaction with
        focus := otherFocus
        notesActive := false
        other := { interaction.other with selected := true, text := payload.otherText } },
      editSteps [.ctrlU] (if payload.otherSelected then payload.otherText else []))
  else (interaction, [])

/-- `Other` in `plan_qoder_multi_input`. -/
def planQoderOther (payload : QuestionPayload) (notesHandled : Bool)
    (plan : Interaction × List InputStep) : Interaction × List InputStep :=
  let (current, steps) := plan
  if payload.otherSelected && !notesHandled then
    ({ current with focus := otherFocus },
      steps ++ editSteps (qoderNavigationKeys current otherFocus ++ [.enter, .ctrlU])
        payload.otherText)
  else if !payload.otherSelected && current.other.selected then
    ({ current with focus := otherFocus },
      steps ++ [{ keys := qoderNavigationKeys current otherFocus ++ [.enter] }])
  else plan

def planQoderMultiInput (interaction : Interaction) (payload : QuestionPayload) :
    List InputStep :=
  let plan := (List.range interaction.options.length).foldl
    (markOption qoderNavigationKeys payload) (planQoderNotes interaction payload)
  let (current, steps) := planQoderOther payload interaction.notesActive plan
  steps ++ [{ keys := qoderNavigationKeys current { kind := .submit } ++ [.enter] }]

/-- The open editor of `plan_opencode_multi_input`: left with `Escape` if the answer does not select
`Other`. -/
def planOpencodeNotes (interaction : Interaction) (payload : QuestionPayload) :
    Interaction × List InputStep :=
  if interaction.notesActive then
    if payload.otherSelected then
      ({ interaction with
          focus := otherFocus
          notesActive := false
          other := { interaction.other with selected := true, text := payload.otherText } },
        editSteps [.ctrlU] payload.otherText)
    else
      ({ interaction with focus := otherFocus, notesActive := false }, [{ keys := [.escape] }])
  else (interaction, [])

/-- `Other` in `plan_opencode_multi_input`. -/
def planOpencodeOther (payload : QuestionPayload) (plan : Interaction × List InputStep) :
    Interaction × List InputStep :=
  let (current, steps) := plan
  if payload.otherSelected &&
      (!current.other.selected || decide (current.other.text ≠ payload.otherText)) then
    ({ current with focus := otherFocus },
      steps ++ editSteps (opencodeNavigationKeys current otherFocus ++ [.enter, .ctrlU])
        payload.otherText)
  else if !payload.otherSelected && current.other.selected then
    ({ current with focus := otherFocus },
      steps ++ [{ keys := opencodeNavigationKeys current otherFocus ++ [.enter] }])
  else plan

def planOpencodeMultiInput (interaction : Interaction) (payload : QuestionPayload) :
    List InputStep :=
  let plan := (List.range interaction.options.length).foldl
    (markOption opencodeNavigationKeys payload) (planOpencodeNotes interaction payload)
  (planOpencodeOther payload plan).2 ++ [{ keys := [.tab] }]

/-- One turn of the loop over the options in `plan_omp_input`: the copy moves its focus and keeps
its marks. -/
def markOmpOption (payload : QuestionPayload) (plan : Interaction × List InputStep) (index : Nat) :
    Interaction × List InputStep :=
  let (current, steps) := plan
  let desired := payload.selected.contains (index : Int)
  match current.options[index]? with
  | none => plan
  | some option =>
    if option.selected = desired then plan
    else
      let target : QuestionFocus := { kind := .option, index }
      let toggle : Key := if current.ompSpaceToggle then .space else .enter
      ({ current with focus := target },
        steps ++ [{ keys := navigationKeys current target ++ [toggle] }])

/-- The single-select half of `plan_omp_input`. -/
def planOmpSingle (interaction : Interaction) (payload : QuestionPayload) : List InputStep :=
  match payload.selected with
  | first :: _ =>
    [{ keys := navigationKeys interaction { kind := .option, index := first.toNat } ++ [.enter] }]
  | [] =>
    editSteps (navigationKeys interaction interaction.otherTarget ++ [.enter, .ctrlU])
      payload.otherText

/-- `plan_omp_input`. -/
def planOmpInput (interaction : Interaction) (payload : QuestionPayload) : List InputStep :=
  if interaction.kind = .singleSelect then planOmpSingle interaction payload
  else
    let (current, steps) := (List.range interaction.options.length).foldl (markOmpOption payload)
      (interaction, [])
    if payload.otherSelected || (current.ompSpaceToggle && current.other.selected) then
      steps ++ editSteps (navigationKeys current current.otherTarget ++ [.enter, .ctrlU])
          (if payload.otherSelected then payload.otherText else []) ++
        if current.ompSpaceToggle then [{ keys := [.up, .enter] }] else []
    else if current.ompSpaceToggle then steps ++ [{ keys := [.enter] }]
    else if 1 < current.questionTotal then steps ++ [{ keys := [.right] }]
    else if payload.selected = [] then steps
    else
      -- down to the row after the options, which submits
      steps ++ [{ keys := List.replicate (current.options.length - current.focus.index) .down ++
        [.enter] }]

/-! ## §2 — the forms -/

/-- Whose form it is. -/
inductive Dialect where
  | qoder
  | opencode
  | omp
  deriving DecidableEq, Repr

/-- A multi-select form with an editor: the marks of the option rows, the mark and text of `Other`
where it has a row, the text in the editor while it is open, the row of the focus, and whether the
form was submitted. -/
structure Panel where
  dialect : Dialect
  options : List Bool
  other : OtherRow
  draft : Option Text := none
  focus : Nat
  submitted : Bool := false
  deriving DecidableEq, Repr

namespace Panel

section

variable (p : Panel)

/-- The number of rows: the options, then Submit on a Qoder form, then `Other`. -/
def rows : Nat :=
  match p.dialect with
  | .qoder => p.options.length + 2
  | .opencode => p.options.length + 1
  | .omp => p.options.length + if p.other.isSome then 1 else 0

/-- The row of `Other`. -/
def otherRow : Nat :=
  match p.dialect with
  | .qoder => p.options.length + 1
  | .opencode | .omp => p.options.length

/-- `Enter` on `Other`: deselects a selected one, except on an OMP form; otherwise opens the
editor. -/
def enterOther : Option Panel :=
  match p.other with
  | some (mark, text) =>
    if mark = true ∧ p.dialect ≠ .omp then some { p with other := some (false, text) }
    else some { p with draft := some text }
  | none => none

/-- `Enter` on a row. -/
def enter : Option Panel :=
  match p.options[p.focus]? with
  | some mark =>
    if p.dialect = .omp then some { p with submitted := true }
    else some { p with options := p.options.set p.focus !mark }
  | none =>
    if p.dialect = .qoder ∧ p.focus = p.options.length then some { p with submitted := true }
    else if p.focus = p.otherRow then p.enterOther
    else none

def pressEditor (draft : Text) (key : Key) : Option Panel :=
  match key with
  | .ctrlU => some { p with draft := some [] }
  | .enter => some { p with draft := none, other := some (true, draft) }
  | .escape => if p.dialect = .omp then none else some { p with draft := none }
  | _ => none

/-- A key while no editor is open. -/
def pressRow (key : Key) : Option Panel :=
  match key with
  | .up => if p.focus = 0 then none else some { p with focus := p.focus - 1 }
  | .down => if p.focus + 1 < p.rows then some { p with focus := p.focus + 1 } else none
  | .enter => p.enter
  | .space =>
    match p.options[p.focus]? with
    | some mark =>
      if p.dialect = .omp then some { p with options := p.options.set p.focus !mark } else none
    | none => none
  | .tab => if p.dialect = .opencode then some { p with submitted := true } else none
  | _ => none

/-- One key. Nothing is accepted after the submission, so a form is submitted at most once. -/
def press (key : Key) : Option Panel :=
  if p.submitted then none
  else match p.draft with
    | some draft => p.pressEditor draft key
    | none => p.pressRow key

/-- Text typed: it goes to the end of what the editor has. -/
def type (typed : Text) : Option Panel :=
  match p.draft with
  | some draft => if p.submitted then none else some { p with draft := some (draft ++ typed) }
  | none => none

/-- The free answer: the text of a selected `Other`. -/
def customText : Text := if p.other.mark then p.other.text else []

end

instance : Screen Panel := ⟨press, type⟩

theorem screen_press : (Screen.press : Panel → Key → Option Panel) = press := rfl

theorem screen_type : (Screen.type : Panel → Text → Option Panel) = type := rfl

/-- **Submitted with the options of an answer**, and no others. -/
structure Submits (p : Panel) (payload : QuestionPayload) : Prop where
  submitted : p.submitted = true
  options : ∀ k : Int, k ∈ payload.selected ↔ ∃ i : Nat, k = i ∧ p.options[i]? = some true

end Panel

/-- The Qoder form an interaction describes. With the notes open the focus is on `Other`. -/
def Interaction.qoderPanel (interaction : Interaction) : Panel where
  dialect := .qoder
  options := interaction.options.map (·.selected)
  other := some (interaction.other.selected, interaction.other.text)
  draft := if interaction.notesActive then some interaction.other.text else none
  focus :=
    if interaction.notesActive then interaction.options.length + 1
    else (interaction.qoderPosition interaction.focus).toNat

/-- The OpenCode form an interaction describes. With the notes open the focus is on `Other`. -/
def Interaction.opencodePanel (interaction : Interaction) : Panel where
  dialect := .opencode
  options := interaction.options.map (·.selected)
  other := some (interaction.other.selected, interaction.other.text)
  draft := if interaction.notesActive then some interaction.other.text else none
  focus :=
    if interaction.notesActive then interaction.options.length
    else (interaction.opencodePosition interaction.focus).toNat

/-- The OMP form an interaction describes. A hidden `Other` has no row. -/
def Interaction.ompPanel (interaction : Interaction) : Panel where
  dialect := .omp
  options := interaction.options.map (·.selected)
  other :=
    if interaction.other.hidden then none
    else some (interaction.other.selected, interaction.other.text)
  focus := interaction.focus.index

/-! ## §3 — the copy and the form -/

namespace Panel

variable {p q : Panel}

/-- **Editing.** Keys that leave an empty editor open, the text and `Enter` give `Other` that
text. -/
theorem run_editSteps {keys : List Key} {text : Text} (hkeys : keys.foldlM press p = some q)
    (hdraft : q.draft = some []) (hopen : q.submitted = false) :
    Screen.run p (editSteps keys text)
      = some { q with draft := none, other := some (true, text) } := by
  have htyped : Screen.run q (if text ≠ [] then [{ text := text }] else [])
      = some { q with draft := some text } := by
    by_cases hempty : text = []
    · subst hempty
      have hself : q = { q with draft := some [] } := by rw [← hdraft]
      rw [if_neg (by simp)]
      exact congrArg some hself
    · rw [if_pos hempty]
      simp [Screen.run, Screen.enact, screen_type, type, hempty, hopen, hdraft]
  have hclosed : Screen.run { q with draft := some text } [{ keys := [.enter] }]
      = some { q with draft := none, other := some (true, text) } := by
    rw [Screen.run_keys, screen_press]
    simp [press, hopen, pressEditor]
  rw [editSteps, Screen.run_append, Screen.run_append, Screen.run_keys, screen_press, hkeys,
    Option.bind_some, htyped, Option.bind_some, hclosed]

end Panel

/-- **The copy describes the form**, where the first `done` options were visited: the position of
the focus, the number of options, and the marks that are still to be compared. What was visited is
not looked at again, and one of the planners does not record it. -/
structure Mirrors (place : Interaction → QuestionFocus → Int) (done : Nat) (current : Interaction)
    (p : Panel) : Prop where
  focus : (p.focus : Int) = place current current.focus
  onRow : p.focus < p.rows
  width : p.options.length = current.options.length
  rest : ∀ i, done ≤ i → p.options[i]? = current.options[i]?.map (·.selected)
  closed : p.draft = none
  unsent : p.submitted = false

namespace Mirrors

variable {place : Interaction → QuestionFocus → Int} {done : Nat} {current : Interaction}
  {p : Panel}

section

variable (h : Mirrors place done current p) {target : QuestionFocus} {row : Nat}
  (htarget : place current target = row) (hrow : row < p.rows)
include h htarget hrow

/-- **The planned keys walk to their target**, over rows only. -/
theorem walk :
    (route place current target).foldlM Panel.press p = some { p with focus := row } := by
  rw [route, ← h.focus, htarget]
  have hlast : ∀ {r}, r < p.rows → r ≤ p.rows - 1 := by
    intro r hr
    omega
  refine foldlM_travelKeys (F := fun r => { p with focus := r }) ?_ ?_ (hlast h.onRow)
    (hlast hrow)
  · intro r _
    simp [Panel.press, Panel.pressRow, h.closed, h.unsent]
  · intro r hr
    have hnext : r + 1 < p.rows := by omega
    simp only [Panel.press, h.closed, h.unsent, Panel.pressRow]
    exact if_pos hnext

/-- Walking to a row and pressing keys there. -/
theorem walk_then (keys : List Key) :
    (route place current target ++ keys).foldlM Panel.press p
      = keys.foldlM Panel.press { p with focus := row } := by
  rw [List.foldlM_append, h.walk htarget hrow]
  rfl

end

/-- **A planned toggle.** The option of the row has the answer's mark afterwards, and the options
after it are as they were, whether the copy records the toggle or not. -/
theorem toggle {index : Nat} (h : Mirrors place index current p)
    (hplace : ∀ copy : Interaction, place copy { kind := .option, index } = index)
    {mark desired : Bool} (hmark : p.options[index]? = some mark) (hdiffer : ¬mark = desired)
    {key : Key} (hkey : Panel.press { p with focus := index } key
      = some { p with focus := index, options := p.options.set index !mark })
    (options : List QuestionOption) (hlength : options.length = current.options.length)
    (hlater : ∀ i, index < i → options[i]? = current.options[i]?) :
    Screen.run p [{ keys := route place current { kind := .option, index } ++ [key] }]
        = some { p with focus := index, options := p.options.set index desired } ∧
      Mirrors place (index + 1) { current with focus := { kind := .option, index }, options }
        { p with focus := index, options := p.options.set index desired } := by
  have hflip : (!mark) = desired := by
    revert hdiffer
    cases mark <;> cases desired <;> simp
  have hindex : index < p.options.length := (List.getElem?_eq_some_iff.mp hmark).1
  have hrow : index < p.rows := by
    unfold Panel.rows
    split <;> omega
  refine ⟨?_, ?_⟩
  · rw [Screen.run_keys, Panel.screen_press, h.walk_then (hplace current) hrow, List.foldlM_cons,
      hkey, hflip]
    rfl
  · refine ⟨(hplace _).symm, ?_, ?_, ?_, h.closed, h.unsent⟩
    · simpa [Panel.rows] using hrow
    · simpa [hlength] using h.width
    · intro i hi
      show (p.options.set index desired)[i]? = _
      rw [List.getElem?_set_ne (by omega), h.rest i (by omega), hlater i (by omega)]

end Mirrors

/-! ## §4 — the loop over the options -/

/-- What the loops leave as it is in the copy. -/
structure Kept (current current' : Interaction) : Prop where
  kind : current'.kind = current.kind
  width : current'.options.length = current.options.length
  rows : current'.allOptionCount = current.allOptionCount
  other : current'.other = current.other
  toggle : current'.ompSpaceToggle = current.ompSpaceToggle

/-- **One turn**: the option has the answer's mark, and the focus moves only if that is new. -/
structure Turned (payload : QuestionPayload) (index : Nat) (p g : Panel) : Prop where
  dialect : g.dialect = p.dialect
  other : g.other = p.other
  options : g.options = p.options.set index (payload.selected.contains (index : Int))
  focus : g.focus = index ∨
    g.focus = p.focus ∧ p.options[index]? = some (payload.selected.contains (index : Int))

/-- A loop body whose steps, sent to a form that the copy describes, make one turn. -/
def Turns (place : Interaction → QuestionFocus → Int) (dialect : Dialect)
    (payload : QuestionPayload)
    (body : Interaction × List InputStep → Nat → Interaction × List InputStep) : Prop :=
  ∀ {current p index} steps, Mirrors place index current p → p.dialect = dialect →
    (dialect = .omp → current.ompSpaceToggle = true) → index < current.options.length →
    ∃ current' new g, body (current, steps) index = (current', steps ++ new) ∧
      Screen.run p new = some g ∧ Mirrors place (index + 1) current' g ∧ Kept current current' ∧
      Turned payload index p g

section Turns

variable {place : Interaction → QuestionFocus → Int} {current : Interaction} {p : Panel}
  {payload : QuestionPayload}

theorem Kept.refl (current : Interaction) : Kept current current := ⟨rfl, rfl, rfl, rfl, rfl⟩

theorem Kept.trans {a b c : Interaction} (h : Kept a b) (h' : Kept b c) : Kept a c :=
  ⟨h'.kind.trans h.kind, h'.width.trans h.width, h'.rows.trans h.rows, h'.other.trans h.other,
    h'.toggle.trans h.toggle⟩

/-- An option that has the answer's mark already. -/
theorem Turned.skip {index : Nat}
    (hmark : p.options[index]? = some (payload.selected.contains (index : Int))) :
    Turned payload index p p := by
  obtain ⟨hlt, heq⟩ := List.getElem?_eq_some_iff.mp hmark
  refine ⟨rfl, rfl, ?_, .inr ⟨rfl, hmark⟩⟩
  rw [← heq, List.set_getElem_self]

theorem Mirrors.mono {done done' : Nat} (h : Mirrors place done current p) (hle : done ≤ done') :
    Mirrors place done' current p :=
  { h with rest := fun i hi => h.rest i (hle.trans hi) }

/-- `Enter` toggles an option of a Qoder or OpenCode form. -/
theorem press_enter_option {index : Nat} {mark : Bool} (hmark : p.options[index]? = some mark)
    (hdialect : p.dialect ≠ .omp) (hclosed : p.draft = none) (hunsent : p.submitted = false) :
    Panel.press { p with focus := index } .enter
      = some { p with focus := index, options := p.options.set index !mark } := by
  simp [Panel.press, Panel.pressRow, Panel.enter, hclosed, hunsent, hmark, hdialect]

/-- `Space` toggles an option of an OMP form. -/
theorem press_space_option {index : Nat} {mark : Bool} (hmark : p.options[index]? = some mark)
    (hdialect : p.dialect = .omp) (hclosed : p.draft = none) (hunsent : p.submitted = false) :
    Panel.press { p with focus := index } .space
      = some { p with focus := index, options := p.options.set index !mark } := by
  simp [Panel.press, Panel.pressRow, hclosed, hunsent, hmark, hdialect]

/-- The loop body of the Qoder and OpenCode planners. -/
theorem turns_markOption {dialect : Dialect} (hdialect : dialect ≠ .omp)
    (hplace : ∀ (copy : Interaction) (i : Nat), place copy { kind := .option, index := i } = i) :
    Turns place dialect payload (markOption (route place) payload) := by
  intro current p index steps hmirrors hform _ hindex
  have hget : current.options[index]? = some current.options[index] :=
    List.getElem?_eq_getElem hindex
  have hmark : p.options[index]? = some current.options[index].selected := by
    rw [hmirrors.rest index (le_refl _), hget]
    rfl
  simp only [markOption, hget]
  by_cases hsame : current.options[index].selected = payload.selected.contains (index : Int)
  · rw [if_pos hsame]
    rw [hsame] at hmark
    exact ⟨current, [], p, by rw [List.append_nil], rfl, hmirrors.mono (Nat.le_succ _), .refl _,
      .skip hmark⟩
  · rw [if_neg hsame]
    have hkey := press_enter_option hmark (hform ▸ hdialect) hmirrors.closed hmirrors.unsent
    obtain ⟨hrun, hmirrors'⟩ := hmirrors.toggle (fun copy => hplace copy index) hmark hsame hkey
      (current.options.set index { current.options[index] with
        selected := payload.selected.contains (index : Int) }) List.length_set
      (fun i hi => List.getElem?_set_ne (by omega))
    exact ⟨_, _, _, rfl, hrun, hmirrors', ⟨rfl, List.length_set, rfl, rfl, rfl⟩,
      ⟨rfl, rfl, rfl, .inl rfl⟩⟩

/-- The loop body of the OMP planner, where `Space` toggles. -/
theorem turns_markOmpOption :
    Turns Interaction.position .omp payload (markOmpOption payload) := by
  intro current p index steps hmirrors hform hspace hindex
  have hget : current.options[index]? = some current.options[index] :=
    List.getElem?_eq_getElem hindex
  have hmark : p.options[index]? = some current.options[index].selected := by
    rw [hmirrors.rest index (le_refl _), hget]
    rfl
  simp only [markOmpOption, hget]
  by_cases hsame : current.options[index].selected = payload.selected.contains (index : Int)
  · rw [if_pos hsame]
    rw [hsame] at hmark
    exact ⟨current, [], p, by rw [List.append_nil], rfl, hmirrors.mono (Nat.le_succ _), .refl _,
      .skip hmark⟩
  · rw [if_neg hsame, if_pos (hspace rfl)]
    have hkey := press_space_option hmark hform hmirrors.closed hmirrors.unsent
    obtain ⟨hrun, hmirrors'⟩ := hmirrors.toggle (fun _ => rfl) hmark hsame hkey
      current.options rfl (fun _ _ => rfl)
    exact ⟨_, _, _, rfl, hrun, hmirrors', ⟨rfl, rfl, rfl, rfl, rfl⟩, ⟨rfl, rfl, rfl, .inl rfl⟩⟩

/-- **What a loop over the first `n` options leaves.** They have the answer's marks, the later ones
are untouched; and the focus is on an option if it was on one, or if any mark had to change. -/
structure Marked (payload : QuestionPayload) (n : Nat) (p g : Panel) : Prop where
  dialect : g.dialect = p.dialect
  other : g.other = p.other
  width : g.options.length = p.options.length
  done : ∀ i < n, g.options[i]? = some (payload.selected.contains (i : Int))
  rest : ∀ i, n ≤ i → g.options[i]? = p.options[i]?
  focus : (p.focus < p.options.length ∨
    ∃ i < n, p.options[i]? ≠ some (payload.selected.contains (i : Int))) →
    g.focus < p.options.length

theorem Marked.turned {n : Nat} {m g : Panel} (h : Marked payload n p m)
    (hn : n < p.options.length) (hturn : Turned payload n m g) : Marked payload (n + 1) p g where
  dialect := hturn.dialect.trans h.dialect
  other := hturn.other.trans h.other
  width := by rw [hturn.options, List.length_set, h.width]
  done := by
    intro i hi
    rw [hturn.options]
    by_cases heq : i = n
    · subst heq
      rw [List.getElem?_set_self (by rw [h.width]; exact hn)]
    · rw [List.getElem?_set_ne (Ne.symm heq)]
      exact h.done i (by omega)
  rest := by
    intro i hi
    rw [hturn.options, List.getElem?_set_ne (by omega), h.rest i (by omega)]
  focus := by
    intro hmoved
    rcases hturn.focus with hindex | ⟨hstay, hsame⟩
    · rw [hindex]
      exact hn
    · rw [hstay]
      refine h.focus (hmoved.imp_right ?_)
      rintro ⟨i, hi, hdiffer⟩
      -- the option of this turn had its mark already
      have hne : i ≠ n := by
        rintro rfl
        rw [h.rest i (le_refl _)] at hsame
        exact hdiffer hsame
      exact ⟨i, by omega, hdiffer⟩

/-- **The loop**: by the number of options visited, one turn for each. -/
theorem Turns.loop {dialect : Dialect}
    {body : Interaction × List InputStep → Nat → Interaction × List InputStep}
    (hbody : Turns place dialect payload body) (h : Mirrors place 0 current p)
    (hdialect : p.dialect = dialect) (hspace : dialect = .omp → current.ompSpaceToggle = true)
    (steps : List InputStep) {n : Nat} (hn : n ≤ current.options.length) :
    ∃ current' new g,
      (List.range n).foldl body (current, steps) = (current', steps ++ new) ∧
      Screen.run p new = some g ∧ Mirrors place n current' g ∧ Kept current current' ∧
      Marked payload n p g := by
  induction n with
  | zero =>
    refine ⟨current, [], p, by simp, rfl, h, .refl _, rfl, rfl, rfl, ?_, fun _ _ => rfl, ?_⟩
    · intro i hi
      omega
    · rintro (hfocus | ⟨i, hi, -⟩)
      · exact hfocus
      · omega
  | succ n ih =>
    obtain ⟨mid, new, m, hplan, hrun, hmirrors, hkept, hmarked⟩ := ih (by omega)
    have hindex : n < mid.options.length := by
      rw [hkept.width]
      omega
    obtain ⟨next, new', g, hturn, hrun', hmirrors', hkept', hturned⟩ :=
      hbody (steps ++ new) hmirrors (hmarked.dialect.trans hdialect)
        (fun homp => hkept.toggle.trans (hspace homp)) hindex
    have hwidth : n < p.options.length := by
      rw [h.width]
      omega
    refine ⟨next, new ++ new', g, ?_, ?_, hmirrors', hkept.trans hkept',
      hmarked.turned hwidth hturned⟩
    · rw [List.range_succ, List.foldl_append, hplan, List.foldl_cons, hturn, List.foldl_nil,
        List.append_assoc]
    · rw [Screen.run_append, hrun, Option.bind_some, hrun']

end Turns

/-! ## §5 — `Other` and the submission -/

section Other

variable {place : Interaction → QuestionFocus → Int} {done : Nat} {current : Interaction}
  {p : Panel} {mark : Bool} {text : Text}

theorem otherRow_lt_rows (hother : p.other = some (mark, text)) : p.otherRow < p.rows := by
  unfold Panel.otherRow Panel.rows
  cases p.dialect <;> simp [hother]

/-- On the row of `Other`, `Enter` is about `Other`. -/
theorem press_enter_otherRow (hclosed : p.draft = none) (hunsent : p.submitted = false) :
    Panel.press { p with focus := p.otherRow } .enter
      = Panel.enterOther { p with focus := p.otherRow } := by
  have hpast : p.options[p.otherRow]? = none := by
    rw [List.getElem?_eq_none_iff, Panel.otherRow]
    split <;> omega
  have hsubmit : ¬(p.dialect = .qoder ∧ p.otherRow = p.options.length) := by
    rintro ⟨hqoder, hlength⟩
    rw [Panel.otherRow, hqoder] at hlength
    simp at hlength
  simp only [Panel.press, Panel.pressRow, Panel.enter, hclosed, hunsent, hpast, hsubmit,
    Bool.false_eq_true, if_false]
  exact if_pos rfl

/-- **The editor is opened, cleared, filled and closed**, where `Enter` opens it. -/
theorem Mirrors.openOther (h : Mirrors place done current p) (hother : p.other = some (mark, text))
    (hopens : ¬(mark = true ∧ p.dialect ≠ .omp)) {target : QuestionFocus}
    (htarget : place current target = p.otherRow) (typed : Text) :
    Screen.run p (editSteps (route place current target ++ [.enter, .ctrlU]) typed)
      = some { p with focus := p.otherRow, other := some (true, typed) } := by
  have hopened : Panel.press { p with focus := p.otherRow } .enter
      = some { p with focus := p.otherRow, draft := some text } := by
    rw [press_enter_otherRow h.closed h.unsent]
    simp only [Panel.enterOther, hother]
    exact if_neg hopens
  have hcleared : Panel.press { p with focus := p.otherRow, draft := some text } .ctrlU
      = some { p with focus := p.otherRow, draft := some [] } := by
    simp [Panel.press, Panel.pressEditor, h.unsent]
  have hkeys : (route place current target ++ [Key.enter, .ctrlU]).foldlM Panel.press p
      = some { p with focus := p.otherRow, draft := some [] } := by
    rw [h.walk_then htarget (otherRow_lt_rows hother), List.foldlM_cons, hopened,
      Option.bind_eq_bind, Option.bind_some, List.foldlM_cons, hcleared]
    rfl
  rw [Panel.run_editSteps hkeys rfl h.unsent, h.closed]

section Selected

variable (h : Mirrors place done current p) (hother : p.other = some (true, text))
  (hdialect : p.dialect ≠ .omp) {target : QuestionFocus}
  (htarget : place current target = p.otherRow)
include h hother hdialect

/-- `Enter` on a selected `Other` deselects it, except on an OMP form. -/
theorem Mirrors.press_enter_selected :
    Panel.press { p with focus := p.otherRow } .enter
      = some { p with focus := p.otherRow, other := some (false, text) } := by
  rw [press_enter_otherRow h.closed h.unsent]
  simp [Panel.enterOther, hother, hdialect]

include htarget

/-- **A selected `Other` is deselected.** -/
theorem Mirrors.dropOther :
    Screen.run p [{ keys := route place current target ++ [.enter] }]
      = some { p with focus := p.otherRow, other := some (false, text) } := by
  rw [Screen.run_keys, Panel.screen_press, h.walk_then htarget (otherRow_lt_rows hother),
    List.foldlM_cons, h.press_enter_selected hother hdialect]
  rfl

/-- **No editor is opened for a selected `Other`**: the keys for it are refused. -/
theorem Mirrors.refuseOther (typed : Text) :
    Screen.run p (editSteps (route place current target ++ [.enter, .ctrlU]) typed) = none := by
  have hkeys : (route place current target ++ [Key.enter, .ctrlU]).foldlM Panel.press p = none := by
    rw [h.walk_then htarget (otherRow_lt_rows hother), List.foldlM_cons,
      h.press_enter_selected hother hdialect]
    simp [Panel.press, Panel.pressRow, h.closed, h.unsent]
  rw [editSteps, List.append_assoc, Screen.run_append, Screen.run_keys, Panel.screen_press, hkeys]
  rfl

end Selected

/-- **The open editor filled and closed.** -/
theorem run_openEditor (hdraft : p.draft = some text) (hunsent : p.submitted = false)
    (typed : Text) :
    Screen.run p (editSteps [.ctrlU] typed)
      = some { p with draft := none, other := some (true, typed) } := by
  have hcleared : [Key.ctrlU].foldlM Panel.press p = some { p with draft := some [] } := by
    simp [Panel.press, Panel.pressEditor, hdraft, hunsent]
  rw [Panel.run_editSteps hcleared rfl hunsent]

end Other

end Lerdr.Classify
