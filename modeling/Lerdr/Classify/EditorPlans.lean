/-
# Lerdr.Classify.EditorPlans — the plans of Qoder, OpenCode and OMP give the answer.

Each plan is a few parts: the notes if they are open, the loop over the options, `Other`, and the
submission. `Lerdr.Classify.Editors` has what each part does to a form that the planner's copy
describes. Two parts rely on what the form shows. The steps that write a free answer begin with
`Enter` on `Other`, which opens the editor only of an unselected one; and the `Enter` that confirms
an OMP form does so only from an option.
-/
import Lerdr.Classify.Editors

namespace Lerdr.Classify

/-! ## §1 — Qoder and OpenCode -/

/-- The focus of a Qoder form is on one of its rows; with the notes open it is on `Other`. -/
def Interaction.OnQoderRow (interaction : Interaction) : Prop :=
  interaction.notesActive = true ∨
    interaction.qoderPosition interaction.focus < interaction.options.length + 2

/-- The focus of an OpenCode form is on one of its rows; with the notes open it is on `Other`. -/
def Interaction.OnOpencodeRow (interaction : Interaction) : Prop :=
  interaction.notesActive = true ∨
    interaction.opencodePosition interaction.focus < interaction.options.length + 1

theorem Interaction.qoderPosition_nonneg (interaction : Interaction) (focus : QuestionFocus) :
    0 ≤ interaction.qoderPosition focus := by
  unfold qoderPosition
  cases focus.kind <;> simp
  split <;> omega

theorem Interaction.opencodePosition_nonneg (interaction : Interaction) (focus : QuestionFocus) :
    0 ≤ interaction.opencodePosition focus := by
  unfold opencodePosition
  split <;> simp

/-- **The steps give the answer**: the form takes them all and is submitted with it, `Other` as the
answer has it. -/
def Panel.Gives (p : Panel) (steps : List InputStep) (payload : QuestionPayload) : Prop :=
  ∃ final, Screen.run p steps = some final ∧
    final.Submits payload ∧ final.other.mark = payload.otherSelected ∧
    (payload.otherSelected = true → final.other.text = payload.otherText)

section Plans

variable {interaction : Interaction} {payload : QuestionPayload}
variable {p : Panel} {current : Interaction} {n : Nat}

/-- Where no notes are open, the copy that the loop starts with is the interaction. -/
theorem mirrors_form {place : Interaction → QuestionFocus → Int}
    (hoptions : p.options = interaction.options.map (·.selected))
    (hfocus : p.focus = (place interaction interaction.focus).toNat)
    (hnonneg : 0 ≤ place interaction interaction.focus)
    (hrow : place interaction interaction.focus < p.rows)
    (hclosed : p.draft = none) (hunsent : p.submitted = false) : Mirrors place 0 interaction p where
  focus := by rw [hfocus, Int.toNat_of_nonneg hnonneg]
  onRow := by
    rw [hfocus]
    omega
  width := by rw [hoptions, List.length_map]
  rest := by
    intro i _
    rw [hoptions, List.getElem?_map]
  closed := hclosed
  unsent := hunsent

/-- **The form after the open notes**, and the copy that describes it: what the loop over the
options starts with. -/
structure Started (place : Interaction → QuestionFocus → Int) (dialect : Dialect)
    (interaction current : Interaction) (p : Panel) : Prop where
  mirrors : Mirrors place 0 current p
  dialect : p.dialect = dialect
  other : p.other = some (current.other.selected, current.other.text)
  kind : current.kind = interaction.kind
  options : current.options = interaction.options

theorem planQoderNotes_started (hkind : interaction.kind = .multiSelect)
    (hrow : interaction.OnQoderRow)
    (hplain : payload.otherSelected = false → payload.otherText = []) :
    ∃ p, Screen.run interaction.qoderPanel (planQoderNotes interaction payload).2 = some p ∧
      Started Interaction.qoderPosition .qoder interaction (planQoderNotes interaction payload).1
        p := by
  unfold planQoderNotes
  by_cases hnotes : interaction.notesActive = true
  · have htext : (if payload.otherSelected then payload.otherText else []) = payload.otherText := by
      cases hselected : payload.otherSelected with
      | true => rfl
      | false => exact (hplain hselected).symm
    rw [if_pos hnotes, htext]
    have hdraft : interaction.qoderPanel.draft = some interaction.other.text := if_pos hnotes
    have hfocus : interaction.qoderPanel.focus = interaction.options.length + 1 := if_pos hnotes
    refine ⟨_, run_openEditor hdraft rfl _, ⟨?_, ?_, ?_, ?_, rfl, rfl⟩, rfl, rfl, rfl, rfl⟩
    · simp [hfocus, Interaction.qoderPosition, otherFocus, hkind]
    · simp [Panel.rows, Interaction.qoderPanel, hnotes]
    · simp [Interaction.qoderPanel]
    · intro i _
      simp [Interaction.qoderPanel]
  · rw [if_neg hnotes]
    refine ⟨_, rfl, mirrors_form rfl (if_neg hnotes) (interaction.qoderPosition_nonneg _) ?_
      (if_neg hnotes) rfl, rfl, rfl, rfl, rfl⟩
    simpa [Panel.rows, Interaction.qoderPanel] using hrow.resolve_left hnotes

theorem planOpencodeNotes_started (payload : QuestionPayload)
    (hrow : interaction.OnOpencodeRow) :
    ∃ p, Screen.run interaction.opencodePanel (planOpencodeNotes interaction payload).2 = some p ∧
      Started Interaction.opencodePosition .opencode interaction
        (planOpencodeNotes interaction payload).1 p := by
  unfold planOpencodeNotes
  by_cases hnotes : interaction.notesActive = true
  · rw [if_pos hnotes]
    have hdraft : interaction.opencodePanel.draft = some interaction.other.text := if_pos hnotes
    have hfocus : interaction.opencodePanel.focus = interaction.options.length := if_pos hnotes
    have hmirrors : ∀ other copied, Mirrors Interaction.opencodePosition 0
        { interaction with focus := otherFocus, notesActive := false, other := copied }
        { interaction.opencodePanel with draft := none, other := some other } := by
      intro other copied
      refine ⟨?_, ?_, ?_, ?_, rfl, rfl⟩
      · simp [hfocus, Interaction.opencodePosition, otherFocus]
      · simp [Panel.rows, Interaction.opencodePanel, hnotes]
      · simp [Interaction.opencodePanel]
      · intro i _
        simp [Interaction.opencodePanel]
    by_cases hselected : payload.otherSelected = true
    · rw [if_pos hselected]
      exact ⟨_, run_openEditor hdraft rfl _, hmirrors _ _, rfl, rfl, rfl, rfl⟩
    · rw [if_neg hselected]
      have hleft : Screen.run interaction.opencodePanel [{ keys := [.escape] }]
          = some { interaction.opencodePanel with draft := none } := by
        rw [Screen.run_keys, Panel.screen_press]
        simp [Panel.press, Panel.pressEditor, hdraft]
        simp [Interaction.opencodePanel]
      exact ⟨_, hleft, hmirrors _ _, rfl, rfl, rfl, rfl⟩
  · rw [if_neg hnotes]
    refine ⟨_, rfl, mirrors_form rfl (if_neg hnotes) (interaction.opencodePosition_nonneg _) ?_
      (if_neg hnotes) rfl, rfl, rfl, rfl, rfl⟩
    simpa [Panel.rows, Interaction.opencodePanel] using hrow.resolve_left hnotes

/-- **`Other` is as the answer has it**, and the editor is closed. -/
structure Settled (payload : QuestionPayload) (p q : Panel) : Prop where
  dialect : q.dialect = p.dialect
  options : q.options = p.options
  closed : q.draft = none
  unsent : q.submitted = false
  mark : q.other.mark = payload.otherSelected
  text : payload.otherSelected = true → q.other.text = payload.otherText

/-- An `Other` that is so already is left alone. -/
theorem Mirrors.settled {place : Interaction → QuestionFocus → Int} (h : Mirrors place n current p)
    (hother : p.other = some (current.other.selected, current.other.text))
    (hmark : current.other.selected = payload.otherSelected)
    (htext : payload.otherSelected = true → current.other.text = payload.otherText) :
    Settled payload p p := by
  refine ⟨rfl, rfl, h.closed, h.unsent, ?_, fun hselected => ?_⟩
  · rw [OtherRow.mark, hother]
    exact hmark
  · rw [OtherRow.text, hother]
    exact htext hselected

/-- The position of `Other` on a Qoder form is its row. -/
theorem Mirrors.qoder_otherRow
    (h : Mirrors Interaction.qoderPosition n current p) (hdialect : p.dialect = .qoder)
    (hkind : current.kind = .multiSelect) :
    current.qoderPosition otherFocus = p.otherRow := by
  simp [Interaction.qoderPosition, otherFocus, hkind, Panel.otherRow, hdialect, h.width]

/-- The position of `Other` on an OpenCode form is its row. -/
theorem Mirrors.opencode_otherRow
    (h : Mirrors Interaction.opencodePosition n current p) (hdialect : p.dialect = .opencode) :
    current.opencodePosition otherFocus = p.otherRow := by
  simp [Interaction.opencodePosition, otherFocus, Panel.otherRow, hdialect, h.width]

/-- `Other` of a Qoder form. What the notes left is taken over; without notes it must not be
selected already where the answer selects it, for `Enter` then deselects it. -/
theorem planQoderOther_settles {notes : Bool}
    (h : Mirrors Interaction.qoderPosition n current p) (hdialect : p.dialect = .qoder)
    (hkind : current.kind = .multiSelect)
    (hother : p.other = some (current.other.selected, current.other.text))
    (hnotes : payload.otherSelected = true → notes = true →
      current.other.selected = true ∧ current.other.text = payload.otherText)
    (hfresh : payload.otherSelected = true → notes = false → current.other.selected = false)
    (steps : List InputStep) :
    ∃ current' new q, planQoderOther payload notes (current, steps) = (current', steps ++ new) ∧
      Screen.run p new = some q ∧ Mirrors Interaction.qoderPosition n current' q ∧
      Settled payload p q := by
  have htarget := h.qoder_otherRow hdialect hkind
  -- the copy after its focus moved to `Other`
  have hmoved : ∀ other, Mirrors Interaction.qoderPosition n { current with focus := otherFocus }
      { p with focus := p.otherRow, other := some other } := by
    intro other
    have hrow : p.otherRow < Panel.rows { p with focus := p.otherRow, other := some other } := by
      simp [Panel.otherRow, Panel.rows, hdialect]
    exact ⟨htarget.symm, hrow, h.width, h.rest, h.closed, h.unsent⟩
  simp only [planQoderOther]
  cases hselected : payload.otherSelected with
  | true =>
    cases hhandled : notes with
    | true =>
      obtain ⟨hmark, htext⟩ := hnotes hselected hhandled
      exact ⟨current, [], p, by simp, rfl, h,
        h.settled hother (hmark.trans hselected.symm) fun _ => htext⟩
    | false =>
      have hopens : ¬(current.other.selected = true ∧ p.dialect ≠ .omp) := by
        rw [hfresh hselected hhandled]
        simp
      exact ⟨{ current with focus := otherFocus }, _, _, by simp; rfl,
        h.openOther hother hopens htarget payload.otherText, hmoved _, rfl, rfl, h.closed, h.unsent,
        hselected.symm, fun _ => rfl⟩
  | false =>
    cases hmark : current.other.selected with
    | true =>
      rw [hmark] at hother
      have hqoder : p.dialect ≠ .omp := by simp [hdialect]
      exact ⟨{ current with focus := otherFocus }, _, _, by simp; rfl,
        h.dropOther hother hqoder htarget, hmoved _, rfl, rfl, h.closed, h.unsent, hselected.symm,
        by simp [hselected]⟩
    | false =>
      exact ⟨current, [], p, by simp, rfl, h,
        h.settled hother (hmark.trans hselected.symm) (by simp [hselected])⟩

/-- `Other` of an OpenCode form: it must not be selected already, with another text, where the
answer selects it. -/
theorem planOpencodeOther_settles
    (h : Mirrors Interaction.opencodePosition n current p) (hdialect : p.dialect = .opencode)
    (hother : p.other = some (current.other.selected, current.other.text))
    (hfresh : payload.otherSelected = true →
      current.other.selected = false ∨ current.other.text = payload.otherText)
    (steps : List InputStep) :
    ∃ current' new q, planOpencodeOther payload (current, steps) = (current', steps ++ new) ∧
      Screen.run p new = some q ∧ Settled payload p q := by
  have htarget := h.opencode_otherRow hdialect
  simp only [planOpencodeOther]
  cases hselected : payload.otherSelected with
  | true =>
    cases hmark : current.other.selected with
    | true =>
      have htext : current.other.text = payload.otherText :=
        (hfresh hselected).resolve_left (by simp [hmark])
      exact ⟨current, [], p, by simp [htext], rfl,
        h.settled hother (hmark.trans hselected.symm) fun _ => htext⟩
    | false =>
      have hopens : ¬(current.other.selected = true ∧ p.dialect ≠ .omp) := by simp [hmark]
      exact ⟨{ current with focus := otherFocus }, _, _, by simp; rfl,
        h.openOther hother hopens htarget payload.otherText, rfl, rfl, h.closed, h.unsent,
        hselected.symm, fun _ => rfl⟩
  | false =>
    cases hmark : current.other.selected with
    | true =>
      rw [hmark] at hother
      have hopencode : p.dialect ≠ .omp := by simp [hdialect]
      exact ⟨{ current with focus := otherFocus }, _, _, by simp; rfl,
        h.dropOther hother hopencode htarget, rfl, rfl, h.closed, h.unsent, hselected.symm,
        by simp [hselected]⟩
    | false =>
      exact ⟨current, [], p, by simp, rfl,
        h.settled hother (hmark.trans hselected.symm) (by simp [hselected])⟩

/-- **After the loop over the options**, of a Qoder or OpenCode plan: the form has the answer's
marks, and an `Other` that the copy describes. -/
structure Looped (place : Interaction → QuestionFocus → Int) (interaction started : Interaction)
    (payload : QuestionPayload) (current : Interaction) (p : Panel) : Prop where
  mirrors : Mirrors place interaction.options.length current p
  kind : current.kind = interaction.kind
  other : p.other = some (current.other.selected, current.other.text)
  kept : current.other = started.other
  options : ∀ k : Int, k ∈ payload.selected ↔ ∃ i : Nat, k = i ∧ p.options[i]? = some true

theorem Started.loop {place : Interaction → QuestionFocus → Int} {dialect : Dialect}
    (h : Started place dialect interaction current p) (hdialect : dialect ≠ .omp)
    (hplace : ∀ (copy : Interaction) (i : Nat), place copy { kind := .option, index := i } = i)
    (hanswers : payload.Answers interaction) (steps : List InputStep) :
    ∃ current' new q,
      (List.range interaction.options.length).foldl (markOption (route place) payload)
        (current, steps) = (current', steps ++ new) ∧
      Screen.run p new = some q ∧ q.dialect = dialect ∧
      Looped place interaction current payload current' q := by
  have hbody : Turns place dialect payload (markOption (route place) payload) :=
    turns_markOption hdialect hplace
  obtain ⟨current', new, q, hplan, hrun, hmirrors, hkept, hmarked⟩ :=
    hbody.loop h.mirrors h.dialect (fun homp => absurd homp hdialect) steps
      (n := interaction.options.length) (by rw [h.options])
  refine ⟨current', new, q, hplan, hrun, hmarked.dialect.trans h.dialect, hmirrors,
    hkept.kind.trans h.kind, ?_, hkept.other, ?_⟩
  · rw [hmarked.other, hkept.other, h.other]
  · refine selected_iff_marked hanswers ?_ hmarked.done
    rw [hmarked.width, h.mirrors.width, h.options]

/-- **A Qoder plan gives the answer** exactly if it does not meet a selected `Other`, without open
notes, that the answer selects too. -/
theorem planQoderMultiInput_submits_iff (hkind : interaction.kind = .multiSelect)
    (hrow : interaction.OnQoderRow) (hanswers : payload.Answers interaction) :
    interaction.qoderPanel.Gives (planQoderMultiInput interaction payload) payload ↔
    (interaction.notesActive = true ∨ interaction.other.selected = false ∨
      payload.otherSelected = false) := by
  obtain ⟨p, hrun₀, hstart⟩ := planQoderNotes_started hkind hrow hanswers.noText
  obtain ⟨c₁, steps₁, f₁, hplan₁, hrun₁, hdialect₁, hloop⟩ := hstart.loop (by simp) (fun _ _ => rfl)
    hanswers (planQoderNotes interaction payload).2
  have hplan : planQoderMultiInput interaction payload =
      (let planned := planQoderOther payload interaction.notesActive
          (c₁, (planQoderNotes interaction payload).2 ++ steps₁);
        planned.2 ++ [{ keys := route Interaction.qoderPosition planned.1 { kind := .submit } ++
          [.enter] }]) := by
    rw [← hplan₁]
    rfl
  have hkind₁ : c₁.kind = .multiSelect := hloop.kind.trans hkind
  have hkept₁ : interaction.notesActive = false → c₁.other = interaction.other := by
    intro hnotes
    simp [hloop.kept, planQoderNotes, hnotes]
  constructor
  · rintro ⟨final, hrun, -⟩
    by_contra hmet
    simp only [not_or, Bool.not_eq_true, Bool.not_eq_false] at hmet
    obtain ⟨hnotes, hmark, hselected⟩ := hmet
    have hother : f₁.other = some (true, c₁.other.text) := by
      rw [hloop.other, hkept₁ hnotes, hmark]
    have hrefused := hloop.mirrors.refuseOther hother (by simp [hdialect₁])
      (hloop.mirrors.qoder_otherRow hdialect₁ hkind₁) payload.otherText
    simp only [hplan, planQoderOther, hselected, hnotes, Bool.not_false, Bool.and_self, if_true]
      at hrun
    rw [List.append_assoc, List.append_assoc, Screen.run_append, hrun₀, Option.bind_some,
      Screen.run_append, hrun₁, Option.bind_some, Screen.run_append, qoderNavigationKeys, hrefused]
      at hrun
    cases hrun
  · intro hfresh
    have hnotes₁ : payload.otherSelected = true → interaction.notesActive = true →
        c₁.other.selected = true ∧ c₁.other.text = payload.otherText := by
      intro _ hnotes
      simp [hloop.kept, planQoderNotes, hnotes]
    have hfresh₁ : payload.otherSelected = true → interaction.notesActive = false →
        c₁.other.selected = false := by
      intro hselected hnotes
      rw [hkept₁ hnotes]
      simpa [hnotes, hselected] using hfresh
    obtain ⟨c₂, steps₂, f₂, hplan₂, hrun₂, hmirrors₂, hsettled⟩ :=
      planQoderOther_settles hloop.mirrors hdialect₁ hkind₁ hloop.other hnotes₁ hfresh₁
        ((planQoderNotes interaction payload).2 ++ steps₁)
    have hdialect₂ : f₂.dialect = .qoder := hsettled.dialect.trans hdialect₁
    have hsubmit : Screen.run f₂
          [{ keys := route Interaction.qoderPosition c₂ { kind := .submit } ++ [.enter] }]
        = some { f₂ with focus := f₂.options.length, submitted := true } := by
      have hposition : c₂.qoderPosition { kind := .submit } = f₂.options.length := by
        simp [Interaction.qoderPosition, hmirrors₂.width]
      have hlast : f₂.options.length < f₂.rows := by
        simp [Panel.rows, hdialect₂]
      rw [Screen.run_keys, Panel.screen_press, hmirrors₂.walk_then hposition hlast]
      simp [Panel.press, Panel.pressRow, Panel.enter, hdialect₂, hsettled.closed, hsettled.unsent]
    refine ⟨{ f₂ with focus := f₂.options.length, submitted := true }, ?_,
      ⟨rfl, hsettled.options ▸ hloop.options⟩, hsettled.mark, hsettled.text⟩
    simp only [hplan, hplan₂]
    rw [Screen.run_append, Screen.run_append, Screen.run_append, hrun₀, Option.bind_some, hrun₁,
      Option.bind_some, hrun₂, Option.bind_some, hsubmit]

/-- **An OpenCode plan gives the answer** exactly if it does not meet a selected `Other`, without
open notes, that the answer selects with another text. -/
theorem planOpencodeMultiInput_submits_iff (hrow : interaction.OnOpencodeRow)
    (hanswers : payload.Answers interaction) :
    interaction.opencodePanel.Gives (planOpencodeMultiInput interaction payload) payload ↔
    (interaction.notesActive = true ∨ interaction.other.selected = false ∨
      payload.otherSelected = false ∨ interaction.other.text = payload.otherText) := by
  obtain ⟨p, hrun₀, hstart⟩ := planOpencodeNotes_started payload hrow
  obtain ⟨c₁, steps₁, f₁, hplan₁, hrun₁, hdialect₁, hloop⟩ := hstart.loop (by simp) (fun _ _ => rfl)
    hanswers (planOpencodeNotes interaction payload).2
  have hplan : planOpencodeMultiInput interaction payload =
      (planOpencodeOther payload (c₁, (planOpencodeNotes interaction payload).2 ++ steps₁)).2
        ++ [{ keys := [.tab] }] := by
    rw [← hplan₁]
    rfl
  constructor
  · rintro ⟨final, hrun, -⟩
    by_contra hmet
    simp only [not_or, Bool.not_eq_true, Bool.not_eq_false] at hmet
    obtain ⟨hnotes, hmark, hselected, htext⟩ := hmet
    have hkept₁ : c₁.other = interaction.other := by
      simp [hloop.kept, planOpencodeNotes, hnotes]
    have hother : f₁.other = some (true, c₁.other.text) := by
      rw [hloop.other, hkept₁, hmark]
    have hrefused := hloop.mirrors.refuseOther hother (by simp [hdialect₁])
      (hloop.mirrors.opencode_otherRow hdialect₁) payload.otherText
    simp only [hplan, planOpencodeOther, hselected, hkept₁, htext, ne_eq, not_false_eq_true,
      decide_true, Bool.or_true, Bool.and_self, if_true] at hrun
    rw [List.append_assoc, List.append_assoc, Screen.run_append, hrun₀, Option.bind_some,
      Screen.run_append, hrun₁, Option.bind_some, Screen.run_append, opencodeNavigationKeys,
      hrefused] at hrun
    cases hrun
  · intro hfresh
    have hfresh₁ : payload.otherSelected = true →
        c₁.other.selected = false ∨ c₁.other.text = payload.otherText := by
      intro hselected
      rw [hloop.kept]
      cases hnotes : interaction.notesActive with
      | true => simp [planOpencodeNotes, hnotes, hselected]
      | false => simpa [planOpencodeNotes, hnotes, hselected] using hfresh
    obtain ⟨c₂, steps₂, f₂, hplan₂, hrun₂, hsettled⟩ :=
      planOpencodeOther_settles hloop.mirrors hdialect₁ hloop.other hfresh₁
        ((planOpencodeNotes interaction payload).2 ++ steps₁)
    have hsubmit : Screen.run f₂ [{ keys := [.tab] }] = some { f₂ with submitted := true } := by
      rw [Screen.run_keys, Panel.screen_press]
      simp [Panel.press, Panel.pressRow, hsettled.dialect, hdialect₁, hsettled.closed,
        hsettled.unsent]
    refine ⟨{ f₂ with submitted := true }, ?_, ⟨rfl, hsettled.options ▸ hloop.options⟩,
      hsettled.mark, hsettled.text⟩
    rw [hplan, hplan₂, Screen.run_append, Screen.run_append, Screen.run_append, hrun₀,
      Option.bind_some, hrun₁, Option.bind_some, hrun₂, Option.bind_some, hsubmit]

end Plans

/-- **When Qoder and OpenCode plans give the answer.** From a form whose focus is on one of its
rows, and for an accepted answer, exactly if a free answer does not meet an `Other` that is selected
already. With the notes open it may be; and an OpenCode plan leaves one alone that has the answer's
text. -/
theorem editor_plans_answer {message : AnswerMessage} {payload : QuestionPayload}
    (hdecode : decodeAnswer message = .ok payload) {interaction : Interaction}
    (hkind : interaction.kind = .multiSelect)
    (hvalid : validateQuestionPayload interaction payload = .ok ()) :
    (interaction.OnQoderRow →
      (interaction.qoderPanel.Gives (planQoderMultiInput interaction payload) payload ↔
      (interaction.notesActive = true ∨ interaction.other.selected = false ∨
        payload.otherSelected = false))) ∧
    (interaction.OnOpencodeRow →
      (interaction.opencodePanel.Gives (planOpencodeMultiInput interaction payload) payload ↔
      (interaction.notesActive = true ∨ interaction.other.selected = false ∨
        payload.otherSelected = false ∨ interaction.other.text = payload.otherText))) := by
  have hanswers := answers_of_accepted hdecode hvalid
  exact ⟨fun hrow => planQoderMultiInput_submits_iff hkind hrow hanswers,
    fun hrow => planOpencodeMultiInput_submits_iff hrow hanswers⟩

/-- `Other` is not selected and its notes are not open. -/
def unmarkedQuestion : Interaction := { sampleQuestion with agent := .opencode }

theorem editor_plans_answer_sample :
    (∃ final, Screen.run unmarkedQuestion.qoderPanel
        (planQoderMultiInput unmarkedQuestion sampleAnswer) = some final ∧
        final.Submits sampleAnswer ∧ final.other.text = ['y']) ∧
      ∃ final, Screen.run unmarkedQuestion.opencodePanel
        (planOpencodeMultiInput unmarkedQuestion sampleAnswer) = some final ∧
        final.Submits sampleAnswer ∧ final.other.text = ['y'] := by
  have hvalid : validateQuestionPayload unmarkedQuestion sampleAnswer = .ok () := by
    decide +kernel
  obtain ⟨hqoder, hopencode⟩ := editor_plans_answer sampleMessage_decoded
    (rfl : unmarkedQuestion.kind = .multiSelect) hvalid
  obtain ⟨f, hf, hsubmits, -, htext⟩ := (hqoder (.inr (by decide))).mpr (.inr (.inl rfl))
  obtain ⟨g, hg, hsubmits', -, htext'⟩ := (hopencode (.inr (by decide))).mpr (.inr (.inl rfl))
  exact ⟨⟨f, hf, hsubmits, htext rfl⟩, g, hg, hsubmits', htext' rfl⟩

/-- One option, and `Other` selected with the text `x`; the focus is on `Other`. -/
def markedQuestion : Interaction :=
  { sampleQuestion with
    options := [{ index := 0 }]
    other := { selected := true, text := ['x'] }
    focus := { kind := .option, index := 1 }
    allOptionCount := 2
    agent := .opencode }

/-- `Other` with the text `y`. -/
def retypedAnswer : QuestionPayload :=
  { interactionId := ['i'], otherSelected := true, otherText := ['y'] }

/-- **A new text deselects.** `Other` is selected with the text `x` and the answer changes the text
to `y`. The plans walk to `Other` and press `Enter` to open its editor, but the form deselects
`Other`: no editor is open for the `Ctrl+U` and the text that follow, and the form does not accept
them. Both forms refuse the plan. -/
theorem editor_plans_deselect :
    decodeAnswer { interactionId := ['i'], otherSelected := true, otherText := ['y'] }
        = .ok retypedAnswer ∧
      validateQuestionPayload markedQuestion retypedAnswer = .ok () ∧
      markedQuestion.OnOpencodeRow ∧
      planOpencodeMultiInput markedQuestion retypedAnswer =
        [{ keys := [.enter, .ctrlU] }, { text := ['y'] }, { keys := [.enter] },
          { keys := [.tab] }] ∧
      (markedQuestion.opencodePanel.press .enter).map (fun p => (p.other, p.draft))
        = some (some (false, ['x']), none) ∧
      Screen.run markedQuestion.opencodePanel (planOpencodeMultiInput markedQuestion retypedAnswer)
        = none ∧
      markedQuestion.OnQoderRow ∧
      Screen.run markedQuestion.qoderPanel (planQoderMultiInput markedQuestion retypedAnswer)
        = none := by
  refine ⟨?_, by decide +kernel, .inr (by decide), by decide +kernel, by decide +kernel,
    by decide +kernel, .inr (by decide), by decide +kernel⟩
  have hselected : sortedUnique [] = [] := sortedUnique_of_increasing (by decide)
  simp [decodeAnswer, hselected, retypedAnswer, otherTextMaxRunes]

/-! ## §2 — OMP -/

/-- **A multi-select interaction of an OMP form with `Space`**: there are options, after them the
row of `Other` unless it is hidden, a hidden one is not selected, and the focus is on one of these
rows. The parser writes a focus on `Other` as that of the row after the options. -/
structure Interaction.OmpFormed (interaction : Interaction) : Prop where
  kind : interaction.kind = .multiSelect
  toggle : interaction.ompSpaceToggle = true
  some : 0 < interaction.options.length
  rows : interaction.allOptionCount =
    interaction.options.length + if interaction.other.hidden then 0 else 1
  hidden : interaction.other.hidden = true → interaction.other.selected = false
  focus : interaction.focus.kind = .option ∧ interaction.focus.index < interaction.allOptionCount

section Omp

variable {interaction : Interaction} {payload : QuestionPayload}

theorem Interaction.OmpFormed.mirrors (h : interaction.OmpFormed) :
    Mirrors Interaction.position 0 interaction interaction.ompPanel where
  focus := by simp [ompPanel, position, h.focus.1]
  onRow := by
    have hindex := h.focus.2
    rw [h.rows] at hindex
    cases hhidden : interaction.other.hidden <;> simpa [ompPanel, Panel.rows, hhidden] using hindex
  width := by simp [ompPanel]
  rest := by
    intro i _
    simp [ompPanel]
  closed := rfl
  unsent := rfl

/-- A row above and `Enter`: from `Other` this confirms on the last option. -/
theorem run_up_enter {p : Panel} (hdialect : p.dialect = .omp) (hclosed : p.draft = none)
    (hunsent : p.submitted = false) (hsome : 0 < p.options.length)
    (hfocus : p.focus = p.options.length) :
    Screen.run p [{ keys := [.up, .enter] }]
      = some { p with focus := p.options.length - 1, submitted := true } := by
  have hlast : p.options.length - 1 < p.options.length := by omega
  have hoption : p.options[p.options.length - 1]? = some p.options[p.options.length - 1] :=
    List.getElem?_eq_getElem hlast
  have hup : p.press .up = some { p with focus := p.options.length - 1 } := by
    simp only [Panel.press, Panel.pressRow, hclosed, hunsent, Bool.false_eq_true, if_false, hfocus]
    exact if_neg hsome.ne'
  have henter : Panel.press { p with focus := p.options.length - 1 } .enter
      = some { p with focus := p.options.length - 1, submitted := true } := by
    simp only [Panel.press, Panel.pressRow, Panel.enter, hclosed, hunsent, hoption, hdialect]
    rfl
  rw [Screen.run_keys, Panel.screen_press, List.foldlM_cons, hup, Option.bind_eq_bind,
    Option.bind_some, List.foldlM_cons, henter]
  rfl

/-- The plan writes to `Other`, or its last `Enter` is on an option: the focus was there, or moves
there since the mark of some option has to change. -/
def Interaction.OmpConfirms (interaction : Interaction) (payload : QuestionPayload) : Prop :=
  payload.otherSelected = true ∨ interaction.other.selected = true ∨
    interaction.focus.index < interaction.options.length ∨
    ∃ i < interaction.options.length, (interaction.options[i]?.map (·.selected))
      ≠ some (payload.selected.contains (i : Int))

theorem planOmpInput_submits (hformed : interaction.OmpFormed)
    (hanswers : payload.Answers interaction) (hconfirm : interaction.OmpConfirms payload) :
    ∃ final, Screen.run interaction.ompPanel (planOmpInput interaction payload) = some final ∧
      final.Submits payload ∧
      final.customText = if payload.otherSelected then payload.otherText else [] := by
  have hwidth : interaction.ompPanel.options.length = interaction.options.length := by
    simp [Interaction.ompPanel]
  have hbody : Turns Interaction.position .omp payload (markOmpOption payload) :=
    turns_markOmpOption
  obtain ⟨c₁, steps₁, f₁, hplan₁, hrun₁, hmirrors₁, hkept, hmarked⟩ :=
    hbody.loop hformed.mirrors rfl (fun _ => hformed.toggle) [] (le_refl _)
  rw [List.nil_append] at hplan₁
  have hdialect₁ : f₁.dialect = .omp := hmarked.dialect
  have hlength₁ : f₁.options.length = interaction.options.length := hmarked.width.trans hwidth
  have hselected : ∀ k : Int,
      k ∈ payload.selected ↔ ∃ i : Nat, k = i ∧ f₁.options[i]? = some true :=
    selected_iff_marked hanswers hlength₁ hmarked.done
  have hother₁ : c₁.other = interaction.other := hkept.other
  have hspace₁ : c₁.ompSpaceToggle = true := hkept.toggle.trans hformed.toggle
  have hmulti : ¬interaction.kind = .singleSelect := by simp [hformed.kind]
  rw [planOmpInput, if_neg hmulti, hplan₁]
  simp only [hspace₁, hother₁, Bool.true_and, if_true]
  by_cases hedit : (payload.otherSelected || interaction.other.selected) = true
  · -- the editor: `Other` is shown, since it is selected or the answer selects it
    rw [if_pos hedit]
    have hshown : interaction.other.hidden = false := by
      cases hhidden : interaction.other.hidden with
      | false => rfl
      | true => simp [hformed.hidden hhidden, hanswers.hidden hhidden] at hedit
    have hother : f₁.other = some (interaction.other.selected, interaction.other.text) := by
      rw [hmarked.other]
      simp [Interaction.ompPanel, hshown]
    have htarget : c₁.position c₁.otherTarget = f₁.otherRow := by
      have hrows := hformed.rows
      simp [Interaction.position, Interaction.otherTarget, hkept.rows, hrows, hshown,
        Panel.otherRow, hdialect₁, hlength₁]
    have hopens : ¬(interaction.other.selected = true ∧ f₁.dialect ≠ .omp) := by simp [hdialect₁]
    have hedited := hmirrors₁.openOther hother hopens htarget
      (if payload.otherSelected then payload.otherText else [])
    have hrow : f₁.otherRow = f₁.options.length := by simp [Panel.otherRow, hdialect₁]
    have hsome : 0 < f₁.options.length := by
      rw [hlength₁]
      exact hformed.some
    refine ⟨{ f₁ with
      focus := f₁.options.length - 1
      other := some (true, if payload.otherSelected then payload.otherText else [])
      submitted := true }, ?_, ⟨rfl, hselected⟩, rfl⟩
    have hkeys : navigationKeys c₁ c₁.otherTarget
        = route Interaction.position c₁ c₁.otherTarget := rfl
    rw [hkeys, Screen.run_append, Screen.run_append, hrun₁, Option.bind_some, hedited,
      Option.bind_some]
    exact run_up_enter hdialect₁ hmirrors₁.closed hmirrors₁.unsent hsome hrow
  · -- no text: `Enter` submits, as the focus is on an option by now
    rw [if_neg hedit]
    simp only [Bool.or_eq_true, not_or, Bool.not_eq_true] at hedit
    have hfocus : f₁.focus < f₁.options.length := by
      rw [hlength₁, ← hwidth]
      refine hmarked.focus ?_
      rcases hconfirm with hbad | hbad | hon | ⟨i, hi, hdiffer⟩
      · rw [hedit.1] at hbad
        cases hbad
      · rw [hedit.2] at hbad
        cases hbad
      · rw [hwidth]
        exact .inl hon
      · refine .inr ⟨i, hi, ?_⟩
        simpa [Interaction.ompPanel] using hdiffer
    have hoption : f₁.options[f₁.focus]? = some f₁.options[f₁.focus] :=
      List.getElem?_eq_getElem hfocus
    have hsubmit : Screen.run f₁ [{ keys := [.enter] }] = some { f₁ with submitted := true } := by
      rw [Screen.run_keys, Panel.screen_press]
      simp [Panel.press, Panel.pressRow, Panel.enter, hmirrors₁.closed, hmirrors₁.unsent, hoption,
        hdialect₁]
    refine ⟨{ f₁ with submitted := true }, ?_, ⟨rfl, hselected⟩, ?_⟩
    · rw [Screen.run_append, hrun₁, Option.bind_some, hsubmit]
    · have hmark : f₁.other.mark = false := by
        rw [OtherRow.mark, hmarked.other, Interaction.ompPanel]
        cases interaction.other.hidden <;> simp [hedit.2]
      simp [Panel.customText, hmark, hedit.1]

/-- Where every option has the answer's mark the loop plans nothing. -/
theorem foldl_markOmpOption_same (h : ∀ i < interaction.options.length,
    interaction.options[i]?.map (·.selected) = some (payload.selected.contains (i : Int))) :
    (List.range interaction.options.length).foldl (markOmpOption payload) (interaction, [])
      = (interaction, []) := by
  refine List.foldlRecOn (motive := (· = (interaction, []))) _ _ rfl fun plan hplan i hi => ?_
  obtain ⟨option, hoption, hsame⟩ := Option.map_eq_some_iff.mp (h i (List.mem_range.mp hi))
  simp only [hplan, markOmpOption, hoption]
  exact if_pos hsame

/-- Otherwise the plan is a single `Enter` on `Other`, which opens its editor. -/
theorem planOmpInput_unsent (hformed : interaction.OmpFormed)
    (hidle : ¬interaction.OmpConfirms payload) :
    ∃ final, Screen.run interaction.ompPanel (planOmpInput interaction payload) = some final ∧
      final.submitted = false := by
  simp only [Interaction.OmpConfirms, not_or, Bool.not_eq_true, not_exists, not_and,
    not_not] at hidle
  obtain ⟨hunselected, hunmarked, hpast, hsame⟩ := hidle
  have hplan : planOmpInput interaction payload = [{ keys := [.enter] }] := by
    simp [planOmpInput, hformed.kind, foldl_markOmpOption_same hsame, hunselected, hunmarked,
      hformed.toggle]
  have hindex := hformed.focus.2
  rw [hformed.rows] at hindex
  have hshown : interaction.other.hidden = false := by
    by_contra hhidden
    rw [if_pos (by simpa using hhidden)] at hindex
    omega
  have hfocus : interaction.focus.index = interaction.options.length := by
    rw [hshown] at hindex
    simp only [Bool.false_eq_true, if_false] at hindex
    omega
  have hpress : Panel.press interaction.ompPanel .enter
      = some { interaction.ompPanel with draft := some interaction.other.text } := by
    have hother : interaction.ompPanel.other = some (false, interaction.other.text) := by
      simp [Interaction.ompPanel, hshown, hunmarked]
    have hat : interaction.ompPanel = { interaction.ompPanel with
        focus := interaction.ompPanel.otherRow } := by
      simp [Interaction.ompPanel, Panel.otherRow, hfocus]
    rw [hat, press_enter_otherRow rfl rfl]
    simp [Panel.enterOther, hother]
  refine ⟨{ interaction.ompPanel with draft := some interaction.other.text }, ?_, rfl⟩
  rw [hplan, Screen.run_keys, Panel.screen_press, List.foldlM_cons, hpress]
  rfl

/-- **When an OMP plan gives the answer**: from every form and for every accepted answer, with one
submission, exactly unless the plan is a single `Enter` on `Other`. -/
theorem omp_plan_answers (hformed : interaction.OmpFormed) {message : AnswerMessage}
    (hdecode : decodeAnswer message = .ok payload)
    (hvalid : validateQuestionPayload interaction payload = .ok ()) :
    (∃ final, Screen.run interaction.ompPanel (planOmpInput interaction payload) = some final ∧
      final.Submits payload ∧
      final.customText = if payload.otherSelected then payload.otherText else []) ↔
    interaction.OmpConfirms payload := by
  refine ⟨?_, planOmpInput_submits hformed (answers_of_accepted hdecode hvalid)⟩
  rintro ⟨final, hrun, hsubmits, -⟩
  by_contra hidle
  obtain ⟨final', hrun', hunsent⟩ := planOmpInput_unsent hformed hidle
  obtain rfl := Option.some.inj (hrun.symm.trans hrun')
  rw [hsubmits.submitted] at hunsent
  cases hunsent

end Omp

/-- The sample question on an OMP form. -/
def ompSample : Interaction := { sampleQuestion with ompSpaceToggle := true, agent := .omp }

theorem omp_plan_answers_sample :
    ompSample.OmpFormed ∧
      ∃ final, Screen.run ompSample.ompPanel (planOmpInput ompSample sampleAnswer) = some final ∧
        final.Submits sampleAnswer ∧ final.customText = ['y'] := by
  have hformed : ompSample.OmpFormed :=
    ⟨rfl, rfl, by decide, rfl, by decide, rfl, by decide⟩
  have hvalid : validateQuestionPayload ompSample sampleAnswer = .ok () := by decide +kernel
  exact ⟨hformed, (omp_plan_answers hformed sampleMessage_decoded hvalid).mpr (.inl rfl)⟩

/-- The second option is selected already, and the focus is on `Other`. -/
def ompOnOther : Interaction :=
  { ompSample with other := {}, focus := { kind := .option, index := 3 } }

def secondAnswer : QuestionPayload := { interactionId := ['i'], selected := [1] }

/-- **A plan that does not submit.** The answer is what the form shows, with the focus on `Other`.
Nothing has to change, so the plan is one `Enter`; on `Other` it opens the editor, and the form is
never submitted. -/
theorem omp_plan_opens_editor :
    decodeAnswer { interactionId := ['i'], selectedIndices := [1] } = .ok secondAnswer ∧
      ompOnOther.OmpFormed ∧ validateQuestionPayload ompOnOther secondAnswer = .ok () ∧
      planOmpInput ompOnOther secondAnswer = [{ keys := [.enter] }] ∧
      (Screen.run ompOnOther.ompPanel (planOmpInput ompOnOther secondAnswer)).map
        (fun p => (p.submitted, p.draft)) = some (false, some []) := by
  refine ⟨?_, ⟨rfl, rfl, by decide, rfl, by decide, rfl, by decide⟩, by decide +kernel,
    by decide +kernel, by decide +kernel⟩
  have hselected : sortedUnique [1] = [1] := sortedUnique_of_increasing (by decide)
  simp [decodeAnswer, hselected, secondAnswer, otherTextMaxRunes]

end Lerdr.Classify
