/-
# Lerdr.Classify.Model — questions and their answers (`classify/model.rs`).

An `Interaction` is what a parser reads off a pane: the kind of choice, the options, the free answer
(`other`), and what the planner needs to know of the screen, the focus and the number of rows. A
payload is what the client answers; it is decoded without the interaction and validated against it.
-/
import Lerdr.Rust.Text
import Mathlib.Data.List.Destutter

namespace Lerdr.Classify

open Lerdr.Rust

/-! ## §1 — interactions -/

/-- `kind`. -/
inductive SelectKind where
  | singleSelect
  | multiSelect
  deriving DecidableEq, Repr

/-- `agent` of an interaction: the family whose parser read it. -/
inductive Family where
  | claude
  | codex
  | qoder
  | opencode
  | omp
  deriving DecidableEq, Repr

structure SummaryEntry where
  question : Text := []
  answer : Text := []
  deriving DecidableEq, Repr

structure QuestionOption where
  index : Int := 0
  label : Text := []
  description : Text := []
  selected : Bool := false
  summary : List SummaryEntry := []
  deriving DecidableEq, Repr

structure QuestionOther where
  selected : Bool := false
  text : Text := []
  label : Text := []
  placeholder : Text := []
  allowEmpty : Bool := false
  hidden : Bool := false
  deriving DecidableEq, Repr

inductive FocusKind where
  | option
  | other
  | submit
  | chat
  deriving DecidableEq, Repr

structure QuestionFocus where
  kind : FocusKind := .option
  index : Nat := 0
  deriving DecidableEq, Repr

/-- A form, as it was read from the screen. -/
structure Interaction where
  id : Text := []
  kind : SelectKind
  question : Text
  options : List QuestionOption
  other : QuestionOther
  submitLabel : Text
  canChat : Bool
  canGoBack : Bool
  questionIndex : Int
  questionTotal : Int
  focus : QuestionFocus
  allOptionCount : Nat
  agent : Family
  notesActive : Bool := false
  ompSpaceToggle : Bool := false
  deriving DecidableEq, Repr

/-! ## §2 — answers -/

/-- The fields of an inbound message that an answer is decoded from. -/
structure AnswerMessage where
  interactionId : Text
  selectedIndices : List Int := []
  otherSelected : Bool := false
  otherText : Text := []
  deriving DecidableEq, Repr

/-- `navigation` of a payload: empty, `previous` or `next`. -/
inductive Navigation where
  | none
  | previous
  | next
  deriving DecidableEq, Repr

/-- The answer to a form. -/
structure QuestionPayload where
  interactionId : Text
  selected : List Int := []
  otherSelected : Bool := false
  otherText : Text := []
  clarify : Bool := false
  navigation : Navigation := .none
  deriving DecidableEq, Repr

def otherTextMaxRunes : Nat := 100000

/-- `sorted_unique`: sorted, then without consecutive repetitions. -/
def sortedUnique (values : List Int) : List Int :=
  (values.mergeSort (fun a b => a ≤ b)).destutter (· ≠ ·)

theorem sortedUnique_of_increasing {values : List Int} (h : values.Pairwise (· < ·)) :
    sortedUnique values = values := by
  have hsorted : values.mergeSort (fun a b => a ≤ b) = values :=
    List.mergeSort_of_pairwise (h.imp fun hlt => decide_eq_true (le_of_lt hlt))
  have hchain : values.IsChain (· ≠ ·) := (h.imp fun hlt => ne_of_lt hlt).isChain
  rw [sortedUnique, hsorted, List.destutter_of_isChain _ _ hchain]

/-- An answer that may be one. -/
def decodeAnswer (message : AnswerMessage) : Except String QuestionPayload :=
  let payload : QuestionPayload :=
    { interactionId := message.interactionId
      selected := sortedUnique message.selectedIndices
      otherSelected := message.otherSelected
      otherText := message.otherText }
  if payload.interactionId.isEmpty then .error "agent and question are required"
  else if payload.otherText.length > otherTextMaxRunes then
    .error "other answer is longer than 100,000 characters"
  else if payload.selected.any (· < 0) then .error "invalid question selection"
  else if payload.selected.isEmpty && payload.otherText.isEmpty && !payload.otherSelected then
    .error "choose an answer or enter an Other answer"
  else if !payload.otherText.isEmpty && !payload.otherSelected then
    .error "other text must be selected"
  else .ok payload

/-- An answer to this form. -/
def validateQuestionPayload (interaction : Interaction) (payload : QuestionPayload) :
    Except String Unit :=
  if payload.navigation = .previous && !interaction.canGoBack then
    .error "there is no previous question to open"
  else if payload.navigation = .next && (decide (interaction.questionIndex = 0) ||
      decide (interaction.questionTotal ≤ interaction.questionIndex)) then
    .error "there is no next question to open"
  else if payload.clarify && (!interaction.canChat || interaction.agent ≠ .claude) then
    .error "this question can no longer be discussed"
  else if payload.navigation ≠ .none || payload.clarify then .ok ()
  else if payload.selected.any fun index => index < 0 || interaction.options.length ≤ index then
    .error "question selection is no longer available"
  else
    let otherIsChoice := payload.otherSelected &&
      (!(trim payload.otherText).isEmpty || interaction.other.allowEmpty)
    if interaction.other.hidden && payload.otherSelected then
      .error "this question does not accept a custom answer"
    else if interaction.kind = .singleSelect &&
        decide (payload.selected.length + otherIsChoice.toNat ≠ 1) then
      .error "choose one answer or enter an Other answer"
    else .ok ()

/-- **What an accepted answer is like.** Free text comes with the selection of `Other`, something is
answered, the selected options are there, and a hidden `Other` is not selected. -/
structure QuestionPayload.Answers (payload : QuestionPayload) (interaction : Interaction) :
    Prop where
  other : payload.otherText ≠ [] → payload.otherSelected = true
  some : payload.selected ≠ [] ∨ payload.otherSelected = true
  options : ∀ k ∈ payload.selected, 0 ≤ k ∧ k < interaction.options.length
  hidden : interaction.other.hidden = true → payload.otherSelected = false

/-- An answer that does not select `Other` has no text. -/
theorem QuestionPayload.Answers.noText {payload : QuestionPayload} {interaction : Interaction}
    (h : payload.Answers interaction) (hunmarked : payload.otherSelected = false) :
    payload.otherText = [] := by
  by_contra htext
  rw [h.other htext] at hunmarked
  cases hunmarked

theorem decodeAnswer_plain {message : AnswerMessage} {payload : QuestionPayload}
    (h : decodeAnswer message = .ok payload) :
    payload.navigation = .none ∧ payload.clarify = false ∧
      (payload.otherText ≠ [] → payload.otherSelected = true) ∧
      (payload.selected ≠ [] ∨ payload.otherSelected = true) := by
  unfold decodeAnswer at h
  simp only at h
  split at h
  · cases h
  split at h
  · cases h
  split at h
  · cases h
  split at h
  · cases h
  rename_i hsome
  split at h
  · cases h
  rename_i hother
  obtain rfl := Except.ok.inj h
  simp only [Bool.and_eq_true, Bool.not_eq_true', List.isEmpty_iff, List.isEmpty_eq_false_iff,
    not_and, Bool.not_eq_false] at hsome hother
  refine ⟨rfl, rfl, hother, ?_⟩
  by_cases hselected : sortedUnique message.selectedIndices = []
  · refine .inr ?_
    by_cases htext : message.otherText = []
    · exact hsome ⟨hselected, htext⟩
    · exact hother htext
  · exact .inl hselected

/-- **Acceptance.** What the two checks leave of the answers a client may send. -/
theorem answers_of_accepted {message : AnswerMessage} {payload : QuestionPayload}
    {interaction : Interaction} (hdecode : decodeAnswer message = .ok payload)
    (hvalid : validateQuestionPayload interaction payload = .ok ()) :
    payload.Answers interaction := by
  obtain ⟨hnavigation, hclarify, hother, hsome⟩ := decodeAnswer_plain hdecode
  unfold validateQuestionPayload at hvalid
  rw [hnavigation, hclarify] at hvalid
  simp only [reduceCtorEq, decide_false, Bool.false_and, Bool.false_eq_true, if_false, ne_eq,
    not_true_eq_false, Bool.or_self] at hvalid
  split at hvalid
  · cases hvalid
  rename_i hrange
  split at hvalid
  · cases hvalid
  rename_i hhidden
  refine ⟨hother, hsome, ?_, ?_⟩
  · intro k hk
    have hin := mt (fun hbad => List.any_eq_true.mpr ⟨k, hk, hbad⟩) hrange
    simp only [Bool.or_eq_true, decide_eq_true_eq, not_or, not_lt, not_le] at hin
    exact hin
  · intro hhide
    simpa [hhide] using hhidden

end Lerdr.Classify
