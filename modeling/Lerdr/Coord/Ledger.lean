/-
# Lerdr.Coord.Ledger — the per-pane attention ledger (`classify/store.rs`).

A cell holds what a pane's blocked cycle has committed (event id, classification, options, question)
and the counters and flags around it: the commit epoch `stateRev`, the content and attention
revisions, the completion a finished notification is tied to, and the unseen/acknowledged marks.
The ledger is shared by the topology actor and every published clone, so a classification committed
through an old clone lands in the same cell.

Maps with defaults are total functions: an absent cell reads as the default one, an absent
watermark as `0`.
-/
import Lerdr.Classify.Model
import Mathlib.Logic.Function.Basic
import Mathlib.Tactic.SplitIfs

namespace Lerdr.Coord

open Classify (Interaction)

/-! ## §1 — statuses -/

/-- Herdr's `AgentStatus`. -/
inductive AgentStatus where
  | unknown
  | idle
  | working
  | blocked
  | done
  | unrecognized
  deriving DecidableEq, Repr

/-- The strings `AgentStatus` displays as, and the empty string of a cell that saw no commit.
Herdr's other words for `done` (`complete`, `finished`, …) are never displayed. -/
inductive StatusText where
  | empty
  | unknown
  | idle
  | working
  | blocked
  | done
  deriving DecidableEq, Repr

/-- `Display for AgentStatus`. -/
def AgentStatus.text : AgentStatus → StatusText
  | .idle => .idle
  | .working => .working
  | .blocked => .blocked
  | .done => .done
  | .unknown | .unrecognized => .unknown

def isAttentionStatus : StatusText → Bool
  | .working | .blocked => true
  | _ => false

def isDoneStatus : StatusText → Bool
  | .done => true
  | _ => false

/-! ## §2 — classifications -/

inductive AttentionKind where
  | approval
  | question
  | chat
  | unknown
  deriving DecidableEq, Repr

/-- `Classification` — what the live control region of a pane asks of the user. -/
structure Classification where
  kind : AttentionKind := .unknown
  prompt : String := ""
  command : String := ""
  options : List String := []
  interaction : Option Interaction := none
  questionLayout : Bool := false
  approvalIdentity : String := ""
  approvalSource : String := ""
  deriving DecidableEq, Repr

/-- `BlockedDetails` — the semantic halves that move as a unit. -/
@[ext]
structure BlockedDetails where
  eventId : String := ""
  kind : Option AttentionKind := none
  prompt : String := ""
  command : String := ""
  options : List String := []
  approvalFingerprint : String := ""
  interaction : Option Interaction := none
  questionLayout : Bool := false
  interactionId : String := ""
  deriving DecidableEq, Repr

/-- The library functions the commits call: the SHA-256 of an approval's canonical JSON, in hex, and
`Path::file_name`. -/
structure Host where
  approvalDigest : Classification → String
  fileName : String → Option String

def approvalFingerprint (host : Host) (c : Classification) : String :=
  if c.kind ≠ .approval ∨ c.options.length < 2 then ""
  else if c.approvalIdentity ≠ "" then c.approvalIdentity
  else host.approvalDigest c

/-! ## §3 — the cell -/

/-- `PaneTransition` — one record for the projector. -/
structure PaneTransition where
  paneId : String
  agent : String
  project : String
  status : StatusText
  revision : Int
  observedAt : Int
  deriving DecidableEq, Repr

/-- What is kept of a pane. -/
structure AttentionCell where
  blocked : BlockedDetails := {}
  stateRev : Int := 0
  contentRev : Int := 0
  attentionRev : Int := 0
  completionRev : Int := 0
  prevStatus : StatusText := .empty
  unseenDone : Bool := false
  ackDone : Bool := false
  finishedNotif : Bool := false
  lastSeenAt : Int := 0
  sessionName : String := ""
  deriving DecidableEq, Repr

namespace AttentionCell

/-- `clear_blocked` — the cleared cell, and whether anything was set. -/
def clearBlocked (cell : AttentionCell) : AttentionCell × Bool :=
  ({ cell with blocked := {} }, decide (cell.blocked ≠ {}))

/-- `reset_on_replacement` — the revision counters stay. -/
def resetOnReplacement (cell : AttentionCell) : AttentionCell :=
  { cell with blocked := {}, prevStatus := .empty, unseenDone := false, ackDone := false,
              finishedNotif := false, completionRev := 0, sessionName := "" }

/-- `sync_cycle` — entering blocked mints an event id and seeds `unknown`, leaving clears; `mint` is
the id that would be minted. -/
def syncCycle (status : StatusText) (mint : String) (cell : AttentionCell) :
    AttentionCell × Bool :=
  if status ≠ .blocked then cell.clearBlocked
  else
    let noKind := cell.blocked.kind.isNone
    let noEvent := cell.blocked.eventId = ""
    ({ cell with blocked := { cell.blocked with
        kind := if noKind then some .unknown else cell.blocked.kind
        eventId := if noEvent then mint else cell.blocked.eventId } },
      noKind || decide noEvent)

/-- The details a classification commits: options and fingerprint for approvals only, the question
fields for questions only. -/
def classifiedDetails (host : Host) (c : Classification) (old : BlockedDetails) : BlockedDetails :=
  { old with
    kind := some c.kind
    prompt := c.prompt
    command := c.command
    options := if c.kind = .approval then c.options else []
    approvalFingerprint := if c.kind = .approval then approvalFingerprint host c else ""
    interaction := if c.kind = .question then c.interaction else none
    questionLayout := if c.kind = .question then c.questionLayout else false
    interactionId :=
      if c.kind = .question then (c.interaction.map (String.ofList ·.id)).getD "" else "" }

/-- `apply_classification` — whether the committed tuple moved. Interactions compare by id, and the
body is written over in either case. -/
def applyClassification (host : Host) (c : Classification) (cell : AttentionCell) :
    AttentionCell × Bool :=
  let next := classifiedDetails host c cell.blocked
  let sameInteraction :=
    cell.blocked.interaction.map (·.id) = next.interaction.map (·.id)
  let changed := decide (cell.blocked.kind ≠ next.kind ∨ cell.blocked.prompt ≠ next.prompt ∨
    cell.blocked.command ≠ next.command ∨ cell.blocked.options ≠ next.options ∨
    cell.blocked.approvalFingerprint ≠ next.approvalFingerprint ∨ ¬ sameInteraction ∨
    cell.blocked.questionLayout ≠ next.questionLayout ∨
    cell.blocked.interactionId ≠ next.interactionId)
  ({ cell with blocked := next }, changed)

/-- The cell with another question, or with none. -/
def ask (interaction : Option Interaction) (cell : AttentionCell) : AttentionCell :=
  { cell with blocked := { cell.blocked with interaction } }

/-- The two cells differ in the body of their question only: what a commit writes without calling
it a change. -/
def SameQuestion (cell cell' : AttentionCell) : Prop :=
  ∃ interaction : Option Interaction,
    interaction.map (·.id) = cell.blocked.interaction.map (·.id) ∧ cell' = cell.ask interaction

theorem SameQuestion.refl (cell : AttentionCell) : cell.SameQuestion cell :=
  ⟨cell.blocked.interaction, rfl, rfl⟩

/-- `sync_attention_completion` — entering chat arms a completion at `stateRev`, leaving drops
it. -/
def syncAttentionCompletion (previous current : Option AttentionKind) (stateRev : Int)
    (cell : AttentionCell) : AttentionCell :=
  if current = some .chat then
    if previous ≠ some .chat then { cell with finishedNotif := false, completionRev := stateRev }
    else cell
  else if previous = some .chat then { cell with finishedNotif := false, completionRev := 0 }
  else cell

/-- The status as the client is told it. -/
def displayedStatus (status : StatusText) (cell : AttentionCell) : StatusText :=
  if isDoneStatus status && cell.ackDone then .idle
  else if status = .idle ∧ cell.unseenDone = true then .done
  else status

/-- The user has seen the pane. -/
def acknowledge (status : StatusText) (lastActiveAt now : Int) (cell : AttentionCell) :
    AttentionCell :=
  let seen := { cell with lastSeenAt := max now lastActiveAt }
  if cell.unseenDone || isDoneStatus status then
    { seen with unseenDone := false, ackDone := true }
  else seen

/-- `register_transition` — the once-per-cycle notification state machine. `record` makes the
transition for the projector. -/
def registerTransition (record : PaneTransition) (prev : StatusText)
    (previousAttention : Option AttentionKind) (cell : AttentionCell) :
    AttentionCell × Option PaneTransition :=
  let status := record.status
  let revision := record.revision
  if isAttentionStatus status then
    let cell :=
      if prev ≠ status then
        { cell with unseenDone := false, ackDone := false, finishedNotif := false,
                    completionRev := 0 }
      else cell
    if (status = .blocked ∧ prev ≠ .blocked) ∨ (status = .working ∧ prev ≠ .working) then
      (cell, some record)
    else (cell, none)
  else if isDoneStatus status then
    if isAttentionStatus prev then
      ({ cell with ackDone := false, unseenDone := true, completionRev := revision }, some record)
    else (cell, none)
  else if status = .idle ∧ isAttentionStatus prev = true then
    -- a chat completion already fired when it was classified
    if prev = .blocked ∧ previousAttention = some .chat then (cell, none)
    else
      ({ cell with ackDone := false, unseenDone := true, completionRev := revision }, some record)
  else (cell, none)

end AttentionCell

def preservesChatCompletion (previousStatus currentStatus : StatusText)
    (previousAttention : Option AttentionKind) : Bool :=
  decide (previousStatus = .blocked ∧ currentStatus = .idle ∧ previousAttention = some .chat)

/-! ## §4 — the ledger -/

/-- `AttentionLedger` — cells and upstream output watermarks. -/
structure Ledger where
  cells : String → AttentionCell := fun _ => {}
  upstreamRevs : String → Nat := fun _ => 0

namespace Ledger

section

variable (ledger : Ledger)

def setCell (paneId : String) (cell : AttentionCell) : Ledger :=
  { ledger with cells := Function.update ledger.cells paneId cell }

/-- `remove` — the watermark stays. -/
def remove (paneId : String) : Ledger := ledger.setCell paneId {}

/-- `note_upstream_rev` — a max-merge that ignores `0`. -/
def noteUpstreamRev (paneId : String) (revision : Nat) : Ledger :=
  if revision = 0 then ledger
  else { ledger with upstreamRevs :=
          Function.update ledger.upstreamRevs paneId (max (ledger.upstreamRevs paneId) revision) }

def resetUpstreamRev (paneId : String) : Ledger :=
  { ledger with upstreamRevs := Function.update ledger.upstreamRevs paneId 0 }

def retainUpstream (keep : String → Bool) : Ledger :=
  { ledger with upstreamRevs := fun p => if keep p then ledger.upstreamRevs p else 0 }

@[simp] theorem setCell_cells (p q : String) (cell : AttentionCell) :
    (ledger.setCell p cell).cells q = if q = p then cell else ledger.cells q :=
  Function.update_apply ..

@[simp] theorem noteUpstreamRev_cells (p : String) (revision : Nat) :
    (ledger.noteUpstreamRev p revision).cells = ledger.cells := by
  rw [noteUpstreamRev]
  split <;> rfl

@[simp] theorem resetUpstreamRev_cells (p : String) :
    (ledger.resetUpstreamRev p).cells = ledger.cells := rfl

@[simp] theorem retainUpstream_cells (keep : String → Bool) :
    (ledger.retainUpstream keep).cells = ledger.cells := rfl

end

end Ledger

/-! ## §5 — only commits move the epoch -/

namespace AttentionCell

@[simp] theorem applyClassification_stateRev (host : Host) (c : Classification)
    (cell : AttentionCell) : (cell.applyClassification host c).1.stateRev = cell.stateRev := rfl

@[simp] theorem syncAttentionCompletion_stateRev (previous current : Option AttentionKind)
    (rev : Int) (cell : AttentionCell) :
    (cell.syncAttentionCompletion previous current rev).stateRev = cell.stateRev := by
  simp only [syncAttentionCompletion]
  split
  · split <;> rfl
  · split <;> rfl

@[simp] theorem acknowledge_stateRev (status : StatusText) (lastActiveAt now : Int)
    (cell : AttentionCell) :
    (cell.acknowledge status lastActiveAt now).stateRev = cell.stateRev := by
  simp only [acknowledge]
  split <;> rfl

@[simp] theorem registerTransition_stateRev (record : PaneTransition) (prev : StatusText)
    (previousAttention : Option AttentionKind) (cell : AttentionCell) :
    (cell.registerTransition record prev previousAttention).1.stateRev = cell.stateRev := by
  simp only [registerTransition]
  split_ifs <;> rfl

end AttentionCell

end Lerdr.Coord
