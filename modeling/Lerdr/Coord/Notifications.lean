/-
# Lerdr.Coord.Notifications — one finished notification per completion.

A completion arms a cell at a revision: a pane that goes from work or a block to done or idle at the
revision of the commit, a block classified as chat at the revision of the classification. The
projector claims the notification of a revision once; the claim sets a flag that the next cycle
clears.

The two sources of revisions write one field. A classification may run ahead of the topology's
counter by one; then a commit reaches the same number. It arms nothing new as long as the block is
still a chat, but if a second classification has ended the chat in between, the commit can arm the
revision a second time, and its notification is claimed twice.
-/
import Lerdr.Coord.Content
import Lerdr.Lib.Runs

namespace Lerdr.Coord

open Lib

/-! ## §1 — the claim -/

/-- `register_finished_notification`, on a topology that may be an old clone: the ledger after it,
and whether the claim was granted. -/
def Topology.registerFinishedNotification (t : Topology) (ledger : Ledger) (paneId : String)
    (revision : Int) : Ledger × Bool :=
  match t.paneOf paneId with
  | none => (ledger, false)
  | some info =>
    let status := info.agentStatus.text
    let cell := ledger.cells paneId
    let attention := isAttentionStatus status &&
      !(decide (status = StatusText.blocked) && decide (cell.blocked.kind = some .chat))
    if attention || decide (cell.completionRev ≠ revision) || cell.finishedNotif then
      (ledger, false)
    else (ledger.setCell paneId { cell with finishedNotif := true }, true)

/-- A granted claim finds its revision armed and unclaimed, and marks it. -/
theorem Topology.registerFinishedNotification_granted {t : Topology} {ledger ledger' : Ledger}
    {paneId : String} {revision : Int}
    (h : t.registerFinishedNotification ledger paneId revision = (ledger', true)) :
    (ledger.cells paneId).completionRev = revision ∧
      (ledger.cells paneId).finishedNotif = false ∧
      ledger' = ledger.setCell paneId { ledger.cells paneId with finishedNotif := true } := by
  unfold Topology.registerFinishedNotification at h
  split at h
  · cases h
  · simp only at h
    split at h
    · cases h
    · rename_i hopen
      simp only [Bool.or_eq_true, not_or, Bool.not_eq_true, decide_eq_false_iff_not,
        not_not] at hopen
      obtain ⟨⟨-, hrevision⟩, hunclaimed⟩ := hopen
      exact ⟨hrevision, hunclaimed, (Prod.mk.inj h).1.symm⟩

theorem Topology.registerFinishedNotification_refused {t : Topology} {ledger ledger' : Ledger}
    {paneId : String} {revision : Int}
    (h : t.registerFinishedNotification ledger paneId revision = (ledger', false)) :
    ledger' = ledger := by
  unfold Topology.registerFinishedNotification at h
  split at h
  · exact (Prod.mk.inj h).1.symm
  · simp only at h
    split at h
    · exact (Prod.mk.inj h).1.symm
    · cases h

/-- The system, with the claims that were granted. -/
structure Notifier where
  system : System := {}
  claimed : List (String × Int) := []

/-- An event of the system, or a claim through a published clone. -/
inductive NotifyEvent where
  | system (event : SystemEvent)
  | claim (view : Nat) (paneId : String) (revision : Int)

def Notifier.step (host : Host) (n : Notifier) : NotifyEvent → Notifier
  | .system event => { n with system := n.system.step host event }
  | .claim view paneId revision =>
    match n.system.published[view]? with
    | none => n
    | some t =>
      let (ledger, granted) := t.registerFinishedNotification n.system.ledger paneId revision
      { system := { n.system with ledger }
        claimed := if granted then n.claimed ++ [(paneId, revision)] else n.claimed }

/-! ## §2 — what arms a completion -/

namespace AttentionCell

/-- The armed completion, and whether it is claimed. -/
def completion (cell : AttentionCell) : Int × Bool := (cell.completionRev, cell.finishedNotif)

/-- A transition keeps the completion, drops it, or arms it at the commit, the last only for a pane
that left work or a block, and not a chat that goes idle. -/
theorem registerTransition_completion (record : PaneTransition) (prev : StatusText)
    (previousAttention : Option AttentionKind) (cell : AttentionCell) :
    let after := (cell.registerTransition record prev previousAttention).1
    after.completion = cell.completion ∨ after.completionRev = 0 ∨
      (after.completionRev = record.revision ∧ record.status ≠ .blocked ∧
        preservesChatCompletion prev record.status previousAttention = false) := by
  intro after
  have hafter : after = (cell.registerTransition record prev previousAttention).1 := rfl
  by_cases hattention : isAttentionStatus record.status = true
  · -- entering work or a block drops what was armed
    simp only [registerTransition, if_pos hattention] at hafter
    by_cases hentered : prev ≠ record.status
    · right; left
      simp only [if_pos hentered] at hafter
      split at hafter <;> rw [hafter]
    · left
      simp only [if_neg hentered] at hafter
      split at hafter <;> rw [hafter]
  · have hblocked : record.status ≠ .blocked := by
      intro hblocked
      rw [hblocked] at hattention
      exact hattention rfl
    simp only [registerTransition, if_neg hattention] at hafter
    split at hafter
    · rename_i hdone
      split at hafter
      · right; right
        refine ⟨by rw [hafter], hblocked, ?_⟩
        rw [preservesChatCompletion, decide_eq_false_iff_not]
        rintro ⟨-, hidle, -⟩
        rw [hidle] at hdone
        cases hdone
      · exact .inl (by rw [hafter])
    · split at hafter
      · split at hafter
        · exact .inl (by rw [hafter])
        · rename_i hchat
          right; right
          refine ⟨by rw [hafter], hblocked, ?_⟩
          rw [preservesChatCompletion, decide_eq_false_iff_not]
          exact fun h => hchat ⟨h.1, h.2.2⟩
      · exact .inl (by rw [hafter])

end AttentionCell

namespace Topology

/-- The seeding of a fresh pane touches neither the completion nor the block. -/
theorem seedFresh_completion (existing : Option AgentInfo) (status : StatusText)
    (times : AgentTimes) (cell : AttentionCell) :
    (seedFresh existing status times cell).completion = cell.completion ∧
      (seedFresh existing status times cell).blocked = cell.blocked := by
  unfold seedFresh
  split_ifs <;> exact ⟨rfl, rfl⟩

/-- **What the end of a commit does to the completion**: it keeps it, drops it, or arms it at the
commit's revision, the last only if the block before was not a chat. -/
theorem finishCell_completion (env : CommitEnv) (record : PaneTransition) (prevStatus : StatusText)
    (previousAttention : Option AttentionKind) (changed : Bool)
    {seed : AttentionCell → AttentionCell}
    (hseed : ∀ c, (seed c).completion = c.completion ∧ (seed c).blocked = c.blocked)
    {cell : AttentionCell} (hchat : cell.blocked.kind = some .chat → record.status = .blocked) :
    let after := (finishCell env record prevStatus previousAttention changed seed cell).1
    after.completion = cell.completion ∨ after.completionRev = 0 ∨
      (after.completionRev = record.revision ∧ previousAttention ≠ some .chat) := by
  intro after
  obtain ⟨hseeded, hkind⟩ := hseed
    (cell.registerTransition record prevStatus previousAttention).1
  have hregistered := cell.registerTransition_completion record prevStatus previousAttention
  have hsame := cell.sameContent_registerTransition record prevStatus previousAttention
  simp only at hregistered
  generalize hcell : (cell.registerTransition record prevStatus previousAttention).1 = registered
    at hregistered hsame hseeded hkind
  have hrev : (seed registered).completionRev = registered.completionRev :=
    congrArg Prod.fst hseeded
  rw [← hseeded, ← hrev] at hregistered
  have hafter : after =
      if preservesChatCompletion prevStatus record.status previousAttention then seed registered
      else (seed registered).syncAttentionCompletion previousAttention
        (seed registered).blocked.kind record.revision := by
    rw [← hcell]
    rfl
  cases hpreserves : preservesChatCompletion prevStatus record.status previousAttention with
  | true =>
    rw [hpreserves, if_pos rfl] at hafter
    rw [hafter]
    rcases hregistered with hkept | hdropped | ⟨-, -, hnot⟩
    · exact .inl hkept
    · exact .inr (.inl hdropped)
    · rw [hpreserves] at hnot
      cases hnot
  | false =>
    rw [hpreserves, if_neg Bool.false_ne_true] at hafter
    rw [hafter, AttentionCell.syncAttentionCompletion]
    by_cases hnow : (seed registered).blocked.kind = some .chat
    · rw [if_pos hnow]
      by_cases hprevious : previousAttention = some .chat
      · rw [if_neg (not_not.mpr hprevious)]
        -- still a chat: the pane is blocked, so the transition armed nothing
        have hstatus : record.status = .blocked := by
          apply hchat
          rw [← hsame.blocked, ← hkind]
          exact hnow
        rcases hregistered with hkept | hdropped | ⟨-, hnot, -⟩
        · exact .inl hkept
        · exact .inr (.inl hdropped)
        · exact absurd hstatus hnot
      · rw [if_pos hprevious]
        exact .inr (.inr ⟨rfl, hprevious⟩)
    · rw [if_neg hnow]
      by_cases hprevious : previousAttention = some .chat
      · rw [if_pos hprevious]
        exact .inr (.inl rfl)
      · rw [if_neg hprevious]
        rcases hregistered with hkept | hdropped | ⟨harmed, -, -⟩
        · exact .inl hkept
        · exact .inr (.inl hdropped)
        · exact .inr (.inr ⟨harmed, hprevious⟩)

/-- The completion, and the armed revision, that a commit may leave behind. -/
def Arms (epoch : Int) (cell after : AttentionCell) : Prop :=
  after.completion = cell.completion ∨ after.completionRev = 0 ∨
    (after.completionRev = epoch ∧ cell.blocked.kind ≠ some .chat)

theorem syncCycle_completion (status : StatusText) (mint : String) (cell : AttentionCell) :
    (cell.syncCycle status mint).1.completion = cell.completion ∧
      ((cell.syncCycle status mint).1.blocked.kind = some .chat → status = .blocked) := by
  unfold AttentionCell.syncCycle
  split
  · exact ⟨rfl, fun h => by cases h⟩
  · rename_i hstatus
    exact ⟨rfl, fun _ => not_not.mp hstatus⟩

theorem enterCell_completion (host : Host) (env : CommitEnv) (index : Nat) (kind : CommitKind)
    (enrichment : Option Classification) (existing : Option AgentInfo) (incoming : AgentInfo)
    (cell : AttentionCell) :
    let entered := (enterCell host env index kind enrichment existing incoming cell).1
    entered.completion = cell.completion ∧
      (entered.blocked.kind = some .chat → incoming.agentStatus.text = .blocked) := by
  obtain ⟨hcompletion, hchat⟩ :=
    syncCycle_completion incoming.agentStatus.text (env.mint index) cell
  unfold enterCell
  cases enrichment with
  | none => exact ⟨hcompletion, hchat⟩
  | some c =>
    simp only
    split
    · rename_i hadopts
      exact ⟨hcompletion, fun _ => hadopts.1⟩
    · exact ⟨hcompletion, hchat⟩

theorem acceptCell_arms (host : Host) (env : CommitEnv) (index : Nat) (epoch : Int)
    (kind : CommitKind) (enrichment : Option Classification) (existing : Option AgentInfo)
    (incoming : AgentInfo) (times : AgentTimes) (cell : AttentionCell) :
    Arms epoch cell
      (acceptCell host env index epoch kind enrichment existing incoming times cell).1 := by
  obtain ⟨hcompletion, hchat⟩ :=
    enterCell_completion host env index kind enrichment existing incoming cell
  rw [acceptCell_eq, Arms, ← hcompletion]
  exact finishCell_completion env _ _ _ _ (seedFresh_completion existing _ times) hchat

theorem statusCell_arms (host : Host) (env : CommitEnv) (epoch : Int) (prevAgent : Option String)
    (incoming : AgentInfo) (cell : AttentionCell) :
    Arms epoch cell (statusCell host env epoch prevAgent incoming cell).1 := by
  obtain ⟨hcompletion, hchat⟩ := syncCycle_completion incoming.agentStatus.text (env.mint 0) cell
  rw [statusCell_eq, Arms, ← hcompletion]
  exact finishCell_completion env _ _ _ _ (fun _ => ⟨rfl, rfl⟩) hchat

/-- A classification arms its own revision, and only by starting a chat. -/
theorem classifyCell_arms (host : Host) (c : Classification) (cell : AttentionCell) :
    (classifyCell host c cell).stateRev = cell.stateRev + 1 ∧
      ((classifyCell host c cell).completion = cell.completion ∨
        (classifyCell host c cell).completionRev = 0 ∨
        ((classifyCell host c cell).completionRev = cell.stateRev + 1 ∧
          (classifyCell host c cell).blocked.kind = some .chat)) := by
  refine ⟨AttentionCell.syncAttentionCompletion_stateRev _ _ _ _, ?_⟩
  unfold classifyCell AttentionCell.syncAttentionCompletion
  simp only
  split
  · rename_i hnow
    split
    · exact .inr (.inr ⟨rfl, hnow⟩)
    · exact .inl rfl
  · split
    · exact .inr (.inl rfl)
    · exact .inl rfl

end Topology

/-! ## §3 — the invariant -/

namespace Notifier

/-- The event neither removes the pane nor replaces its session. -/
def Stays (s : System) (p : String) : SystemEvent → Prop
  | .accept _ snapshot _ _ => (s.Live p → p ∈ snapshot.agents.map (·.paneId)) ∧
    ∀ incoming ∈ snapshot.agents, incoming.paneId = p → s.topology.replaces incoming = false
  | _ => True

instance (s : System) (p : String) : (e : SystemEvent) → Decidable (Stays s p e)
  | .accept _ snapshot _ _ => inferInstanceAs (Decidable
      ((s.Live p → p ∈ snapshot.agents.map (·.paneId)) ∧
        ∀ incoming ∈ snapshot.agents, incoming.paneId = p → s.topology.replaces incoming = false))
  | .status .. | .bump .. | .markStale | .inventoryFailed .. | .republish | .publish
  | .attention .. | .acknowledge .. => .isTrue trivial

/-- What is asked of a run: the pane stays; snapshots list each pane once; and a classification that
moves the pane's cell finds its epoch no further than the topology's revision. -/
def Meets (host : Host) (p : String) (n : Notifier) : NotifyEvent → Prop
  | .system event => Stays n.system p event ∧ event.Once ∧
    (n.system.classifies host event = some p → n.system.epoch p ≤ n.system.topology.revision)
  | .claim .. => True

instance (host : Host) (p : String) (n : Notifier) : (e : NotifyEvent) →
    Decidable (n.Meets host p e)
  | .system event => inferInstanceAs (Decidable
      (Stays n.system p event ∧ event.Once ∧
        (n.system.classifies host event = some p →
          n.system.epoch p ≤ n.system.topology.revision)))
  | .claim .. => .isTrue trivial

def Step (host : Host) (p : String) (n : Notifier) (e : NotifyEvent) (n' : Notifier) : Prop :=
  n' = n.step host e ∧ n.Meets host p e

/-- **What holds of a pane that stays.** No revision, armed or claimed, is past the cell's epoch,
which is at most one past the topology's; what is armed and not marked is not claimed; and at the
one revision that a commit could still reach, the block is a chat. -/
structure Claims (p : String) (n : Notifier) : Prop where
  epoch_le : n.system.epoch p ≤ n.system.topology.revision + 1
  armed_le : (n.system.cell p).completionRev ≠ 0 →
    (n.system.cell p).completionRev ≤ n.system.epoch p
  claimed_le : ∀ r, r ≠ 0 → (p, r) ∈ n.claimed → r ≤ n.system.epoch p
  unmarked : (n.system.cell p).completionRev ≠ 0 → (n.system.cell p).finishedNotif = false →
    (p, (n.system.cell p).completionRev) ∉ n.claimed
  ahead : (n.system.cell p).completionRev = n.system.topology.revision + 1 ∨
    (p, (n.system.topology.revision + 1 : Int)) ∈ n.claimed →
    (n.system.cell p).blocked.kind = some .chat
  once : ∀ r, r ≠ 0 → n.claimed.count (p, r) ≤ 1

variable {host : Host} {p : String} {n : Notifier}

section

variable (h : Claims p n)
include h

/-- A cell that keeps its completion keeps what is armed and not claimed. -/
theorem Claims.of_completion {cell : AttentionCell}
    (hkept : cell.completion = (n.system.cell p).completion) (hne : cell.completionRev ≠ 0) :
    cell.completionRev ≤ n.system.epoch p ∧
      (cell.finishedNotif = false → (p, cell.completionRev) ∉ n.claimed) := by
  have hrev : cell.completionRev = (n.system.cell p).completionRev := congrArg Prod.fst hkept
  have hmark : cell.finishedNotif = (n.system.cell p).finishedNotif := congrArg Prod.snd hkept
  rw [hrev] at hne ⊢
  rw [hmark]
  exact ⟨h.armed_le hne, h.unmarked hne⟩

/-- A commit at the topology's next revision. -/
theorem Claims.committed {s' : System}
    (hrevision : s'.topology.revision = n.system.topology.revision + 1)
    (hepoch : s'.epoch p = (n.system.topology.revision + 1 : Nat))
    (harms : Topology.Arms (n.system.topology.revision + 1 : Nat) (n.system.cell p) (s'.cell p)) :
    Claims p { n with system := s' } := by
  have hle := h.epoch_le
  have harmed : (s'.cell p).completionRev ≠ 0 → (s'.cell p).completionRev ≤ s'.epoch p := by
    intro hne
    rcases harms with hkept | hzero | ⟨harmed, -⟩
    · have := (h.of_completion hkept hne).1
      omega
    · exact absurd hzero hne
    · omega
  have hclaimed : ∀ r, r ≠ 0 → (p, r) ∈ n.claimed → r ≤ s'.epoch p := by
    intro r hr hmem
    have := h.claimed_le r hr hmem
    omega
  refine ⟨?_, harmed, hclaimed, ?_, ?_, h.once⟩
  · show s'.epoch p ≤ s'.topology.revision + 1
    omega
  · intro hne hunmarked
    show (p, (s'.cell p).completionRev) ∉ n.claimed
    rcases harms with hkept | hzero | ⟨harmed, hchat⟩
    · exact (h.of_completion hkept hne).2 hunmarked
    · exact absurd hzero hne
    · -- armed anew: had the revision been claimed, the block would be a chat
      intro hmem
      rw [harmed] at hmem
      exact hchat (h.ahead (.inr (by exact_mod_cast hmem)))
  · intro hahead
    exfalso
    rcases hahead with harmed' | hmem
    · replace harmed' : (s'.cell p).completionRev = s'.topology.revision + 1 := harmed'
      have := harmed (by omega)
      omega
    · have := hclaimed (s'.topology.revision + 1) (by omega) hmem
      omega

/-- The topology's revision grows, and the pane is left alone. -/
theorem Claims.kept {s' : System} (hcell : (s'.cell p).completion
      = (n.system.cell p).completion) (hkind : (s'.cell p).blocked.kind
      = (n.system.cell p).blocked.kind) (hepoch : s'.epoch p = n.system.epoch p)
    (hrevision : n.system.topology.revision ≤ s'.topology.revision) :
    Claims p { n with system := s' } := by
  have hle := h.epoch_le
  have hrev : (s'.cell p).completionRev = (n.system.cell p).completionRev :=
    congrArg Prod.fst hcell
  refine ⟨?_, ?_, ?_, fun hne => (h.of_completion hcell hne).2, ?_, h.once⟩
  · show s'.epoch p ≤ s'.topology.revision + 1
    omega
  · show (s'.cell p).completionRev ≠ 0 → (s'.cell p).completionRev ≤ s'.epoch p
    rw [hepoch]
    exact fun hne => (h.of_completion hcell hne).1
  · show ∀ r, r ≠ 0 → (p, r) ∈ n.claimed → r ≤ s'.epoch p
    rw [hepoch]
    exact h.claimed_le
  · show (s'.cell p).completionRev = s'.topology.revision + 1 ∨
      (p, (s'.topology.revision + 1 : Int)) ∈ n.claimed → (s'.cell p).blocked.kind = some .chat
    rw [hrev, hkind]
    intro hahead
    -- past the old revision by one at most, so the revision is the old one
    have hsame : s'.topology.revision = n.system.topology.revision := by
      rcases hahead with harmed | hmem
      · have := h.armed_le (by omega)
        omega
      · have := h.claimed_le _ (by omega) hmem
        omega
    rw [hsame] at hahead
    exact h.ahead hahead

theorem Claims.classified {s' : System} {c : Classification}
    (hpaced : n.system.epoch p ≤ n.system.topology.revision)
    (hrevision : s'.topology.revision = n.system.topology.revision)
    (hcell : s'.cell p = Topology.classifyCell host c (n.system.cell p)) :
    Claims p { n with system := s' } := by
  obtain ⟨hstate, harms⟩ := Topology.classifyCell_arms host c (n.system.cell p)
  rw [← hcell] at hstate harms
  have hepoch : s'.epoch p = n.system.epoch p + 1 := hstate
  have hcellEpoch : (n.system.cell p).stateRev = n.system.epoch p := rfl
  rw [hcellEpoch] at harms
  have hclaimed : ∀ r, r ≠ 0 → (p, r) ∈ n.claimed → r ≤ n.system.epoch p := h.claimed_le
  refine ⟨?_, ?_, ?_, ?_, ?_, h.once⟩
  · show s'.epoch p ≤ s'.topology.revision + 1
    omega
  · show (s'.cell p).completionRev ≠ 0 → (s'.cell p).completionRev ≤ s'.epoch p
    intro hne
    rcases harms with hkept | hzero | ⟨harmed, -⟩
    · have := (h.of_completion hkept hne).1
      omega
    · exact absurd hzero hne
    · omega
  · intro r hr hmem
    show r ≤ s'.epoch p
    have := hclaimed r hr hmem
    omega
  · show (s'.cell p).completionRev ≠ 0 → (s'.cell p).finishedNotif = false →
      (p, (s'.cell p).completionRev) ∉ n.claimed
    intro hne hunmarked
    rcases harms with hkept | hzero | ⟨harmed, -⟩
    · exact (h.of_completion hkept hne).2 hunmarked
    · exact absurd hzero hne
    · intro hmem
      have := hclaimed _ hne hmem
      omega
  · show (s'.cell p).completionRev = s'.topology.revision + 1 ∨
      (p, (s'.topology.revision + 1 : Int)) ∈ n.claimed → (s'.cell p).blocked.kind = some .chat
    rintro (hahead | hmem)
    · rcases harms with hkept | hzero | ⟨-, hchat⟩
      · have := (h.of_completion hkept (by omega)).1
        omega
      · omega
      · exact hchat
    · have := hclaimed _ (by omega) hmem
      omega

/-- The pane's armed revision is claimed and marked. -/
theorem Claims.marked {s' : System} (htopology : s'.topology = n.system.topology)
    (hcell : s'.cell p = { n.system.cell p with finishedNotif := true })
    (hunmarked : (n.system.cell p).finishedNotif = false) :
    Claims p ⟨s', n.claimed ++ [(p, (n.system.cell p).completionRev)]⟩ := by
  have hepoch : s'.epoch p = n.system.epoch p := by
    rw [System.epoch, ← System.cell, hcell]
    rfl
  have hmem : ∀ {r : Int}, (p, r) ∈ n.claimed ++ [(p, (n.system.cell p).completionRev)] →
      (p, r) ∈ n.claimed ∨ r = (n.system.cell p).completionRev := by
    intro r hr
    rcases List.mem_append.mp hr with hr | hr
    · exact .inl hr
    · exact .inr (Prod.mk.inj (List.mem_singleton.mp hr)).2
  constructor
  · rw [hepoch, htopology]
    exact h.epoch_le
  · rw [hepoch, hcell]
    exact h.armed_le
  · intro r hr hclaimed
    rw [hepoch]
    rcases hmem hclaimed with hclaimed | rfl
    · exact h.claimed_le r hr hclaimed
    · exact h.armed_le hr
  · rw [hcell]
    exact fun _ hfalse => absurd hfalse Bool.noConfusion
  · rw [htopology, hcell]
    rintro (hahead | hclaimed)
    · exact h.ahead (.inl hahead)
    · rcases hmem hclaimed with hclaimed | hahead
      · exact h.ahead (.inr hclaimed)
      · exact h.ahead (.inl hahead.symm)
  · intro r hr
    rw [List.count_append, List.count_singleton]
    split
    · rename_i hsame
      -- what was armed and unmarked was not claimed before
      obtain rfl : (n.system.cell p).completionRev = r := (Prod.mk.inj (eq_of_beq hsame)).2
      rw [List.count_eq_zero_of_not_mem (h.unmarked hr hunmarked)]
    · exact h.once r hr

/-- Another pane's revision is claimed. -/
theorem Claims.other {q : String} (hq : p ≠ q) (revision : Int) :
    Claims p { n with claimed := n.claimed ++ [(q, revision)] } := by
  have hother : ∀ r : Int, (p, r) ≠ (q, revision) := fun r hr => hq (Prod.mk.inj hr).1
  have hmem : ∀ r : Int, (p, r) ∈ n.claimed ++ [(q, revision)] ↔ (p, r) ∈ n.claimed := by
    intro r
    rw [List.mem_append, List.mem_singleton, or_iff_left (hother r)]
  refine ⟨h.epoch_le, h.armed_le, ?_, ?_, ?_, ?_⟩
  · intro r hr hclaimed
    exact h.claimed_le r hr ((hmem r).mp hclaimed)
  · intro hne hfalse hclaimed
    exact h.unmarked hne hfalse ((hmem _).mp hclaimed)
  · rintro (hahead | hclaimed)
    · exact h.ahead (.inl hahead)
    · exact h.ahead (.inr ((hmem _).mp hclaimed))
  · intro r hr
    have hne : ((q, revision) == (p, r)) = false := beq_false_of_ne (hother r).symm
    rw [List.count_append, List.count_singleton, hne, if_neg Bool.false_ne_true]
    exact h.once r hr

theorem Claims.granted {t : Topology} {q : String} {revision : Int} {ledger : Ledger}
    (hgranted : t.registerFinishedNotification n.system.ledger q revision = (ledger, true)) :
    Claims p { system := { n.system with ledger }, claimed := n.claimed ++ [(q, revision)] } := by
  obtain ⟨rfl, hunmarked, rfl⟩ := Topology.registerFinishedNotification_granted hgranted
  by_cases hq : p = q
  · subst hq
    refine h.marked rfl ?_ hunmarked
    rw [System.cell, Ledger.setCell_cells, if_pos rfl]
    rfl
  · refine (h.other hq _).kept ?_ ?_ ?_ le_rfl <;>
      simp only [System.epoch, System.cell, Ledger.setCell_cells, if_neg hq]

end

theorem acknowledge_completion (status : StatusText) (lastActiveAt now : Int)
    (cell : AttentionCell) :
    (cell.acknowledge status lastActiveAt now).completion = cell.completion := by
  simp only [AttentionCell.acknowledge]
  split <;> rfl

/-- **The invariant, over an event of the system.** -/
theorem Claims.system (h : Claims p n) {event : SystemEvent}
    (hmeets : n.Meets host p (.system event)) :
    Claims p { n with system := n.system.step host event } := by
  obtain ⟨hstays, honce, hpaced⟩ := hmeets
  cases System.step_pane host n.system honce p with
  | @sampled env snapshot enrichments kind incoming index hevent hmem hid _ hcell _ hrevision =>
    subst hevent
    refine h.committed hrevision ?_ ?_
    · rw [System.epoch, ← System.cell, hcell]
      exact Topology.acceptCell_stateRev ..
    · -- the pane keeps its session, so its cell is not reset first
      obtain ⟨sampled, hsampled, hrow⟩ :=
        n.system.topology.sampled_of_mem_incomingRows snapshot kind hmem
      obtain rfl : n.system.topology.preserveStatus kind sampled = incoming := hrow
      rw [Topology.preserveStatus_paneId] at hid
      have hkeeps : n.system.topology.replaces (n.system.topology.preserveStatus kind sampled)
          = false := by
        rw [Topology.replaces_preserveStatus]
        exact hstays.2 sampled hsampled hid
      rw [hcell, Topology.acceptPaneCell, hkeeps]
      exact Topology.acceptCell_arms ..
  | removed hevent habsent hlive =>
    subst hevent
    exact absurd (hstays.1 hlive) habsent
  | rewritten _ _ _ hcell _ hrevision =>
    refine h.committed hrevision ?_ ?_
    · rw [System.epoch, ← System.cell, hcell]
      exact Topology.statusCell_stateRev ..
    · rw [hcell]
      exact Topology.statusCell_arms ..
  | classified hmoves _ _ hcell _ hrevision =>
    exact h.classified (hpaced hmoves) hrevision hcell
  | @acknowledged status lastActiveAt now _ hcell _ hrevision =>
    refine h.kept ?_ ?_ ?_ hrevision.ge
    · rw [hcell]
      exact acknowledge_completion ..
    · rw [hcell, (AttentionCell.sameContent_acknowledge ..).blocked]
    · rw [System.epoch, ← System.cell, hcell]
      exact AttentionCell.acknowledge_stateRev ..
  | bumped _ _ hcell _ hrevision =>
    exact h.kept (congrArg _ hcell) (congrArg (·.blocked.kind) hcell)
      (congrArg AttentionCell.stateRev hcell) (by omega)
  | kept _ hcell _ hrevision =>
    obtain ⟨interaction, -, hcell⟩ := hcell
    refine h.kept ?_ ?_ ?_ hrevision
    · rw [hcell]
      rfl
    · rw [hcell]
      rfl
    · rw [System.epoch, ← System.cell, hcell]
      rfl

/-- **The invariant, over a step.** -/
theorem Claims.step {e : NotifyEvent} {n' : Notifier} (h : Claims p n)
    (hstep : Step host p n e n') : Claims p n' := by
  obtain ⟨rfl, hmeets⟩ := hstep
  cases e with
  | system event => exact h.system hmeets
  | claim view q revision =>
    simp only [Notifier.step]
    cases hview : n.system.published[view]? with
    | none => exact h
    | some t =>
      simp only
      cases hclaim : t.registerFinishedNotification n.system.ledger q revision with
      | mk ledger granted =>
        cases granted with
        | true => exact h.granted hclaim
        | false =>
          obtain rfl := Topology.registerFinishedNotification_refused hclaim
          exact h

theorem Claims.initial : Claims p {} where
  epoch_le := by show (0 : Int) ≤ 0 + 1; decide
  armed_le := fun h => absurd rfl h
  claimed_le := fun _ _ h => by cases h
  unmarked := fun _ _ h => by cases h
  ahead := by
    rintro (h | h)
    · replace h : (0 : Int) = 0 + 1 := h
      omega
    · cases h
  once := fun _ _ => Nat.zero_le _

/-! ## §4 — one claim per revision -/

/-- **A revision of a pane that stays is claimed once**, through whatever clone, in every run whose
classifications keep pace with the topology. -/
theorem finished_notification_once (host : Host) (p : String) {events : List NotifyEvent}
    {n : Notifier} (hrun : Runs (Step host p) {} events n) {r : Int} (hr : r ≠ 0) :
    n.claimed.count (p, r) ≤ 1 :=
  (hrun.invariant (fun _ _ _ h hstep => h.step hstep) Claims.initial).once r hr

/-- A step, if the event meets the condition. -/
def next (host : Host) (p : String) (n : Notifier) (e : NotifyEvent) : Option Notifier :=
  if n.Meets host p e then some (n.step host e) else none

theorem Step.of_next {n' : Notifier} {e : NotifyEvent} (h : next host p n e = some n') :
    Step host p n e n' := by
  obtain ⟨hmeets, hstep⟩ := Option.ite_none_right_eq_some.mp h
  exact ⟨(Option.some.inj hstep).symm, hmeets⟩

/-- A classification of the blocked pane, of one kind. -/
def classifyAs (contentRev : Int) (kind : AttentionKind) : NotifyEvent :=
  .system (.attention 0 "w1:p1" "e1" 0 contentRev { kind })

/-- A poll that samples the blocked pane, and classifies it. -/
def enrichedPoll (kind : AttentionKind) : NotifyEvent :=
  .system (.accept { now := 2, mint := fun _ => "e2" }
    { agents := [{ paneId := "w1:p1", terminalId := "t1", agentStatus := .blocked }] }
    (fun _ => some { kind }) .poll)

/-- A chat is claimed; the next poll finds the chat still there, at the same revision, and the
second claim is refused. -/
theorem finished_notification_once_chat :
    ∃ n, Runs (Step System.plainHost "w1:p1") {}
        [.system (System.blockedPoll "e1"), .system .publish, classifyAs 1 .chat,
          .claim 0 "w1:p1" 2, enrichedPoll .chat, .claim 0 "w1:p1" 2] n ∧
      n.system.epoch "w1:p1" = 2 ∧ (n.system.cell "w1:p1").completionRev = 2 ∧
      n.claimed.count ("w1:p1", 2) = 1 := by
  have hcomputed : ∃ n, Runs (Step System.plainHost "w1:p1") {}
      [.system (System.blockedPoll "e1"), .system .publish, classifyAs 1 .chat,
        .claim 0 "w1:p1" 2, enrichedPoll .chat, .claim 0 "w1:p1" 2] n ∧
      n.system.epoch "w1:p1" = 2 ∧ (n.system.cell "w1:p1").completionRev = 2 ∧
      n.claimed = [("w1:p1", 2)] :=
    Runs.of_any (fun _ _ _ _ => Step.of_next) (by decide +kernel)
  obtain ⟨n, hrun, hepoch, harmed, hclaimed⟩ := hcomputed
  have honce := finished_notification_once System.plainHost "w1:p1" hrun (r := 2) (by decide)
  have hpos : 0 < n.claimed.count ("w1:p1", 2) := by
    rw [hclaimed]
    decide +kernel
  exact ⟨n, hrun, hepoch, harmed, by omega⟩

/-- **A second classification between polls lets a revision be claimed twice.** The first makes the
block a chat at revision 2, the second a question at 3; the poll that finds a chat again has
revision 2. -/
theorem completion_claimed_twice :
    let events : List NotifyEvent := [.system (System.blockedPoll "e1"), .system .publish,
      classifyAs 1 .chat, .claim 0 "w1:p1" 2, classifyAs 2 .question, enrichedPoll .chat,
      .claim 0 "w1:p1" 2]
    let states := (List.range 8).map fun k => (events.take k).foldl (step System.plainHost) {}
    (states.map fun n => n.system.epoch "w1:p1") = [0, 1, 1, 2, 2, 3, 2, 2] ∧
      (states.map fun n => n.system.generation "w1:p1") = [0, 0, 0, 0, 0, 0, 0, 0] ∧
      (∀ n ∈ states.drop 1, n.system.Live "w1:p1") ∧
      (states.map fun n => n.claimed.count ("w1:p1", 2)) = [0, 0, 0, 0, 1, 1, 1, 2] := by
  decide +kernel

end Notifier

end Lerdr.Coord
