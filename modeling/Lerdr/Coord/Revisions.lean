/-
# Lerdr.Coord.Revisions — the pane revisions a run publishes.

The system is the topology actor, the ledger it shares, and the clones it has published. The actor
commits snapshots and status events at its own revision; a classification commits through a
published clone and adds one to the cell's epoch instead. The two counters write one field.

One classification between two actor commits keeps the cell's epoch within one of the actor's
revision, and the next commit is not behind it. Two put it ahead, and the next commit takes the
published revision back: the client then drops the newer row.
-/
import Lerdr.Coord.Topology
import Lerdr.Store.AgentMerge

namespace Lerdr.Coord

open Lerdr.Store

/-! ## §1 — the system -/

/-- The actor's topology, the shared ledger, and the published clones, newest first. -/
structure System where
  topology : Topology := {}
  ledger : Ledger := {}
  published : List Topology := [{}]

/-- What happens to the system. `republish` is any of the setters whose own field is not modelled
(`set_herdr_status`, `set_local_speech`, `set_agent_profiles`); `view` picks the clone a call made
outside the actor runs on. -/
inductive SystemEvent where
  | accept (env : CommitEnv) (snapshot : SessionSnapshot)
      (enrichments : String → Option Classification) (kind : CommitKind)
  | status (env : CommitEnv) (payload : Topology.StatusChanged)
  | bump (paneId : String) (now : Int)
  | markStale
  | inventoryFailed (now : Int)
  | republish
  | publish
  | attention (view : Nat) (paneId eventId : String) (generation contentRev : Int)
      (classification : Classification)
  | acknowledge (view : Nat) (paneId : String) (now : Int)

namespace System

section Runs

variable (host : Host)

/-- What an event does to topology and ledger. -/
def step (s : System) : SystemEvent → System
  | .accept env snapshot enrichments kind =>
    let (topology, ledger, _) :=
      s.topology.acceptEnriched host s.ledger env snapshot enrichments kind
    { s with topology, ledger }
  | .status env payload =>
    match s.topology.commitAgentStatus host s.ledger env payload with
    | some (topology, ledger, _) => { s with topology, ledger }
    | none => s
  | .bump paneId now =>
    let (topology, ledger) := s.topology.bumpGeneration s.ledger paneId now
    { s with topology, ledger }
  | .markStale => { s with topology := s.topology.markStale }
  | .inventoryFailed now => { s with topology := s.topology.markInventoryFailure now }
  | .republish => { s with topology := { s.topology with revision := s.topology.revision + 1 } }
  | .publish => { s with published := s.topology :: s.published }
  | .attention view paneId eventId generation contentRev c =>
    match s.published[view]? with
    | some t =>
      { s with
        ledger := (t.commitAttention host s.ledger paneId eventId generation contentRev c).1 }
    | none => s
  | .acknowledge view paneId now =>
    match s.published[view]? with
    | some t => { s with ledger := t.acknowledge s.ledger paneId now }
    | none => s

/-- The state after the first `k` events of a run from the start. -/
def after (events : List SystemEvent) (k : Nat) : System := (events.take k).foldl (step host) {}

/-- The pane has a committed row. -/
def Live (s : System) (p : String) : Prop := p ∈ s.topology.liveIds

instance (s : System) (p : String) : Decidable (s.Live p) :=
  inferInstanceAs (Decidable (p ∈ s.topology.liveIds))

/-- The epoch of a pane: what `pane_revision` projects. -/
def epoch (s : System) (p : String) : Int := (s.ledger.cells p).stateRev

/-- The message that describes a pane's row in this state, to the extent the guard reads it. -/
def message (s : System) (p : String) : Agent := { paneRevision := some (s.epoch p) }

/-- The pane whose epoch an event moves past the actor's counter. -/
def classifies (s : System) : SystemEvent → Option String
  | .attention view paneId eventId generation contentRev c =>
    (s.published[view]?).bind fun t =>
      if t.movesAttention host s.ledger paneId eventId generation contentRev c then some paneId
      else none
  | _ => none

/-- A classification that moves a cell finds its epoch no further than the actor's revision. -/
def PacedAt (s : System) (e : SystemEvent) : Prop :=
  ∀ p ∈ s.classifies host e, s.epoch p ≤ s.topology.revision

instance (s : System) (e : SystemEvent) : Decidable (s.PacedAt host e) :=
  inferInstanceAs (Decidable (∀ p ∈ s.classifies host e, s.epoch p ≤ s.topology.revision))

/-- Each event meets the condition in the state that it finds. -/
def Each (condition : System → SystemEvent → Prop) (events : List SystemEvent) : Prop :=
  ∀ k : Fin events.length, condition (after host events k) (events.get k)

instance {condition : System → SystemEvent → Prop} [∀ s e, Decidable (condition s e)]
    (events : List SystemEvent) : Decidable (Each host condition events) :=
  inferInstanceAs (Decidable (∀ _ : Fin events.length, _))

/-- Every event of the run finds the system paced. -/
abbrev Paced : List SystemEvent → Prop := Each host (PacedAt host)

/-! ## §2 — one step, seen from one pane -/

/-- **What a step can do to a pane's epoch.** -/
inductive EpochStep (s : System) (e : SystemEvent) (p : String) (s' : System) : Prop where
  /-- an actor commit writes its revision into the cell -/
  | rebased (epoch_eq : s'.epoch p = s.topology.revision + 1)
      (revision_eq : s'.topology.revision = s.topology.revision + 1)
  /-- an accept without the row drops the cell -/
  | dropped (gone : ¬ s'.Live p) (epoch_eq : s'.epoch p = 0)
      (revision_le : s.topology.revision ≤ s'.topology.revision)
  /-- a classification adds one -/
  | classified (moves : p ∈ s.classifies host e) (epoch_eq : s'.epoch p = s.epoch p + 1)
      (revision_eq : s'.topology.revision = s.topology.revision)
      (live : s'.Live p → s.Live p)
  | kept (epoch_eq : s'.epoch p = s.epoch p)
      (revision_le : s.topology.revision ≤ s'.topology.revision)
      (live : s'.Live p → s.Live p)

theorem EpochStep.of_eq {s s' : System} {e : SystemEvent} (h : s' = s) (p : String) :
    EpochStep host s e p s' := by
  subst h
  exact .kept rfl le_rfl id

/-- An accept rebases the rows it samples and drops the ones it does not. -/
theorem accept_epoch (s : System) (env : CommitEnv) (snapshot : SessionSnapshot)
    (enrichments : String → Option Classification) (kind : CommitKind) (p : String) :
    EpochStep host s (.accept env snapshot enrichments kind) p
      (s.step host (.accept env snapshot enrichments kind)) := by
  have hepoch := s.topology.acceptEnriched_stateRev host s.ledger env snapshot enrichments kind p
  by_cases hrow : p ∈ snapshot.agents.map (·.paneId)
  · rw [if_pos hrow] at hepoch
    exact .rebased hepoch rfl
  · have hgone : ¬ (s.step host (.accept env snapshot enrichments kind)).Live p := by
      simpa only [Live, step, Topology.acceptEnriched_liveIds] using hrow
    rw [if_neg hrow] at hepoch
    by_cases hold : p ∈ s.topology.liveIds
    · rw [if_pos hold] at hepoch
      exact .dropped hgone hepoch (Nat.le_succ _)
    · rw [if_neg hold] at hepoch
      exact .kept hepoch (Nat.le_succ _) (fun h => absurd h hgone)

/-- A status event rebases its own row, if it is committed at all. -/
theorem status_epoch (s : System) (env : CommitEnv) (payload : Topology.StatusChanged)
    (p : String) :
    EpochStep host s (.status env payload) p (s.step host (.status env payload)) := by
  cases h : s.topology.commitAgentStatus host s.ledger env payload with
  | none => exact .of_eq host (by simp only [step, h]) p
  | some result =>
    obtain ⟨topology, ledger, outcome⟩ := result
    obtain ⟨hrev, hids, hcells⟩ := s.topology.commitAgentStatus_some host s.ledger env h
    simp only [step, h]
    by_cases hp : p = payload.paneId
    · exact .rebased ((hcells p).trans (if_pos hp)) hrev
    · exact .kept ((hcells p).trans (if_neg hp)) (hrev ▸ Nat.le_succ _)
        (by simp only [Live, hids, imp_self])

/-- A classification moves its own cell, through a clone that was published. -/
theorem attention_epoch (s : System) (view : Nat) (paneId eventId : String)
    (generation contentRev : Int) (c : Classification) (p : String) :
    EpochStep host s (.attention view paneId eventId generation contentRev c) p
      (s.step host (.attention view paneId eventId generation contentRev c)) := by
  cases h : s.published[view]? with
  | none => exact .of_eq host (by simp only [step, h]) p
  | some t =>
    have hepoch := t.commitAttention_stateRev host s.ledger paneId eventId generation contentRev c p
    simp only [step, h]
    by_cases hmoves : p = paneId ∧
        t.movesAttention host s.ledger paneId eventId generation contentRev c = true
    · refine .classified ?_ (hepoch.trans (if_pos hmoves)) rfl id
      simp [classifies, h, hmoves.2, hmoves.1]
    · exact .kept (hepoch.trans (if_neg hmoves)) le_rfl id

/-- **Every step is one of the four.** -/
theorem step_epoch (s : System) (e : SystemEvent) (p : String) :
    EpochStep host s e p (s.step host e) := by
  cases e with
  | accept env snapshot enrichments kind =>
    exact accept_epoch host s env snapshot enrichments kind p
  | status env payload => exact status_epoch host s env payload p
  | bump paneId now => exact .kept rfl (Nat.le_succ _) id
  | markStale =>
    refine .kept rfl ?_ ?_
    · simp only [step, Topology.markStale]
      split <;> simp
    · simp only [Live, step, Topology.markStale]
      split <;> exact id
  | inventoryFailed now =>
    refine .kept rfl ?_ ?_
    · simp only [step, Topology.markInventoryFailure]
      split <;> simp
    · simp only [Live, step, Topology.markInventoryFailure]
      split <;> exact id
  | republish => exact .kept rfl (Nat.le_succ _) id
  | publish => exact .kept rfl le_rfl id
  | attention view paneId eventId generation contentRev c =>
    exact attention_epoch host s view paneId eventId generation contentRev c p
  | acknowledge view paneId now =>
    -- the ledger moves, but no epoch
    cases h : s.published[view]? with
    | none => exact .of_eq host (by simp only [step, h]) p
    | some t => refine .kept ?_ ?_ ?_ <;> simp [step, h, epoch, Live]

/-! ## §3 — runs -/

variable {host}

/-- No cell is more than one ahead of the actor. -/
def Bounded (s : System) : Prop := ∀ p, s.epoch p ≤ s.topology.revision + 1

theorem Bounded.step {s : System} {e : SystemEvent} (hs : s.Bounded) (he : s.PacedAt host e) :
    (s.step host e).Bounded := by
  intro p
  have hp := hs p
  cases step_epoch host s e p with
  | rebased hepoch hrev => omega
  | dropped _ hepoch hrev => omega
  | classified hmoves hepoch hrev _ =>
    have := he p hmoves
    omega
  | kept hepoch hrev _ => omega

theorem after_succ (events : List SystemEvent) {k : Nat} (hk : k < events.length) :
    after host events (k + 1) = (after host events k).step host (events.get ⟨k, hk⟩) := by
  rw [after, after, List.take_add_one, List.getElem?_eq_getElem hk]
  simp only [Option.toList_some, List.foldl_append, List.foldl_cons, List.foldl_nil,
    List.get_eq_getElem]

theorem after_of_length_le (events : List SystemEvent) {k : Nat} (hk : events.length ≤ k) :
    after host events k = after host events events.length := by
  rw [after, after, List.take_of_length_le hk, List.take_length]

/-- **What each event keeps under the condition holds ever since.** -/
theorem Each.since {condition : System → SystemEvent → Prop} {events : List SystemEvent}
    (h : Each host condition events) {I : System → Prop}
    (hstep : ∀ s e, I s → condition s e → I (s.step host e)) {i j : Nat} (hij : i ≤ j)
    (hi : I (after host events i)) : I (after host events j) := by
  induction j, hij using Nat.le_induction with
  | base => exact hi
  | succ j hij ih =>
    by_cases hj : j < events.length
    · rw [after_succ events hj]
      exact hstep _ _ ih (h ⟨j, hj⟩)
    · rw [after_of_length_le events (show events.length ≤ j + 1 by omega),
        ← after_of_length_le events (show events.length ≤ j by omega)]
      exact ih

theorem Paced.bounded {events : List SystemEvent} (h : Paced host events) (k : Nat) :
    (after host events k).Bounded :=
  Each.since h (fun _ _ hs he => hs.step he) (Nat.zero_le k) fun p => by simp [after, epoch]

/-- **The epoch of a live pane is at least any earlier one.** At an actor commit the bound on the
earlier state and the growth of the revision give it, at every other step the pane was live before
and its epoch did not fall. -/
theorem Paced.epoch_le {events : List SystemEvent} (h : Paced host events) {p : String} {i j : Nat}
    (hij : i ≤ j) (hlive : (after host events j).Live p) :
    (after host events i).epoch p ≤ (after host events j).epoch p := by
  have hbound := h.bounded i p
  -- together with the growth of the revision, which a rebase compares against
  have hboth := Each.since h
    (I := fun s => (after host events i).topology.revision ≤ s.topology.revision ∧
      (s.Live p → (after host events i).epoch p ≤ s.epoch p))
    (fun s e hs _ => by
      cases step_epoch host s e p with
      | rebased hepoch hrev => exact ⟨by omega, fun _ => by omega⟩
      | dropped hgone _ hrev => exact ⟨by omega, fun hl => absurd hl hgone⟩
      | classified _ hepoch hrev hl =>
        exact ⟨by omega, fun hlive => by have := hs.2 (hl hlive); omega⟩
      | kept hepoch hrev hl =>
        exact ⟨by omega, fun hlive => by have := hs.2 (hl hlive); omega⟩)
    hij ⟨le_rfl, fun _ => le_rfl⟩
  exact hboth.2 hlive

/-- **Pane revisions never fall in a paced run**, and the client drops no message that is newer than
its row: whatever states up to `j` the stored row has heard of, in whatever order, the message that
describes state `j` is not stale. -/
theorem paneRevision_monotone (host : Host) (events : List SystemEvent)
    (hpaced : Paced host events) (p : String) (j : Nat) (hlive : (after host events j).Live p) :
    (∀ i ≤ j, (after host events i).epoch p ≤ (after host events j).epoch p) ∧
      ∀ heard : List Nat, (∀ i ∈ heard, i ≤ j) →
        staleAgentRevision
          ((heard.map fun i => (after host events i).message p).foldl upsert none)
          ((after host events j).message p) = false := by
  refine ⟨fun i hi => hpaced.epoch_le hi hlive, fun heard hheard => ?_⟩
  apply staleAgentRevision_foldl_upsert
  intro a ha
  obtain ⟨i, hi, rfl⟩ := List.mem_map.mp ha
  rw [message, agentPaneRevision_some]
  exact max_le_max le_rfl (hpaced.epoch_le (hheard i hi) hlive)

/-! ## §4 — one classification between commits, and two -/

/-- A host whose functions the runs below never reach. -/
def plainHost : Host := ⟨fun _ => "", fun _ => none⟩

/-- A poll that samples one blocked pane. -/
def blockedPoll (mint : String) : SystemEvent :=
  .accept { now := 1, mint := fun _ => mint }
    { agents := [{ paneId := "w1:p1", terminalId := "t1", agentStatus := .blocked }] }
    (fun _ => none) .poll

/-- A classification of that pane as a question, read at one content revision. -/
def classifyPrompt (contentRev : Int) (prompt : String) : SystemEvent :=
  .attention 0 "w1:p1" "e1" 0 contentRev { kind := .question, prompt }

/-- A poll, one classification, the next poll: the epochs are 1, 2, 2. -/
theorem paneRevision_monotone_one_classification :
    let events := [blockedPoll "e1", .publish, classifyPrompt 1 "Proceed?", blockedPoll "e2"]
    (after plainHost events 3).epoch "w1:p1" = 2 ∧
      (after plainHost events 3).epoch "w1:p1" ≤ (after plainHost events 4).epoch "w1:p1" ∧
      staleAgentRevision (some ((after plainHost events 3).message "w1:p1"))
        ((after plainHost events 4).message "w1:p1") = false := by
  intro events
  have h := paneRevision_monotone plainHost events (by decide +kernel) "w1:p1" 4
    (by decide +kernel)
  exact ⟨by decide +kernel, h.1 3 (by decide), h.2 [3] (by decide)⟩

/-- **Two classifications between polls overtake the actor.** The pane is live and unreplaced
throughout; its published revision goes 1, 2, 3 and back to 2, and the client drops the last. -/
theorem second_classification_overtakes_actor :
    let events := [blockedPoll "e1", .publish, classifyPrompt 1 "Proceed?",
      classifyPrompt 2 "Proceed with which file?", blockedPoll "e2"]
    ([1, 2, 3, 4, 5].map fun k => (after plainHost events k).epoch "w1:p1") = [1, 1, 2, 3, 2] ∧
      (∀ k ∈ [1, 2, 3, 4, 5], (after plainHost events k).Live "w1:p1") ∧
      (∀ k ∈ [1, 2, 3, 4, 5], (after plainHost events k).topology.generations "w1:p1" = 0) ∧
      staleAgentRevision (some ((after plainHost events 4).message "w1:p1"))
        ((after plainHost events 5).message "w1:p1") = true := by
  decide +kernel

end Runs

end System

end Lerdr.Coord
