/-
# Lerdr.Store.AgentMerge — the client's revision guard (`AgentMerge.kt`).

Every message about a pane carries the `pane_revision` the relay had when it wrote the row. A
message with a lower revision than the stored row is dropped; any other one is merged, and the
stored revision is the larger of the two. A revision that is absent or not positive counts as `0`
and never drops anything.
-/
import Mathlib.Algebra.Order.Ring.Int
import Mathlib.Tactic.SplitIfs

namespace Lerdr.Store

/-- `Agent`, the field the guard reads. -/
structure Agent where
  paneRevision : Option Int := none
  deriving DecidableEq, Repr

def agentPaneRevision (agent : Option Agent) : Int :=
  ((agent.bind (·.paneRevision)).filter (0 < ·)).getD 0

/-- `staleAgentRevision` — the out-of-order guard. -/
def staleAgentRevision (previous : Option Agent) (next : Agent) : Bool :=
  let previousRevision := agentPaneRevision previous
  let nextRevision := agentPaneRevision (some next)
  decide (0 < previousRevision ∧ 0 < nextRevision ∧ nextRevision < previousRevision)

/-- `mergeAgentDetails`, its `paneRevision`. -/
def mergeAgentDetails (previous : Option Agent) (next : Agent) : Agent :=
  match previous with
  | none => next
  | some _ =>
    let revision := max (agentPaneRevision previous) (agentPaneRevision (some next))
    { paneRevision := if 0 < revision then some revision else none }

/-- The row a message leaves, as `applyBlocked`, `applyAgentUpdate` and `mergeAgentList` all have
it: the stored one when the message is stale, the merged one otherwise. -/
def upsert (stored : Option Agent) (next : Agent) : Option Agent :=
  if staleAgentRevision stored next then stored else some (mergeAgentDetails stored next)

theorem agentPaneRevision_some (revision : Int) :
    agentPaneRevision (some { paneRevision := some revision }) = max 0 revision := by
  by_cases h : 0 < revision
  · simp [agentPaneRevision, Option.filter, h, max_eq_right h.le]
  · simp [agentPaneRevision, Option.filter, h, max_eq_left (not_lt.mp h)]

theorem agentPaneRevision_nonneg (agent : Option Agent) : 0 ≤ agentPaneRevision agent := by
  cases agent with
  | none => exact le_rfl
  | some agent =>
    obtain ⟨_ | revision⟩ := agent
    · exact le_rfl
    · rw [agentPaneRevision_some]
      exact le_max_left ..

/-- **The stored revision is the largest one received**, dropped messages included. -/
theorem agentPaneRevision_upsert (stored : Option Agent) (next : Agent) :
    agentPaneRevision (upsert stored next)
      = max (agentPaneRevision stored) (agentPaneRevision (some next)) := by
  have hstored := agentPaneRevision_nonneg stored
  by_cases hstale : staleAgentRevision stored next = true
  · rw [upsert, if_pos hstale]
    simp only [staleAgentRevision, decide_eq_true_eq] at hstale
    exact (max_eq_left hstale.2.2.le).symm
  · rw [upsert, if_neg hstale]
    cases stored with
    | none => exact (max_eq_right (agentPaneRevision_nonneg _)).symm
    | some row =>
      have hmax : 0 ≤ max (agentPaneRevision (some row)) (agentPaneRevision (some next)) :=
        hstored.trans (le_max_left ..)
      simp only [mergeAgentDetails]
      split_ifs with hpos
      · rw [agentPaneRevision_some, max_eq_right hmax]
      · exact le_antisymm hmax (not_lt.mp hpos)

/-- A row that only ever merged messages up to `bound` drops no message that carries `bound`. -/
theorem staleAgentRevision_foldl_upsert {bound : Int} {received : List Agent}
    (hreceived : ∀ a ∈ received, agentPaneRevision (some a) ≤ max 0 bound) :
    staleAgentRevision (received.foldl upsert none) { paneRevision := some bound } = false := by
  have hrow : ∀ stored, agentPaneRevision stored ≤ max 0 bound →
      agentPaneRevision (received.foldl upsert stored) ≤ max 0 bound := by
    induction received with
    | nil => exact fun stored hstored => hstored
    | cons next received ih =>
      intro stored hstored
      rw [List.foldl_cons]
      refine ih (fun a ha => hreceived a (List.mem_cons_of_mem _ ha)) _ ?_
      rw [agentPaneRevision_upsert]
      exact max_le hstored (hreceived next List.mem_cons_self)
  have hle := hrow none (le_max_left ..)
  simp only [staleAgentRevision, agentPaneRevision_some, decide_eq_false_iff_not]
  exact fun h => absurd h.2.2 (not_lt.mpr hle)

end Lerdr.Store
