/-
# Lerdr.Transport.Connection — dialing and teardown of one connection (`RelayConnection.kt`).

`connect` drives the handshake in a coroutine and ends with two writes: `_state = Connected` and
`ready.complete`. `terminate` may be called from any thread at any time, by the socket's callbacks
among others; a compare-and-set lets one call through, which writes `_state = Closed` and then
completes `disconnect`, closes `frames` and fails `ready`. The model has one event for each of these
writes. `RelaySession.serve` starts when `connect` has returned and waits for `Closed`.

A frame that is in the buffer is received even when the connection has been torn down, so the
handshake can come to its end after `Closed` was written; `connect` then writes `Connected` over it.
-/
import Lerdr.Lib.Runs

namespace Lerdr.Transport

open Lib

/-! ## §1 — the connection -/

structure DisconnectReason where
  reason : List Char
  deriving DecidableEq

inductive State where
  | connecting
  | connected
  | closed (reason : DisconnectReason)
  deriving DecidableEq

/-- Where `connect` stands. -/
inductive Dial where
  | idle
  | awaitingOpen
  | awaitingHello
  | awaitingFinish
  /-- The handshake is done, `Connected` is not written. -/
  | publishing
  /-- `Connected` is written, `ready` is not completed. -/
  | completing
  | returned
  | failed
  deriving DecidableEq

/-- What the call of `terminate` that was let through does next. -/
inductive Teardown where
  | writeState
  | completeDisconnect
  | closeFrames
  | failReady
  | finished
  deriving DecidableEq

inductive Ready where
  | pending
  | completed
  | failed
  deriving DecidableEq

/-- Where `RelaySession.serve` stands. -/
inductive Serve where
  | notStarted
  | waiting
  | returned (reason : DisconnectReason)
  deriving DecidableEq

/-- `RelayConnection`, with the session that serves it. -/
structure Connection where
  dial : Dial := .idle
  opened : Bool := false
  state : State := .connecting
  /-- How many frames are in the buffer. -/
  frames : Nat := 0
  framesOpen : Bool := true
  disconnect : Option DisconnectReason := none
  ready : Ready := .pending
  /-- `terminated`, with the call that set it. -/
  terminated : Option (DisconnectReason × Teardown) := none
  serve : Serve := .notStarted
  /-- Some call of `terminate` has returned. -/
  terminateReturned : Bool := false
  deriving DecidableEq

def frameBufferCapacity : Nat := 256

/-- What happens next. -/
inductive ConnectionEvent where
  /-- `connect` is called. -/
  | connect
  | onOpen
  /-- A text frame that finds room; on any other the callback calls `terminate`. -/
  | onMessage
  /-- The coroutine of `connect` goes on, and whether what it got is accepted. -/
  | resume (accepts : Bool)
  /-- It is timed out or cancelled. -/
  | cancel
  /-- `terminate` is called. -/
  | terminate (reason : DisconnectReason)
  /-- The next write of the call that was let through. -/
  | tearDown
  /-- `_state.value = State.Connected(finish)`. -/
  | publish
  /-- `ready.complete(Unit)`. -/
  | complete
  | serve
  /-- `state.first { it is Closed }` sees its value. -/
  | observe

namespace Connection

/-- `awaitFrame`: the buffer comes first, the teardown second. -/
def awaitFrame (w : Connection) (accepts : Bool) (next : Dial) : Option Connection :=
  if 0 < w.frames then
    some { w with frames := w.frames - 1, dial := if accepts then next else .failed }
  else if w.framesOpen = false ∨ w.disconnect ≠ none then some { w with dial := .failed }
  else none

/-- The writes of `terminate`, in their order. -/
def tearDown (w : Connection) (reason : DisconnectReason) : Teardown → Option Connection
  | .writeState => some { w with
      state := .closed reason, terminated := some (reason, .completeDisconnect) }
  | .completeDisconnect => some { w with
      disconnect := some reason, terminated := some (reason, .closeFrames) }
  | .closeFrames => some { w with framesOpen := false, terminated := some (reason, .failReady) }
  | .failReady => some { w with
      ready := if w.ready = .pending then .failed else w.ready
      terminated := some (reason, .finished)
      terminateReturned := true }
  | .finished => none

/-- One event, if it can happen. -/
def step (w : Connection) : ConnectionEvent → Option Connection
  | .connect => if w.dial = .idle then some { w with dial := .awaitingOpen } else none
  | .onOpen => some { w with opened := true }
  | .onMessage =>
    if w.framesOpen = true ∧ w.frames < frameBufferCapacity then
      some { w with frames := w.frames + 1 }
    else none
  | .resume accepts =>
    match w.dial with
    | .awaitingOpen =>
      if w.opened = true then some { w with dial := if accepts then .awaitingHello else .failed }
      else if w.disconnect ≠ none then some { w with dial := .failed }
      else none
    | .awaitingHello => w.awaitFrame accepts .awaitingFinish
    | .awaitingFinish => w.awaitFrame accepts .publishing
    | _ => none
  | .cancel =>
    if w.dial = .awaitingOpen ∨ w.dial = .awaitingHello ∨ w.dial = .awaitingFinish then
      some { w with dial := .failed }
    else none
  | .terminate reason =>
    match w.terminated with
    | none => some { w with terminated := some (reason, .writeState) }
    | some _ => some { w with terminateReturned := true }
  | .tearDown =>
    match w.terminated with
    | some (reason, stage) => w.tearDown reason stage
    | none => none
  | .publish =>
    if w.dial = .publishing then some { w with state := .connected, dial := .completing } else none
  | .complete =>
    if w.dial = .completing then
      some { w with ready := if w.ready = .pending then .completed else w.ready, dial := .returned }
    else none
  | .serve =>
    if w.dial = .returned ∧ w.serve = .notStarted then some { w with serve := .waiting } else none
  | .observe =>
    match w.serve, w.state with
    | .waiting, .closed reason => some { w with serve := .returned reason }
    | _, _ => none

/-- The reason a call of `terminate` has written to the state. -/
def closedBy (w : Connection) : Option DisconnectReason :=
  match w.terminated with
  | some (_, .writeState) | none => none
  | some (reason, _) => some reason

end Connection

def ConnectionStep (w : Connection) (e : ConnectionEvent) (w' : Connection) : Prop :=
  w.step e = some w'

/-- **When a step leaves the teardown alone**: `connect` publishes while the state is not `Closed`,
and no call of `terminate` comes between the compare-and-set of another and its write. -/
def LeavesClosed (w : Connection) : ConnectionEvent → Prop
  | .publish => ∀ reason, w.state ≠ .closed reason
  | .terminate _ => ∀ reason, w.terminated ≠ some (reason, .writeState)
  | _ => True

instance (w : Connection) : (e : ConnectionEvent) → Decidable (LeavesClosed w e)
  | .publish =>
    match h : w.state with
    | .closed reason => isFalse fun hne => hne reason h
    | .connecting => isTrue fun _ heq => by cases h.symm.trans heq
    | .connected => isTrue fun _ heq => by cases h.symm.trans heq
  | .terminate _ =>
    match h : w.terminated.map Prod.snd with
    | some .writeState => isFalse fun hne => by
        obtain ⟨⟨reason, _⟩, hheld, rfl⟩ := Option.map_eq_some_iff.mp h
        exact hne reason hheld
    | none | some .completeDisconnect | some .closeFrames | some .failReady | some .finished =>
      isTrue fun _ heq => by rw [heq] at h; cases h
  | .connect | .onOpen | .onMessage | .resume _ | .cancel | .tearDown | .complete | .serve
  | .observe => isTrue trivial

/-- The steps that leave the teardown alone. -/
def QuietStep (w : Connection) (e : ConnectionEvent) (w' : Connection) : Prop :=
  ConnectionStep w e w' ∧ LeavesClosed w e

/-- A call of `terminate` has run, or has written the state. -/
def Ended (w : Connection) : Prop := w.terminateReturned = true ∨ w.closedBy ≠ none

variable {w w' : Connection} {e : ConnectionEvent} {reason : DisconnectReason}

/-! ## §2 — what one event can do -/

theorem closedBy_eq_some : w.closedBy = some reason ↔
    ∃ stage, w.terminated = some (reason, stage) ∧ stage ≠ .writeState := by
  unfold Connection.closedBy
  rcases w.terminated with - | ⟨r, stage⟩
  · simp
  · cases stage <;> simp

/-- `connect` has written `Connected`. -/
def Published (w : Connection) : Prop := w.dial = .completing ∨ w.dial = .returned

/-- What an event can do, as far as the state and the teardown go. -/
inductive ConnectionMove (w : Connection) : ConnectionEvent → Connection → Prop
  | other {e : ConnectionEvent} {w' : Connection} (state : w'.state = w.state)
      (terminated : w'.terminated = w.terminated)
      (returned : w'.terminateReturned = w.terminateReturned)
      (published : Published w → Published w')
      (serve : ∀ reason, w'.serve = .returned reason →
        w.serve = .returned reason ∨ w.state = .closed reason) : ConnectionMove w e w'
  | won {reason : DisconnectReason} (free : w.terminated = none) :
      ConnectionMove w (.terminate reason) { w with terminated := some (reason, .writeState) }
  | lost {reason : DisconnectReason} {winner : DisconnectReason × Teardown}
      (held : w.terminated = some winner) :
      ConnectionMove w (.terminate reason) { w with terminateReturned := true }
  | wrote {reason : DisconnectReason} (held : w.terminated = some (reason, .writeState)) :
      ConnectionMove w .tearDown { w with
        state := .closed reason, terminated := some (reason, .completeDisconnect) }
  | tornDown {reason : DisconnectReason} {stage next : Teardown} {w' : Connection}
      (held : w.terminated = some (reason, stage)) (past : stage ≠ .writeState)
      (terminated : w'.terminated = some (reason, next)) (next_past : next ≠ .writeState)
      (state : w'.state = w.state) (dial : w'.dial = w.dial) (serve : w'.serve = w.serve) :
      ConnectionMove w .tearDown w'
  | published (dial : w.dial = .publishing) :
      ConnectionMove w .publish { w with state := .connected, dial := .completing }

/-- The coroutine goes on with the handshake. -/
theorem connectionMove_dial {dial : Dial} (hbefore : ¬ Published w) (frames : Nat) :
    ConnectionMove w e { w with frames, dial } :=
  .other rfl rfl rfl (fun h => absurd h hbefore) fun _ => .inl

theorem awaitFrame_move {accepts : Bool} {next : Dial} (hbefore : ¬ Published w)
    (h : w.awaitFrame accepts next = some w') : ConnectionMove w e w' := by
  unfold Connection.awaitFrame at h
  split at h
  · obtain rfl := Option.some.inj h
    exact connectionMove_dial hbefore _
  · split at h
    · obtain rfl := Option.some.inj h
      exact connectionMove_dial hbefore w.frames
    · cases h

theorem not_published {dial : Dial} (h : w.dial = dial) (hc : dial ≠ .completing)
    (hr : dial ≠ .returned) : ¬ Published w := by
  rintro (hdial | hdial)
  · exact hc (h.symm.trans hdial)
  · exact hr (h.symm.trans hdial)

theorem tearDown_move {stage : Teardown} (hheld : w.terminated = some (reason, stage))
    (h : w.tearDown reason stage = some w') : ConnectionMove w .tearDown w' := by
  cases stage with
  | writeState =>
    obtain rfl := Option.some.inj h
    exact .wrote hheld
  | completeDisconnect | closeFrames | failReady =>
    obtain rfl := Option.some.inj h
    exact .tornDown hheld nofun rfl nofun rfl rfl rfl
  | finished => cases h

/-- **What an event can do**, for every event and state. -/
theorem step_connectionMove (h : ConnectionStep w e w') : ConnectionMove w e w' := by
  unfold ConnectionStep at h
  cases e with
  | connect =>
    simp only [Connection.step] at h
    split at h
    · rename_i hdial
      obtain rfl := Option.some.inj h
      exact connectionMove_dial (not_published hdial nofun nofun) w.frames
    · cases h
  | onOpen =>
    obtain rfl := Option.some.inj h
    exact .other rfl rfl rfl id fun _ => .inl
  | onMessage =>
    simp only [Connection.step] at h
    split at h
    · obtain rfl := Option.some.inj h
      exact .other rfl rfl rfl id fun _ => .inl
    · cases h
  | resume accepts =>
    simp only [Connection.step] at h
    split at h
    · rename_i hdial
      have hbefore := not_published hdial nofun nofun
      split at h
      · obtain rfl := Option.some.inj h
        exact connectionMove_dial hbefore w.frames
      · split at h
        · obtain rfl := Option.some.inj h
          exact connectionMove_dial hbefore w.frames
        · cases h
    · rename_i hdial
      exact awaitFrame_move (not_published hdial nofun nofun) h
    · rename_i hdial
      exact awaitFrame_move (not_published hdial nofun nofun) h
    · cases h
  | cancel =>
    simp only [Connection.step] at h
    split at h
    · rename_i hdial
      obtain rfl := Option.some.inj h
      refine connectionMove_dial ?_ w.frames
      rcases hdial with hdial | hdial | hdial
      · exact not_published hdial nofun nofun
      · exact not_published hdial nofun nofun
      · exact not_published hdial nofun nofun
    · cases h
  | terminate reason =>
    simp only [Connection.step] at h
    split at h
    · rename_i hfree
      obtain rfl := Option.some.inj h
      exact .won hfree
    · rename_i hheld
      obtain rfl := Option.some.inj h
      exact .lost hheld
  | tearDown =>
    simp only [Connection.step] at h
    split at h
    · rename_i hheld
      exact tearDown_move hheld h
    · cases h
  | publish =>
    simp only [Connection.step] at h
    split at h
    · rename_i hdial
      obtain rfl := Option.some.inj h
      exact .published hdial
    · cases h
  | complete =>
    simp only [Connection.step] at h
    split at h
    · obtain rfl := Option.some.inj h
      exact .other rfl rfl rfl (fun _ => .inr rfl) fun _ => .inl
    · cases h
  | serve =>
    simp only [Connection.step] at h
    split at h
    · obtain rfl := Option.some.inj h
      exact .other rfl rfl rfl id nofun
    · cases h
  | observe =>
    simp only [Connection.step] at h
    split at h
    · rename_i hstate
      obtain rfl := Option.some.inj h
      refine .other rfl rfl rfl id ?_
      rintro _ ⟨⟩
      exact .inr hstate
    · cases h

/-! ## §3 — the teardown over a run -/

/-- What was written to the state stays written by the same call. -/
theorem ConnectionMove.closedBy_stays (h : ConnectionMove w e w') (hby : w.closedBy = some reason) :
    w'.closedBy = some reason := by
  obtain ⟨stage, hheld, hpast⟩ := closedBy_eq_some.mp hby
  cases h with
  | other _ hterminated =>
    exact closedBy_eq_some.mpr ⟨stage, hterminated.trans hheld, hpast⟩
  | won hfree => cases hfree.symm.trans hheld
  | lost => exact hby
  | wrote hwriting =>
    obtain ⟨-, rfl⟩ := Prod.mk.inj (Option.some.inj (hwriting.symm.trans hheld))
    exact absurd rfl hpast
  | @tornDown r _ next _ hheld' _ hterminated hnext =>
    obtain ⟨rfl, -⟩ := Prod.mk.inj (Option.some.inj (hheld'.symm.trans hheld))
    exact closedBy_eq_some.mpr ⟨next, hterminated, hnext⟩
  | published => exact hby

/-- `Closed` is written by `terminate` only. -/
def Written (w : Connection) : Prop := ∀ reason, w.state = .closed reason → w.closedBy = some reason

theorem Written.move (h : Written w) (hmove : ConnectionMove w e w') : Written w' := by
  intro reason hclosed
  cases hmove with
  | other hstate hterminated hreturned hpublished hserve =>
    have hother : ConnectionMove w e w' := .other hstate hterminated hreturned hpublished hserve
    exact hother.closedBy_stays (h reason (hstate.symm.trans hclosed))
  | won hfree => exact (ConnectionMove.won hfree).closedBy_stays (h reason hclosed)
  | lost hheld => exact h reason hclosed
  | wrote hheld =>
    obtain rfl := State.closed.inj hclosed
    rfl
  | tornDown hheld hpast hterminated hnext hstate hdial hserve =>
    have htorn : ConnectionMove w .tearDown w' :=
      .tornDown hheld hpast hterminated hnext hstate hdial hserve
    exact htorn.closedBy_stays (h reason (hstate.symm.trans hclosed))
  | published => cases hclosed

/-- Once a call of `terminate` has run, the state is what it wrote. -/
def Settled (w : Connection) : Prop :=
  Ended w → ∃ reason, w.closedBy = some reason ∧ w.state = .closed reason

/-- **One step that leaves the teardown alone keeps it.** -/
theorem Settled.move (h : Settled w) (hmove : ConnectionMove w e w') (hquiet : LeavesClosed w e) :
    Settled w' := by
  intro hended
  cases hmove with
  | other hstate hterminated hreturned hpublished hserve =>
    have hsame : w'.closedBy = w.closedBy := by
      unfold Connection.closedBy
      rw [hterminated]
    unfold Ended at hended
    rw [hreturned, hsame] at hended
    rw [hsame, hstate]
    exact h hended
  | won hfree =>
    -- nobody has called before, so nothing has returned
    rcases hended with hreturned | hby
    · obtain ⟨reason, hby, -⟩ := h (.inl hreturned)
      obtain ⟨stage, hheld, -⟩ := closedBy_eq_some.mp hby
      cases hfree.symm.trans hheld
    · exact absurd rfl hby
  | @lost _ winner hheld =>
    obtain ⟨reason, stage⟩ := winner
    have hpast : stage ≠ .writeState := by
      rintro rfl
      exact hquiet reason hheld
    have hby : w.closedBy = some reason := closedBy_eq_some.mpr ⟨stage, hheld, hpast⟩
    exact h (.inr (by rw [hby]; exact Option.some_ne_none _))
  | wrote hheld => exact ⟨_, rfl, rfl⟩
  | @tornDown reason stage next _ hheld hpast hterminated hnext hstate hdial hserve =>
    have hby : w.closedBy = some reason := closedBy_eq_some.mpr ⟨stage, hheld, hpast⟩
    obtain ⟨r, hr, hclosed⟩ := h (.inr (by rw [hby]; exact Option.some_ne_none _))
    obtain rfl := Option.some.inj (hby.symm.trans hr)
    exact ⟨reason, closedBy_eq_some.mpr ⟨next, hterminated, hnext⟩, hstate.trans hclosed⟩
  | published hdial =>
    obtain ⟨reason, -, hclosed⟩ := h hended
    exact absurd hclosed (hquiet reason)

/-- A step that does not leave it alone ends in a state that is not `Closed`. -/
theorem not_closed_of_disturbing (hwritten : Written w) (hstep : ConnectionStep w e w')
    (hdisturbs : ¬ LeavesClosed w e) : Ended w' ∧ ∀ reason, w'.state ≠ .closed reason := by
  have hmove := step_connectionMove hstep
  cases e with
  | publish =>
    simp only [LeavesClosed, not_forall, not_not] at hdisturbs
    obtain ⟨reason, hclosed⟩ := hdisturbs
    have hby := hmove.closedBy_stays (hwritten reason hclosed)
    refine ⟨.inr (by rw [hby]; exact Option.some_ne_none _), ?_⟩
    simp only [ConnectionStep, Connection.step] at hstep
    split at hstep
    · obtain rfl := Option.some.inj hstep
      exact nofun
    · cases hstep
  | terminate r =>
    simp only [LeavesClosed, not_forall, not_not] at hdisturbs
    obtain ⟨reason, hheld⟩ := hdisturbs
    simp only [ConnectionStep, Connection.step, hheld] at hstep
    obtain rfl := Option.some.inj hstep
    refine ⟨.inl rfl, ?_⟩
    intro reason' hclosed
    obtain ⟨stage, hheld', hpast⟩ := closedBy_eq_some.mp (hwritten reason' hclosed)
    obtain ⟨-, rfl⟩ := Prod.mk.inj (Option.some.inj (hheld.symm.trans hheld'))
    exact hpast rfl
  | connect | onOpen | onMessage | resume | cancel | tearDown | complete | serve | observe =>
    exact absurd trivial hdisturbs

/-- `Connected` was written over `Closed`, and nobody has noticed. -/
structure Stuck (w : Connection) : Prop where
  state : w.state = .connected
  closedBy : w.closedBy ≠ none
  published : Published w
  serve : ∀ reason, w.serve ≠ .returned reason

/-- **It stays so**: `terminate` lets nobody through, and `serve` goes on waiting. -/
theorem Stuck.move (h : Stuck w) (hmove : ConnectionMove w e w') : Stuck w' := by
  obtain ⟨reason, hby⟩ := Option.ne_none_iff_exists'.mp h.closedBy
  have hby' : w'.closedBy ≠ none := by
    rw [hmove.closedBy_stays hby]
    exact Option.some_ne_none _
  obtain ⟨stage, hheld, hpast⟩ := closedBy_eq_some.mp hby
  cases hmove with
  | other hstate _ _ hpublished hserve =>
    refine ⟨hstate.trans h.state, hby', hpublished h.published, ?_⟩
    intro r hr
    rcases hserve r hr with hreturned | hclosed
    · exact h.serve r hreturned
    · cases h.state.symm.trans hclosed
  | won hfree => cases hfree.symm.trans hheld
  | lost => exact ⟨h.state, hby', h.published, h.serve⟩
  | wrote hwriting =>
    obtain ⟨-, rfl⟩ := Prod.mk.inj (Option.some.inj (hwriting.symm.trans hheld))
    exact absurd rfl hpast
  | tornDown _ _ _ _ hstate hdial hserve =>
    refine ⟨hstate.trans h.state, hby', ?_, ?_⟩
    · unfold Published
      rw [hdial]
      exact h.published
    · rw [hserve]
      exact h.serve
  | published hdial => exact absurd h.published (not_published hdial nofun nofun)

/-- In a run whose states are `Closed` once `terminate` has run, every step left the teardown alone.
-/
theorem runs_quiet {es : List ConnectionEvent} (hrun : Runs ConnectionStep w es w')
    (hwritten : Written w)
    (hclosed : ∀ pre post u, es = pre ++ post → Runs ConnectionStep w pre u → Ended u →
      ∃ reason, u.state = .closed reason) : Runs QuietStep w es w' := by
  induction hrun with
  | nil => exact .nil _
  | @cons s s' t e es first rest ih =>
    have hquiet : LeavesClosed s e := by
      by_contra hdisturbs
      obtain ⟨hended, hopen⟩ := not_closed_of_disturbing hwritten first hdisturbs
      obtain ⟨reason, hreason⟩ := hclosed [e] es s' rfl (.cons first (.nil _)) hended
      exact hopen reason hreason
    refine .cons ⟨first, hquiet⟩ (ih (hwritten.move (step_connectionMove first)) ?_)
    intro pre post u hes hpre hended
    exact hclosed (e :: pre) post u (by rw [hes, List.cons_append]) (.cons first hpre) hended

/-! ## §4 — runs -/

/-- **`Closed` is absorbing.** In every run of a connection with its callbacks, `connect` and calls
of `terminate`: in every state the run goes through the state is `Closed` once a call of `terminate`
has run, if and only if every step left the teardown alone. And then `Closed` never changes again,
and a `serve` that waits returns with its reason. -/
theorem closed_absorbing {es : List ConnectionEvent} (hrun : Runs ConnectionStep {} es w) :
    ((∀ pre post u, es = pre ++ post → Runs ConnectionStep {} pre u → Ended u →
        ∃ reason, u.state = .closed reason) ↔ Runs QuietStep {} es w) ∧
    (Runs QuietStep {} es w →
      (∀ pre post u reason, es = pre ++ post → Runs ConnectionStep {} pre u →
        Runs ConnectionStep u post w → u.state = .closed reason → w.state = .closed reason) ∧
      (∀ reason, w.closedBy = some reason → w.serve = .waiting →
        ∃ w', w.step .observe = some w' ∧ w'.serve = .returned reason)) := by
  have hstart : Settled {} := by
    rintro (hreturned | hby)
    · cases hreturned
    · exact absurd rfl hby
  have hquiet : ∀ {es u}, Runs QuietStep {} es u → Settled u := fun h =>
    h.invariant (I := Settled) (fun _ _ _ hi hstep => hi.move (step_connectionMove hstep.1) hstep.2)
      hstart
  have hwritten : ∀ {es u}, Runs ConnectionStep {} es u → Written u := fun h =>
    h.invariant (I := Written) (fun _ _ _ hi hstep => hi.move (step_connectionMove hstep)) nofun
  refine ⟨⟨runs_quiet hrun nofun, ?_⟩, ?_⟩
  · -- a state on the way is the one the quiet steps go through
    rintro hsteps pre post u rfl hpre hended
    obtain ⟨m, hm, -⟩ := Runs.append_iff.mp hsteps
    have hsame : m = u := by
      refine Runs.unique ?_ (hm.imp fun _ _ _ _ hstep => hstep.1) hpre
      exact fun _ _ _ _ h h' => Option.some.inj (h.symm.trans h')
    obtain ⟨reason, -, hclosed⟩ := hquiet (hsame ▸ hm) hended
    exact ⟨reason, hclosed⟩
  · intro hsteps
    have hstate : ∀ reason, w.closedBy = some reason → w.state = .closed reason := by
      intro reason hby
      obtain ⟨r, hr, hclosed⟩ := hquiet hsteps (.inr (by rw [hby]; exact Option.some_ne_none _))
      obtain rfl := Option.some.inj (hby.symm.trans hr)
      exact hclosed
    refine ⟨?_, ?_⟩
    · intro pre post u reason _ hpre hpost hclosed
      refine hstate reason ?_
      exact hpost.invariant (I := fun u => u.closedBy = some reason)
        (fun _ _ _ hu hstep => (step_connectionMove hstep).closedBy_stays hu)
        (hwritten hpre reason hclosed)
    · intro reason hby hwaiting
      refine ⟨{ w with serve := .returned reason }, ?_, rfl⟩
      simp only [Connection.step, hwaiting, hstate reason hby]

/-- The handshake up to the frame that ends it, which is in the buffer. -/
def handshake : List ConnectionEvent :=
  [.connect, .onOpen, .resume true, .onMessage, .resume true, .onMessage]

def socketFailed : DisconnectReason := ⟨"Relay connection failed".toList⟩

/-- The socket fails, and its callback runs `terminate` to the end. -/
def failure : List ConnectionEvent :=
  [.terminate socketFailed, .tearDown, .tearDown, .tearDown, .tearDown]

/-- `connect` takes the frame, publishes and returns, and the session waits for `Closed`. -/
def publication : List ConnectionEvent := [.resume true, .publish, .complete, .serve]

/-- **`Connected` over `Closed`**: the socket fails after the last frame of the handshake came in
and before `connect` went on. The connection is then published, and whatever happens after that it
stays `Connected`, with `serve` waiting. -/
theorem connected_over_closed :
    ∃ w, Runs ConnectionStep {} (handshake ++ failure ++ publication) w ∧
      w.terminateReturned = true ∧ w.serve = .waiting ∧
      ∀ es w', Runs ConnectionStep w es w' →
        w'.state = .connected ∧ ∀ reason, w'.serve ≠ .returned reason := by
  have hcomputed : ∃ w, Runs ConnectionStep {} (handshake ++ failure ++ publication) w ∧
      w.terminateReturned = true ∧ w.serve = .waiting ∧ w.state = .connected ∧
      w.closedBy = some socketFailed ∧ w.dial = .returned :=
    Runs.of_any (fun _ _ _ _ => id) (by decide +kernel)
  obtain ⟨w, hstart, hreturned, hserve, hstate, hby, hdial⟩ := hcomputed
  have hstuck : Stuck w := by
    refine ⟨hstate, ?_, .inr hdial, ?_⟩
    · rw [hby]
      exact Option.some_ne_none _
    · rw [hserve]
      exact nofun
  refine ⟨w, hstart, hreturned, hserve, ?_⟩
  intro es w' hrun
  have hstuck' : Stuck w' :=
    hrun.invariant (I := Stuck) (fun _ _ _ h hstep => h.move (step_connectionMove hstep)) hstuck
  exact ⟨hstuck'.state, hstuck'.serve⟩

/-- Where the socket fails after the publication, `serve` returns with the reason. -/
theorem closed_absorbing_after_publication :
    ∃ w w', Runs QuietStep {} (handshake ++ publication ++ failure) w ∧
      w.state = .closed socketFailed ∧ w.step .observe = some w' ∧
      w'.serve = .returned socketFailed := by
  have hcomputed : ∃ w, Runs QuietStep {} (handshake ++ publication ++ failure) w ∧
      w.closedBy = some socketFailed ∧ w.serve = .waiting ∧ w.state = .closed socketFailed :=
    Runs.of_any (f := fun w e => if LeavesClosed w e then w.step e else none)
      (fun _ _ _ _ hstep => (Option.ite_none_right_eq_some.mp hstep).symm) (by decide +kernel)
  obtain ⟨w, hsteps, hby, hserve, hstate⟩ := hcomputed
  have hrun : Runs ConnectionStep {} _ w := hsteps.imp fun _ _ _ _ hstep => hstep.1
  obtain ⟨-, hserves⟩ := (closed_absorbing hrun).2 hsteps
  obtain ⟨w', hobserve, hreturned⟩ := hserves socketFailed hby hserve
  exact ⟨w, w', hsteps, hstate, hobserve, hreturned⟩

end Lerdr.Transport
