/-
# Lerdr.Coord.Forwarder — a session's topology forwarder (`router.rs`, `actor.rs`).

The actor publishes each commit on a watch channel, with the diff of that commit against the last
one. A connecting client is sent the projection as it is published then. The forwarder of its
session starts with the first message the session routes, and from then on sends the diff of the
commit it finds whenever the channel has moved; if it finds that it skipped a commit, it sends the
full inventory first.

The gap check compares with the revision sent last, and nothing counts as sent before the first
observation: the revision of the snapshot is not remembered. So the client agrees with the topology
once the forwarder rests, provided that at most one commit landed between the snapshot and the first
observation.
-/
import Lerdr.Coord.Revisions
import Lerdr.Coord.Snapshot
import Lerdr.Lib.Runs

namespace Lerdr.Coord

open Lib

variable {ω η : Type}

/-! ## §1 — the hub and the session -/

/-- The published topology: its revision, the legs it was committed with, the rows that reading it
gives now, and the diff stamped on it; and the actor's view of what was published. -/
structure Hub (ω η : Type) where
  revision : Nat
  committed : Projection ω η
  live : List AgentState
  frames : List (Frame ω η)
  view : PublishedView ω η

namespace Hub

/-- `publish`, of a commit's legs. Every publish follows one step of the revision. -/
def publish [DecidableEq ω] [DecidableEq η] (revision : Nat) (view : PublishedView ω η)
    (p : Projection ω η) : Hub ω η where
  revision := revision
  committed := p
  live := p.agents
  frames := (broadcastDiff p view).1
  view := (broadcastDiff p view).2

/-- The hub when the relay starts to serve: the first publish has been made. -/
def start [DecidableEq ω] [DecidableEq η] (p : Projection ω η) : Hub ω η := publish 1 {} p

/-- The legs that reading the published topology gives now. -/
def read (h : Hub ω η) : Projection ω η := { h.committed with agents := h.live }

/-- The ledger shows the rows as they were committed, but for their epochs. -/
def Settled (h : Hub ω η) : Prop :=
  h.live.map AgentState.unrevised = h.committed.agents.map AgentState.unrevised

instance (h : Hub ω η) : Decidable h.Settled :=
  inferInstanceAs (Decidable (h.live.map AgentState.unrevised = _))

end Hub

/-- The forwarder task. `seen` is the version of the channel it has marked as seen (the revisions
count the sends), `sent` its `sent_revision`. -/
inductive Forwarder where
  | absent
  /-- at `topo_rx.changed()` -/
  | waiting (seen : Nat) (sent : Option Nat)
  /-- past it, about to borrow -/
  | awake (seen : Nat) (sent : Option Nat)
  | stopped
  deriving DecidableEq, Repr

/-- A session: the frames it received, the revision its snapshot was composed at, the forwarder. -/
structure Session (ω η : Type) where
  received : List (Frame ω η)
  snapshotAt : Nat
  forwarder : Forwarder := .absent

/-- The session after the handshake: the snapshot is composed of what is published. -/
def Session.opened (h : Hub ω η) : Session ω η where
  received := composeSnapshot h.read
  snapshotAt := h.revision

/-- The actor's side, and one client's session. -/
structure Wire (ω η : Type) where
  hub : Hub ω η
  session : Option (Session ω η) := none

/-- How the sink takes a batch. -/
inductive Sink where
  | accepts
  /-- no sink is registered for the client -/
  | missing
  /-- the queue refuses the frame after the first ones -/
  | refuses (after : Nat)
  deriving DecidableEq, Repr

/-- What happens. -/
inductive WireEvent (ω η : Type) where
  /-- the actor commits and publishes -/
  | commit (p : Projection ω η)
  /-- a classification or an acknowledgement moves the shared ledger -/
  | overlay (rows : List AgentState)
  /-- the handshake ends: the snapshot is composed and sent -/
  | connect
  /-- the session routes a message -/
  | route
  /-- `topo_rx.changed()` returns -/
  | wake
  /-- the forwarder borrows the topology and sends -/
  | deliver (sink : Sink)

def forwardedFrames (h : Hub ω η) (sent : Option Nat) : List (Frame ω η) :=
  match sent with
  | some last => if last + 1 < h.revision then fullInventory h.read ++ h.frames else h.frames
  | none => h.frames

/-- The forwarder's observation: what the client receives, and where the task goes on. -/
def Hub.observe (h : Hub ω η) (seen : Nat) (sent : Option Nat) : Sink →
    List (Frame ω η) × Forwarder
  | .accepts => (forwardedFrames h sent, .waiting seen (some h.revision))
  | .missing => ([], .waiting seen sent)
  | .refuses after =>
    if after < (forwardedFrames h sent).length then
      ((forwardedFrames h sent).take after, .stopped)
    else (forwardedFrames h sent, .waiting seen (some h.revision))

/-- One event, if it can happen. -/
def Wire.step [DecidableEq ω] [DecidableEq η] (w : Wire ω η) : WireEvent ω η → Option (Wire ω η)
  | .commit p => some { w with hub := .publish (w.hub.revision + 1) w.hub.view p }
  | .overlay rows => some { w with hub := { w.hub with live := rows } }
  | .connect =>
    match w.session with
    | some _ => none
    | none => some { w with session := some (.opened w.hub) }
  | .route => w.session.map fun s =>
    match s.forwarder with
    -- the receiver is a clone of the handle's, which never marks a version as seen
    | .absent => { w with session := some { s with forwarder := .waiting 0 none } }
    | _ => w
  | .wake => w.session.bind fun s =>
    match s.forwarder with
    | .waiting seen sent =>
      if seen < w.hub.revision then
        some { w with session := some { s with forwarder := .awake w.hub.revision sent } }
      else none
    | _ => none
  | .deliver sink => w.session.bind fun s =>
    match s.forwarder with
    | .awake seen sent =>
      let (frames, forwarder) := w.hub.observe seen sent sink
      some { w with session := some { s with received := s.received ++ frames, forwarder } }
    | _ => none

/-! ## §2 — the condition -/

/-- **When an observation loses nothing**: the first one is at most one commit past the snapshot,
and one that heals a gap finds the ledger as it was committed. -/
def Hub.Observable (h : Hub ω η) (snapshotAt : Nat) : Forwarder → Prop
  | .awake _ none => h.revision ≤ snapshotAt + 1
  | .awake _ (some last) => last + 1 < h.revision → h.Settled
  | _ => True

instance (h : Hub ω η) (snapshotAt : Nat) : (f : Forwarder) → Decidable (h.Observable snapshotAt f)
  | .awake _ none => inferInstanceAs (Decidable (h.revision ≤ snapshotAt + 1))
  | .awake _ (some last) => inferInstanceAs (Decidable (last + 1 < h.revision → h.Settled))
  | .absent | .waiting .. | .stopped => .isTrue trivial

/-- What is asked of a step: the snapshot finds the ledger as it was committed, the sink accepts,
and the observation loses nothing. -/
def Wire.Meets (w : Wire ω η) : WireEvent ω η → Prop
  | .connect => w.hub.Settled
  | .deliver sink => sink = .accepts ∧
    ∀ s ∈ w.session, w.hub.Observable s.snapshotAt s.forwarder
  | _ => True

instance (w : Wire ω η) : (e : WireEvent ω η) → Decidable (w.Meets e)
  | .connect => inferInstanceAs (Decidable w.hub.Settled)
  | .deliver sink => inferInstanceAs (Decidable (sink = .accepts ∧
      ∀ s ∈ w.session, w.hub.Observable s.snapshotAt s.forwarder))
  | .commit .. | .overlay .. | .route | .wake => .isTrue trivial

def Wire.Step [DecidableEq ω] [DecidableEq η] (w : Wire ω η) (e : WireEvent ω η)
    (w' : Wire ω η) : Prop :=
  w.step e = some w' ∧ w.Meets e

/-- What is held of the client after the frames it received. -/
def Session.mirror (s : Session ω η) : Mirror ω η := .of s.received

/-- The forwarder waits, and has seen every commit. -/
def Wire.Parked (w : Wire ω η) (s : Session ω η) : Prop :=
  ∃ sent, s.forwarder = .waiting w.hub.revision sent

/-- The forwarder was started, and has not stopped. -/
def Session.Running (s : Session ω η) : Prop := s.forwarder ≠ .absent ∧ s.forwarder ≠ .stopped

/-- The forwarder's steps until it is parked, if no commit comes. -/
def Wire.lag (w : Wire ω η) (s : Session ω η) : Nat :=
  match s.forwarder with
  | .waiting seen _ => if seen < w.hub.revision then 2 else 0
  | .awake seen _ => if seen < w.hub.revision then 3 else 1
  | _ => 0

/-! ## §3 — the invariant -/

/-- The frames stamped on the published topology tell it, and the view is its own. -/
structure Hub.Sound (h : Hub ω η) : Prop where
  tells : ∀ f ∈ h.frames, f.Tells h.committed
  view : h.view = h.committed.view

theorem Hub.Sound.publish [DecidableEq ω] [DecidableEq η] (revision : Nat)
    (view : PublishedView ω η) (p : Projection ω η) :
    (Hub.publish revision view p).Sound where
  tells := fun _ hf => tells_of_mem_broadcastDiff hf
  view := broadcastDiff_view p view

/-- **The client is at a revision**: it shows the topology if that is the published one, and shows
it after the stamped diff if that is the one before. -/
structure Synced (h : Hub ω η) (m : PublishedView ω η) (base : Nat) : Prop where
  le : base ≤ h.revision
  current : base = h.revision → m = h.committed.view
  behind : base + 1 = h.revision → h.frames.foldl PublishedView.apply m = h.committed.view

/-- The revision the client was last sent. -/
def Session.base (s : Session ω η) : Nat :=
  match s.forwarder with
  | .waiting _ sent | .awake _ sent => sent.getD s.snapshotAt
  | .absent | .stopped => s.snapshotAt

def Hub.Kept (h : Hub ω η) : Forwarder → Prop
  | .waiting seen sent => seen ≤ h.revision ∧ (seen = 0 ∨ ∃ last ∈ sent, seen ≤ last)
  | .awake seen _ => 0 < seen ∧ seen ≤ h.revision
  | _ => True

/-- **What holds as long as nothing is lost.** -/
structure Wire.Follows (w : Wire ω η) : Prop where
  sound : w.hub.Sound
  positive : 0 < w.hub.revision
  synced : ∀ s ∈ w.session, s.forwarder ≠ .stopped →
    Synced w.hub s.mirror.view s.base
  kept : ∀ s ∈ w.session, w.hub.Kept s.forwarder

section Observation

variable {h : Hub ω η} {m : PublishedView ω η} {base : Nat}

/-- A client that shows the published topology is at its revision. -/
theorem Synced.of_current (hm : m = h.committed.view) : Synced h m h.revision where
  le := le_rfl
  current := fun _ => hm
  behind := fun hnext => absurd hnext (Nat.succ_ne_self _)

/-- A commit leaves a client that was up to date one diff behind. -/
theorem Synced.commit [DecidableEq ω] [DecidableEq η] (hs : h.Sound) (hm : Synced h m base)
    (p : Projection ω η) :
    Synced (.publish (h.revision + 1) h.view p) m base where
  le := hm.le.trans (Nat.le_succ _)
  current := fun heq => absurd hm.le (by
    have : base = h.revision + 1 := heq
    omega)
  behind := by
    intro hnext
    have hbase : base = h.revision := Nat.succ.inj hnext
    show (broadcastDiff p h.view).1.foldl PublishedView.apply m = p.view
    rw [hm.current hbase, hs.view]
    exact foldl_broadcastDiff h.committed p

/-- The stamped diff brings a client that is at most one commit behind up to date. -/
theorem Synced.foldl_frames (hs : h.Sound) (hm : Synced h m base) (hnear : h.revision ≤ base + 1) :
    h.frames.foldl PublishedView.apply m = h.committed.view := by
  rcases Nat.lt_or_eq_of_le hm.le with hlt | heq
  · exact hm.behind (by omega)
  · rw [hm.current heq]
    exact foldl_apply_of_tells hs.tells

theorem Hub.Settled.view_read (hsettled : h.Settled) : h.read.view = h.committed.view := by
  have hrows : h.live.map AgentState.unrevised = h.committed.agents.map AgentState.unrevised :=
    hsettled
  simp only [Projection.view, Hub.read, hrows]

/-- **An observation that loses nothing brings the client up to date.** -/
theorem Synced.forwarded (hs : h.Sound) {snapshotAt seen : Nat} {sent : Option Nat}
    (hm : Synced h m (sent.getD snapshotAt)) (ho : h.Observable snapshotAt (.awake seen sent)) :
    (forwardedFrames h sent).foldl PublishedView.apply m = h.committed.view := by
  cases sent with
  | none => exact hm.foldl_frames hs ho
  | some last =>
    show (if last + 1 < h.revision then fullInventory h.read ++ h.frames else h.frames).foldl
      PublishedView.apply m = h.committed.view
    by_cases hgap : last + 1 < h.revision
    · -- the full inventory tells every leg, and the diff after it repeats some
      rw [if_pos hgap, List.foldl_append, foldl_fullInventory, (ho hgap).view_read]
      exact foldl_apply_of_tells hs.tells
    · rw [if_neg hgap]
      exact hm.foldl_frames hs (not_lt.mp hgap)

end Observation

variable {w w' : Wire ω η}

theorem Wire.Follows.commit [DecidableEq ω] [DecidableEq η] (hw : w.Follows)
    (p : Projection ω η) :
    Wire.Follows { w with hub := .publish (w.hub.revision + 1) w.hub.view p } where
  sound := .publish _ _ p
  positive := Nat.succ_pos _
  synced := fun s hs hrunning => (hw.synced s hs hrunning).commit hw.sound p
  kept := by
    intro s hs
    have hkept := hw.kept s hs
    show Hub.Kept (Hub.publish (w.hub.revision + 1) w.hub.view p) s.forwarder
    cases hf : s.forwarder with
    | absent => trivial
    | stopped => trivial
    | waiting seen sent =>
      rw [hf] at hkept
      exact ⟨hkept.1.trans (Nat.le_succ _), hkept.2⟩
    | awake seen sent =>
      rw [hf] at hkept
      exact ⟨hkept.1, hkept.2.trans (Nat.le_succ _)⟩

theorem Wire.Follows.overlay (hw : w.Follows) (rows : List AgentState) :
    Wire.Follows { w with hub := { w.hub with live := rows } } where
  sound := ⟨hw.sound.tells, hw.sound.view⟩
  positive := hw.positive
  synced := fun s hs hrunning =>
    ⟨(hw.synced s hs hrunning).le, (hw.synced s hs hrunning).current,
      (hw.synced s hs hrunning).behind⟩
  kept := by
    intro s hs
    have hkept := hw.kept s hs
    show Hub.Kept { w.hub with live := rows } s.forwarder
    cases hf : s.forwarder with
    | absent => trivial
    | stopped => trivial
    | waiting seen sent => exact hf ▸ hkept
    | awake seen sent => exact hf ▸ hkept

/-- A session in which the client is up to date with its base. -/
theorem Wire.Follows.session (hw : w.Follows) {s : Session ω η}
    (hsynced : s.forwarder ≠ .stopped → Synced w.hub s.mirror.view s.base)
    (hkept : w.hub.Kept s.forwarder) : Wire.Follows { w with session := some s } where
  sound := hw.sound
  positive := hw.positive
  synced := by
    rintro s' hs'
    obtain rfl := Option.some.inj hs'
    exact hsynced
  kept := by
    rintro s' hs'
    obtain rfl := Option.some.inj hs'
    exact hkept

theorem Session.mirror_append (s : Session ω η) (frames : List (Frame ω η)) :
    (Mirror.of (s.received ++ frames)).view
      = frames.foldl PublishedView.apply s.mirror.view := by
  rw [Mirror.of, List.foldl_append, Mirror.view_foldl]
  rfl

/-- **The invariant, over a step.** -/
theorem Wire.Follows.step [DecidableEq ω] [DecidableEq η] {e : WireEvent ω η} (hw : w.Follows)
    (hstep : w.Step e w') : w'.Follows := by
  obtain ⟨hstep, hmeets⟩ := hstep
  cases e with
  | commit p =>
    obtain rfl := Option.some.inj hstep
    exact hw.commit p
  | overlay rows =>
    obtain rfl := Option.some.inj hstep
    exact hw.overlay rows
  | connect =>
    simp only [Wire.step] at hstep
    split at hstep
    · cases hstep
    · obtain rfl := Option.some.inj hstep
      refine hw.session (fun _ => ?_) trivial
      refine .of_current ?_
      rw [← Hub.Settled.view_read hmeets]
      exact view_composeSnapshot w.hub.read
  | route =>
    obtain ⟨s, hs, hw'⟩ := Option.map_eq_some_iff.mp hstep
    have hsynced := hw.synced s hs
    split at hw'
    · rename_i hf
      obtain rfl := hw'
      refine hw.session (fun _ => ?_) ⟨Nat.zero_le _, .inl rfl⟩
      have := hsynced (by rw [hf]; exact Forwarder.noConfusion)
      rw [Session.base, hf] at this
      exact this
    · obtain rfl := hw'
      exact hw
  | wake =>
    obtain ⟨s, hs, hw'⟩ := Option.bind_eq_some_iff.mp hstep
    have hsynced := hw.synced s hs
    split at hw'
    · rename_i seen sent hf
      split at hw'
      · obtain rfl := Option.some.inj hw'
        refine hw.session (fun _ => ?_) ⟨hw.positive, le_rfl⟩
        have := hsynced (by rw [hf]; exact Forwarder.noConfusion)
        rw [Session.base, hf] at this
        exact this
      · cases hw'
    · cases hw'
  | deliver sink =>
    obtain ⟨rfl, hobservable⟩ := hmeets
    obtain ⟨s, hs, hw'⟩ := Option.bind_eq_some_iff.mp hstep
    have hsynced := hw.synced s hs
    have hkept := hw.kept s hs
    have hobserved := hobservable s hs
    split at hw'
    · rename_i seen sent hf
      obtain rfl := Option.some.inj hw'
      rw [hf] at hkept hobserved
      have hbase := hsynced (by rw [hf]; exact Forwarder.noConfusion)
      rw [Session.base, hf] at hbase
      refine hw.session (fun _ => ?_) ⟨hkept.2, .inr ⟨_, rfl, hkept.2⟩⟩
      refine .of_current ?_
      exact (s.mirror_append _).trans (hbase.forwarded hw.sound hobserved)
    · cases hw'

/-! ## §4 — convergence -/

theorem Wire.Follows.start [DecidableEq ω] [DecidableEq η] (p : Projection ω η) :
    Wire.Follows { hub := .start p } where
  sound := .publish _ _ p
  positive := Nat.one_pos
  synced := fun _ hs => by cases hs
  kept := fun _ hs => by cases hs

/-- A parked client shows the published topology. -/
theorem Wire.Follows.parked (hw : w.Follows) {s : Session ω η} (hs : w.session = some s)
    (hparked : w.Parked s) : s.mirror.view = w.hub.committed.view := by
  obtain ⟨sent, hf⟩ := hparked
  have hkept := hw.kept s hs
  have hsynced := hw.synced s hs (by rw [hf]; exact Forwarder.noConfusion)
  have hpositive := hw.positive
  rw [hf] at hkept
  rw [Session.base, hf] at hsynced
  rcases hkept.2 with hzero | ⟨last, hsent, hle⟩
  · omega
  · obtain rfl := hsent
    exact hsynced.current (le_antisymm hsynced.le hle)

section

variable [DecidableEq ω] [DecidableEq η]

/-- A forwarder that runs and is not parked can go on, and comes closer to it. -/
theorem Wire.Follows.progress (hw : w.Follows) {s : Session ω η}
    (hs : w.session = some s) (hrunning : s.Running) (hparked : ¬ w.Parked s) :
    ∃ e w' s', (e = .wake ∨ e = .deliver .accepts) ∧ w.step e = some w' ∧ w'.session = some s' ∧
      w'.hub = w.hub ∧ w'.lag s' < w.lag s := by
  have hkept := hw.kept s hs
  cases hf : s.forwarder with
  | absent => exact absurd hf hrunning.1
  | stopped => exact absurd hf hrunning.2
  | waiting seen sent =>
    rw [hf] at hkept
    have hne : seen ≠ w.hub.revision := by
      rintro rfl
      exact hparked ⟨sent, hf⟩
    have hlt : seen < w.hub.revision := lt_of_le_of_ne hkept.1 hne
    refine ⟨.wake, { w with session := some { s with forwarder := .awake w.hub.revision sent } }, _,
      .inl rfl, ?_, rfl, rfl, ?_⟩
    · simp only [Wire.step, hs, Option.bind_some, hf, if_pos hlt]
    · simp [Wire.lag, hf, hlt]
  | awake seen sent =>
    rw [hf] at hkept
    refine ⟨.deliver .accepts, ⟨w.hub, some ⟨s.received ++ forwardedFrames w.hub sent,
      s.snapshotAt, .waiting seen (some w.hub.revision)⟩⟩, _, .inr rfl, ?_, rfl, rfl, ?_⟩
    · simp only [Wire.step, hs, Option.bind_some, hf, Hub.observe]
    · simp only [Wire.lag, hf]
      split <;> omega

/-- **Forwarder convergence.** In every run in which the sink accepts, the ledger reads as committed
when a snapshot or a full inventory is composed, and at most one commit lands between the snapshot
and the first observation: whenever the forwarder rests, the frames received show exactly the legs
of the last commit; and a forwarder that does not rest gets there in at most three steps of its own
if no commit comes. -/
theorem forwarder_converges {p : Projection ω η}
    {events : List (WireEvent ω η)} (hrun : Runs Wire.Step { hub := .start p } events w)
    {s : Session ω η} (hs : w.session = some s) :
    (w.Parked s → s.mirror.view = w.hub.committed.view) ∧
      w.lag s ≤ 3 ∧
      (s.Running → ¬ w.Parked s →
        ∃ e w' s', (e = .wake ∨ e = .deliver .accepts) ∧ w.step e = some w' ∧
          w'.session = some s' ∧ w'.hub = w.hub ∧ w'.lag s' < w.lag s) := by
  have hw : w.Follows := hrun.invariant (fun _ _ _ h hstep => h.step hstep) (.start p)
  refine ⟨hw.parked hs, ?_, hw.progress hs⟩
  unfold Wire.lag
  split
  · split <;> decide
  · split <;> decide
  · decide

/-- A step, if the event meets the condition. -/
def Wire.next (w : Wire ω η) (e : WireEvent ω η) :
    Option (Wire ω η) :=
  if w.Meets e then w.step e else none

theorem Wire.Step.of_next {e : WireEvent ω η} (h : w.next e = some w') : w.Step e w' :=
  (Option.ite_none_right_eq_some.mp h).symm

end

/-- A poll that samples one pane, with one status. -/
def statusPoll (agentStatus : AgentStatus) : SystemEvent :=
  .accept { now := 1 } { agents := [{ paneId := "w1:p1", terminalId := "t1", agentStatus }] }
    (fun _ => none) .poll

/-- What the relay projects after some polls of that pane, with the given workspaces. -/
def polled (statuses : List AgentStatus) (workspaces : List String) : Projection String Unit :=
  let s := System.after System.plainHost (statuses.map statusPoll) statuses.length
  s.topology.projection s.ledger workspaces () []

/-- One commit before the first observation, and two after it that the forwarder coalesces. -/
def coalesced : List (WireEvent String Unit) :=
  [.connect, .commit (polled [.idle, .working] ["w1"]), .route, .wake, .deliver .accepts,
    .commit (polled [.idle, .working, .done] ["w1"]),
    .commit (polled [.idle, .working, .done, .done] ["w1", "w2"]), .wake, .deliver .accepts]

/-- The client ends with the last commit's rows and workspaces. -/
theorem forwarder_converges_coalesced :
    ∃ w s, Runs Wire.Step { hub := .start (polled [.idle] ["w1"]) } coalesced w ∧
      w.session = some s ∧ s.mirror.view = w.hub.committed.view ∧
      w.hub.committed = polled [.idle, .working, .done, .done] ["w1", "w2"] := by
  have hcomputed : ∃ w, Runs Wire.Step { hub := .start (polled [.idle] ["w1"]) } coalesced w ∧
      w.session.any (fun s => s.forwarder = .waiting w.hub.revision (some 4)) = true ∧
      w.hub.committed = polled [.idle, .working, .done, .done] ["w1", "w2"] :=
    Runs.of_any (fun _ _ _ _ => Wire.Step.of_next) (by decide +kernel)
  obtain ⟨w, hrun, hsession, hcommitted⟩ := hcomputed
  obtain ⟨s, hs, hparked⟩ := Option.any_eq_true _ _ |>.mp hsession
  have hshows := (forwarder_converges hrun hs).1 ⟨some 4, of_decide_eq_true hparked⟩
  exact ⟨w, s, hrun, hs, hshows, hcommitted⟩

/-- Two commits between the snapshot and the first observation: one finds the pane working, the
next only moves a workspace. -/
def overtaken : List (WireEvent String Unit) :=
  [.connect, .commit (polled [.idle, .working] ["w1"]),
    .commit (polled [.idle, .working, .working] ["w1", "w2"]), .route, .wake, .deliver .accepts]

/-- **A commit is lost** between the snapshot and the first observation: the forwarder sends the
diff of the last commit and rests, and the client still shows the pane idle. -/
theorem commit_before_forwarder_lost :
    ∃ w s, overtaken.foldlM Wire.step { hub := .start (polled [.idle] ["w1"]) } = some w ∧
      w.session = some s ∧ w.Parked s ∧
      w.hub.committed.agents.map (·.status) = [.working] ∧
      s.mirror.agents.map (·.map (·.status)) = some [.idle] := by
  have hfinal : (overtaken.foldlM Wire.step { hub := .start (polled [.idle] ["w1"]) }).map
      (fun w => (w.session.map fun s =>
          decide (s.forwarder = .waiting w.hub.revision (some 3) ∧
            s.mirror.agents.map (·.map (·.status)) = some [.idle]),
        decide (w.hub.committed.agents.map (·.status) = [.working]))) = some (some true, true) := by
    decide +kernel
  obtain ⟨w, hw, hfacts⟩ := Option.map_eq_some_iff.mp hfinal
  obtain ⟨hsession, hcommitted⟩ := Prod.mk.inj hfacts
  obtain ⟨s, hs, hclient⟩ := Option.map_eq_some_iff.mp hsession
  obtain ⟨hparked, hidle⟩ := of_decide_eq_true hclient
  exact ⟨w, s, hw, hs, ⟨_, hparked⟩, of_decide_eq_true hcommitted, hidle⟩

end Lerdr.Coord
