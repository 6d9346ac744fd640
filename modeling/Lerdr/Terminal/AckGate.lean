/-
# Lerdr.Terminal.AckGate — the client side of the pane-watch ack gate (`AckGate.kt`).

A pure state machine over three flags. Every call answers with the intents the session layer has to
send, in order. The gate marks a watch started and a read pending before they are sent; a refused
send rolls the mark back. What a call reads from outside, the stored fingerprint and the clock, is
an argument here. `requestRead` on a pending read consults the clock twice: once for the throttle,
once for the new mark.
-/
import Lerdr.Kotlin.Runtime
import Lerdr.Lib.Runs

namespace Lerdr.Terminal

open Lerdr.Kotlin Lib

/-! ## §1 — the gate -/

/-- Outbound protocol actions. -/
inductive Intent where
  | applied (contentFingerprint : Units)
  | readPane (force : Bool)
  | watch
  | unwatch
  deriving DecidableEq, Repr

/-- The three flags: `watching` is the UI's intent, `watchStarted` a `watch_pane` live on the
server, `readRequestedAt` the clock of the `read_pane` in flight. -/
structure AckGate where
  watching : Bool := false
  watchStarted : Bool := false
  readRequestedAt : Option Int := none
  deriving DecidableEq, Repr

/-- What a call reads from outside: `storedFingerprint()`, and `clockMillis()` at the throttle and
where a read is marked. -/
structure Outside where
  storedFingerprint : Option Units := none
  checkedAt : Int
  issuedAt : Int
  deriving DecidableEq, Repr

namespace AckGate

def readRetryMs : Int := 35000

def hasFingerprint (out : Outside) : Bool := !isNullOrEmpty out.storedFingerprint

def startWatch (out : Outside) (g : AckGate) : AckGate × List Intent :=
  if g.watching && !g.watchStarted && hasFingerprint out && g.readRequestedAt.isNone then
    ({ g with watchStarted := true }, [.watch])
  else (g, [])

def issueRead (out : Outside) (force : Bool) (g : AckGate) : AckGate × List Intent :=
  ({ g with watchStarted := false, readRequestedAt := some out.issuedAt }, [.readPane force])

def forceRead (out : Outside) (g : AckGate) : AckGate × List Intent :=
  if g.watching then issueRead out true g else (g, [])

def watch (out : Outside) (g : AckGate) : AckGate × List Intent :=
  startWatch out { g with watching := true }

def unwatch (g : AckGate) : AckGate × List Intent :=
  let hadWatch := g.watching || g.watchStarted
  ({ g with watching := false, watchStarted := false }, if hadWatch then [.unwatch] else [])

def onDeltaCommitted (contentFingerprint : Units) (g : AckGate) : AckGate × List Intent :=
  (g, if g.watching then [.applied contentFingerprint] else [])

def onContent (out : Outside) (contentFingerprint : Option Units) (ackRequired : Bool)
    (g : AckGate) : AckGate × List Intent :=
  let started := startWatch out { g with readRequestedAt := none }
  let acked : List Intent :=
    match contentFingerprint with
    | some fp => if g.watching && ackRequired && !fp.isEmpty then [.applied fp] else []
    | none => []
  -- the ack goes out ahead of the watch that the same frame may open
  (started.1, acked ++ started.2)

def onUnchanged (out : Outside) (g : AckGate) : AckGate × List Intent :=
  startWatch out { g with readRequestedAt := none }

def requestRead (out : Outside) (g : AckGate) : AckGate × List Intent :=
  match g.readRequestedAt with
  | some requestedAt =>
    -- a read in flight throttles this one; past the window it is taken for lost
    if minus out.checkedAt requestedAt < readRetryMs then (g, []) else issueRead out false g
  | none => issueRead out false g

def restartWatch (out : Outside) (g : AckGate) : AckGate × List Intent :=
  startWatch out { g with watchStarted := false }

def onDisconnect (g : AckGate) : AckGate :=
  { g with watchStarted := false, readRequestedAt := none }

def onSendFailed (intent : Intent) (g : AckGate) : AckGate :=
  match intent with
  | .readPane _ => { g with readRequestedAt := none }
  | .watch => { g with watchStarted := false }
  | _ => g

/-- `reset`: every flag back to its initial value. -/
def reset : AckGate := {}

end AckGate

/-! ## §2 — sequences of calls -/

/-- One call of the gate's interface. -/
inductive GateCall where
  | watch
  | unwatch
  | deltaCommitted (contentFingerprint : Units)
  | deltaRejected
  | resync
  | content (contentFingerprint : Option Units) (ackRequired : Bool)
  | unchanged
  | requestRead
  | restartWatch
  | disconnect
  | sendFailed (intent : Intent)
  | reset
  deriving DecidableEq, Repr

namespace AckGate

/-- The gate after a call, and its intents. -/
def call (out : Outside) (g : AckGate) : GateCall → AckGate × List Intent
  | .watch => g.watch out
  | .unwatch => g.unwatch
  | .deltaCommitted fp => g.onDeltaCommitted fp
  | .deltaRejected => g.forceRead out
  | .resync => g.forceRead out
  | .content fp ackRequired => g.onContent out fp ackRequired
  | .unchanged => g.onUnchanged out
  | .requestRead => g.requestRead out
  | .restartWatch => g.restartWatch out
  | .disconnect => (g.onDisconnect, [])
  | .sendFailed intent => (g.onSendFailed intent, [])
  | .reset => (reset, [])

/-- The gate as the call finds it where it decides whether to open a watch. -/
def atStartWatch (g : AckGate) : GateCall → AckGate
  | .watch => { g with watching := true }
  | .content _ _ | .unchanged => { g with readRequestedAt := none }
  | .restartWatch => { g with watchStarted := false }
  | _ => g

end AckGate

/-- The calls that settle a pending read: an answer, a lost connection, a refused read, a reset. -/
def GateCall.settles : GateCall → Bool
  | .content _ _ | .unchanged | .disconnect | .reset => true
  | .sendFailed (.readPane _) => true
  | _ => false

/-- Only the last emitted intent can turn out not to have been sent. -/
def GateCall.mayFollow (lastIntent : Option Intent) : GateCall → Bool
  | .sendFailed intent => lastIntent == some intent
  | _ => true

/-- One call as it happened. -/
structure GateRecord where
  call : GateCall
  out : Outside
  before : AckGate
  intents : List Intent
  deriving DecidableEq, Repr

/-- The gate with the clock it was last called at and the last intent it emitted. -/
structure GateSession where
  gate : AckGate := {}
  clock : Int := longMin
  lastIntent : Option Intent := none
  deriving DecidableEq, Repr

/-- One call, at a clock that does not run backwards. -/
structure GateStep (s : GateSession) (r : GateRecord) (s' : GateSession) : Prop where
  clock_le : s.clock ≤ r.out.checkedAt
  checked_le : r.out.checkedAt ≤ r.out.issuedAt
  issued_le : r.out.issuedAt ≤ longMax
  may_follow : r.call.mayFollow s.lastIntent = true
  before_eq : r.before = s.gate
  intents_eq : r.intents = (s.gate.call r.out r.call).2
  next_eq : s' = { gate := (s.gate.call r.out r.call).1, clock := r.out.issuedAt,
                   lastIntent := r.intents.getLast?.or s.lastIntent }

/-! ## §3 — what one call does -/

namespace AckGate

variable {g : AckGate} {c : GateCall} {out : Outside}

theorem startWatch_cases (out : Outside) (g : AckGate) :
    (g.startWatch out = (g, [])) ∨
    (g.startWatch out = ({ g with watchStarted := true }, [.watch]) ∧ g.watching = true ∧
      g.watchStarted = false ∧ hasFingerprint out = true ∧ g.readRequestedAt = none) := by
  by_cases h : (g.watching && !g.watchStarted && hasFingerprint out
      && g.readRequestedAt.isNone) = true
  · right
    simp only [startWatch, h, if_true, true_and]
    simpa [and_assoc] using h
  · left
    rw [startWatch, if_neg h]

/-- **The three things a call can do**: decide about opening a watch, issue a read, or neither. -/
inductive CallSpec (out : Outside) (g : AckGate) (c : GateCall) : AckGate × List Intent → Prop
  | starts (acked : List Intent) (hacked : ∀ i ∈ acked, ∃ fp, i = .applied fp) :
      CallSpec out g c
        (((g.atStartWatch c).startWatch out).1, acked ++ ((g.atStartWatch c).startWatch out).2)
  | reads (force : Bool) (throttle : force = false → ∀ t, g.readRequestedAt = some t →
        readRetryMs ≤ minus out.checkedAt t) : CallSpec out g c (g.issueRead out force)
  | other {g' : AckGate} {intents : List Intent}
      (quiet : ∀ i ∈ intents, i ≠ .watch ∧ ∀ force, i ≠ .readPane force)
      (started : g'.watchStarted = true → g.watchStarted = true ∧ g'.watching = g.watching)
      (keeps : c.settles = false → g'.readRequestedAt = g.readRequestedAt) :
      CallSpec out g c (g', intents)

theorem forceRead_spec (out : Outside) (g : AckGate) (c : GateCall) :
    CallSpec out g c (g.forceRead out) := by
  rw [forceRead]
  split
  · exact .reads true (fun h => by cases h)
  · exact .other (by simp) (fun h => ⟨h, rfl⟩) (fun _ => rfl)

theorem requestRead_spec (out : Outside) (g : AckGate) (c : GateCall) :
    CallSpec out g c (g.requestRead out) := by
  rw [requestRead]
  cases hreq : g.readRequestedAt with
  | none => exact .reads false (fun _ t ht => by simp [hreq] at ht)
  | some requestedAt =>
    dsimp only
    split
    · exact .other (by simp) (fun h => ⟨h, rfl⟩) (fun _ => rfl)
    · next hthrottle =>
      refine .reads false (fun _ t ht => ?_)
      obtain rfl : requestedAt = t := by simpa [hreq] using ht
      exact not_lt.mp hthrottle

/-- **Every call does one of the three.** -/
theorem call_spec (out : Outside) (g : AckGate) (c : GateCall) :
    CallSpec out g c (g.call out c) := by
  cases c with
  | watch => exact .starts [] (by simp)
  | unwatch =>
    refine .other ?_ (fun h => by cases h) (fun _ => rfl)
    intro i hi
    split at hi
    · obtain rfl := List.mem_singleton.mp hi
      simp
    · cases hi
  | deltaCommitted fp =>
    refine .other ?_ (fun h => ⟨h, rfl⟩) (fun _ => rfl)
    intro i hi
    split at hi
    · obtain rfl := List.mem_singleton.mp hi
      simp
    · cases hi
  | deltaRejected => exact forceRead_spec out g _
  | resync => exact forceRead_spec out g _
  | content fp ackRequired =>
    refine .starts _ ?_
    intro i hi
    split at hi
    · split at hi
      · exact ⟨_, List.mem_singleton.mp hi⟩
      · cases hi
    · cases hi
  | unchanged => exact .starts [] (by simp)
  | requestRead => exact requestRead_spec out g _
  | restartWatch => exact .starts [] (by simp)
  | disconnect | reset => exact .other (by simp) (fun h => by cases h) (fun h => by cases h)
  | sendFailed intent =>
    cases intent with
    | readPane force => exact .other (by simp) (fun h => ⟨h, rfl⟩) (fun h => by cases h)
    | watch => exact .other (by simp) (fun h => by cases h) (fun _ => rfl)
    | _ => exact .other (by simp) (fun h => ⟨h, rfl⟩) (fun _ => rfl)

/-- The gate a call decides at keeps a started watch wanted. -/
theorem atStartWatch_started (c : GateCall) (h : g.watchStarted = true → g.watching = true) :
    (g.atStartWatch c).watchStarted = true → (g.atStartWatch c).watching = true := by
  cases c with
  | watch => exact fun _ => rfl
  | restartWatch => exact fun hs => by cases hs
  | _ => exact h

/-- **A started watch is a wanted one**, through every call. -/
theorem call_started_watching (c : GateCall) (h : g.watchStarted = true → g.watching = true) :
    (g.call out c).1.watchStarted = true → (g.call out c).1.watching = true := by
  have hspec := call_spec out g c
  generalize g.call out c = result at hspec
  cases hspec with
  | starts acked =>
    rcases startWatch_cases out (g.atStartWatch c) with heq | ⟨heq, hw, -⟩
    · rw [heq]
      exact atStartWatch_started c h
    · rw [heq]
      exact fun _ => hw
  | reads force =>
    intro hs
    cases hs
  | other _ hstarted =>
    intro hs
    rw [(hstarted hs).2]
    exact h (hstarted hs).1

/-- **A watch is opened only at a gate that is free for one.** -/
theorem watch_mem_call (h : Intent.watch ∈ (g.call out c).2) :
    (g.atStartWatch c).readRequestedAt = none ∧ (g.atStartWatch c).watchStarted = false ∧
      hasFingerprint out = true := by
  have hspec := call_spec out g c
  generalize g.call out c = result at h hspec
  cases hspec with
  | starts acked hacked =>
    rcases List.mem_append.mp h with hmem | hmem
    · obtain ⟨fp, hfp⟩ := hacked _ hmem
      cases hfp
    · rcases startWatch_cases out (g.atStartWatch c) with heq | ⟨-, -, hs, hf, hr⟩
      · rw [heq] at hmem
        cases hmem
      · exact ⟨hr, hs, hf⟩
  | reads force => simp [issueRead] at h
  | other hquiet => exact absurd rfl (hquiet _ h).1

/-- A read is pending, marked no earlier than `since`, and no watch is started. -/
structure Pending (since : Int) (g : AckGate) (clock : Int) : Prop where
  pending : ∃ t, g.readRequestedAt = some t ∧ since ≤ t ∧ t ≤ clock
  notStarted : g.watchStarted = false

/-- **Where a read comes from**: a call that issues it, a non-forced one past the throttle. -/
theorem readPane_mem_call {force : Bool} (h : Intent.readPane force ∈ (g.call out c).2) :
    g.call out c = g.issueRead out force ∧
      (force = false → ∀ t, g.readRequestedAt = some t →
        readRetryMs ≤ minus out.checkedAt t) := by
  have hspec := call_spec out g c
  generalize g.call out c = result at h hspec
  cases hspec with
  | starts acked hacked =>
    rcases List.mem_append.mp h with hmem | hmem
    · obtain ⟨fp, hfp⟩ := hacked _ hmem
      cases hfp
    · rcases startWatch_cases out (g.atStartWatch c) with heq | ⟨heq, -⟩ <;>
        rw [heq] at hmem <;> simp at hmem
  | reads force' throttle =>
    obtain rfl : force = force' := by simpa [issueRead] using h
    exact ⟨rfl, throttle⟩
  | other hquiet => exact absurd rfl ((hquiet _ h).2 force)

/-- Issuing a read leaves it pending since then. -/
theorem pending_of_readPane_mem {force : Bool} (h : Intent.readPane force ∈ (g.call out c).2) :
    Pending out.issuedAt (g.call out c).1 out.issuedAt := by
  rw [(readPane_mem_call h).1]
  exact ⟨⟨out.issuedAt, rfl, le_rfl, le_rfl⟩, rfl⟩

/-- A call that settles nothing decides about a watch with the read still pending. -/
theorem atStartWatch_pending (hc : c.settles = false) (hstarted : g.watchStarted = false) :
    (g.atStartWatch c).readRequestedAt = g.readRequestedAt ∧
      (g.atStartWatch c).watchStarted = false := by
  cases c with
  | content fp ackRequired => cases hc
  | unchanged => cases hc
  | restartWatch => exact ⟨rfl, rfl⟩
  | _ => exact ⟨rfl, hstarted⟩

/-- **A pending read stays pending, and keeps the watch closed, until a call settles it.** -/
theorem Pending.call {since clock : Int}
    (h : Pending since g clock) (hclock : clock ≤ out.issuedAt) (hc : c.settles = false) :
    Pending since (g.call out c).1 out.issuedAt := by
  obtain ⟨⟨t, ht, hsince, hle⟩, hnot⟩ := h
  have hspec := call_spec out g c
  generalize g.call out c = result at hspec
  cases hspec with
  | starts acked =>
    obtain ⟨hread, hclosed⟩ := atStartWatch_pending hc hnot
    rcases startWatch_cases out (g.atStartWatch c) with heq | ⟨-, -, -, -, hnone⟩
    · rw [heq]
      exact ⟨⟨t, hread.trans ht, hsince, hle.trans hclock⟩, hclosed⟩
    · -- a watch is not opened over a pending read
      rw [hread, ht] at hnone
      cases hnone
  | reads force => exact ⟨⟨out.issuedAt, rfl, hsince.trans (hle.trans hclock), le_rfl⟩, rfl⟩
  | other _ hstarted hkeeps =>
    refine ⟨⟨t, (hkeeps hc).trans ht, hsince, hle.trans hclock⟩, ?_⟩
    rw [Bool.eq_false_iff]
    intro hs
    rw [(hstarted hs).1] at hnot
    cases hnot

/-- **The throttle.** A read asked for while one is pending is issued only after the retry window;
a clock difference that wraps is taken for a short one. -/
theorem Pending.retry {since clock : Int}
    (h : Pending since g clock) (hlo : longMin ≤ since) (hclock : clock ≤ out.checkedAt)
    (hchecked : out.checkedAt ≤ out.issuedAt) (hhi : out.issuedAt ≤ longMax)
    (hread : Intent.readPane false ∈ (g.call out c).2) :
    since + readRetryMs ≤ out.issuedAt := by
  obtain ⟨⟨t, ht, hsince, hle⟩, -⟩ := h
  have hwindow := (readPane_mem_call hread).2 rfl t ht
  rcases minus_of_le (hlo.trans hsince) (hle.trans hclock) (hchecked.trans hhi) with heq | hneg
  · omega
  · simp only [readRetryMs] at hwindow
    omega

/-- **One ack for each committed frame**, in front of the watch the same call may open. -/
theorem call_acks {fp : Units} (hwatching : g.watching = true)
    (hc : c = .deltaCommitted fp ∨ (c = .content (some fp) true ∧ fp ≠ [])) :
    ∃ rest, (g.call out c).2 = .applied fp :: rest ∧ ∀ i ∈ rest, i = Intent.watch := by
  rcases hc with rfl | ⟨rfl, hfp⟩
  · exact ⟨[], by simp [call, onDeltaCommitted, hwatching], by simp⟩
  · refine ⟨(startWatch out { g with readRequestedAt := none }).2, ?_, ?_⟩
    · simp [call, onContent, hwatching, hfp]
    · intro i hi
      rcases startWatch_cases out { g with readRequestedAt := none } with heq | ⟨heq, -⟩
      · rw [heq] at hi; cases hi
      · rw [heq] at hi; simpa using hi

end AckGate

/-! ## §4 — every sequence of calls -/

open AckGate

/-- What holds of a session between calls. -/
structure GateSession.Sound (s : GateSession) : Prop where
  started_watching : s.gate.watchStarted = true → s.gate.watching = true
  clock_ge : longMin ≤ s.clock

theorem GateStep.sound (s : GateSession) (r : GateRecord) (s' : GateSession) (hs : s.Sound)
    (h : GateStep s r s') : s'.Sound := by
  obtain ⟨hclock, hchecked, -, -, -, -, rfl⟩ := h
  exact ⟨call_started_watching r.call hs.started_watching,
    hs.clock_ge.trans (hclock.trans hchecked)⟩

/-- A stretch without settling calls keeps a pending read pending. -/
theorem pending_stays {since : Int} {s t : GateSession} {records : List GateRecord}
    (h : Runs GateStep s records t) (hrecords : ∀ r ∈ records, ¬ r.call.settles = true)
    (hs : Pending since s.gate s.clock) : Pending since t.gate t.clock := by
  refine Runs.stays (P := fun s => Pending since s.gate s.clock) ?_ h hrecords hs
  rintro s r s' hpending hr ⟨hclock, hchecked, -, -, -, -, rfl⟩
  exact hpending.call (hclock.trans hchecked) (by simpa using hr)

/-- The state after the call that issued a read. -/
theorem GateStep.pending {s s' : GateSession} {r : GateRecord} {force : Bool} (h : GateStep s r s')
    (hread : .readPane force ∈ r.intents) : Pending r.out.issuedAt s'.gate s'.clock := by
  obtain ⟨-, -, -, -, -, hintents, rfl⟩ := h
  rw [hintents] at hread
  exact pending_of_readPane_mem hread

/-- **The ack gate's discipline**, over every sequence of calls with a clock that does not run
backwards: a started watch is a watched pane; a watch is opened only with no read pending, none
started and a fingerprint stored; after a forced read no watch is started until a call settles the
read; two non-forced reads without a settling call between them are `READ_RETRY_MS` apart; and while
watching every committed frame is acked exactly once, ahead of the watch. -/
theorem ackGate_discipline {records : List GateRecord} {t : GateSession}
    (h : Runs GateStep {} records t) :
    (t.gate.watchStarted = true → t.gate.watching = true) ∧
    (∀ r ∈ records, .watch ∈ r.intents →
      (r.before.atStartWatch r.call).readRequestedAt = none ∧
      (r.before.atStartWatch r.call).watchStarted = false ∧
      hasFingerprint r.out = true) ∧
    (∀ pre r mid, records = pre ++ r :: mid → .readPane true ∈ r.intents →
      (∀ m ∈ mid, ¬ m.call.settles = true) → t.gate.watchStarted = false) ∧
    (∀ pre r mid r' post, records = pre ++ r :: (mid ++ r' :: post) →
      .readPane false ∈ r.intents → .readPane false ∈ r'.intents →
      (∀ m ∈ mid, ¬ m.call.settles = true) →
      r.out.issuedAt + readRetryMs ≤ r'.out.issuedAt) ∧
    (∀ r ∈ records, r.before.watching = true → ∀ fp,
      (r.call = .deltaCommitted fp ∨ (r.call = .content (some fp) true ∧ fp ≠ [])) →
      ∃ rest, r.intents = .applied fp :: rest ∧ ∀ i ∈ rest, i = .watch) := by
  have hsound : ({} : GateSession).Sound := ⟨by simp, le_rfl⟩
  refine ⟨(h.invariant GateStep.sound hsound).started_watching, ?_, ?_, ?_, ?_⟩
  · refine h.forall_mem GateStep.sound ?_ hsound
    rintro s r s' - ⟨-, -, -, -, hbefore, hintents, -⟩ hmem
    rw [hintents] at hmem
    rw [hbefore]
    exact watch_mem_call hmem
  · rintro pre r mid rfl hread hmid
    obtain ⟨a, b, -, hr, hrest⟩ := h.around
    exact (pending_stays hrest hmid (hr.pending hread)).notStarted
  · rintro pre r mid r' post rfl hread hread' hmid
    obtain ⟨a, b, c, d, hpre, hr, hstretch, hr', -⟩ := h.between
    have ha := hpre.invariant GateStep.sound hsound
    have hpending := pending_stays hstretch hmid (hr.pending hread)
    rw [hr'.intents_eq] at hread'
    exact hpending.retry (ha.clock_ge.trans (hr.clock_le.trans hr.checked_le)) hr'.clock_le
      hr'.checked_le hr'.issued_le hread'
  · refine h.forall_mem GateStep.sound ?_ hsound
    rintro s r s' - ⟨-, -, -, -, hbefore, hintents, -⟩ hwatching fp hc
    rw [hintents]
    exact call_acks (hbefore ▸ hwatching) hc

/-- A watched pane: a read, a resync nudge ten milliseconds later, the retry, and its answer. -/
def sampleRecords : List GateRecord :=
  [{ call := .watch, out := { checkedAt := 0, issuedAt := 0 }, before := {}, intents := [] },
   { call := .requestRead, out := { checkedAt := 0, issuedAt := 0 },
     before := { watching := true }, intents := [.readPane false] },
   { call := .resync, out := { checkedAt := 10, issuedAt := 10 },
     before := { watching := true, readRequestedAt := some 0 }, intents := [.readPane true] },
   { call := .requestRead, out := { checkedAt := 35010, issuedAt := 35011 },
     before := { watching := true, readRequestedAt := some 10 }, intents := [.readPane false] },
   { call := .content (some [97]) true,
     out := { storedFingerprint := some [97], checkedAt := 35500, issuedAt := 35500 },
     before := { watching := true, readRequestedAt := some 35011 },
     intents := [.applied [97], .watch] }]

theorem ackGate_discipline_sample :
    Runs GateStep {} sampleRecords
      { gate := { watching := true, watchStarted := true }, clock := 35500,
        lastIntent := some .watch } ∧
    (0 : Int) + readRetryMs ≤ 35011 ∧
    ∃ rest, [Intent.applied [97], Intent.watch] = .applied [97] :: rest ∧
      ∀ i ∈ rest, i = .watch := by
  have hrun : Runs GateStep {} sampleRecords
      { gate := { watching := true, watchStarted := true }, clock := 35500,
        lastIntent := some .watch } := by
    refine .cons ⟨?_, ?_, ?_, ?_, rfl, rfl, rfl⟩ (.cons ⟨?_, ?_, ?_, ?_, rfl, rfl, rfl⟩
      (.cons ⟨?_, ?_, ?_, ?_, rfl, rfl, rfl⟩ (.cons ⟨?_, ?_, ?_, ?_, rfl, rfl, rfl⟩
        (.cons ⟨?_, ?_, ?_, ?_, rfl, rfl, rfl⟩ (.nil _))))) <;> decide
  obtain ⟨-, -, -, hretry, hack⟩ := ackGate_discipline hrun
  exact ⟨hrun, hretry [_] _ [_] _ [_] rfl (by simp) (by simp) (by simp [GateCall.settles]),
    hack _ (by simp [sampleRecords]; exact .inr (.inr (.inr (.inr rfl)))) rfl [97]
      (.inr ⟨rfl, by simp⟩)⟩

end Lerdr.Terminal
