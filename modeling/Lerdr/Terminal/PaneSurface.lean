/-
# Lerdr.Terminal.PaneSurface — the client's pane frame and its integrity chain.

`FingerprintChain` keeps the fingerprint of the last accepted frame and decides whether a
`pane_delta` continues it. `PaneSurface` owns the displayed content, the chain and the ack gate, and
is fed raw JSON messages. Adopting a fingerprint and replacing the content are two steps with
different null handling: a `pane_content` without fingerprint replaces the content and leaves the
chain as it was.

The content hash is a parameter, `fingerprintOf`: the first eight bytes of the SHA-256 of the UTF-8
text, in lowercase hex.
-/
import Lerdr.Terminal.AckGate
import Lerdr.Terminal.PaneDelta

namespace Lerdr.Terminal

open Lerdr.Kotlin Lib

/-! ## §1 — reading wire fields -/

/-- `wireString` — JSON strings only. -/
def wireString : Option JsonElement → Option Units
  | some (.string content) => some content
  | _ => none

/-- `wireBoolean` — JSON booleans only. -/
def wireBoolean : Option JsonElement → Option Bool
  | some (.bool value) => some value
  | _ => none

/-- `wireInt` — `Double.toInt()`, which drops the fraction and saturates. -/
def wireInt : Option JsonElement → Option Int
  | some (.number n) =>
    let magnitude : Int :=
      match (Binary64.ofDecimal n.digits n.exponent).floor? with
      | some m => m
      | none => 2 ^ 31
    some (if n.negative then max (-magnitude) (-2 ^ 31) else min magnitude (2 ^ 31 - 1))
  | _ => none

/-! ## §2 — the fingerprint chain -/

/-- Why a pane frame failed integrity and forced a resync. -/
inductive ResyncReason where
  | noBaseFrame
  | baseMismatch
  | missingFingerprint
  | applyRejected
  | hashMismatch
  | serverNudge
  deriving DecidableEq, Repr

/-- What the chain decided about an incoming `pane_delta`. -/
inductive DeltaVerdict where
  | apply (contentFingerprint : Units)
  | metadataOnly (contentFingerprint : Units)
  | resyncRequired (reason : ResyncReason)
  deriving DecidableEq, Repr

/-- The chain head: the fingerprint of the last accepted frame. -/
structure FingerprintChain where
  fingerprint : Option Units := none
  deriving DecidableEq, Repr

namespace FingerprintChain

/-- `adopt` — only a non-empty string moves the chain. -/
def adopt (fingerprint : Option Units) (chain : FingerprintChain) : FingerprintChain :=
  if isNullOrEmpty fingerprint then chain else { fingerprint := fingerprint }

/-- `commitDelta` — whatever string the wire carried. -/
def commitDelta (fingerprint : Units) : FingerprintChain := { fingerprint := some fingerprint }

/-- `storedEquals` — JS strict equality with the stored value, absent being `undefined`. -/
def storedEquals (chain : FingerprintChain) : Option JsonElement → Bool
  | none => chain.fingerprint.isNone
  | some (.string content) => chain.fingerprint == some content
  | some _ => false

/-- `jsEquals` — JS strict equality of two wire values. -/
def jsEquals : Option JsonElement → Option JsonElement → Bool
  | none, none => true
  | some .null, some .null => true
  | some (.string a), some (.string b) => a == b
  | some (.bool a), some (.bool b) => a == b
  | some (.number a), some (.number b) =>
    let x := Binary64.ofDecimal a.digits a.exponent
    let y := Binary64.ofDecimal b.digits b.exponent
    x.sameValue y && (a.negative == b.negative || x.sameValue (.finite 0 0))
  | _, _ => false

def segmentsNullOrEmpty : Option JsonElement → Bool
  | some .null => true
  | some (.array items) => items.isEmpty
  | _ => false

/-- `evaluateDelta` — the checks in front of the apply. -/
def evaluateDelta (chain : FingerprintChain) (hasFrame : Bool)
    (baseFingerprint contentFingerprint segments : Option JsonElement) : DeltaVerdict :=
  if !hasFrame then .resyncRequired .noBaseFrame
  else if !chain.storedEquals baseFingerprint then .resyncRequired .baseMismatch
  else
    match contentFingerprint with
    | some (.string fingerprint) =>
      if jsEquals baseFingerprint contentFingerprint && segmentsNullOrEmpty segments then
        .metadataOnly fingerprint
      else .apply fingerprint
    | _ => .resyncRequired .missingFingerprint

/-- A metadata-only verdict is about the frame the chain already holds. -/
theorem evaluateDelta_metadataOnly {chain : FingerprintChain} {hasFrame : Bool}
    {base content segments : Option JsonElement} {fingerprint : Units}
    (h : chain.evaluateDelta hasFrame base content segments = .metadataOnly fingerprint) :
    hasFrame = true ∧ chain.fingerprint = some fingerprint := by
  simp only [evaluateDelta] at h
  split at h
  · cases h
  rename_i hframe
  split at h
  · cases h
  rename_i hstored
  split at h
  · split at h
    · rename_i fp hsame
      cases h
      refine ⟨by simpa using hframe, ?_⟩
      -- the base equals a string, so it is one, and the stored fingerprint equals it
      match base with
      | some (.string b) =>
        simp only [jsEquals, Bool.and_eq_true, beq_iff_eq] at hsame
        simp only [storedEquals, Bool.not_eq_true', Bool.not_eq_false, beq_iff_eq] at hstored
        rw [hstored, hsame.1]
      | none => simp [jsEquals] at hsame
      | some .null => simp [jsEquals] at hsame
      | some (.bool _) => simp [jsEquals] at hsame
      | some (.number _) => simp [jsEquals] at hsame
      | some (.array _) => simp [jsEquals] at hsame
      | some (.object _) => simp [jsEquals] at hsame
    · cases h
  · cases h

end FingerprintChain

/-! ## §3 — the surface -/

/-- `"plain"`. -/
def plainFormat : Units := utf16 "plain".toList

/-- `"(empty)"`, shown for a `pane_content` without content. -/
def emptyContent : Units := utf16 "(empty)".toList

/-- `split('\n')`: the lines without their newline. -/
def splitLines (text : Units) : List Units :=
  (Pieces.pieces newline text).map fun line => line.filter (· != newline)

/-- Immutable render state. -/
structure Snapshot where
  paneId : Units
  content : Units
  lines : List Units
  columns : Int
  rows : Int
  fingerprint : Option Units
  revision : Int
  format : Units
  truncated : Bool
  viewportOnly : Bool
  viewportRows : Option Int
  noEcho : Bool
  noEchoPrompt : Option Units
  resizeSettling : Bool
  deriving DecidableEq, Repr

/-- The result of feeding one message to the surface. -/
inductive SurfaceResult where
  | committed (snapshot : Snapshot) (intents : List Intent)
  | unchanged (intents : List Intent)
  | resyncRequired (reason : ResyncReason) (intents : List Intent)
  deriving DecidableEq, Repr

/-- One pane's frame, chain and gate. -/
structure PaneSurface where
  paneId : Units
  verifyContentHash : Bool := true
  chain : FingerprintChain := {}
  gate : AckGate := {}
  content : Option Units := none
  format : Units := plainFormat
  truncated : Bool := false
  viewportOnly : Bool := false
  viewportRows : Option Int := none
  noEcho : Bool := false
  noEchoPrompt : Option Units := none
  resizeSettling : Bool := false
  columns : Int := 0
  rows : Int := 0
  revision : Int := 0
  currentSnapshot : Option Snapshot := none
  deriving DecidableEq, Repr

/-- The readings of `clockMillis()` during one call. -/
structure ClockReadings where
  checkedAt : Int
  issuedAt : Int
  deriving DecidableEq, Repr

namespace PaneSurface

/-- What the surface's gate sees: the chain head and the clock. -/
def outside (clock : ClockReadings) (s : PaneSurface) : Outside :=
  { storedFingerprint := s.chain.fingerprint, checkedAt := clock.checkedAt,
    issuedAt := clock.issuedAt }

/-- `commit` — bump the revision and take a snapshot. -/
def commit (s : PaneSurface) : PaneSurface × Snapshot :=
  let revision := plus s.revision 1
  let body := s.content.getD []
  let snapshot : Snapshot :=
    { paneId := s.paneId, content := body, lines := splitLines body, columns := s.columns,
      rows := s.rows, fingerprint := s.chain.fingerprint, revision := revision,
      format := s.format, truncated := s.truncated, viewportOnly := s.viewportOnly,
      viewportRows := s.viewportRows, noEcho := s.noEcho, noEchoPrompt := s.noEchoPrompt,
      resizeSettling := s.resizeSettling }
  ({ s with revision := revision, currentSnapshot := some snapshot }, snapshot)

def withGate (s : PaneSurface) (answer : AckGate × List Intent) : PaneSurface × List Intent :=
  ({ s with gate := answer.1 }, answer.2)

/-- `resync` — nothing is stored; a watched pane asks for a forced read. -/
def resync (clock : ClockReadings) (reason : ResyncReason) (s : PaneSurface) :
    PaneSurface × SurfaceResult :=
  let (s, intents) := s.withGate (s.gate.forceRead (s.outside clock))
  (s, .resyncRequired reason intents)

/-- The commit half of `applyDelta`: fields the message leaves out are inherited, except
`resize_settling`. -/
def commitDelta (message : JsonObject) (claimedFingerprint nextContent : Units) (s : PaneSurface) :
    PaneSurface × SurfaceResult :=
  let noEcho := (wireBoolean (member message "no_echo")).getD s.noEcho
  let next : PaneSurface :=
    { s with
      chain := .commitDelta claimedFingerprint
      content := some nextContent
      format := ((wireString (member message "format")).filter (!·.isEmpty)).getD s.format
      truncated := (wireBoolean (member message "truncated")).getD s.truncated
      viewportOnly := (wireBoolean (member message "viewport_only")).getD s.viewportOnly
      viewportRows := (wireInt (member message "viewport_rows")).or s.viewportRows
      noEcho := noEcho
      noEchoPrompt :=
        if noEcho then (wireString (member message "no_echo_prompt")).or s.noEchoPrompt else none
      resizeSettling := wireBoolean (member message "resize_settling") == some true }
  let (next, snapshot) := next.commit
  let (next, intents) := next.withGate (next.gate.onDeltaCommitted claimedFingerprint)
  (next, .committed snapshot intents)

/-- `applyContent` — rebuild the frame from scratch. -/
def applyContent (clock : ClockReadings) (message : JsonObject) (s : PaneSurface) :
    PaneSurface × SurfaceResult :=
  let frameFingerprint := wireString (member message "content_fingerprint")
  let noEcho := wireBoolean (member message "no_echo") == some true
  let next : PaneSurface :=
    { s with
      -- the two move apart when the message has content but no fingerprint, or neither
      chain := s.chain.adopt frameFingerprint
      content := some ((wireString (member message "content")).getD emptyContent)
      format := ((wireString (member message "format")).filter (!·.isEmpty)).getD plainFormat
      truncated := wireBoolean (member message "truncated") == some true
      viewportOnly := wireBoolean (member message "viewport_only") == some true
      viewportRows := wireInt (member message "viewport_rows")
      noEcho := noEcho
      noEchoPrompt := if noEcho then wireString (member message "no_echo_prompt") else none
      resizeSettling := wireBoolean (member message "resize_settling") == some true }
  let (next, snapshot) := next.commit
  let (next, intents) := next.withGate
    (next.gate.onContent (next.outside clock) frameFingerprint
      (wireBoolean (member message "ack_required") == some true))
  (next, .committed snapshot intents)

/-- `applyUnchanged` — adopt the echoed fingerprint, keep the frame. -/
def applyUnchanged (clock : ClockReadings) (message : JsonObject) (s : PaneSurface) :
    PaneSurface × SurfaceResult :=
  let next := { s with chain := s.chain.adopt (wireString (member message "content_fingerprint")) }
  let (next, intents) := next.withGate (next.gate.onUnchanged (next.outside clock))
  (next, .unchanged intents)

def onResync (clock : ClockReadings) (s : PaneSurface) : PaneSurface × SurfaceResult :=
  s.resync clock .serverNudge

/-- `resize` — geometry only. -/
def resize (columns rows : Int) (s : PaneSurface) : PaneSurface :=
  if columns = s.columns ∧ rows = s.rows then s
  else
    let next := { s with columns := columns, rows := rows }
    if next.content.isSome then next.commit.1 else next

/-- `reset` — drops everything but the geometry and the revision counter. -/
def reset (s : PaneSurface) : PaneSurface :=
  { paneId := s.paneId, verifyContentHash := s.verifyContentHash, columns := s.columns,
    rows := s.rows, revision := s.revision }

section Hash

variable (fingerprintOf : Units → Units)

/-- `applyDelta` — chain check, metadata-only fast path, strict apply, re-hash, commit; or a forced
resync. An exception of the strict apply leaves the surface as it was. -/
def applyDelta (clock : ClockReadings) (message : JsonObject) (s : PaneSurface) :
    Except Exn (PaneSurface × SurfaceResult) :=
  let segments := member message "segments"
  match s.chain.evaluateDelta s.content.isSome (member message "base_fingerprint")
      (member message "content_fingerprint") segments with
  | .resyncRequired reason => .ok (s.resync clock reason)
  | .metadataOnly claimed => .ok (s.commitDelta message claimed (s.content.getD []))
  | .apply claimed =>
    match PaneDelta.applyStrict (s.content.getD []) segments with
    | .error e => .error e
    | .ok none => .ok (s.resync clock .applyRejected)
    | .ok (some nextContent) =>
      -- the claim is checked against what was spliced, not against the chain
      if s.verifyContentHash && !(fingerprintOf nextContent == claimed) then
        .ok (s.resync clock .hashMismatch)
      else .ok (s.commitDelta message claimed nextContent)

end Hash

end PaneSurface

/-! ## §4 — whole sessions -/

/-- What a surface is fed: messages of the relay, and calls of the session layer. -/
inductive SurfaceEvent where
  | content (message : JsonObject)
  | delta (message : JsonObject)
  | unchanged (message : JsonObject)
  | resync
  | watch
  | unwatch
  | requestRead
  | restartWatch
  | disconnect
  | sendFailed (intent : Intent)
  | resize (columns rows : Int)
  | reset

namespace PaneSurface

section Sessions

variable (fingerprintOf : Units → Units)

/-- The surface after an event; a delta that fails leaves it. -/
def handle (s : PaneSurface) (event : SurfaceEvent) (clock : ClockReadings) : PaneSurface :=
  match event with
  | .content message => (s.applyContent clock message).1
  | .delta message =>
    match s.applyDelta fingerprintOf clock message with
    | .ok (next, _) => next
    | .error _ => s
  | .unchanged message => (s.applyUnchanged clock message).1
  | .resync => (s.onResync clock).1
  | .watch => (s.withGate (s.gate.watch (s.outside clock))).1
  | .unwatch => (s.withGate s.gate.unwatch).1
  | .requestRead => (s.withGate (s.gate.requestRead (s.outside clock))).1
  | .restartWatch => (s.withGate (s.gate.restartWatch (s.outside clock))).1
  | .disconnect => { s with gate := s.gate.onDisconnect }
  | .sendFailed intent => { s with gate := s.gate.onSendFailed intent }
  | .resize columns rows => s.resize columns rows
  | .reset => s.reset

def play (s : PaneSurface) (events : List (SurfaceEvent × ClockReadings)) : PaneSurface :=
  events.foldl (fun s e => s.handle fingerprintOf e.1 e.2) s

/-- **Integrity**: a non-empty chain head is the fingerprint of what is displayed. -/
def Intact (s : PaneSurface) : Prop :=
  ∀ fp, s.chain.fingerprint = some fp → fp ≠ [] → s.content.map fingerprintOf = some fp

/-- **What an event must bring along to keep the integrity of the surface it meets.** A
`pane_content` with a fingerprint brings that of the text it will display; one without meets an
unset or empty chain, or one that already stands for that text. A `pane_unchanged` with a
fingerprint brings that of the displayed text. Nothing is asked of any other event. -/
def Fits (s : PaneSurface) : SurfaceEvent → Prop
  | .content message =>
    let shown := (wireString (member message "content")).getD emptyContent
    (∀ fp, wireString (member message "content_fingerprint") = some fp → fp ≠ [] →
      fingerprintOf shown = fp) ∧
    (isNullOrEmpty (wireString (member message "content_fingerprint")) = true →
      ∀ fp, s.chain.fingerprint = some fp → fp ≠ [] → fingerprintOf shown = fp)
  | .unchanged message =>
    ∀ fp, wireString (member message "content_fingerprint") = some fp → fp ≠ [] →
      s.content.map fingerprintOf = some fp
  | _ => True

variable {fingerprintOf} {s : PaneSurface}

/-- Integrity is about the chain and the content alone. -/
theorem intact_congr {s t : PaneSurface} (hchain : t.chain = s.chain)
    (hcontent : t.content = s.content) : Intact fingerprintOf t ↔ Intact fingerprintOf s := by
  rw [Intact, Intact, hchain, hcontent]

/-- What the chain holds after an adoption. -/
theorem adopt_eq_some_iff {chain : FingerprintChain} {wire : Option Units} {fp : Units}
    (hfp : fp ≠ []) : (chain.adopt wire).fingerprint = some fp ↔
      wire = some fp ∨ (isNullOrEmpty wire = true ∧ chain.fingerprint = some fp) := by
  cases wire with
  | none => simp [FingerprintChain.adopt, isNullOrEmpty]
  | some w =>
    cases w with
    | nil => simp [FingerprintChain.adopt, isNullOrEmpty, Ne.symm hfp]
    | cons u us => simp [FingerprintChain.adopt, isNullOrEmpty]

theorem intact_applyContent_iff (clock : ClockReadings) (message : JsonObject) :
    Intact fingerprintOf (s.applyContent clock message).1
      ↔ Fits fingerprintOf s (.content message) := by
  have hchain : (s.applyContent clock message).1.chain
      = s.chain.adopt (wireString (member message "content_fingerprint")) := rfl
  have hcontent : (s.applyContent clock message).1.content
      = some ((wireString (member message "content")).getD emptyContent) := rfl
  rw [Intact, hchain, hcontent]
  simp only [Option.map_some, Option.some.injEq, Fits]
  constructor
  · intro h
    exact ⟨fun fp hwire hfp => h fp ((adopt_eq_some_iff hfp).mpr (.inl hwire)) hfp,
      fun hnull fp hstored hfp => h fp ((adopt_eq_some_iff hfp).mpr (.inr ⟨hnull, hstored⟩)) hfp⟩
  · rintro ⟨hbrings, hmeets⟩ fp hadopt hfp
    rcases (adopt_eq_some_iff hfp).mp hadopt with hwire | ⟨hnull, hstored⟩
    · exact hbrings fp hwire hfp
    · exact hmeets hnull fp hstored hfp

theorem intact_applyUnchanged_iff (hs : Intact fingerprintOf s) (clock : ClockReadings)
    (message : JsonObject) :
    Intact fingerprintOf (s.applyUnchanged clock message).1
      ↔ Fits fingerprintOf s (.unchanged message) := by
  have hchain : (s.applyUnchanged clock message).1.chain
      = s.chain.adopt (wireString (member message "content_fingerprint")) := rfl
  have hcontent : (s.applyUnchanged clock message).1.content = s.content := rfl
  rw [Intact, hchain, hcontent]
  constructor
  · exact fun h fp hwire hfp => h fp ((adopt_eq_some_iff hfp).mpr (.inl hwire)) hfp
  · intro h fp hadopt hfp
    rcases (adopt_eq_some_iff hfp).mp hadopt with hwire | ⟨-, hstored⟩
    · exact h fp hwire hfp
    · exact hs fp hstored hfp

section

variable (hverify : s.verifyContentHash = true) (hs : Intact fingerprintOf s)
include hverify hs

/-- **A delta never breaks integrity**, whatever it says: what it installs was re-hashed, or was
there already under the same fingerprint. -/
theorem intact_applyDelta
    {clock : ClockReadings} {message : JsonObject} {next : PaneSurface} {result : SurfaceResult}
    (h : s.applyDelta fingerprintOf clock message = .ok (next, result)) :
    Intact fingerprintOf next := by
  simp only [applyDelta] at h
  split at h
  · cases h
    exact (intact_congr rfl rfl).mpr hs
  · -- metadata only: the claimed fingerprint is the stored one
    rename_i claimed hverdict
    cases h
    obtain ⟨hframe, hstored⟩ := FingerprintChain.evaluateDelta_metadataOnly hverdict
    obtain ⟨c, hc⟩ := Option.isSome_iff_exists.mp hframe
    rintro fp ⟨⟩ hfp
    have := hs claimed hstored hfp
    rw [hc] at this
    simpa [commitDelta, withGate, commit, hc] using this
  · split at h
    · cases h
    · cases h
      exact (intact_congr rfl rfl).mpr hs
    · split at h
      · cases h
        exact (intact_congr rfl rfl).mpr hs
      · -- applied: the content was re-hashed against the claim
        rename_i claimed _ _ nextContent _ hhash
        cases h
        rintro fp ⟨⟩ -
        simpa [hverify, commitDelta, withGate, commit] using hhash

theorem intact_handle_delta (clock : ClockReadings) (message : JsonObject) :
    Intact fingerprintOf (s.handle fingerprintOf (.delta message) clock) := by
  simp only [handle]
  split
  · rename_i next result h
    exact intact_applyDelta hverify hs h
  · exact hs

/-- **One event**: an intact surface stays intact exactly when the event fits it. -/
theorem intact_handle_iff (event : SurfaceEvent) (clock : ClockReadings) :
    Intact fingerprintOf (s.handle fingerprintOf event clock) ↔ Fits fingerprintOf s event := by
  cases event with
  | content message => exact intact_applyContent_iff clock message
  | delta message => exact iff_of_true (intact_handle_delta hverify hs clock message) trivial
  | unchanged message => exact intact_applyUnchanged_iff hs clock message
  | resize columns rows =>
    refine iff_of_true ((intact_congr ?_ ?_).mpr hs) trivial <;>
      simp only [handle, resize] <;> split
    all_goals first | rfl | (split <;> rfl)
  | reset => exact iff_of_true (fun fp h => by cases h) trivial
  | _ => exact iff_of_true ((intact_congr rfl rfl).mpr hs) trivial

end

/-- No event changes whether deltas are re-hashed. -/
theorem verifyContentHash_handle (event : SurfaceEvent) (clock : ClockReadings) :
    (s.handle fingerprintOf event clock).verifyContentHash = s.verifyContentHash := by
  cases event with
  | delta message =>
    simp only [handle, applyDelta]
    split
    · rename_i next result h
      split at h
      · cases h; rfl
      · cases h; rfl
      · split at h
        · cases h
        · cases h; rfl
        · split at h <;> cases h <;> rfl
    · rfl
  | resize columns rows =>
    simp only [handle, resize]
    split
    · rfl
    · split <;> rfl
  | _ => rfl

theorem play_append (s : PaneSurface) (xs ys : List (SurfaceEvent × ClockReadings)) :
    s.play fingerprintOf (xs ++ ys) = (s.play fingerprintOf xs).play fingerprintOf ys :=
  List.foldl_append

theorem verifyContentHash_play (s : PaneSurface) (events : List (SurfaceEvent × ClockReadings)) :
    (s.play fingerprintOf events).verifyContentHash = s.verifyContentHash := by
  induction events generalizing s with
  | nil => rfl
  | cons e events ih => exact (ih _).trans (verifyContentHash_handle e.1 e.2)

variable (fingerprintOf) in
/-- **Integrity over whole sessions.** Of a surface that re-hashes its deltas, as every surface of
the app does: after every event of a session the chain head, when not empty, is the fingerprint of
the displayed content, if and only if every event of the session fits the surface it meets. -/
theorem intact_play_iff (paneId : Units) (events : List (SurfaceEvent × ClockReadings)) :
    (∀ pre post, events = pre ++ post →
      Intact fingerprintOf (({ paneId := paneId } : PaneSurface).play fingerprintOf pre)) ↔
    (∀ pre e post, events = pre ++ e :: post →
      Fits fingerprintOf (({ paneId := paneId } : PaneSurface).play fingerprintOf pre) e.1) := by
  have hstep : ∀ pre (e : SurfaceEvent × ClockReadings),
      Intact fingerprintOf (({ paneId := paneId } : PaneSurface).play fingerprintOf pre) →
      (Intact fingerprintOf (({ paneId := paneId } : PaneSurface).play fingerprintOf (pre ++ [e]))
        ↔ Fits fingerprintOf (({ paneId := paneId } : PaneSurface).play fingerprintOf pre)
            e.1) := by
    intro pre e hpre
    rw [play_append]
    exact intact_handle_iff (verifyContentHash_play _ pre) hpre e.1 e.2
  constructor
  · rintro h pre e post rfl
    exact (hstep pre e (h pre _ rfl)).mp (h (pre ++ [e]) post (by simp))
  · intro h pre
    induction pre using List.reverseRecOn with
    | nil => rintro post - fp hfp; cases hfp
    | append_singleton pre e ih =>
      rintro post rfl
      exact (hstep pre e (ih (e :: post) (by simp))).mpr (h pre e post (by simp))

variable (fingerprintOf) in
/-- **What the relay sends**: a `pane_content` with the fingerprint of its content, or the death
notice, with neither; a `pane_unchanged` for the fingerprint the client has echoed. -/
def Emitted (s : PaneSurface) : SurfaceEvent → Prop
  | .content message =>
    (∃ text, wireString (member message "content") = some text ∧
      wireString (member message "content_fingerprint") = some (fingerprintOf text)) ∨
    (wireString (member message "content") = none ∧
      wireString (member message "content_fingerprint") = none)
  | .unchanged message =>
    ∀ fp, wireString (member message "content_fingerprint") = some fp →
      s.chain.fingerprint = some fp
  | _ => True

/-- **Of what the relay sends only the death notice may not fit**: it must not meet a chain that
stands for another text than `(empty)`. -/
theorem fits_iff_of_emitted (hs : Intact fingerprintOf s) (hhash : ∀ text, fingerprintOf text ≠ [])
    {event : SurfaceEvent} (h : Emitted fingerprintOf s event) :
    Fits fingerprintOf s event ↔ ∀ message, event = .content message →
      wireString (member message "content_fingerprint") = none →
      ∀ fp, s.chain.fingerprint = some fp → fp ≠ [] → fingerprintOf emptyContent = fp := by
  cases event with
  | content message =>
    rcases h with ⟨text, htext, hfp⟩ | ⟨htext, hfp⟩
    · simp [Fits, htext, hfp, isNullOrEmpty, hhash]
    · simp [Fits, htext, hfp, isNullOrEmpty]
  | unchanged message =>
    exact iff_of_true (fun fp hwire => hs fp (h fp hwire)) nofun
  | _ => exact iff_of_true trivial nofun

end Sessions

/-- SHA-256 prefixes of the two texts below, as code units. -/
def sampleFingerprint (text : Units) : Units :=
  if text = utf16 "a\nb\n".toList then
    utf16 "911169ddaaf146af".toList
  else if text = emptyContent then
    utf16 "d29a0939bcb51176".toList
  else []

/-- A frame and then the death notice, which has neither content nor fingerprint: the surface shows
`(empty)` under the fingerprint of the dead frame. -/
theorem death_notice_breaks_integrity :
    ¬ Intact sampleFingerprint (({ paneId := [112] } : PaneSurface).play sampleFingerprint
      [(.content [("content", .string (utf16 "a\nb\n".toList)),
          ("content_fingerprint", .string (sampleFingerprint (utf16 "a\nb\n".toList))),
          ("ack_required", .bool true)], ⟨0, 0⟩),
       (.content [("error", .string (utf16 ['p', 'a', 'n', 'e', '_', 'n', 'o', 't', '_', 'f',
          'o', 'u', 'n', 'd']))], ⟨1, 1⟩)]) := by
  intro h
  have := h (sampleFingerprint (utf16 "a\nb\n".toList)) (by decide) (by decide)
  revert this
  decide

end PaneSurface

end Lerdr.Terminal
