/-
# Lerdr.Watch.Discipline — the ack gate of a watch, and the chain of frames behind it.

Three facts about whole runs. Once the sink has taken a content frame, no content is pushed until
its ack, the ack timeout, a resync or a death. Every delta is based on the last frame the sink took
(or, for the first frame, on what the client said it has), and splices onto that base to exactly the
frame it was made from. After a timeout or a resync, everything pushed is a full frame until the
sink takes one.

A copy-everything delta rests on two texts with one fingerprint being one text; the statement asks
for that at the pair of texts it is used at.
-/
import Lerdr.Core.DeltaTiling
import Lerdr.Watch.Turns

namespace Lerdr.Watch

open Lerdr.Core.Delta

/-! ## §1 — what turns push -/

/-- The frame of an accepted content push. -/
def Turn.acceptedContent (t : Turn) : Option WatchFrame :=
  match t.push with
  | some (.content frame _ true) => some frame
  | _ => none

/-- The turn pushed a death notice. -/
def Turn.announces (t : Turn) : Bool :=
  match t.push with
  | some (.notice ..) => true
  | _ => false

/-- The turn ends the wait for the ack of a frame. -/
def Turn.releases (host : WatchHost) (frame : WatchFrame) (t : Turn) : Bool :=
  t.restarts || t.announces ||
    match t.event with
    | some (.ack fingerprint _) => fingerprint == contentFingerprint host frame.content.text
    | _ => false

/-- The last content frame the sink accepted. -/
def lastAccepted (ts : List Turn) : Option WatchFrame :=
  ts.foldl (fun last t => t.acceptedContent.or last) none

/-- The two texts are told apart by their fingerprints. -/
def Distinguished (host : WatchHost) (a b : Text) : Prop :=
  contentFingerprint host a = contentFingerprint host b → a = b

/-! ## §2 — deltas splice -/

/-- Copying as many lines as there are copies everything. -/
theorem apply_copyEverything (content : RustString) :
    apply content.text (copyEverything content.text) = some content.text := by
  have hcount : (splitAfter content.text).length = content.text.count '\n' + 1 := by
    rw [splitAfter_eq_pieces, Lib.Pieces.length_pieces]
  have hle := content.length_le
  have hlines : min ((content.text.count '\n' : Int) + 1) i64Max
      = ((splitAfter content.text).length : Nat) := by
    rw [hcount] at hle ⊢
    push_cast at hle ⊢
    exact min_eq_left hle
  have hcopy := applyLoop_copy hle
    (show 0 < (splitAfter content.text).length by omega) (show 0 + _ ≤ _ by omega) [] []
  simp only [copyEverything, hlines]
  rw [apply]
  exact hcopy.trans (by simp [applyLoop])

/-- What a delta chosen by `sendFrame` is made of. -/
theorem chooseFrame_delta {host : WatchHost} {spec : WatchSpec} {s : WatchState} {f : WatchFrame}
    {d : PaneDelta} (h : chooseFrame host spec s f = .paneDelta d) :
    s.sentFingerprint ≠ "" ∧ d.baseFingerprint = s.sentFingerprint ∧
      d.contentFingerprint = contentFingerprint host f.content.text ∧
      (Distinguished host s.sentContent.text f.content.text →
        s.sentFingerprint = contentFingerprint host s.sentContent.text →
        apply s.sentContent.text d.segments = some f.content.text) := by
  simp only [chooseFrame] at h
  split_ifs at h with hfull hsame heff
  · cases h
  · have hsent : s.forceFull = false ∧ s.sentFingerprint ≠ "" := by simpa using hfull
    obtain rfl := Outbound.paneDelta.inj h
    refine ⟨hsent.2, rfl, rfl, ?_⟩
    intro hdist hsent
    have heq : s.sentContent.text = f.content.text := hdist (hsent.symm.trans hsame.symm)
    rw [heq]
    exact apply_copyEverything f.content
  · have hsent : s.forceFull = false ∧ s.sentFingerprint ≠ "" := by simpa using hfull
    obtain rfl := Outbound.paneDelta.inj h
    refine ⟨hsent.2, rfl, rfl, ?_⟩
    intro _ _
    exact splice_build s.sentContent f.content.text
  · cases h

/-! ## §3 — the chain -/

/-- The state remembers the last accepted frame. -/
def Chained (host : WatchHost) (last : Option WatchFrame) (s : WatchState) : Prop :=
  match last with
  | none => s.sentFingerprint = ""
  | some f => s.sentFingerprint = contentFingerprint host f.content.text ∧ s.sentContent = f.content

section Chain

variable {host : WatchHost} {spec : WatchSpec}
variable {f : WatchFrame} {t : Turn} {l l' : Option Loop} {ts : List Turn}

theorem Chained.of_eq {last : Option WatchFrame} {s s' : WatchState} (h : Chained host last s)
    (hfp : s'.sentFingerprint = s.sentFingerprint) (hcontent : s'.sentContent = s.sentContent) :
    Chained host last s' := by
  cases last with
  | none => exact hfp.trans h
  | some f => exact ⟨hfp.trans h.1, hcontent.trans h.2⟩

/-- Either the turn's content push was accepted, or none was. -/
theorem acceptedContent_eq_none_or (t : Turn) :
    t.acceptedContent = none ∨
      ∃ f m, t.push = some (.content f m true) ∧ t.acceptedContent = some f := by
  rw [Turn.acceptedContent]
  split
  · next f m h => exact .inr ⟨f, m, h, rfl⟩
  · exact .inl rfl

/-- A step without accepted content leaves the chain, and what is owed. -/
theorem WatchStep.kept {l l' : Option Loop} {t : Turn} (h : WatchStep host spec l t l')
    (ht : t.acceptedContent = none) :
    (stateOf l').sentFingerprint = (stateOf l).sentFingerprint ∧
      (stateOf l').sentContent = (stateOf l).sentContent ∧
      (stateOf l').forceFull = (t.prepared (stateOf l)).forceFull := by
  by_cases hcontent : ∃ f m a, t.push = some (.content f m a)
  · obtain ⟨f, m, a, hpush⟩ := hcontent
    obtain ⟨-, s₀, now, hquiet, hstate, -⟩ := h.content hpush
    cases a with
    | true => simp [Turn.acceptedContent, hpush] at ht
    | false =>
      rw [hstate, if_neg Bool.false_ne_true]
      exact ⟨hquiet.sentFingerprint.trans (prepared_sent t _).1,
        hquiet.sentContent.trans (prepared_sent t _).2, hquiet.forceFull⟩
  · simp only [not_exists] at hcontent
    obtain ⟨hfp, hcont, hfull, -⟩ := h.noContent hcontent
    exact ⟨hfp, hcont, hfull⟩

/-- **One step keeps the chain.** -/
theorem Chained.step (last : Option WatchFrame) (l : Option Loop) (t : Turn) (l' : Option Loop)
    (hs : Chained host last (stateOf l)) (h : WatchStep host spec l t l') :
    Chained host (t.acceptedContent.or last) (stateOf l') := by
  rcases acceptedContent_eq_none_or t with hnone | ⟨f, m, hpush, hsome⟩
  · obtain ⟨hfp, hcont, -⟩ := h.kept hnone
    rw [hnone, Option.none_or]
    exact hs.of_eq hfp hcont
  · obtain ⟨-, s₀, now, hquiet, hstate, -⟩ := h.content hpush
    rw [hsome, Option.some_or, hstate, if_pos rfl]
    exact ⟨rfl, rfl⟩

/-- In every run the state remembers the last accepted frame. -/
theorem chained_of_runs {l : Option Loop}
    (h : Lib.Runs (WatchStep host spec) none ts l) : Chained host (lastAccepted ts) (stateOf l) :=
  h.foldl_invariant (I := fun last l => Chained host last (stateOf l)) Chained.step rfl

/-! ## §4 — the gate -/

def InFlight (host : WatchHost) (f : WatchFrame) (s : WatchState) : Prop :=
  s.pendingAck = true ∧ s.sentFingerprint = contentFingerprint host f.content.text

theorem inFlight_of_accepted (h : WatchStep host spec l t l') (ht : t.acceptedContent = some f) :
    InFlight host f (stateOf l') := by
  rcases acceptedContent_eq_none_or t with hnone | ⟨f', m, hpush, hf'⟩
  · simp [hnone] at ht
  · obtain rfl : f' = f := by simpa [hf'] using ht
    obtain ⟨-, s₀, now, -, hstate, -⟩ := h.content hpush
    rw [hstate, if_pos rfl]
    exact ⟨rfl, rfl⟩

/-- A turn that does not release the frame looks at the pane with the gate still shut. -/
theorem InFlight.prepared {s : WatchState} (hs : InFlight host f s)
    (ht : t.releases host f = false) : (t.prepared s).pendingAck = true := by
  simp only [Turn.releases, Bool.or_eq_false_iff] at ht
  obtain ⟨hrestarts, -⟩ | ⟨-, hsame | ⟨env, -, hevent, -⟩⟩ := prepared_cases t s
  · rw [hrestarts] at ht
    simp at ht
  · rw [hsame]
    exact hs.1
  · -- an ack of anything but the frame in flight opens nothing
    rw [hevent, hs.2] at ht
    simp at ht

/-- **While a frame is in flight nothing else is pushed as content.** -/
theorem InFlight.noContent (hs : InFlight host f (stateOf l)) (ht : t.releases host f = false)
    (h : WatchStep host spec l t l') (f' : WatchFrame) (m : Outbound) (a : Bool) :
    t.push ≠ some (.content f' m a) := by
  intro hpush
  have hopen := (h.content hpush).1
  rw [hs.prepared ht] at hopen
  cases hopen

/-- A frame stays in flight until a turn releases it. -/
theorem InFlight.step (l : Option Loop) (t : Turn) (l' : Option Loop)
    (hs : InFlight host f (stateOf l)) (ht : ¬ t.releases host f = true)
    (h : WatchStep host spec l t l') : InFlight host f (stateOf l') := by
  have ht' : t.releases host f = false := by simpa using ht
  obtain ⟨hfp, -, -, hpending | ⟨m, a, hnotice⟩⟩ := h.noContent (hs.noContent ht' h)
  · exact ⟨hpending.trans (hs.prepared ht'), hfp.trans hs.2⟩
  · simp [Turn.releases, Turn.announces, hnotice] at ht

theorem InFlight.stays
    (h : Lib.Runs (WatchStep host spec) l ts l') (hts : ∀ t ∈ ts, t.releases host f = false)
    (hs : InFlight host f (stateOf l)) : InFlight host f (stateOf l') := by
  refine Lib.Runs.stays (P := fun l => InFlight host f (stateOf l)) InFlight.step h ?_ hs
  intro t ht
  simp [hts t ht]

/-! ## §5 — full frames after a restart -/

theorem prepared_forceFull {s : WatchState}
    (h : s.forceFull = true ∨ t.restarts = true) : (t.prepared s).forceFull = true := by
  obtain ⟨-, hprep⟩ | ⟨hrestarts, hprep⟩ := prepared_cases t s
  · rw [hprep]
    rfl
  · have hs : s.forceFull = true := by simpa [hrestarts] using h
    obtain hsame | ⟨env, -, -, hack⟩ := hprep
    · rw [hsame]
      exact hs
    · rw [hack]
      exact hs

theorem full_of_owed (h : WatchStep host spec l t l')
    (howed : (stateOf l).forceFull = true ∨ t.restarts = true) {m : Outbound}
    {a : Bool} (hpush : t.push = some (.content f m a)) : m = fullFrame host spec f := by
  obtain ⟨-, s₀, now, hquiet, -, hm | ⟨rfl, -, -⟩⟩ := h.content hpush
  · rw [hm, chooseFrame, if_pos]
    simp [hquiet.forceFull, prepared_forceFull howed]
  · -- before the first pass nothing is owed, and no arm has fired
    cases h with
    | first opening => simp [stateOf, Turn.restarts] at howed

/-- A full frame stays owed until the sink accepts content. -/
theorem owed_step (l : Option Loop) (t : Turn) (l' : Option Loop)
    (howed : (stateOf l).forceFull = true ∨ t.restarts = true)
    (ht : t.acceptedContent = none) (h : WatchStep host spec l t l') :
    (stateOf l').forceFull = true := by
  rw [(h.kept ht).2.2]
  exact prepared_forceFull howed

theorem owed_stays
    (h : Lib.Runs (WatchStep host spec) l ts l') (hts : ∀ t ∈ ts, t.acceptedContent = none)
    (hs : (stateOf l).forceFull = true) : (stateOf l').forceFull = true := by
  have hkeep : ∀ l t l', (stateOf l).forceFull = true → ¬ t.acceptedContent ≠ none →
      WatchStep host spec l t l' → (stateOf l').forceFull = true :=
    fun l t l' hl ht => owed_step l t l' (.inl hl) (not_not.mp ht)
  exact h.stays (P := fun l => (stateOf l).forceFull = true) hkeep
    (fun t ht => not_not.mpr (hts t ht)) hs

end Chain

/-! ## §6 — the discipline of a watch -/

/-- **The gate discipline of every watch.**

* Between an accepted content frame and the turn that releases it, no turn pushes content.
* A pushed delta names as its base the last accepted frame, or, when it is the very first push, what
  the client said it has; spliced onto that base it gives the frame it was made from.
* From a timeout or a resync on, a content push is a full `ack_required` frame until one is
  accepted. -/
theorem watch_gate_discipline (host : WatchHost) (spec : WatchSpec) (opening : Opening)
    (inputs : List Input) :
    (∀ (pre mid post : List Turn) (t t' : Turn) (f : WatchFrame),
      watchLoop host spec opening inputs = pre ++ t :: (mid ++ t' :: post) →
      t.acceptedContent = some f → (∀ u ∈ mid ++ [t'], u.releases host f = false) →
      ∀ f' m a, t'.push ≠ some (.content f' m a)) ∧
    (∀ (pre post : List Turn) (t : Turn) (f : WatchFrame) (d : PaneDelta) (a : Bool),
      watchLoop host spec opening inputs = pre ++ t :: post →
      t.push = some (.content f (.paneDelta d) a) →
      d.contentFingerprint = contentFingerprint host f.content.text ∧
      ((∃ base, lastAccepted pre = some base ∧
          d.baseFingerprint = contentFingerprint host base.content.text ∧
          (Distinguished host base.content.text f.content.text →
            apply base.content.text d.segments = some f.content.text)) ∨
        (pre = [] ∧ spec.knownFingerprint = some d.baseFingerprint ∧
          ∀ base : Text, contentFingerprint host base = d.baseFingerprint →
            Distinguished host base f.content.text →
            apply base d.segments = some f.content.text))) ∧
    (∀ (pre mid post : List Turn) (t t' : Turn) (f : WatchFrame) (m : Outbound) (a : Bool),
      watchLoop host spec opening inputs = pre ++ t :: (mid ++ t' :: post) →
      t.restarts = true → (∀ u ∈ t :: mid, u.acceptedContent = none) →
      t'.push = some (.content f m a) → m = fullFrame host spec f) ∧
    (∀ (pre post : List Turn) (t : Turn) (f : WatchFrame) (m : Outbound) (a : Bool),
      watchLoop host spec opening inputs = pre ++ t :: post →
      t.restarts = true → t.push = some (.content f m a) → m = fullFrame host spec f) := by
  obtain ⟨last, hruns⟩ := watchLoop_runs host spec opening inputs
  refine ⟨?_, ?_, ?_, ?_⟩
  · intro pre mid post t t' f hsplit ht hmid
    rw [hsplit] at hruns
    obtain ⟨l₀, l₁, l₂, l₃, -, hstep, hstretch, hstep', -⟩ := hruns.between
    have hflight := InFlight.stays hstretch (fun u hu => hmid u (List.mem_append_left _ hu))
      (inFlight_of_accepted hstep ht)
    exact hflight.noContent (hmid t' (by simp)) hstep'
  · intro pre post t f d a hsplit hpush
    rw [hsplit] at hruns
    obtain ⟨l₀, l₁, hpre, hstep, -⟩ := hruns.around
    have hchain := chained_of_runs hpre
    obtain ⟨-, s₀, now, hquiet, -, hm | ⟨rfl, hknown, hm⟩⟩ := hstep.content hpush
    · obtain ⟨hne, hbase, hfp, happly⟩ := chooseFrame_delta hm.symm
      have hsent := hquiet.sentFingerprint.trans (prepared_sent t _).1
      have hcont := hquiet.sentContent.trans (prepared_sent t _).2
      refine ⟨hfp, .inl ?_⟩
      cases hlast : lastAccepted pre with
      | none =>
        -- nothing was accepted, so there is no base to diff against
        rw [hlast] at hchain
        exact absurd (hsent.trans hchain) hne
      | some base =>
        rw [hlast] at hchain
        have hcontent : s₀.sentContent = base.content := hcont.trans hchain.2
        refine ⟨base, rfl, hbase.trans (hsent.trans hchain.1), fun hdist => ?_⟩
        rw [hcontent] at happly
        exact happly hdist (hsent.trans hchain.1)
    · obtain rfl := Outbound.paneDelta.inj hm
      refine ⟨rfl, .inr ⟨nil_of_runs_none hpre, hknown, fun base hbase hdist => ?_⟩⟩
      rw [hdist hbase]
      exact apply_copyEverything f.content
  · intro pre mid post t t' f m a hsplit ht hmid hpush
    rw [hsplit] at hruns
    obtain ⟨l₀, l₁, l₂, l₃, -, hstep, hstretch, hstep', -⟩ := hruns.between
    have howed := owed_stays hstretch (fun u hu => hmid u (List.mem_cons_of_mem _ hu))
      (owed_step l₀ t l₁ (.inr ht) (hmid t List.mem_cons_self) hstep)
    exact full_of_owed hstep' (.inl howed) hpush
  · intro pre post t f m a hsplit ht hpush
    rw [hsplit] at hruns
    obtain ⟨l₀, l₁, -, hstep, -⟩ := hruns.around
    exact full_of_owed hstep (.inr ht) hpush

end Lerdr.Watch
