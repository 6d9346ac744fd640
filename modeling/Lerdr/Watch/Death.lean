/-
# Lerdr.Watch.Death — death notices and revivals.

`sendGone` marks the pane as announced before it knows whether the sink took the notice, and it does
not forget the frame that was shown before the death. So a refused notice silences every later
observation of the death, until a probe or a read finds the pane alive; and a pane that comes back
exactly as it was is taken for a repeat. These are the only two ways in which a death stays
unannounced or a revival unshown.
-/
import Lerdr.Watch.Recovery

namespace Lerdr.Watch

/-! ## §1 — what a run owes its client -/

/-- A death notice was accepted since the last accepted content frame. -/
def noticed (ts : List Turn) : Bool :=
  ts.foldl (fun known t => match t.push with
    | some (.notice _ true) => true
    | some (.content _ _ true) => false
    | _ => known) false

/-- A death notice was accepted, and no frame has been read since. -/
def revivalDue (ts : List Turn) : Bool :=
  ts.foldl (fun due t => match t.push, t.seen with
    | some (.notice _ true), _ => true
    | _, .frame _ => false
    | _, _ => due) false

/-- The turn saw a death its client was not told of, and pushed no notice. -/
def Turn.diesUnannounced (pre : List Turn) (t : Turn) : Bool :=
  match t.seen with
  | .gone _ => !noticed pre && !t.announces
  | _ => false

def Turn.pushesContent (t : Turn) : Bool :=
  match t.push with
  | some (.content ..) => true
  | _ => false

/-- The turn made the first read after an accepted notice, and pushed no content. -/
def Turn.revivesUnshown (pre : List Turn) (t : Turn) : Bool :=
  match t.seen with
  | .frame _ => revivalDue pre && !t.pushesContent
  | _ => false

/-- The turn saw a death its client was not told of, with the pane marked as announced and no
verified probe in the turn that cleared the mark. -/
def Turn.silenced (pre : List Turn) (t : Turn) : Bool :=
  match t.seen with
  | .gone probed => !noticed pre && (t.before.state.gone && !probed)
  | _ => false

/-- The turn made the first read after an accepted notice, and it repeats the last accepted
frame. -/
def Turn.repeatsShown (host : WatchHost) (spec : WatchSpec) (pre : List Turn) (t : Turn) : Bool :=
  match t.seen with
  | .frame f => revivalDue pre && repeats host spec (t.prepared t.before.state) f
  | _ => false

/-- The turn's notice, if it pushed one, was refused. -/
def Turn.noticeRefused (t : Turn) : Bool :=
  match t.push with
  | some (.notice _ a) => !a
  | _ => false

/-! ## §2 — one turn -/

section Turns

variable {host : WatchHost} {spec : WatchSpec}
variable {s : WatchState} {r : Served} {t : Turn} {l l' : Option Loop}

theorem sendGone_push (accepts probed : Bool) (s : WatchState) :
    (sendGone spec accepts probed s).push
      = if s.gone then none else some (.notice (goneFrame spec) accepts) := by
  rw [sendGone]
  split <;> rfl

theorem sendGone_seen (accepts probed : Bool) (s : WatchState) :
    (sendGone spec accepts probed s).seen = .gone probed := by
  rw [sendGone]
  split <;> rfl

theorem sendFrame_seen (now : Nat) (accepts : Bool) (s : WatchState) (f : WatchFrame) :
    (sendFrame host spec now accepts s f).seen = .frame f := by
  simp only [sendFrame]
  split_ifs <;> rfl

theorem sendFrame_gone (now : Nat) (accepts : Bool) (s : WatchState) (f : WatchFrame) :
    (sendFrame host spec now accepts s f).state.gone = s.gone := by
  simp only [sendFrame]
  split_ifs <;> rfl

theorem prepared_gone (t : Turn) (s : WatchState) : (t.prepared s).gone = s.gone := by
  obtain ⟨-, h⟩ | ⟨-, h | ⟨env, -, -, h⟩⟩ := prepared_cases t s <;>
    rw [h] <;> rfl

/-- Preparing never shuts the gate. -/
theorem prepared_pendingAck (h : s.pendingAck = false) (t : Turn) :
    (t.prepared s).pendingAck = false := by
  obtain ⟨-, hprep⟩ | ⟨-, hprep | ⟨env, hpending, -, -⟩⟩ := prepared_cases t s
  · rw [hprep]
    rfl
  · rw [hprep]
    exact h
  · rw [h] at hpending
    cases hpending

section

variable (h : Outcome host spec s r)
include h

/-- **A death is announced unless the pane is marked** and no probe of the turn cleared the mark. -/
theorem Outcome.announces_iff {probed : Bool} (hseen : r.seen = .gone probed) :
    (∃ m a, r.push = some (.notice m a)) ↔ (s.gone && !probed) = false := by
  cases h with
  | quiet _ _ hs => rcases hs with hs | hs <;> simp [hs] at hseen
  | resync _ _ _ hs => simp [hs] at hseen
  | gone s₀ accepts probed' _ hflag =>
    obtain rfl : probed' = probed := Seen.gone.inj ((sendGone_seen ..).symm.trans hseen)
    rw [sendGone_push, hflag]
    cases s.gone && !probed' <;> simp
  | frame s₀ now accepts f => cases (sendFrame_seen ..).symm.trans hseen

/-- **A frame is pushed through an open gate unless it is a repeat.** -/
theorem Outcome.shown_or_repeats
    {f : WatchFrame} (hseen : r.seen = .frame f) (hopen : s.pendingAck = false) :
    r.push = none ∧ repeats host spec s f = true ∨
      (∃ m a, r.push = some (.content f m a)) ∧ repeats host spec s f = false := by
  cases h with
  | quiet _ _ hs => rcases hs with hs | hs <;> simp [hs] at hseen
  | resync _ _ _ hs => simp [hs] at hseen
  | gone s₀ accepts probed => cases (sendGone_seen ..).symm.trans hseen
  | frame s₀ now accepts f' hquiet =>
    obtain rfl : f' = f := Seen.frame.inj ((sendFrame_seen ..).symm.trans hseen)
    rw [← repeats_of_quiet hquiet, sendFrame, if_neg (by simp [hquiet.pendingAck, hopen])]
    cases repeats host spec s₀ f' <;> simp

/-- An announced death opens the gate. -/
theorem Outcome.open_of_notice {m : Outbound} {a : Bool} (hpush : r.push = some (.notice m a)) :
    r.state.pendingAck = false := by
  cases h with
  | quiet _ hnone => simp [hnone] at hpush
  | resync _ _ hresync => simp [hresync] at hpush
  | gone s₀ accepts probed =>
    by_cases hmark : s₀.gone = true
    · simp [sendGone, hmark] at hpush
    · rw [sendGone, if_neg hmark]
      rfl
  | frame s₀ now accepts f =>
    simp only [sendFrame] at hpush
    split_ifs at hpush <;> simp at hpush

/-- A turn that reads no frame leaves an open gate open. -/
theorem Outcome.stays_open (hseen : ∀ f, r.seen ≠ .frame f) (hopen : s.pendingAck = false) :
    r.state.pendingAck = false := by
  cases h with
  | quiet hquiet => exact hquiet.pendingAck.trans hopen
  | resync _ hstate => rw [hstate, hopen]
  | gone s₀ accepts probed hquiet =>
    rw [sendGone]
    split
    · exact hquiet.pendingAck.trans hopen
    · rfl
  | frame s₀ now accepts f => exact absurd (sendFrame_seen ..) (hseen f)

/-- A turn that ends with the pane marked announced the death, or found it marked and pushed no
content. -/
theorem Outcome.of_gone (hgone : r.state.gone = true) :
    (∃ m a, r.push = some (.notice m a)) ∨
      s.gone = true ∧ ∀ f m a, r.push ≠ some (.content f m a) := by
  cases h with
  | quiet hquiet hnone => exact .inr ⟨hquiet.gone hgone, by simp [hnone]⟩
  | resync _ hstate hpush => exact .inr ⟨hstate ▸ hgone, by simp [hpush]⟩
  | gone s₀ accepts probed hquiet =>
    by_cases hmark : s₀.gone = true
    · exact .inr ⟨hquiet.gone hmark, fun f m a => sendGone_push_ne_content _ _ _ _ _ _ _⟩
    · exact .inl ⟨goneFrame spec, accepts, by rw [sendGone_push, if_neg hmark]⟩
  | frame s₀ now accepts f _ hflag =>
    rw [sendFrame_gone, hflag] at hgone
    cases hgone

end

theorem WatchStep.before_state (h : WatchStep host spec l t l') :
    t.before.state = stateOf l := by
  cases h <;> rfl

/-! ## §3 — runs -/

/-- **One step keeps the gate open while a revival is due**: only a read frame shuts it. -/
theorem revivalDue_step (due : Bool) (l : Option Loop) (t : Turn) (l' : Option Loop)
    (hs : due = true → (stateOf l).pendingAck = false) (h : WatchStep host spec l t l') :
    (match t.push, t.seen with
      | some (.notice _ true), _ => true
      | _, .frame _ => false
      | _, _ => due) = true → (stateOf l').pendingAck = false := by
  rcases h.outcome with hout | ⟨-, now, s₀, f, -, -, hknown, hserved⟩
  · split
    · next hpush => exact fun _ => hout.open_of_notice hpush
    · simp
    · next hframe =>
      exact fun hdue => hout.stays_open hframe (prepared_pendingAck (hs hdue) t)
  · -- the first pass read what the client said it has
    rw [firstFrame_known hknown] at hserved
    have hpush : t.push = _ := congrArg Served.push hserved
    have hseen : t.seen = _ := congrArg Served.seen hserved
    simp [hpush, hseen]

theorem open_of_revivalDue {ts : List Turn} {l : Option Loop}
    (h : Lib.Runs (WatchStep host spec) none ts l) (hdue : revivalDue ts = true) :
    (stateOf l).pendingAck = false := by
  have hinv := h.foldl_invariant (I := fun due l => due = true → (stateOf l).pendingAck = false)
    revivalDue_step (g := false) (by simp)
  exact hinv hdue

/-- **One step keeps a mark the client knows of**, unless the sink refuses the notice. -/
theorem marked_step (known : Bool) (l : Option Loop) (t : Turn) (l' : Option Loop)
    (hs : (stateOf l).gone = true → known = true) (haccepted : ¬ t.noticeRefused = true)
    (h : WatchStep host spec l t l') :
    (stateOf l').gone = true → (match t.push with
      | some (.notice _ true) => true
      | some (.content _ _ true) => false
      | _ => known) = true := by
  intro hgone
  rcases h.outcome with hout | ⟨-, now, s₀, f, -, hflag, hknown, hserved⟩
  · -- the mark was set by this turn's notice, or was there before and no content went out
    rcases hout.of_gone hgone with ⟨m, a, hpush⟩ | ⟨hmark, hnone⟩
    · have hpush' : t.push = some (.notice m a) := hpush
      have ha : a = true := by simpa [Turn.noticeRefused, hpush'] using haccepted
      rw [hpush', ha]
    · rw [prepared_gone] at hmark
      split
      · rfl
      · next hpush => exact absurd hpush (hnone _ _ _)
      · exact hs hmark
  · have hstate : stateOf l' = _ := congrArg Served.state hserved
    rw [hstate, firstFrame_known hknown] at hgone
    cases ha : now.accepts <;> simp [ha, hflag, WatchState.sent, WatchState.gate] at hgone

/-- While the sink takes every notice, a marked pane is one the client was told of. -/
theorem noticed_of_marked {ts : List Turn} {l : Option Loop}
    (h : Lib.Runs (WatchStep host spec) none ts l) (haccepted : ∀ t ∈ ts, ¬ t.noticeRefused = true)
    (hgone : (stateOf l).gone = true) : noticed ts = true := by
  have hinv := h.foldl_stays (I := fun known l => (stateOf l).gone = true → known = true)
    marked_step haccepted (g := false) (by simp [stateOf])
  exact hinv hgone

theorem diesUnannounced_eq {pre : List Turn}
    (h : WatchStep host spec l t l') : t.diesUnannounced pre = t.silenced pre := by
  rw [Turn.diesUnannounced, Turn.silenced, h.before_state]
  cases hseen : t.seen with
  | gone probed =>
    rcases h.outcome with hout | ⟨-, now, s₀, f, -, -, hknown, hserved⟩
    · have hiff := hout.announces_iff (show (t.served _).seen = _ from hseen)
      rw [prepared_gone] at hiff
      have hannounces : t.announces = !((stateOf l).gone && !probed) := by
        rw [Bool.eq_iff_iff, Bool.not_eq_true', ← hiff, Turn.announces]
        simp only [Turn.served]
        split
        · next m a hpush => exact ⟨fun _ => ⟨m, a, hpush⟩, fun _ => rfl⟩
        · next hpush =>
          refine iff_of_false Bool.false_ne_true ?_
          rintro ⟨m, a, h⟩
          exact hpush m a h
      rw [hannounces, Bool.not_not]
    · rw [firstFrame_known hknown] at hserved
      cases (congrArg Served.seen hserved).symm.trans hseen
  | _ => rfl

theorem revivesUnshown_eq {pre : List Turn}
    (hpre : Lib.Runs (WatchStep host spec) none pre l) (h : WatchStep host spec l t l') :
    t.revivesUnshown pre = t.repeatsShown host spec pre := by
  rw [Turn.revivesUnshown, Turn.repeatsShown, h.before_state]
  cases hseen : t.seen with
  | frame f =>
    cases hdue : revivalDue pre with
    | false => rfl
    | true =>
      have hopen := open_of_revivalDue hpre hdue
      rcases h.outcome with hout | ⟨rfl, -⟩
      · dsimp only
        rcases hout.shown_or_repeats hseen (prepared_pendingAck hopen t) with
          ⟨hpush, hrepeats⟩ | ⟨⟨m, a, hpush⟩, hrepeats⟩
        · rw [hrepeats, Turn.pushesContent, show t.push = none from hpush]
          rfl
        · rw [hrepeats, Turn.pushesContent, show t.push = some (.content f m a) from hpush]
          rfl
      · -- nothing was announced before the first pass
        obtain rfl := nil_of_runs_none hpre
        cases hdue
  | _ => rfl

end Turns

/-! ## §4 — announced deaths and shown revivals -/

/-- **When a death is announced and a revival shown**, at every turn of every run. A death the
client was not told of goes unannounced exactly when the pane is already marked; the first read
after an accepted notice is not pushed exactly when it repeats the frame last accepted. A run whose
sink took every notice so far has no death of the first kind. -/
theorem death_and_revival (host : WatchHost) (spec : WatchSpec) (opening : Opening)
    (inputs : List Input) :
    ∀ (pre post : List Turn) (t : Turn),
      watchLoop host spec opening inputs = pre ++ t :: post →
      (t.diesUnannounced pre = false ↔ t.silenced pre = false) ∧
      (t.revivesUnshown pre = false ↔ t.repeatsShown host spec pre = false) ∧
      ((∀ u ∈ pre, u.noticeRefused = false) → t.silenced pre = false) := by
  intro pre post t hsplit
  obtain ⟨last, hruns⟩ := watchLoop_runs host spec opening inputs
  rw [hsplit] at hruns
  obtain ⟨l, l', hpre, hstep, -⟩ := hruns.around
  refine ⟨by rw [diesUnannounced_eq hstep], by rw [revivesUnshown_eq hpre hstep], ?_⟩
  intro haccepted
  have hmark : t.before.state.gone = true → noticed pre = true := by
    rw [hstep.before_state]
    exact noticed_of_marked hpre fun u hu => by simp [haccepted u hu]
  rw [Turn.silenced]
  cases hseen : t.seen with
  | gone probed => cases hgone : t.before.state.gone <;> simp [hmark, hgone]
  | _ => rfl

/-- Polling a pane that Herdr does not know. -/
def pollOfDead : PollEnv :=
  { stream := { read := readOf firstScreen }
    probe :=
      { first := { result := .error (.refused "pane_not_found") }
        second := { result := .error (.refused "pane_not_found") } }
    read := readOf firstScreen }

/-- The pane dies after its first screen was acked; whether the sink takes the notice is given, and
`later` is what the next tick finds. -/
def deathRun (takesNotice : Bool) (later : PollEnv) : List Turn :=
  watchLoop sampleHost sampleSpec { now := {}, spawns := false, read := readOf firstScreen }
    [⟨{ woke := 100 }, .ack "911169ddaaf146af" { read := readOf firstScreen }⟩,
      ⟨{ woke := 250, accepts := takesNotice }, .tick pollOfDead⟩,
      ⟨{ woke := 500 }, .tick later⟩]

theorem deathRun_ne_nil (takesNotice : Bool) (later : PollEnv) : deathRun takesNotice later ≠ [] :=
  List.cons_ne_nil _ _

/-- A pane that comes back with another screen is shown. -/
theorem death_and_revival_second_screen :
    let run := deathRun true (pollOf secondScreen)
    let t := run.getLast (deathRun_ne_nil _ _)
    revivalDue run.dropLast = true ∧ t.revivesUnshown run.dropLast = false ∧
      t.pushesContent = true := by
  intro run t
  have h := death_and_revival sampleHost sampleSpec _ _ run.dropLast [] t
    (List.dropLast_append_getLast (deathRun_ne_nil _ _)).symm
  exact ⟨by decide +kernel, h.2.1.mpr (by decide +kernel), by decide +kernel⟩

/-- **A refused notice is not pushed again, and a pane that comes back as it was is not shown.** In
the first run the last tick finds the pane still dead; in the second it reads the screen that was
shown before the death. -/
theorem death_unannounced_and_revival_unshown :
    ((deathRun false pollOfDead).length = 4 ∧
      ((deathRun false pollOfDead).drop 3).all
        (·.diesUnannounced ((deathRun false pollOfDead).take 3)) = true) ∧
    (deathRun true (pollOf firstScreen)).length = 4 ∧
      ((deathRun true (pollOf firstScreen)).drop 3).all
        (·.revivesUnshown ((deathRun true (pollOf firstScreen)).take 3)) = true := by
  decide +kernel

end Lerdr.Watch
