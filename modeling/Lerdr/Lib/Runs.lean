/-
# Lib.Runs — finite runs of a labelled step relation, and the rules used to reason about them.

`Runs step s es t` says that `step` takes `s` to `t` along the events `es`. An invariant is proved
once, over one step (`Runs.invariant`); a fact about every event of a run follows from the state it
fired in (`Runs.forall_mem`); "once `e`, then `P` until a release" is `Runs.stays` over the stretch
between two events that `Runs.between` cuts out of a run.
-/
import Mathlib.Data.List.Basic

namespace Lib

variable {σ ε : Type*} {step : σ → ε → σ → Prop}

/-- Finite runs: the state before, the events in order, the state after. -/
inductive Runs (step : σ → ε → σ → Prop) : σ → List ε → σ → Prop
  | nil (s : σ) : Runs step s [] s
  | cons {s s' t : σ} {e : ε} {es : List ε} (first : step s e s') (rest : Runs step s' es t) :
      Runs step s (e :: es) t

namespace Runs

theorem nil_iff {s t : σ} : Runs step s [] t ↔ t = s := by
  constructor
  · rintro ⟨⟩
    rfl
  · rintro rfl
    exact .nil _

theorem cons_iff {s t : σ} {e : ε} {es : List ε} :
    Runs step s (e :: es) t ↔ ∃ s', step s e s' ∧ Runs step s' es t := by
  constructor
  · rintro (_ | ⟨hfirst, hrest⟩)
    exact ⟨_, hfirst, hrest⟩
  · rintro ⟨s', hfirst, hrest⟩
    exact .cons hfirst hrest

theorem append_iff {s t : σ} {xs ys : List ε} :
    Runs step s (xs ++ ys) t ↔ ∃ m, Runs step s xs m ∧ Runs step m ys t := by
  induction xs generalizing s with
  | nil => simp [nil_iff]
  | cons x xs ih =>
    simp only [List.cons_append, cons_iff, ih]
    constructor
    · rintro ⟨s', hx, m, hxs, hys⟩
      exact ⟨m, ⟨s', hx, hxs⟩, hys⟩
    · rintro ⟨m, ⟨s', hx, hxs⟩, hys⟩
      exact ⟨s', hx, m, hxs, hys⟩

/-- The states around one event of a run. -/
theorem around {s t : σ} {pre post : List ε} {e : ε} (h : Runs step s (pre ++ e :: post) t) :
    ∃ a b, Runs step s pre a ∧ step a e b ∧ Runs step b post t := by
  obtain ⟨a, hpre, hrest⟩ := append_iff.mp h
  obtain ⟨b, he, hpost⟩ := cons_iff.mp hrest
  exact ⟨a, b, hpre, he, hpost⟩

/-- The states around two events of a run, and the stretch between them. -/
theorem between {s t : σ} {pre mid post : List ε} {e e' : ε}
    (h : Runs step s (pre ++ e :: (mid ++ e' :: post)) t) :
    ∃ a b c d, Runs step s pre a ∧ step a e b ∧ Runs step b mid c ∧ step c e' d ∧
      Runs step d post t := by
  obtain ⟨a, b, hpre, he, hrest⟩ := around h
  obtain ⟨c, d, hmid, he', hpost⟩ := around hrest
  exact ⟨a, b, c, d, hpre, he, hmid, he', hpost⟩

/-- **What no event ends, unless it is a release, holds until the first release.** It may speak of a
summary of the events so far, kept up by `f`. -/
theorem foldl_stays {γ : Type*} {f : γ → ε → γ} {I : γ → σ → Prop} {release : ε → Prop}
    (hstep : ∀ g s e s', I g s → ¬ release e → step s e s' → I (f g e) s') {s t : σ} {es : List ε}
    (h : Runs step s es t) (hes : ∀ e ∈ es, ¬ release e) {g : γ} (hs : I g s) :
    I (es.foldl f g) t := by
  induction h generalizing g with
  | nil => exact hs
  | cons first rest ih =>
    exact ih (fun e he => hes e (List.mem_cons_of_mem _ he))
      (hstep _ _ _ _ hs (hes _ List.mem_cons_self) first)

/-- The same, of the state alone. -/
theorem stays {P : σ → Prop} {release : ε → Prop}
    (hstep : ∀ s e s', P s → ¬ release e → step s e s' → P s') {s t : σ} {es : List ε}
    (h : Runs step s es t) (hes : ∀ e ∈ es, ¬ release e) (hs : P s) : P t :=
  h.foldl_stays (f := fun (_ : Unit) _ => ()) (I := fun _ => P) (fun _ => hstep) hes (g := ()) hs

/-- **Invariants that relate the state to a summary of the events so far.** -/
theorem foldl_invariant {γ : Type*} {f : γ → ε → γ} {I : γ → σ → Prop}
    (hstep : ∀ g s e s', I g s → step s e s' → I (f g e) s') {s t : σ} {es : List ε}
    (h : Runs step s es t) {g : γ} (hs : I g s) : I (es.foldl f g) t := by
  have hkeep : ∀ g s e s', I g s → ¬ (fun _ => False) e → step s e s' → I (f g e) s' :=
    fun g s e s' hI _ => hstep g s e s' hI
  exact h.foldl_stays hkeep (fun _ _ => id) hs

theorem invariant {I : σ → Prop} (hstep : ∀ s e s', I s → step s e s' → I s') {s t : σ}
    {es : List ε} (h : Runs step s es t) (hs : I s) : I t := by
  have hkeep : ∀ s e s', I s → ¬ (fun _ => False) e → step s e s' → I s' :=
    fun s e s' hI _ => hstep s e s' hI
  exact h.stays hkeep (fun _ _ => id) hs

/-- What a step from an invariant state says about its event holds of every event of a run. -/
theorem forall_mem {I : σ → Prop} (hstep : ∀ s e s', I s → step s e s' → I s') {Q : ε → Prop}
    (hQ : ∀ s e s', I s → step s e s' → Q e) {s t : σ} {es : List ε} (h : Runs step s es t)
    (hs : I s) : ∀ e ∈ es, Q e := by
  induction h with
  | nil => intro e he; cases he
  | cons first rest ih =>
    intro e he
    rcases List.mem_cons.mp he with rfl | he
    · exact hQ _ _ _ hs first
    · exact ih (hstep _ _ _ hs first) e he

/-- Where each event leads to one state, so does each list of events. -/
theorem unique (hstep : ∀ s e a b, step s e a → step s e b → a = b) {s t t' : σ} {es : List ε}
    (h : Runs step s es t) (h' : Runs step s es t') : t = t' := by
  induction h with
  | nil => exact (nil_iff.mp h').symm
  | cons first rest ih =>
    obtain ⟨m, hfirst, hrest⟩ := cons_iff.mp h'
    obtain rfl := hstep _ _ _ _ first hfirst
    exact ih hrest

/-- A run is one of another relation that has the steps of its events. -/
theorem imp {step' : σ → ε → σ → Prop} {s t : σ} {es : List ε} (h : Runs step s es t)
    (hes : ∀ e ∈ es, ∀ s s', step s e s' → step' s e s') : Runs step' s es t := by
  induction h with
  | nil => exact .nil _
  | cons first rest ih =>
    exact .cons (hes _ List.mem_cons_self _ _ first)
      (ih fun e he => hes e (List.mem_cons_of_mem _ he))

/-- Runs of an executable step are what folding it computes. -/
theorem of_foldlM {f : σ → ε → Option σ} {s t : σ} {es : List ε} (h : es.foldlM f s = some t) :
    Runs (fun s e s' => f s e = some s') s es t := by
  induction es generalizing s with
  | nil =>
    obtain rfl : s = t := by simpa using h
    exact .nil _
  | cons e es ih =>
    rw [List.foldlM_cons] at h
    obtain ⟨s', hs', hrest⟩ := Option.bind_eq_some_iff.mp h
    exact .cons hs' (ih hrest)

/-- **A run that is computed**: by folding a function whose results are steps, with a test of the
state where it ends. -/
theorem of_any {f : σ → ε → Option σ} {s : σ} {es : List ε} {P : σ → Prop} [DecidablePred P]
    (hf : ∀ e ∈ es, ∀ s s', f s e = some s' → step s e s')
    (h : (es.foldlM f s).any (fun t => decide (P t)) = true) : ∃ t, Runs step s es t ∧ P t := by
  obtain ⟨t, ht, hP⟩ := Option.any_eq_true _ _ |>.mp h
  exact ⟨t, (of_foldlM ht).imp hf, of_decide_eq_true hP⟩

end Runs

end Lib
