/-
# Lerdr.Coord.Dispatch — whole runs of the question ledger.

Over the ownership of slots, what the requests hear: a channel attached to a slot waits while the
slot has no result, and then hears what the slot's flight reported. From both, for every run in
which no request of another token finds a slot unfinished, an answer is dispatched once. The run
that breaks the condition is at the end: a flight whose slot was thrown out by a request of the
pane's new token removes, by its drop, the slot of that request.
-/
import Lerdr.Coord.Flights

namespace Lerdr.Coord.Questions

open Lib

variable {ρ : Type*}

/-! ## §1 — every waiter hears from the flight it waits for -/

/-- **Service.** A channel waits at the slot it was attached to, while that slot has no result, or
has received what the slot's flight reported; it is closed only by a flight that ended without
storing a result. -/
structure Served (s : Questions ρ) : Prop where
  settled : ∀ e ∈ s.ledger, e.done → e.result ≠ none
  silent : ∀ e ∈ s.ledger, e.result = none → ∀ result, (e.owner, some result) ∉ s.reported
  waiting : ∀ e ∈ s.ledger, ∀ w ∈ e.waiters, e.result = none ∧ (w, e.owner) ∈ s.attached
  told : ∀ w x, (w, x) ∈ s.delivered → ∃ o, (w, o) ∈ s.attached ∧ (o, x) ∈ s.reported
  closed : ∀ w o, (w, none) ∈ s.delivered → (w, o) ∈ s.attached →
    (∀ result, (o, some result) ∉ s.reported) ∧ ∀ f ∈ s.flights, f.id ≠ o
  served : ∀ w o, (w, o) ∈ s.attached →
    (∃ e ∈ s.ledger, e.owner = o ∧ w ∈ e.waiters) ∨ ∃ x, (w, x) ∈ s.delivered
  heard : ∀ o x, (o, x) ∈ s.reported → o < s.nextFlight
  known : ∀ w o, (w, o) ∈ s.attached → o < s.nextFlight
  fresh : ∀ w o, (w, o) ∈ s.attached → w < s.nextWaiter
  once : (s.attached.map Prod.fst).Nodup

namespace Served

variable {s : Questions ρ} {f : Flight} {e : LedgerEntry ρ} {key : String}

theorem initial : (({} : Questions ρ)).Served where
  settled := fun _ he => nomatch he
  silent := fun _ he => nomatch he
  waiting := fun _ he => nomatch he
  told := fun _ _ h => nomatch h
  closed := fun _ _ h => nomatch h
  served := fun _ _ h => nomatch h
  heard := fun _ _ h => nomatch h
  known := fun _ _ h => nomatch h
  fresh := fun _ _ h => nomatch h
  once := List.nodup_nil

section

variable (h : s.Served)
include h

/-- A channel is attached to one flight's slot. -/
theorem attached_unique {w o o' : Nat} (ho : (w, o) ∈ s.attached)
    (ho' : (w, o') ∈ s.attached) : o = o' :=
  congrArg Prod.snd (List.inj_on_of_nodup_map h.once ho ho' rfl)

/-- Nobody waits at a finished slot. -/
theorem waiters_of_done (he : e ∈ s.ledger) (hdone : e.done) : e.waiters = [] := by
  refine List.eq_nil_iff_forall_not_mem.mpr fun w hw => ?_
  exact h.settled e he hdone (h.waiting e he w hw).1

/-- The slot without a result has its flight. -/
theorem armed (howned : s.Owned) (he : e ∈ s.ledger) (hnone : e.result = none) :
    ∃ f ∈ s.flights, f.id = e.owner ∧ f.key = e.key := by
  refine howned.live e he (Bool.eq_false_iff.mpr fun hdone => ?_)
  exact h.settled e he hdone hnone

/-- An armed flight announces its drop and is disarmed. -/
theorem announce (howned : s.Owned) (hf : f ∈ s.flights) :
    Served { s.disarm f with reported := s.reported ++ [(f.id, none)] } := by
  refine { h with silent := ?_, told := ?_, closed := ?_, heard := ?_ }
  · intro e he hnone result hmem
    rcases List.mem_append.mp hmem with hmem | hmem
    · exact h.silent e he hnone result hmem
    · cases (Prod.mk.inj (List.mem_singleton.mp hmem)).2
  · intro w x hx
    obtain ⟨o, ho, hreported⟩ := h.told w x hx
    exact ⟨o, ho, List.mem_append_left _ hreported⟩
  · intro w o hw ho
    obtain ⟨hsilent, hgone⟩ := h.closed w o hw ho
    refine ⟨fun result hmem => ?_, fun g hg => hgone g (List.mem_filter.mp hg).1⟩
    rcases List.mem_append.mp hmem with hmem | hmem
    · exact hsilent result hmem
    · cases (Prod.mk.inj (List.mem_singleton.mp hmem)).2
  · intro o x hx
    rcases List.mem_append.mp hx with hx | hx
    · exact h.heard o x hx
    · rw [(Prod.mk.inj (List.mem_singleton.mp hx)).1]
      exact howned.fresh f hf

/-- Slots may go when whoever waits at them has a flight that announced its drop. -/
theorem discard {gone : LedgerEntry ρ → Bool} (hgone : ∀ e ∈ s.ledger, gone e → e.waiters = [] ∨
      ((e.owner, none) ∈ s.reported ∧ ∀ f ∈ s.flights, f.id ≠ e.owner)) :
    (s.discard gone).Served := by
  -- a channel that is closed here waited at a slot that goes
  have hclosed : ∀ w x, (w, x) ∈ ((s.ledger.filter gone).flatMap fun e =>
      e.waiters.map fun w => (w, (none : Option ρ))) → x = none ∧ ∃ e ∈ s.ledger, w ∈ e.waiters ∧
        (e.owner, none) ∈ s.reported ∧ ∀ f ∈ s.flights, f.id ≠ e.owner := by
    intro w x hx
    obtain ⟨e, he, hw⟩ := List.mem_flatMap.mp hx
    obtain ⟨he, hgoneE⟩ := List.mem_filter.mp he
    obtain ⟨w', hwaits, heq⟩ := List.mem_map.mp hw
    obtain ⟨rfl, rfl⟩ := Prod.mk.inj heq
    refine ⟨rfl, e, he, hwaits, (hgone e he hgoneE).resolve_left fun hnil => ?_⟩
    rw [hnil] at hwaits
    cases hwaits
  refine { h with
    settled := fun e he => h.settled e (mem_discard.mp he).1
    silent := fun e he => h.silent e (mem_discard.mp he).1
    waiting := fun e he => h.waiting e (mem_discard.mp he).1
    told := ?_, closed := ?_, served := ?_ }
  · intro w x hx
    rcases List.mem_append.mp hx with hx | hx
    · exact h.told w x hx
    · obtain ⟨rfl, e, he, hw, hreported, -⟩ := hclosed w x hx
      exact ⟨e.owner, (h.waiting e he w hw).2, hreported⟩
  · intro w o hw ho
    rcases List.mem_append.mp hw with hw | hw
    · exact h.closed w o hw ho
    · obtain ⟨-, e, he, hwaits, -, hdropped⟩ := hclosed w none hw
      obtain ⟨hnone, hattached⟩ := h.waiting e he w hwaits
      rw [h.attached_unique ho hattached]
      exact ⟨h.silent e he hnone, hdropped⟩
  · intro w o ho
    rcases h.served w o ho with ⟨e, he, howner, hw⟩ | ⟨x, hx⟩
    · cases hg : gone e with
      | false => exact .inl ⟨e, mem_discard.mpr ⟨he, hg⟩, howner, hw⟩
      | true =>
        refine .inr ⟨none, List.mem_append_right _ (List.mem_flatMap.mpr ?_)⟩
        exact ⟨e, List.mem_filter.mpr ⟨he, hg⟩, List.mem_map_of_mem hw⟩
    · exact .inr ⟨x, List.mem_append_left _ hx⟩

theorem discard_done {gone : LedgerEntry ρ → Bool}
    (hgone : ∀ e ∈ s.ledger, gone e → e.done) : (s.discard gone).Served :=
  h.discard fun e he hg => .inl (h.waiters_of_done he (hgone e he hg))

theorem remove_done (hdone : ∀ e ∈ s.ledger, e.key = key → e.done) :
    (s.remove key).Served :=
  h.discard_done fun e he hkey => hdone e he (of_decide_eq_true hkey)

theorem prune (howned : s.Owned) (now : Nat) : (s.prune now).Served := by
  have hboth : (s.prune now).Owned ∧ (s.prune now).Served :=
    prune_induct (P := fun s => s.Owned ∧ s.Served)
      (fun _ _ h hgone => ⟨h.1.discard hgone, h.2.discard_done hgone⟩)
      (fun _ h => h.1.keys) ⟨howned, h⟩ now
  exact hboth.2

/-- A new channel waits at a slot without a result. -/
theorem attach (howned : s.Owned) (he : e ∈ s.ledger) (hnone : e.result = none) :
    (s.attach e).Served := by
  -- the new channel is not an old one
  have hnew : ∀ x, (s.nextWaiter, x) ∉ s.delivered := by
    intro x hx
    obtain ⟨o, ho, -⟩ := h.told _ x hx
    exact absurd (h.fresh _ o ho) (lt_irrefl _)
  have hattached : ∀ w o, (w, o) ∈ (s.attach e).attached ↔
      (w, o) ∈ s.attached ∨ (w = s.nextWaiter ∧ o = e.owner) := by
    intro w o
    simp [Questions.attach]
  refine { h with settled := ?_, silent := ?_, waiting := ?_, told := ?_, closed := ?_,
                  served := ?_, known := ?_, fresh := ?_, once := ?_ }
  · intro e' he' hdone
    rcases mem_modify.mp he' with ⟨he', -⟩ | ⟨x, hx, -, rfl⟩
    · exact h.settled e' he' hdone
    · exact h.settled x hx hdone
  · intro e' he' hnone'
    rcases mem_modify.mp he' with ⟨he', -⟩ | ⟨x, hx, -, rfl⟩
    · exact h.silent e' he' hnone'
    · exact h.silent x hx hnone'
  · intro e' he' w hw
    rcases mem_modify.mp he' with ⟨he', -⟩ | ⟨x, hx, hkey, rfl⟩
    · obtain ⟨hresult, hmem⟩ := h.waiting e' he' w hw
      exact ⟨hresult, (hattached _ _).mpr (.inl hmem)⟩
    · obtain rfl := howned.slot_unique hx he hkey
      refine ⟨hnone, (hattached _ _).mpr ?_⟩
      rcases List.mem_append.mp hw with hw | hw
      · exact .inl (h.waiting x hx w hw).2
      · exact .inr ⟨List.mem_singleton.mp hw, rfl⟩
  · intro w x hx
    obtain ⟨o, ho, hreported⟩ := h.told w x hx
    exact ⟨o, (hattached _ _).mpr (.inl ho), hreported⟩
  · intro w o hw ho
    rcases (hattached w o).mp ho with ho | ⟨rfl, -⟩
    · exact h.closed w o hw ho
    · exact absurd hw (hnew none)
  · intro w o ho
    rcases (hattached w o).mp ho with ho | ⟨rfl, rfl⟩
    · rcases h.served w o ho with ⟨e', he', howner, hw⟩ | hdelivered
      · by_cases hkey : e'.key = e.key
        · exact .inl ⟨_, mem_modify.mpr (.inr ⟨e', he', hkey, rfl⟩), howner,
            List.mem_append_left _ hw⟩
        · exact .inl ⟨e', mem_modify.mpr (.inl ⟨he', hkey⟩), howner, hw⟩
      · exact .inr hdelivered
    · exact .inl ⟨_, mem_modify.mpr (.inr ⟨e, he, rfl, rfl⟩), rfl,
        List.mem_append_right _ (List.mem_singleton_self _)⟩
  · intro w o ho
    rcases (hattached w o).mp ho with ho | ⟨-, rfl⟩
    · exact h.known w o ho
    · obtain ⟨flight, hflight, hid, -⟩ := h.armed howned he hnone
      exact hid ▸ howned.fresh flight hflight
  · intro w o ho
    rcases (hattached w o).mp ho with ho | ⟨rfl, -⟩
    · exact Nat.lt_succ_of_lt (h.fresh w o ho)
    · exact Nat.lt_succ_self _
  · simp only [Questions.attach, List.map_append, List.map_cons, List.map_nil]
    refine List.nodup_append.mpr ⟨h.once, List.nodup_singleton _, ?_⟩
    rintro _ hmem _ hlast rfl
    obtain ⟨⟨w, o⟩, ho, hw⟩ := List.mem_map.mp hmem
    have hlt := h.fresh w o ho
    rw [show w = s.nextWaiter from hw.trans (List.mem_singleton.mp hlast)] at hlt
    exact absurd hlt (lt_irrefl _)

/-- A new slot has heard nothing yet, and nothing of an older flight concerns it. -/
theorem insert (now : Nat) (key hash : String) (token : PaneToken) :
    (s.insert now key hash token).2.Served := by
  refine { h with
    settled := ?_, silent := ?_, waiting := ?_, closed := ?_, served := ?_
    heard := fun o x hx => Nat.lt_succ_of_lt (h.heard o x hx)
    known := fun w o ho => Nat.lt_succ_of_lt (h.known w o ho) }
  · intro e he hdone
    rcases List.mem_append.mp he with he | he
    · exact h.settled e he hdone
    · rw [List.mem_singleton.mp he] at hdone
      cases hdone
  · intro e he hnone result hmem
    rcases List.mem_append.mp he with he | he
    · exact h.silent e he hnone result hmem
    · rw [List.mem_singleton.mp he] at hmem
      exact absurd (h.heard _ _ hmem) (lt_irrefl _)
  · intro e he w hw
    rcases List.mem_append.mp he with he | he
    · exact h.waiting e he w hw
    · rw [List.mem_singleton.mp he] at hw
      cases hw
  · intro w o hw ho
    obtain ⟨hsilent, hgone⟩ := h.closed w o hw ho
    refine ⟨hsilent, fun f hf => ?_⟩
    rcases List.mem_append.mp hf with hf | hf
    · exact hgone f hf
    · rw [List.mem_singleton.mp hf]
      exact (h.known w o ho).ne'
  · intro w o ho
    rcases h.served w o ho with ⟨e, he, hfacts⟩ | hdelivered
    · exact .inl ⟨e, List.mem_append_left _ he, hfacts⟩
    · exact .inr hdelivered

/-- An armed flight stores in its own slot: who waited there hears it. -/
theorem store (howned : s.Owned) (hf : f ∈ s.flights) (he : e ∈ s.ledger)
    (hkey : e.key = f.key) (howner : e.owner = f.id) (result : ρ) (last : Bool) :
    (s.store f e result last).Served := by
  have hreported : ∀ o x, (o, x) ∈ (s.store f e result last).reported ↔
      (o, x) ∈ s.reported ∨ (o = f.id ∧ x = some result) := by
    intro o x
    simp [Questions.store]
  refine { h with settled := ?_, silent := ?_, waiting := ?_, told := ?_, closed := ?_,
                  served := ?_, heard := ?_ }
  · intro e' he' hdone
    rcases mem_modify.mp he' with ⟨he', -⟩ | ⟨x, -, -, rfl⟩
    · exact h.settled e' he' hdone
    · exact Option.some_ne_none _
  · intro e' he' hnone result' hmem
    rcases mem_modify.mp he' with ⟨he', hne⟩ | ⟨x, -, -, rfl⟩
    · rcases (hreported _ _).mp hmem with hmem | ⟨hid, -⟩
      · exact h.silent e' he' hnone result' hmem
      -- another open slot has another flight
      · obtain ⟨g, hg, hgid, hgkey⟩ := h.armed howned he' hnone
        have hsame : g = f := List.inj_on_of_nodup_map howned.ids hg hf (hgid.trans hid)
        exact hne (hgkey.symm.trans ((congrArg Flight.key hsame).trans hkey.symm))
    · cases hnone
  · intro e' he' w hw
    rcases mem_modify.mp he' with ⟨he', -⟩ | ⟨x, -, -, rfl⟩
    · exact h.waiting e' he' w hw
    · cases hw
  · intro w x hx
    rcases List.mem_append.mp hx with hx | hx
    · obtain ⟨o, ho, hmem⟩ := h.told w x hx
      exact ⟨o, ho, (hreported o x).mpr (.inl hmem)⟩
    · obtain ⟨w', hwaits, heq⟩ := List.mem_map.mp hx
      obtain ⟨rfl, rfl⟩ := Prod.mk.inj heq
      exact ⟨e.owner, (h.waiting e he w' hwaits).2, (hreported _ _).mpr (.inr ⟨howner, rfl⟩)⟩
  · intro w o hw ho
    rcases List.mem_append.mp hw with hw | hw
    · obtain ⟨hsilent, hgone⟩ := h.closed w o hw ho
      refine ⟨fun result' hmem => ?_, hgone⟩
      rcases (hreported _ _).mp hmem with hmem | ⟨rfl, -⟩
      · exact hsilent result' hmem
      · exact hgone f hf rfl
    · obtain ⟨w', -, heq⟩ := List.mem_map.mp hw
      cases (Prod.mk.inj heq).2
  · intro w o ho
    rcases h.served w o ho with ⟨e', he', howner', hw⟩ | ⟨x, hx⟩
    · by_cases hkey' : e'.key = e.key
      · rw [howned.slot_unique he' he hkey'] at hw
        exact .inr ⟨some result, List.mem_append_right _ (List.mem_map_of_mem hw)⟩
      · exact .inl ⟨e', mem_modify.mpr (.inl ⟨he', hkey'⟩), howner', hw⟩
    · exact .inr ⟨x, List.mem_append_left _ hx⟩
  · intro o x hx
    rcases (hreported o x).mp hx with hx | ⟨rfl, -⟩
    · exact h.heard o x hx
    · exact howned.fresh f hf

theorem disarm (f : Flight) : (s.disarm f).Served := by
  refine { h with closed := ?_ }
  intro w o hw ho
  obtain ⟨hsilent, hgone⟩ := h.closed w o hw ho
  exact ⟨hsilent, fun g hg => hgone g (List.mem_filter.mp hg).1⟩

end

end Served

/-! ## §2 — whole runs -/

section Run

variable {s s' : Questions ρ} {event : QuestionEvent ρ} {now : Nat} {key hash : String}
  {token : PaneToken}

/-- Pruning leaves an unfinished slot or one that was there. -/
theorem mem_of_mem_prune (h : s.Owned) {e : LedgerEntry ρ} (he : e ∈ (s.prune now).ledger) :
    e ∈ s.ledger := by
  have hsub : (s.prune now).Owned ∧ ∀ e ∈ (s.prune now).ledger, e ∈ s.ledger :=
    prune_induct (P := fun t => t.Owned ∧ ∀ e ∈ t.ledger, e ∈ s.ledger)
      (fun _ _ h hgone => ⟨h.1.discard hgone, fun e he => h.2 e (mem_discard.mp he).1⟩)
      (fun _ h => h.1.keys) ⟨h, fun _ => id⟩ now
  exact hsub.2 e he

/-- Both calls of a request start alike; this is what each of their ends keeps. -/
theorem request_induct {P : Questions ρ → Prop}
    (hmeets : ∀ e ∈ s.ledger, e.key = key → e.token ≠ token → e.done) (hs : s.Owned ∧ s.Served)
    (hkeep : ∀ t : Questions ρ, t.Owned → t.Served → P t)
    (hinsert : ∀ t : Questions ρ, t.Owned → t.Served → (∀ e ∈ t.ledger, e.key ≠ key) →
      P (t.insert now key hash token).2) :
    P (s.replay now key hash token).2 ∧ P (s.schedule now key hash token).2 := by
  have howned := hs.1.prune now
  have hserved := hs.2.prune hs.1 now
  have hslots : ∀ e ∈ (s.prune now).ledger, e ∈ s.ledger := fun _ => mem_of_mem_prune hs.1
  unfold replay schedule
  generalize s.prune now = t at howned hserved hslots ⊢
  simp only
  cases hentry : t.entry key with
  | none =>
    have hfree : ∀ e ∈ t.ledger, e.key ≠ key := by
      intro e he hkey
      exact Keyed.lookup_eq_none_iff.mp hentry (hkey ▸ List.mem_map_of_mem he)
    exact ⟨hkeep _ howned hserved, hinsert _ howned hserved hfree⟩
  | some e =>
    obtain ⟨he, hkey⟩ := mem_of_entry hentry
    simp only
    by_cases htoken : e.token = token
    · rw [if_neg (not_not.mpr htoken), if_neg (not_not.mpr htoken)]
      by_cases hhash : e.payloadHash = hash
      · rw [if_neg (not_not.mpr hhash), if_neg (not_not.mpr hhash)]
        cases hresult : e.result with
        | some result => exact ⟨hkeep _ howned hserved, hkeep _ howned hserved⟩
        | none =>
          have hattach := hkeep _ (howned.attach e) (hserved.attach howned he hresult)
          exact ⟨hattach, hattach⟩
      · rw [if_pos hhash, if_pos hhash]
        exact ⟨hkeep _ howned hserved, hkeep _ howned hserved⟩
    · rw [if_pos htoken, if_pos htoken]
      -- the slot of another token is finished, so its flight is gone
      have hdone : ∀ e' ∈ t.ledger, e'.key = key → e'.done := by
        intro e' he' hkey'
        rw [howned.slot_unique he' he (hkey'.trans hkey.symm)]
        exact hmeets e (hslots e he) hkey htoken
      have hfree : ∀ e' ∈ (t.remove key).ledger, e'.key ≠ key :=
        fun e' he' => of_decide_eq_false (mem_discard.mp he').2
      exact ⟨hkeep _ (howned.remove hdone) (hserved.remove_done hdone),
        hinsert _ (howned.remove hdone) (hserved.remove_done hdone) hfree⟩

theorem mem_of_any {f : Flight} (h : s.flights.any (· = f) = true) : f ∈ s.flights := by
  simpa using h

/-- **One step keeps both invariants.** -/
theorem Step.sound (h : s.Step event s') (hs : s.Owned ∧ s.Served) : s'.Owned ∧ s'.Served := by
  obtain ⟨hmeets, hstep⟩ := h
  cases event with
  | replay now key hash token =>
    obtain rfl := Option.some.inj hstep
    exact (request_induct (P := fun t => t.Owned ∧ t.Served) hmeets hs (fun _ => And.intro)
      fun t ho hv hfree => ⟨ho.insert hfree _ _ _, hv.insert _ _ _ _⟩).1
  | schedule now key hash token =>
    obtain rfl := Option.some.inj hstep
    exact (request_induct (P := fun t => t.Owned ∧ t.Served) hmeets hs (fun _ => And.intro)
      fun t ho hv hfree => ⟨ho.insert hfree _ _ _, hv.insert _ _ _ _⟩).2
  | markAccepted f result =>
    obtain ⟨harmed, hnext⟩ := Option.ite_none_right_eq_some.mp hstep
    have hf := mem_of_any harmed
    obtain rfl := Option.some.inj hnext
    obtain ⟨e, he, hkey, howner, heq⟩ := hs.1.markAccepted_eq hf result
    refine ⟨hs.1.markAccepted hf result, ?_⟩
    rw [heq]
    exact hs.2.store hs.1 hf he hkey howner result false
  | finish f result =>
    obtain ⟨harmed, hnext⟩ := Option.ite_none_right_eq_some.mp hstep
    have hf := mem_of_any harmed
    obtain rfl := Option.some.inj hnext
    obtain ⟨e, he, hkey, howner, heq⟩ := hs.1.finish_eq hf result
    refine ⟨hs.1.finish hf result, ?_⟩
    rw [heq]
    -- which flights are armed plays no part in the service, so the flight is disarmed afterwards
    exact (hs.2.store hs.1 hf he hkey howner result true).disarm f
  | drop f =>
    obtain ⟨harmed, hnext⟩ := Option.ite_none_right_eq_some.mp hstep
    have hf := mem_of_any harmed
    obtain rfl := Option.some.inj hnext
    refine ⟨hs.1.drop hf, ?_⟩
    refine (hs.2.announce hs.1 hf).discard fun e he hkey => .inr ?_
    rw [(hs.1.slot_of hf he (of_decide_eq_true hkey)).1]
    refine ⟨List.mem_append_right _ (List.mem_singleton_self _), fun g hg hid => ?_⟩
    obtain ⟨hg, hne⟩ := List.mem_filter.mp hg
    exact of_decide_eq_true hne (List.inj_on_of_nodup_map hs.1.ids hg hf hid)

theorem sound_of_runs {events : List (QuestionEvent ρ)} (h : Runs Step {} events s) :
    s.Owned ∧ s.Served :=
  h.invariant (fun _ _ _ hs hstep => hstep.sound hs) ⟨Owned.initial, Served.initial⟩

/-- **An answer is dispatched once.** In every run in which no request of another token finds a
slot unfinished: one flight at most is armed for a key and token, a flight's calls leave the slots
of the others as they are, a request of the slot's token is refused, replays or waits, and whoever
waits hears a result its flight stored, or a closed channel if the flight stored none. -/
theorem answers_dispatched_once {events : List (QuestionEvent ρ)} (h : Runs Step {} events s) :
    (∀ key token, (s.flights.filter fun f => f.key = key ∧ f.token = token).length ≤ 1) ∧
    (∀ f ∈ s.flights, ∀ e ∈ s.ledger, e.owner ≠ f.id → ∀ result,
      e ∈ (s.markAccepted f result).ledger ∧ e ∈ (s.finish f result).2.ledger ∧
      e ∈ (s.drop f).ledger) ∧
    (∀ now key hash token e, (s.prune now).entry key = some e → e.token = token →
      (e.payloadHash ≠ hash →
        s.replay now key hash token = (.conflict, s.prune now) ∧
        s.schedule now key hash token = (.conflict, s.prune now)) ∧
      (e.payloadHash = hash → ∀ result, e.result = some result →
        s.replay now key hash token = (.replay result, s.prune now) ∧
        s.schedule now key hash token = (.replay result, s.prune now)) ∧
      (e.payloadHash = hash → e.result = none →
        s.replay now key hash token
          = (.attach (s.prune now).nextWaiter, (s.prune now).attach e) ∧
        s.schedule now key hash token
          = (.attach (s.prune now).nextWaiter, (s.prune now).attach e))) ∧
    (∀ w o, (w, o) ∈ s.attached →
      ((∃ e ∈ s.ledger, e.owner = o ∧ w ∈ e.waiters ∧ e.result = none ∧
          ∃ f ∈ s.flights, f.id = o ∧ f.key = e.key) ∨ ∃ x, (w, x) ∈ s.delivered) ∧
      (∀ x, (w, x) ∈ s.delivered → (o, x) ∈ s.reported) ∧
      ((w, none) ∈ s.delivered → ∀ result, (o, some result) ∉ s.reported)) := by
  obtain ⟨howned, hserved⟩ := sound_of_runs h
  refine ⟨howned.flights_le_one, ?_, ?_, ?_⟩
  · exact fun f hf e he hother result => howned.others_stay hf he hother result
  · -- a request of the slot's own token never dispatches
    intro now key hash token e hentry htoken
    unfold replay schedule
    simp only [hentry, htoken, ne_eq, not_true_eq_false, if_false]
    refine ⟨fun hhash => ?_, fun hhash result hresult => ?_, fun hhash hresult => ?_⟩
    · simp only [hhash, not_false_eq_true, if_true, and_self]
    · simp only [hhash, not_true_eq_false, if_false, hresult, and_self]
    · simp only [hhash, not_true_eq_false, if_false, hresult, and_self]
  · intro w o ho
    refine ⟨?_, ?_, fun hnone => (hserved.closed w o hnone ho).1⟩
    · rcases hserved.served w o ho with ⟨e, he, rfl, hw⟩ | hdelivered
      · have hnone := (hserved.waiting e he w hw).1
        exact .inl ⟨e, he, rfl, hw, hnone, hserved.armed howned he hnone⟩
      · exact .inr hdelivered
    · intro x hx
      obtain ⟨o', ho', hreported⟩ := hserved.told w x hx
      exact hserved.attached_unique ho ho' ▸ hreported

end Run

/-! ## §3 — a run, and the run that breaks the condition -/

/-- One step of a run that keeps to the condition. -/
def next (s : Questions ρ) (event : QuestionEvent ρ) : Option (Questions ρ) :=
  if s.Meets event then s.step event else none

/-- The pane before and after its agent's session was bound anew. -/
def firstToken : PaneToken := { terminalId := "t", tabId := "b", sessionValue := "one" }

@[inherit_doc firstToken]
def secondToken : PaneToken := { firstToken with sessionValue := "two" }

def firstFlight : Flight := { id := 0, key := "question", token := firstToken }

/-- An answer, its retry while the keys are sent, and the result. -/
def answered : List (QuestionEvent String) :=
  [.replay 0 "question" "hash" firstToken, .schedule 0 "question" "hash" firstToken,
    .replay 1 "question" "hash" firstToken, .markAccepted firstFlight "accepted",
    .finish firstFlight "confirmed"]

/-- **Not vacuous.** The retry attaches to the running flight and hears its result. -/
theorem answers_dispatched_once_retried :
    ∃ s : Questions String, Runs Step {} answered s ∧ (0, 0) ∈ s.attached ∧
      (0, some "accepted") ∈ s.delivered ∧ (0, some "accepted") ∈ s.reported := by
  have hcomputed : ∃ s : Questions String, Runs Step {} answered s ∧
      s.attached = [(0, 0)] ∧ s.delivered = [(0, some "accepted")] :=
    Runs.of_any (f := next) (fun _ _ _ _ => Option.ite_none_right_eq_some.mp) (by decide +kernel)
  obtain ⟨s, hruns, hattached, hdelivered⟩ := hcomputed
  have hmem : (0, 0) ∈ s.attached := hattached ▸ List.mem_singleton_self _
  have hheard : (0, some "accepted") ∈ s.delivered := hdelivered ▸ List.mem_singleton_self _
  have hserved := (answers_dispatched_once hruns).2.2.2 0 0 hmem
  exact ⟨s, hruns, hmem, hheard, hserved.2.1 _ hheard⟩

/-- The answer is sent again after the pane's token changed: the second request throws out the slot
of the first flight, which is still armed. -/
def rebound : List (QuestionEvent String) :=
  [.schedule 0 "question" "hash" firstToken, .schedule 1 "question" "hash" secondToken]

/-- **The drop of a flight removes another flight's slot.** The first flight's watcher sees the new
token and gives up; its drop removes the slot of the second flight, still armed. The next retry
finds no slot, and is admitted as a second flight of the same key and token. -/
theorem drop_removes_successor :
    ∃ s s' : Questions String, rebound.foldlM step {} = some s ∧
      s.flights.map Flight.id = [0, 1] ∧ s.ledger.map LedgerEntry.owner = [1] ∧
      (s.drop firstFlight).ledger = [] ∧
      [.drop firstFlight, .schedule 2 "question" "hash" secondToken].foldlM step s = some s' ∧
      (s'.flights.filter fun f => f.key = "question" ∧ f.token = secondToken).length = 2 := by
  have hrun : (rebound.foldlM step {}).any (fun s =>
      decide (s.flights.map Flight.id = [0, 1] ∧ s.ledger.map LedgerEntry.owner = [1] ∧
        (s.drop firstFlight).ledger = []) &&
      ([.drop firstFlight, .schedule 2 "question" "hash" secondToken].foldlM step s).any fun s' =>
        decide ((s'.flights.filter fun f =>
          f.key = "question" ∧ f.token = secondToken).length = 2)) = true := by
    decide +kernel
  obtain ⟨s, hs, hfacts⟩ := Option.any_eq_true _ _ |>.mp hrun
  obtain ⟨hfirst, hlater⟩ := Bool.and_eq_true_iff.mp hfacts
  obtain ⟨hids, howners, hgone⟩ := of_decide_eq_true hfirst
  obtain ⟨s', hs', htwo⟩ := Option.any_eq_true _ _ |>.mp hlater
  exact ⟨s, s', hs, hids, howners, hgone, hs', of_decide_eq_true htwo⟩

end Lerdr.Coord.Questions
