/-
# Lerdr.Coord.Flights — the question ledger: one dispatch per answer.

An answer or approval claims a slot of the ledger under its key and the pane's token, and the task
that claimed it owns the slot through a `Flight` until it finishes or is dropped. A second request
for the slot does not dispatch: it is refused, replays the stored result, or waits for it.

A flight does not name its slot by itself, only by key and token, and its drop looks at the key
alone. So ownership has to be read off the history: each slot carries here the number of the flight
it was made for, which the source does not keep. As long as no request with another token throws
out the slot of a running flight, every running flight owns the slot of its key, and the rest
follows. A request that does throw it out leaves a flight without a slot, whose drop removes the
slot of its successor.
-/
import Lerdr.Lib.Keyed
import Lerdr.Lib.Runs
import Mathlib.Data.List.MinMax

namespace Lerdr.Coord

open Lib

/-! ## §1 — the ledger and its flights -/

/-- `PaneToken`: what stays the same while a pane shows the same conversation. -/
structure PaneToken where
  terminalId : String := ""
  tabId : String := ""
  sessionSource : String := ""
  sessionValue : String := ""
  deriving DecidableEq, Repr

def maxLedgerEntries : Nat := 256

/-- `LEDGER_RETENTION`, in seconds. -/
def ledgerRetention : Nat := 24 * 60 * 60

/-- `LedgerEntry`, with the key it is stored under. A waiter is the number of its channel. -/
structure LedgerEntry (ρ : Type*) where
  key : String
  payloadHash : String
  result : Option ρ := none
  token : PaneToken
  waiters : List Nat := []
  done : Bool := false
  createdAt : Nat
  /-- The flight the slot was made for; the source keeps no such field. -/
  owner : Nat
  deriving DecidableEq, Repr

/-- A slot with a result stored in it, its waiters woken. -/
def LedgerEntry.settled {ρ : Type*} (e : LedgerEntry ρ) (result : ρ) (last : Bool) :
    LedgerEntry ρ :=
  { e with result := some result, done := e.done || last, waiters := [] }

/-- `Flight`, while armed. The number only tells flights apart. -/
structure Flight where
  id : Nat
  key : String
  token : PaneToken
  deriving DecidableEq, Repr

/-- `Questions`: the ledger and the armed flights, with the history of the channels. A channel
receives a result, or `none` when its sender is dropped unused. -/
structure Questions (ρ : Type*) where
  ledger : List (LedgerEntry ρ) := []
  flights : List Flight := []
  /-- What each channel received. -/
  delivered : List (Nat × Option ρ) := []
  /-- The channels made so far, each with the flight whose slot it waits at. -/
  attached : List (Nat × Nat) := []
  /-- What each flight reported: a result it stored, or `none` for its drop. -/
  reported : List (Nat × Option ρ) := []
  nextFlight : Nat := 0
  nextWaiter : Nat := 0
  deriving DecidableEq, Repr

inductive Lookup (ρ : Type*) where
  | miss
  | attach (receiver : Nat)
  | replay (result : ρ)
  | conflict
  deriving DecidableEq, Repr

/-- `Admission`. Only a fresh one goes on to dispatch keys. -/
inductive Admission (ρ : Type*) where
  | fresh (flight : Flight)
  | attach (receiver : Nat)
  | replay (result : ρ)
  | conflict
  deriving DecidableEq, Repr

namespace Questions

variable {ρ : Type*}

section

variable (s : Questions ρ)

def entry (key : String) : Option (LedgerEntry ρ) :=
  Keyed.lookup LedgerEntry.key key s.ledger

/-- Slots leave the map, and the senders in them are dropped. -/
def discard (gone : LedgerEntry ρ → Bool) : Questions ρ :=
  { s with
    ledger := s.ledger.filter fun e => !gone e
    delivered := s.delivered ++
      (s.ledger.filter gone).flatMap fun e => e.waiters.map fun w => (w, none) }

/-- `ledger.remove(key)`. -/
def remove (key : String) : Questions ρ := s.discard fun e => e.key = key

/-- One turn of the count bound: the oldest finished slot goes, if there is one. -/
def dropOldest : Questions ρ :=
  match (s.ledger.filter (·.done)).argmin (·.createdAt) with
  | none => s
  | some e => s.remove e.key

/-- `prune_locked`. Each turn of its loop removes one slot, so it makes one turn for each slot in
excess; where no finished slot is left it breaks, and a turn here changes nothing. -/
def prune (now : Nat) : Questions ρ :=
  let kept := s.discard fun e => e.done && decide (ledgerRetention ≤ now - e.createdAt)
  dropOldest^[kept.ledger.length - maxLedgerEntries] kept

def modify (key : String) (f : LedgerEntry ρ → LedgerEntry ρ) : Questions ρ :=
  { s with ledger := s.ledger.map fun e => if e.key = key then f e else e }

/-- `entry.waiters.push(tx)`, of a new channel. -/
def attach (e : LedgerEntry ρ) : Questions ρ :=
  { s.modify e.key fun e => { e with waiters := e.waiters ++ [s.nextWaiter] } with
    attached := s.attached ++ [(s.nextWaiter, e.owner)]
    nextWaiter := s.nextWaiter + 1 }

def replay (now : Nat) (key hash : String) (token : PaneToken) :
    Lookup ρ × Questions ρ :=
  let s := s.prune now
  match s.entry key with
  | none => (.miss, s)
  | some e =>
    if e.token ≠ token then (.miss, s.remove key)
    else if e.payloadHash ≠ hash then (.conflict, s)
    else match e.result with
      | some result => (.replay result, s)
      | none => (.attach s.nextWaiter, s.attach e)

/-- The slot a fresh admission inserts, and its flight. -/
def insert (now : Nat) (key hash : String) (token : PaneToken) :
    Admission ρ × Questions ρ :=
  let flight : Flight := { id := s.nextFlight, key, token }
  (.fresh flight,
    { s with
      ledger := s.ledger ++
        [{ key, payloadHash := hash, token, createdAt := now, owner := s.nextFlight }]
      flights := s.flights ++ [flight]
      nextFlight := s.nextFlight + 1 })

def schedule (now : Nat) (key hash : String) (token : PaneToken) :
    Admission ρ × Questions ρ :=
  let s := s.prune now
  match s.entry key with
  | none => s.insert now key hash token
  | some e =>
    if e.token ≠ token then (s.remove key).insert now key hash token
    else if e.payloadHash ≠ hash then (.conflict, s)
    else match e.result with
      | some result => (.replay result, s)
      | none => (.attach s.nextWaiter, s.attach e)

/-- A flight stores a result in a slot, and its waiters receive it. -/
def store (flight : Flight) (e : LedgerEntry ρ) (result : ρ) (last : Bool) :
    Questions ρ :=
  { s.modify e.key fun e => e.settled result last with
    delivered := s.delivered ++ e.waiters.map fun w => (w, some result)
    reported := s.reported ++ [(flight.id, some result)] }

def markAccepted (flight : Flight) (result : ρ) : Questions ρ :=
  match s.entry flight.key with
  | none => s
  | some e => if e.token = flight.token then s.store flight e result false else s

def disarm (flight : Flight) : Questions ρ :=
  { s with flights := s.flights.filter fun f => f ≠ flight }

/-- `finish`, with whether the slot was still there. -/
def finish (flight : Flight) (result : ρ) : Bool × Questions ρ :=
  let s := s.disarm flight
  match s.entry flight.key with
  | none => (false, s)
  | some e =>
    if e.token ≠ flight.token then (false, s) else (true, s.store flight e result true)

/-- `drop` of an armed flight: an unfinished operation, a watcher that gave up, or a cancelled task.
It removes the slot of its key, whoever's it is. -/
def drop (flight : Flight) : Questions ρ :=
  { (s.disarm flight).remove flight.key with
    reported := s.reported ++ [(flight.id, none)] }

end

end Questions

/-- What can happen to the ledger: calls of requests, and of the tasks that own flights. -/
inductive QuestionEvent (ρ : Type*) where
  | replay (now : Nat) (key hash : String) (token : PaneToken)
  | schedule (now : Nat) (key hash : String) (token : PaneToken)
  | markAccepted (flight : Flight) (result : ρ)
  | finish (flight : Flight) (result : ρ)
  | drop (flight : Flight)

namespace Questions

variable {ρ : Type*}

/-- One event; a flight acts only while it is armed. -/
def step (s : Questions ρ) : QuestionEvent ρ → Option (Questions ρ)
  | .replay now key hash token => some (s.replay now key hash token).2
  | .schedule now key hash token => some (s.schedule now key hash token).2
  | .markAccepted flight result =>
    if s.flights.any (· = flight) then some (s.markAccepted flight result) else none
  | .finish flight result =>
    if s.flights.any (· = flight) then some (s.finish flight result).2 else none
  | .drop flight => if s.flights.any (· = flight) then some (s.drop flight) else none

/-- **No request throws out a slot that is not finished.** A request of another token than the
slot's finds it done. -/
def Meets (s : Questions ρ) : QuestionEvent ρ → Prop
  | .replay _ key _ token | .schedule _ key _ token =>
    ∀ e ∈ s.ledger, e.key = key → e.token ≠ token → e.done
  | _ => True

instance (s : Questions ρ) : (event : QuestionEvent ρ) → Decidable (s.Meets event)
  | .replay _ key _ token | .schedule _ key _ token =>
    inferInstanceAs (Decidable (∀ e ∈ s.ledger, e.key = key → e.token ≠ token → e.done))
  | .markAccepted .. | .finish .. | .drop .. => inferInstanceAs (Decidable True)

/-- A step that meets the condition. -/
def Step (s : Questions ρ) (event : QuestionEvent ρ) (s' : Questions ρ) : Prop :=
  s.Meets event ∧ s.step event = some s'

/-! ## §2 — what the calls do to the slots -/

theorem mem_discard {s : Questions ρ} {gone : LedgerEntry ρ → Bool} {e : LedgerEntry ρ} :
    e ∈ (s.discard gone).ledger ↔ e ∈ s.ledger ∧ gone e = false := by
  simp [discard]

theorem mem_modify {s : Questions ρ} {key : String} {f : LedgerEntry ρ → LedgerEntry ρ}
    {e' : LedgerEntry ρ} : e' ∈ (s.modify key f).ledger ↔
      (e' ∈ s.ledger ∧ e'.key ≠ key) ∨ ∃ e ∈ s.ledger, e.key = key ∧ f e = e' := by
  rw [modify, List.mem_map]
  constructor
  · rintro ⟨e, he, rfl⟩
    split
    · rename_i hkey
      exact .inr ⟨e, he, hkey, rfl⟩
    · rename_i hkey
      exact .inl ⟨he, hkey⟩
  · rintro (⟨he, hkey⟩ | ⟨e, he, hkey, rfl⟩)
    · exact ⟨e', he, if_neg hkey⟩
    · exact ⟨e, he, if_pos hkey⟩

theorem keys_modify {s : Questions ρ} {key : String} {f : LedgerEntry ρ → LedgerEntry ρ}
    (hf : ∀ e, (f e).key = e.key) :
    (s.modify key f).ledger.map LedgerEntry.key = s.ledger.map LedgerEntry.key := by
  rw [modify, List.map_map]
  refine List.map_congr_left fun e _ => ?_
  rw [Function.comp_apply]
  split
  · exact hf e
  · rfl

theorem mem_of_entry {s : Questions ρ} {key : String} {e : LedgerEntry ρ}
    (h : s.entry key = some e) : e ∈ s.ledger ∧ e.key = key :=
  ⟨Keyed.mem_of_lookup h, Keyed.key_of_lookup h⟩

/-- Pruning is nothing but discarding finished slots, one call after the other. -/
theorem prune_induct {P : Questions ρ → Prop} {s : Questions ρ}
    (hP : ∀ s gone, P s → (∀ e ∈ s.ledger, gone e → e.done) → P (s.discard gone))
    (hkeys : ∀ s, P s → (s.ledger.map LedgerEntry.key).Nodup) (hs : P s) (now : Nat) :
    P (s.prune now) := by
  have hturn : ∀ s : Questions ρ, P s → P s.dropOldest := by
    intro s hs
    unfold dropOldest
    split
    · exact hs
    · rename_i oldest holdest
      have hmem := List.mem_filter.mp (List.argmin_mem holdest)
      refine hP s _ hs fun e he hkey => ?_
      -- the key of the oldest finished slot is no other slot's
      have hsame : e = oldest :=
        List.inj_on_of_nodup_map (hkeys s hs) he hmem.1 (of_decide_eq_true hkey)
      exact hsame ▸ hmem.2
  have hiterate : ∀ (n : Nat) (s : Questions ρ), P s → P (dropOldest^[n] s) := by
    intro n
    induction n with
    | zero => exact fun s hs => hs
    | succ n ih =>
      intro s hs
      rw [Function.iterate_succ_apply]
      exact ih _ (hturn s hs)
  refine hiterate _ _ (hP s _ hs fun e _ hgone => ?_)
  exact (Bool.and_eq_true_iff.mp hgone).1

/-! ## §3 — every armed flight owns the slot of its key -/

/-- **Ownership.** Keys and flights are told apart, every armed flight has the unfinished slot of
its key, and every unfinished slot has its flight. -/
structure Owned (s : Questions ρ) : Prop where
  keys : (s.ledger.map LedgerEntry.key).Nodup
  ids : (s.flights.map Flight.id).Nodup
  fresh : ∀ f ∈ s.flights, f.id < s.nextFlight
  own : ∀ f ∈ s.flights, ∃ e ∈ s.ledger, e.key = f.key ∧ e.owner = f.id ∧ e.token = f.token ∧
    e.done = false
  live : ∀ e ∈ s.ledger, e.done = false → ∃ f ∈ s.flights, f.id = e.owner ∧ f.key = e.key

namespace Owned

variable {s : Questions ρ} {f g : Flight} {e : LedgerEntry ρ} {key : String}

theorem slot_unique (h : s.Owned) {e e' : LedgerEntry ρ} (he : e ∈ s.ledger) (he' : e' ∈ s.ledger)
    (hkey : e.key = e'.key) : e = e' :=
  List.inj_on_of_nodup_map h.keys he he' hkey

theorem slot_of (h : s.Owned) (hf : f ∈ s.flights) (he : e ∈ s.ledger) (hkey : e.key = f.key) :
    e.owner = f.id ∧ e.token = f.token ∧ e.done = false := by
  obtain ⟨own, hown, hownKey, hfacts⟩ := h.own f hf
  rw [h.slot_unique he hown (hkey.trans hownKey.symm)]
  exact hfacts

/-- **No two armed flights have one key.** -/
theorem flight_unique (h : s.Owned) (hf : f ∈ s.flights) (hg : g ∈ s.flights)
    (hkey : f.key = g.key) : f = g := by
  obtain ⟨e, he, heKey, heOwner, -⟩ := h.own f hf
  have hgOwner := (h.slot_of hg he (heKey.trans hkey)).1
  exact List.inj_on_of_nodup_map h.ids hf hg (heOwner.symm.trans hgOwner)

theorem entry_eq (h : s.Owned) (he : e ∈ s.ledger) : s.entry e.key = some e :=
  Keyed.lookup_of_mem h.keys he

theorem initial : (({} : Questions ρ)).Owned where
  keys := List.nodup_nil
  ids := List.nodup_nil
  fresh := fun _ hf => nomatch hf
  own := fun _ hf => nomatch hf
  live := fun _ he => nomatch he

section

variable (h : s.Owned)
include h

theorem discard {gone : LedgerEntry ρ → Bool}
    (hgone : ∀ e ∈ s.ledger, gone e → e.done) : (s.discard gone).Owned where
  keys := h.keys.sublist (List.filter_sublist.map _)
  ids := h.ids
  fresh := h.fresh
  own := by
    intro f hf
    obtain ⟨e, he, hkey, howner, htoken, hopen⟩ := h.own f hf
    have hstays : gone e = false :=
      Bool.eq_false_iff.mpr fun hg => absurd (hgone e he hg) (by simp [hopen])
    exact ⟨e, mem_discard.mpr ⟨he, hstays⟩, hkey, howner, htoken, hopen⟩
  live := fun e he hopen => h.live e (mem_discard.mp he).1 hopen

theorem prune (now : Nat) : (s.prune now).Owned :=
  prune_induct (fun _ _ h => h.discard) (fun _ h => h.keys) h now

/-- A rewrite of one slot that keeps what identifies it. -/
theorem modify {f : LedgerEntry ρ → LedgerEntry ρ}
    (hf : ∀ e, (f e).key = e.key ∧ (f e).owner = e.owner ∧ (f e).token = e.token ∧
      (f e).done = e.done) : (s.modify key f).Owned := by
  refine ⟨?_, h.ids, h.fresh, ?_, ?_⟩
  · rw [keys_modify fun e => (hf e).1]
    exact h.keys
  · intro flight hflight
    obtain ⟨e, he, hfacts⟩ := h.own flight hflight
    by_cases hkey : e.key = key
    · obtain ⟨hkey', howner', htoken', hdone'⟩ := hf e
      refine ⟨f e, mem_modify.mpr (.inr ⟨e, he, hkey, rfl⟩), ?_⟩
      rw [hkey', howner', htoken', hdone']
      exact hfacts
    · exact ⟨e, mem_modify.mpr (.inl ⟨he, hkey⟩), hfacts⟩
  · intro e' he' hopen
    rcases mem_modify.mp he' with ⟨he, -⟩ | ⟨e, he, -, rfl⟩
    · exact h.live e' he hopen
    · rw [(hf e).1, (hf e).2.1]
      exact h.live e he ((hf e).2.2.2.symm.trans hopen)

theorem attach (e : LedgerEntry ρ) : (s.attach e).Owned := by
  have hmodify : (s.modify e.key fun e =>
      { e with waiters := e.waiters ++ [s.nextWaiter] }).Owned :=
    h.modify fun _ => ⟨rfl, rfl, rfl, rfl⟩
  exact ⟨hmodify.keys, hmodify.ids, hmodify.fresh, hmodify.own, hmodify.live⟩

theorem remove (hdone : ∀ e ∈ s.ledger, e.key = key → e.done) :
    (s.remove key).Owned :=
  h.discard fun e he hkey => hdone e he (of_decide_eq_true hkey)

/-- A slot can be claimed where its key has none. -/
theorem insert (hkey : ∀ e ∈ s.ledger, e.key ≠ key) (now : Nat) (hash : String)
    (token : PaneToken) : (s.insert now key hash token).2.Owned where
  keys := by
    simp only [Questions.insert, List.map_append, List.map_cons, List.map_nil]
    refine List.nodup_append.mpr ⟨h.keys, List.nodup_singleton _, ?_⟩
    rintro _ hmem _ hnew rfl
    obtain ⟨e, he, hekey⟩ := List.mem_map.mp hmem
    exact hkey e he (hekey.trans (List.mem_singleton.mp hnew))
  ids := by
    simp only [Questions.insert, List.map_append, List.map_cons, List.map_nil]
    refine List.nodup_append.mpr ⟨h.ids, List.nodup_singleton _, ?_⟩
    rintro _ hmem _ hnew rfl
    obtain ⟨f, hf, hid⟩ := List.mem_map.mp hmem
    have hlt := h.fresh f hf
    rw [hid, List.mem_singleton.mp hnew] at hlt
    exact absurd hlt (lt_irrefl _)
  fresh := by
    intro f hf
    rcases List.mem_append.mp hf with hf | hf
    · exact Nat.lt_succ_of_lt (h.fresh f hf)
    · rw [List.mem_singleton.mp hf]
      exact Nat.lt_succ_self _
  own := by
    intro f hf
    rcases List.mem_append.mp hf with hf | hf
    · obtain ⟨e, he, hfacts⟩ := h.own f hf
      exact ⟨e, List.mem_append_left _ he, hfacts⟩
    · rw [List.mem_singleton.mp hf]
      exact ⟨_, List.mem_append_right _ (List.mem_singleton_self _), rfl, rfl, rfl, rfl⟩
  live := by
    intro e he hopen
    rcases List.mem_append.mp he with he | he
    · obtain ⟨f, hf, hfacts⟩ := h.live e he hopen
      exact ⟨f, List.mem_append_left _ hf, hfacts⟩
    · rw [List.mem_singleton.mp he]
      exact ⟨_, List.mem_append_right _ (List.mem_singleton_self _), rfl, rfl⟩

section

variable (hf : f ∈ s.flights)
include hf

/-- A call that ends an armed flight: it leaves the slots of other keys, and leaves its own finished
or gone. -/
theorem release {s' : Questions ρ} (hkeys : (s'.ledger.map LedgerEntry.key).Nodup)
    (hflights : s'.flights = s.flights.filter fun g => g ≠ f) (hnext : s'.nextFlight = s.nextFlight)
    (hother : ∀ e, e.key ≠ f.key → (e ∈ s'.ledger ↔ e ∈ s.ledger))
    (hown : ∀ e ∈ s'.ledger, e.key = f.key → e.done) : s'.Owned := by
  have hmem : ∀ g, g ∈ s'.flights ↔ g ∈ s.flights ∧ g ≠ f := by
    intro g
    simp [hflights]
  refine ⟨hkeys, ?_, ?_, ?_, ?_⟩
  · rw [hflights]
    exact h.ids.sublist (List.filter_sublist.map _)
  · intro g hg
    rw [hnext]
    exact h.fresh g ((hmem g).mp hg).1
  · intro g hg
    obtain ⟨hg, hne⟩ := (hmem g).mp hg
    obtain ⟨e, he, hkey, hfacts⟩ := h.own g hg
    have hkeyNe : e.key ≠ f.key := fun heq => hne (h.flight_unique hg hf (hkey.symm.trans heq))
    exact ⟨e, (hother e hkeyNe).mpr he, hkey, hfacts⟩
  · intro e he hopen
    have hkeyNe : e.key ≠ f.key := by
      intro heq
      rw [hown e he heq] at hopen
      cases hopen
    obtain ⟨g, hg, hid, hkey⟩ := h.live e ((hother e hkeyNe).mp he) hopen
    exact ⟨g, (hmem g).mpr ⟨hg, fun heq => hkeyNe (hkey.symm.trans (congrArg _ heq))⟩, hid, hkey⟩

/-- What an armed flight finds under its key. -/
theorem entry_of_flight :
    ∃ e, s.entry f.key = some e ∧ e ∈ s.ledger ∧ e.key = f.key ∧ e.owner = f.id ∧
      e.token = f.token ∧ e.done = false := by
  obtain ⟨e, he, hkey, hfacts⟩ := h.own f hf
  exact ⟨e, hkey ▸ h.entry_eq he, he, hkey, hfacts⟩

/-- A mark stores in the flight's own slot. -/
theorem markAccepted_eq (result : ρ) :
    ∃ e ∈ s.ledger, e.key = f.key ∧ e.owner = f.id ∧
      s.markAccepted f result = s.store f e result false := by
  obtain ⟨e, hentry, he, hkey, howner, htoken, -⟩ := h.entry_of_flight hf
  refine ⟨e, he, hkey, howner, ?_⟩
  simp only [markAccepted, hentry, if_pos htoken]

theorem finish_eq (result : ρ) :
    ∃ e ∈ s.ledger, e.key = f.key ∧ e.owner = f.id ∧
      s.finish f result = (true, (s.disarm f).store f e result true) := by
  obtain ⟨e, hentry, he, hkey, howner, htoken, -⟩ := h.entry_of_flight hf
  refine ⟨e, he, hkey, howner, ?_⟩
  have hentry' : (s.disarm f).entry f.key = some e := hentry
  simp only [finish, hentry', ne_eq, htoken, not_true_eq_false, if_false]

theorem markAccepted (result : ρ) :
    (s.markAccepted f result).Owned := by
  obtain ⟨e, -, -, -, heq⟩ := h.markAccepted_eq hf result
  have hmodify : (s.modify e.key fun e => e.settled result false).Owned :=
    h.modify fun e => ⟨rfl, rfl, rfl, Bool.or_false e.done⟩
  rw [heq]
  exact ⟨hmodify.keys, hmodify.ids, hmodify.fresh, hmodify.own, hmodify.live⟩

theorem finish (result : ρ) : (s.finish f result).2.Owned := by
  obtain ⟨slot, -, hslot, -, heq⟩ := h.finish_eq hf result
  rw [heq]
  have hmem : ∀ e, e ∈ ((s.disarm f).store f slot result true).ledger ↔
      (e ∈ s.ledger ∧ e.key ≠ f.key) ∨
        ∃ x ∈ s.ledger, x.key = f.key ∧ x.settled result true = e := by
    intro e
    rw [← hslot]
    exact mem_modify
  refine h.release hf ?_ rfl rfl ?_ ?_
  · have hkeys : ((s.disarm f).store f slot result true).ledger.map LedgerEntry.key
        = s.ledger.map LedgerEntry.key := keys_modify fun _ => rfl
    exact hkeys ▸ h.keys
  · intro e hne
    rw [hmem]
    constructor
    · rintro (⟨he, -⟩ | ⟨x, -, hkey, rfl⟩)
      · exact he
      · exact absurd hkey hne
    · exact fun he => .inl ⟨he, hne⟩
  · intro e he hkey
    rcases (hmem e).mp he with ⟨-, hne⟩ | ⟨x, -, -, rfl⟩
    · exact absurd hkey hne
    · exact Bool.or_true _

theorem drop : (s.drop f).Owned := by
  have hmem : ∀ e, e ∈ (s.drop f).ledger ↔ e ∈ s.ledger ∧ e.key ≠ f.key := by
    intro e
    simp [Questions.drop, Questions.remove, Questions.discard, disarm]
  refine h.release hf (h.keys.sublist (List.filter_sublist.map _)) rfl rfl ?_ ?_
  · exact fun e hne => (hmem e).trans (and_iff_left hne)
  · exact fun e he hkey => absurd hkey ((hmem e).mp he).2

/-- An armed flight's calls leave every slot that is not its own. -/
theorem others_stay (he : e ∈ s.ledger) (hother : e.owner ≠ f.id) (result : ρ) :
    e ∈ (s.markAccepted f result).ledger ∧ e ∈ (s.finish f result).2.ledger ∧
      e ∈ (s.drop f).ledger := by
  have hne : e.key ≠ f.key := fun hkey => hother (h.slot_of hf he hkey).1
  refine ⟨?_, ?_, ?_⟩
  · obtain ⟨slot, -, hkey, -, heq⟩ := h.markAccepted_eq hf result
    rw [heq]
    exact mem_modify.mpr (.inl ⟨he, hkey ▸ hne⟩)
  · obtain ⟨slot, -, hkey, -, heq⟩ := h.finish_eq hf result
    rw [heq]
    exact mem_modify.mpr (.inl ⟨he, hkey ▸ hne⟩)
  · exact mem_discard.mpr ⟨he, decide_eq_false hne⟩

end

theorem flights_le_one (key : String) (token : PaneToken) :
    (s.flights.filter fun f => f.key = key ∧ f.token = token).length ≤ 1 := by
  have hnodup : (s.flights.filter fun f => f.key = key ∧ f.token = token).Nodup :=
    h.ids.of_map.filter _
  have hsame : ∀ f ∈ s.flights.filter (fun f => f.key = key ∧ f.token = token),
      ∀ g ∈ s.flights.filter (fun f => f.key = key ∧ f.token = token), f = g := by
    intro f hf g hg
    obtain ⟨hf, hfKey⟩ := List.mem_filter.mp hf
    obtain ⟨hg, hgKey⟩ := List.mem_filter.mp hg
    have hkeys := (of_decide_eq_true hfKey).1.trans (of_decide_eq_true hgKey).1.symm
    exact h.flight_unique hf hg hkeys
  generalize s.flights.filter (fun f => f.key = key ∧ f.token = token) = armed at hnodup hsame ⊢
  rcases armed with _ | ⟨f, _ | ⟨g, rest⟩⟩
  · exact Nat.zero_le _
  · exact le_refl _
  · have heq := hsame f List.mem_cons_self g (List.mem_cons_of_mem _ List.mem_cons_self)
    exact absurd (heq ▸ List.mem_cons_self) (List.nodup_cons.mp hnodup).1

end

end Owned

end Questions

end Lerdr.Coord
