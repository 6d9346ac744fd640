/-
# Lerdr.Core.SendBuffer — the outbound buffer of one client (`sendbuffer.rs`).

The buffer is bounded in items and in bytes. A push that does not fit is rejected and nothing queued
is evicted; a replaceable message takes the place of a replaceable tail of its own type. So what
leaves the buffer is what was admitted, in order, except that of a run of admissions that went into
one place only the last is left. `collapse` says that of a log of admissions alone; the buffer is
compared with it over whole runs of calls.

Lengths are natural numbers: a buffer owns the bytes it counts, so their number is one of the
address space.
-/
import Lerdr.Rust.Text

namespace Lerdr.Core

open Lerdr.Rust (Bytes)

/-! ## §1 — the buffer -/

inductive RejectReason where
  | closed
  | itemLimit
  | byteLimit
  | coalesceByteLimit
  deriving DecidableEq, Repr

inductive PushResult where
  | rejected (reason : RejectReason)
  | queued
  | coalesced
  deriving DecidableEq, Repr

structure BufferedMessage where
  data : Bytes
  kind : String
  replaceable : Bool
  deriving DecidableEq, Repr

structure SendBuffer where
  items : List BufferedMessage := []
  bytes : Nat := 0
  maxItems : Nat
  maxBytes : Nat
  closed : Bool := false
  deriving DecidableEq, Repr

/-- The tail that an incoming message replaces, if there is one. -/
def replaceableTail (items : List BufferedMessage) (kind : String) (replaceable : Bool) :
    Option BufferedMessage :=
  if replaceable then
    items.getLast?.filter fun tail => tail.replaceable && decide (tail.kind = kind)
  else none

/-- The queue with other data in its tail. -/
def setTail (items : List BufferedMessage) (tail : BufferedMessage) (data : Bytes) :
    List BufferedMessage :=
  items.dropLast ++ [{ tail with data }]

namespace SendBuffer

def withCapacity (maxItems maxBytes : Nat) : SendBuffer := { maxItems, maxBytes }

/-- A message goes to the end, or replaces the last one. -/
def pushTyped (b : SendBuffer) (data : Bytes) (kind : String) (replaceable : Bool) :
    PushResult × SendBuffer :=
  if b.closed then (.rejected .closed, b)
  else match replaceableTail b.items kind replaceable with
    | some tail =>
      let nextBytes := b.bytes - tail.data.length + data.length
      if b.maxBytes < nextBytes then (.rejected .coalesceByteLimit, b)
      else (.coalesced, { b with items := setTail b.items tail data, bytes := nextBytes })
    | none =>
      if b.maxItems ≤ b.items.length then (.rejected .itemLimit, b)
      else if b.maxBytes < b.bytes + data.length then (.rejected .byteLimit, b)
      else (.queued, { b with
        items := b.items ++ [{ data, kind, replaceable }]
        bytes := b.bytes + data.length })

def pop (b : SendBuffer) : Option Bytes × SendBuffer :=
  match b.items with
  | [] => (none, b)
  | item :: items => (some item.data, { b with items, bytes := b.bytes - item.data.length })

def close (b : SendBuffer) : SendBuffer := { b with closed := true }

end SendBuffer

/-! ## §2 — sequences of calls -/

/-- A call of the buffer. -/
inductive BufferCall where
  | pushTyped (data : Bytes) (kind : String) (replaceable : Bool)
  | pop
  | close
  deriving DecidableEq, Repr

/-- What a call returns. -/
inductive BufferReply where
  | pushed (result : PushResult)
  | popped (data : Option Bytes)
  | closed
  deriving DecidableEq, Repr

/-- The replies to a sequence of calls, and the state after it. -/
def runCalls {σ : Type} (call : σ → BufferCall → BufferReply × σ) (s : σ) :
    List BufferCall → List BufferReply × σ
  | [] => ([], s)
  | c :: cs =>
    let first := call s c
    let rest := runCalls call first.2 cs
    (first.1 :: rest.1, rest.2)

/-- **Two buffers that answer every call alike** answer every sequence alike. -/
theorem runCalls_agree {σ τ : Type} {f : σ → BufferCall → BufferReply × σ}
    {g : τ → BufferCall → BufferReply × τ} {R : σ → τ → Prop} {calls : List BufferCall}
    (hcall : ∀ c ∈ calls, ∀ s t, R s t → (f s c).1 = (g t c).1 ∧ R (f s c).2 (g t c).2)
    {s : σ} {t : τ} (hR : R s t) :
    (runCalls f s calls).1 = (runCalls g t calls).1 ∧
      R (runCalls f s calls).2 (runCalls g t calls).2 := by
  induction calls generalizing s t with
  | nil => exact ⟨rfl, hR⟩
  | cons c cs ih =>
    obtain ⟨hreply, hnext⟩ := hcall c List.mem_cons_self s t hR
    obtain ⟨hreplies, hfinal⟩ := ih (fun c hc => hcall c (List.mem_cons_of_mem _ hc)) hnext
    exact ⟨congrArg₂ _ hreply hreplies, hfinal⟩

namespace SendBuffer

def call (b : SendBuffer) : BufferCall → BufferReply × SendBuffer
  | .pushTyped data kind replaceable =>
    let pushed := b.pushTyped data kind replaceable
    (.pushed pushed.1, pushed.2)
  | .pop =>
    let popped := b.pop
    (.popped popped.1, popped.2)
  | .close => (.closed, b.close)

end SendBuffer

/-! ## §3 — the log of admissions -/

/-- An admission: its payload, and whether it went into the place of the one before. -/
structure Admission where
  coalesced : Bool
  data : Bytes
  deriving DecidableEq, Repr

/-- **What is left of a log**: of every maximal run of admissions that went into one place, the
last. -/
def collapse : List Admission → List Bytes
  | [] => []
  | [last] => [last.data]
  | first :: second :: rest =>
    if second.coalesced then collapse (second :: rest)
    else first.data :: collapse (second :: rest)

def BufferCall.admission : BufferCall → BufferReply → List Admission
  | .pushTyped data _ _, .pushed .queued => [{ coalesced := false, data }]
  | .pushTyped data _ _, .pushed .coalesced => [{ coalesced := true, data }]
  | _, _ => []

def BufferReply.payload : BufferReply → List Bytes
  | .popped (some data) => [data]
  | _ => []

/-- The admissions of a sequence of calls with these replies. -/
def admissions (calls : List BufferCall) (replies : List BufferReply) : List Admission :=
  (List.zipWith BufferCall.admission calls replies).flatten

def popped (replies : List BufferReply) : List Bytes := replies.flatMap BufferReply.payload

/-- Something is left of every log that is not empty. -/
theorem collapse_cons_ne_nil (first : Admission) (rest : List Admission) :
    collapse (first :: rest) ≠ [] := by
  induction rest generalizing first with
  | nil => simp [collapse]
  | cons second rest ih =>
    rw [collapse]
    split
    · exact ih second
    · exact List.cons_ne_nil _ _

theorem collapse_concat_queued (log : List Admission) (data : Bytes) :
    collapse (log ++ [⟨false, data⟩]) = collapse log ++ [data] := by
  induction log using collapse.induct with
  | case1 => rfl
  | case2 last => rfl
  | case3 first second rest hsecond ih =>
    rw [List.cons_append, List.cons_append, collapse, if_pos hsecond, collapse, if_pos hsecond]
    exact ih
  | case4 first second rest hsecond ih =>
    rw [List.cons_append, List.cons_append, collapse, if_neg hsecond, collapse, if_neg hsecond,
      List.cons_append]
    exact congrArg _ ih

/-- A coalesced admission takes the place of the last payload. -/
theorem collapse_concat_coalesced {log : List Admission} {before : List Bytes} {last : Bytes}
    (hlog : collapse log = before ++ [last]) (data : Bytes) :
    collapse (log ++ [⟨true, data⟩]) = before ++ [data] := by
  induction log using collapse.induct generalizing before with
  | case1 => simp [collapse] at hlog
  | case2 only =>
    cases before with
    | nil => rfl
    | cons head before => simp [collapse] at hlog
  | case3 first second rest hsecond ih =>
    rw [collapse, if_pos hsecond] at hlog
    rw [List.cons_append, List.cons_append, collapse, if_pos hsecond]
    exact ih hlog
  | case4 first second rest hsecond ih =>
    rw [collapse, if_neg hsecond] at hlog
    rw [List.cons_append, List.cons_append, collapse, if_neg hsecond]
    -- what follows is not empty, so the first payload is not the one that is replaced
    cases before with
    | nil => exact absurd (List.cons.inj hlog).2 (collapse_cons_ne_nil second rest)
    | cons head before =>
      obtain ⟨rfl, htail⟩ := List.cons.inj hlog
      exact congrArg _ (ih htail)

/-! ## §4 — the buffer against the log -/

def queuedBytes (items : List BufferedMessage) : Nat := (items.map fun item => item.data.length).sum

@[simp]
theorem queuedBytes_concat (items : List BufferedMessage) (item : BufferedMessage) :
    queuedBytes (items ++ [item]) = queuedBytes items + item.data.length := by
  simp [queuedBytes]

/-- A tail that is replaced is the last item of the queue. -/
theorem replaceableTail_eq_some {items : List BufferedMessage} {kind : String} {replaceable : Bool}
    {tail : BufferedMessage} (h : replaceableTail items kind replaceable = some tail) :
    replaceable = true ∧ tail.replaceable = true ∧ tail.kind = kind ∧
      ∃ before, items = before ++ [tail] := by
  unfold replaceableTail at h
  cases replaceable with
  | false => cases h
  | true =>
    obtain ⟨hlast, htail⟩ := Option.filter_eq_some_iff.mp h
    simp only [Bool.and_eq_true, decide_eq_true_eq] at htail
    exact ⟨rfl, htail.1, htail.2, List.getLast?_eq_some_iff.mp hlast⟩

theorem setTail_concat (before : List BufferedMessage) (tail : BufferedMessage) (data : Bytes) :
    setTail (before ++ [tail]) tail data = before ++ [{ tail with data }] := by
  simp [setTail]

namespace SendBuffer

/-- **What a buffer never violates.** -/
structure Valid (b : SendBuffer) : Prop where
  bytes : b.bytes = queuedBytes b.items
  items : b.items.length ≤ b.maxItems
  fits : b.bytes ≤ b.maxBytes

/-- **The four ways a push ends.** -/
theorem pushTyped_cases (b : SendBuffer) (data : Bytes) (kind : String) (replaceable : Bool) :
    (∃ reason, b.pushTyped data kind replaceable = (.rejected reason, b)) ∨
      (∃ before tail, b.items = before ++ [tail] ∧ tail.replaceable = true ∧ tail.kind = kind ∧
        replaceable = true ∧
        b.bytes - tail.data.length + data.length ≤ b.maxBytes ∧
        b.pushTyped data kind replaceable = (.coalesced, { b with
          items := before ++ [{ tail with data }]
          bytes := b.bytes - tail.data.length + data.length })) ∨
      (b.items.length < b.maxItems ∧ b.bytes + data.length ≤ b.maxBytes ∧
        b.pushTyped data kind replaceable = (.queued, { b with
          items := b.items ++ [{ data, kind, replaceable }]
          bytes := b.bytes + data.length })) := by
  unfold pushTyped
  split
  · exact .inl ⟨.closed, rfl⟩
  split
  · rename_i tail htail
    obtain ⟨hreplaceable, htailReplaceable, hkind, before, hitems⟩ :=
      replaceableTail_eq_some htail
    dsimp only
    split
    · exact .inl ⟨.coalesceByteLimit, rfl⟩
    · rename_i hfits
      refine .inr (.inl ⟨before, tail, hitems, htailReplaceable, hkind, hreplaceable, by omega, ?_⟩)
      rw [hitems, setTail_concat]
  · split
    · exact .inl ⟨.itemLimit, rfl⟩
    split
    · exact .inl ⟨.byteLimit, rfl⟩
    · exact .inr (.inr ⟨by omega, by omega, rfl⟩)

/-- Every call keeps the buffer valid, and its capacities. -/
theorem Valid.call {b : SendBuffer} (h : b.Valid) (c : BufferCall) : (b.call c).2.Valid := by
  cases c with
  | pushTyped data kind replaceable =>
    show (b.pushTyped data kind replaceable).2.Valid
    rcases b.pushTyped_cases data kind replaceable with
      ⟨reason, heq⟩ | ⟨before, tail, hitems, -, -, -, hfits, heq⟩ | ⟨hroom, hfits, heq⟩
    · rw [heq]
      exact h
    · rw [heq]
      have hbytes := h.bytes
      have hlength := h.items
      rw [hitems] at hbytes hlength
      refine ⟨?_, ?_, hfits⟩
      · simp only [queuedBytes_concat] at hbytes ⊢
        omega
      · simpa using hlength
    · rw [heq]
      refine ⟨?_, ?_, hfits⟩
      · rw [queuedBytes_concat, ← h.bytes]
      · simpa using hroom
  | pop =>
    show b.pop.2.Valid
    unfold SendBuffer.pop
    split
    · exact h
    · rename_i item items hitems
      have hbytes := h.bytes
      have hlength := h.items
      have hfits := h.fits
      rw [hitems] at hbytes hlength
      simp only [queuedBytes, List.map_cons, List.sum_cons, List.length_cons] at hbytes hlength
      refine ⟨?_, ?_, ?_⟩
      · simp only [queuedBytes]
        omega
      · exact Nat.le_of_succ_le hlength
      · show b.bytes - item.data.length ≤ b.maxBytes
        omega
  | close => exact ⟨h.bytes, h.items, h.fits⟩

/-- **One call against the log**: what was popped and what is queued is what is left of it. -/
theorem call_collapse {b : SendBuffer} {log : List Admission} {out : List Bytes}
    (h : out ++ b.items.map BufferedMessage.data = collapse log) (c : BufferCall) :
    out ++ (b.call c).1.payload ++ (b.call c).2.items.map BufferedMessage.data
      = collapse (log ++ c.admission (b.call c).1) := by
  cases c with
  | pushTyped data kind replaceable =>
    show out ++ [] ++ (b.pushTyped data kind replaceable).2.items.map BufferedMessage.data
      = collapse (log ++ (BufferCall.pushTyped data kind replaceable).admission
          (.pushed (b.pushTyped data kind replaceable).1))
    rw [List.append_nil]
    rcases b.pushTyped_cases data kind replaceable with
      ⟨reason, heq⟩ | ⟨before, tail, hitems, -, -, -, -, heq⟩ | ⟨-, -, heq⟩
    · rw [heq]
      simpa [BufferCall.admission] using h
    · rw [heq]
      rw [hitems, List.map_append, ← List.append_assoc] at h
      simp only [BufferCall.admission, List.map_append, List.map_cons, List.map_nil]
      rw [collapse_concat_coalesced h.symm, List.append_assoc]
    · rw [heq]
      simp only [BufferCall.admission, List.map_append, List.map_cons, List.map_nil]
      rw [collapse_concat_queued, ← h, List.append_assoc]
  | pop =>
    show out ++ (BufferReply.popped b.pop.1).payload ++ b.pop.2.items.map BufferedMessage.data
      = collapse (log ++ [])
    rw [List.append_nil, ← h]
    unfold SendBuffer.pop
    split
    · simp [BufferReply.payload]
    · rename_i item items hitems
      simp [BufferReply.payload, hitems]
  | close =>
    show out ++ [] ++ b.items.map BufferedMessage.data = collapse (log ++ [])
    rw [List.append_nil, List.append_nil]
    exact h

/-- A sequence of calls keeps the capacities, and the buffer valid. -/
theorem Valid.run {b : SendBuffer} (h : b.Valid) (calls : List BufferCall) :
    (runCalls SendBuffer.call b calls).2.Valid := by
  induction calls generalizing b with
  | nil => exact h
  | cons c cs ih => exact ih (h.call c)

/-- **A sequence of calls against the log.** -/
theorem run_collapse {b : SendBuffer} {log : List Admission} {out : List Bytes}
    (h : out ++ b.items.map BufferedMessage.data = collapse log) (calls : List BufferCall) :
    out ++ popped (runCalls SendBuffer.call b calls).1 ++
        (runCalls SendBuffer.call b calls).2.items.map BufferedMessage.data
      = collapse (log ++ admissions calls (runCalls SendBuffer.call b calls).1) := by
  induction calls generalizing b log out with
  | nil => simpa [runCalls, popped, admissions] using h
  | cons c cs ih =>
    have hrest := ih (call_collapse h c)
    simpa [runCalls, popped, admissions] using hrest

theorem call_maxItems (b : SendBuffer) (c : BufferCall) :
    (b.call c).2.maxItems = b.maxItems ∧ (b.call c).2.maxBytes = b.maxBytes := by
  cases c with
  | pushTyped data kind replaceable =>
    show (b.pushTyped data kind replaceable).2.maxItems = b.maxItems ∧
      (b.pushTyped data kind replaceable).2.maxBytes = b.maxBytes
    rcases b.pushTyped_cases data kind replaceable with
      ⟨_, heq⟩ | ⟨_, _, _, _, _, _, _, heq⟩ | ⟨_, _, heq⟩ <;> rw [heq] <;> exact ⟨rfl, rfl⟩
  | pop =>
    show b.pop.2.maxItems = b.maxItems ∧ b.pop.2.maxBytes = b.maxBytes
    unfold SendBuffer.pop
    split <;> exact ⟨rfl, rfl⟩
  | close => exact ⟨rfl, rfl⟩

theorem run_maxItems (b : SendBuffer) (calls : List BufferCall) :
    (runCalls SendBuffer.call b calls).2.maxItems = b.maxItems ∧
      (runCalls SendBuffer.call b calls).2.maxBytes = b.maxBytes := by
  induction calls generalizing b with
  | nil => exact ⟨rfl, rfl⟩
  | cons c cs ih =>
    obtain ⟨hitems, hbytes⟩ := b.call_maxItems c
    obtain ⟨hitems', hbytes'⟩ := ih (b.call c).2
    exact ⟨hitems'.trans hitems, hbytes'.trans hbytes⟩

end SendBuffer

end Lerdr.Core
