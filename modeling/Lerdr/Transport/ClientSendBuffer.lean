/-
# Lerdr.Transport.ClientSendBuffer — the client's outbound buffer (`ClientSendBuffer.kt`), and that
it is the relay's.

The client counts bytes in a `Long` and items in an `Int`. With a capacity that is an `Int` and
arrays whose sizes are, the count stays below 2^62, so no sum of it wraps, and every call answers as
the relay's buffer does (`Lerdr.Core.SendBuffer`).
-/
import Lerdr.Core.SendBuffer
import Lerdr.Kotlin.Runtime

namespace Lerdr.Transport

open Lerdr.Rust (Bytes)
open Lerdr.Core Lerdr.Kotlin

/-! ## §1 — the client's buffer -/

/-- `ClientSendBuffer`, without the channel that wakes a suspended `pop`. -/
structure ClientSendBuffer where
  items : List BufferedMessage := []
  bytes : Int := 0
  maxItems : Int
  maxBytes : Int
  closed : Bool := false
  deriving DecidableEq, Repr

namespace ClientSendBuffer

def pushTyped (b : ClientSendBuffer) (data : Bytes) (kind : String) (replaceable : Bool) :
    PushResult × ClientSendBuffer :=
  if b.closed then (.rejected .closed, b)
  else match replaceableTail b.items kind replaceable with
    | some tail =>
      let nextBytes := plus (minus b.bytes tail.data.length) data.length
      if b.maxBytes < nextBytes then (.rejected .coalesceByteLimit, b)
      else (.coalesced, { b with items := setTail b.items tail data, bytes := nextBytes })
    | none =>
      if b.maxItems ≤ b.items.length then (.rejected .itemLimit, b)
      else if b.maxBytes < plus b.bytes data.length then (.rejected .byteLimit, b)
      else (.queued, { b with
        items := b.items ++ [{ data, kind, replaceable }]
        bytes := plus b.bytes data.length })

def tryPop (b : ClientSendBuffer) : Option Bytes × ClientSendBuffer :=
  match b.items with
  | [] => (none, b)
  | item :: items => (some item.data, { b with items, bytes := minus b.bytes item.data.length })

def close (b : ClientSendBuffer) : ClientSendBuffer := { b with closed := true }

def call (b : ClientSendBuffer) : BufferCall → BufferReply × ClientSendBuffer
  | .pushTyped data kind replaceable =>
    let pushed := b.pushTyped data kind replaceable
    (.pushed pushed.1, pushed.2)
  | .pop =>
    let popped := b.tryPop
    (.popped popped.1, popped.2)
  | .close => (.closed, b.close)

end ClientSendBuffer

/-! ## §2 — both buffers, call by call -/

/-- A call whose payload is a `ByteArray`: its size is an `Int`. -/
def FitsArray : BufferCall → Prop
  | .pushTyped data _ _ => data.length < 2 ^ 31
  | .pop | .close => True

instance (c : BufferCall) : Decidable (FitsArray c) := by
  cases c <;> simp only [FitsArray] <;> infer_instance

/-- The client's buffer that holds what the relay's holds. -/
def mirror (b : SendBuffer) : ClientSendBuffer :=
  { items := b.items, bytes := b.bytes, maxItems := b.maxItems, maxBytes := b.maxBytes,
    closed := b.closed }

/-- **A buffer of which no count can wrap.** -/
structure Bounded (b : SendBuffer) : Prop where
  valid : b.Valid
  few : b.maxItems < 2 ^ 31
  small : ∀ item ∈ b.items, item.data.length < 2 ^ 31

/-- So many arrays, of such sizes. -/
theorem queuedBytes_le {items : List BufferedMessage} {size : Nat}
    (h : ∀ item ∈ items, item.data.length < size) : queuedBytes items ≤ items.length * size := by
  induction items with
  | nil => simp [queuedBytes]
  | cons item items ih =>
    obtain ⟨hitem, hrest⟩ := List.forall_mem_cons.mp h
    have hsum := ih hrest
    simp only [queuedBytes, List.map_cons, List.sum_cons, List.length_cons, Nat.succ_mul] at hsum ⊢
    omega

/-- Adding the size of an array does not wrap. -/
theorem plus_size {n size : Nat} (hn : n < 2 ^ 62) (hsize : size < 2 ^ 31) :
    plus (n : Int) (size : Int) = ((n + size : Nat) : Int) := by
  have hmin : longMin = -2 ^ 63 := rfl
  have hmax : longMax = 2 ^ 63 - 1 := rfl
  rw [plus_eq (by omega) (by omega)]
  push_cast
  rfl

/-- Nor does subtracting that of a queued one. -/
theorem minus_size {n size : Nat} (hn : n < 2 ^ 62) (hle : size ≤ n) :
    minus (n : Int) (size : Int) = ((n - size : Nat) : Int) := by
  have hmin : longMin = -2 ^ 63 := rfl
  have hmax : longMax = 2 ^ 63 - 1 := rfl
  rw [minus, Int.bmod_eq_of_le (by omega) (by omega)]
  omega

namespace Bounded

variable {b : SendBuffer}

/-- The count is far from the end of a `Long`. -/
theorem bytes_lt (h : Bounded b) : b.bytes < 2 ^ 62 := by
  have hlength : b.items.length < 2 ^ 31 := lt_of_le_of_lt h.valid.items h.few
  calc b.bytes = queuedBytes b.items := h.valid.bytes
    _ ≤ b.items.length * 2 ^ 31 := queuedBytes_le h.small
    _ < 2 ^ 31 * 2 ^ 31 := (Nat.mul_lt_mul_right (by decide)).mpr hlength
    _ = 2 ^ 62 := by decide

theorem size_le_bytes (h : Bounded b) {item : BufferedMessage} (hitem : item ∈ b.items) :
    item.data.length ≤ b.bytes := by
  rw [h.valid.bytes]
  exact List.le_sum_of_mem (List.mem_map_of_mem hitem)

/-- A push on the client's buffer is the push on the relay's. -/
theorem pushTyped_mirror (h : Bounded b) {data : Bytes} (hdata : data.length < 2 ^ 31)
    (kind : String) (replaceable : Bool) :
    (mirror b).pushTyped data kind replaceable =
      ((b.pushTyped data kind replaceable).1, mirror (b.pushTyped data kind replaceable).2) := by
  have hlt := h.bytes_lt
  have hle : ∀ tail ∈ b.items, tail.data.length ≤ b.bytes := fun _ => h.size_le_bytes
  obtain ⟨items, bytes, maxItems, maxBytes, closed⟩ := b
  simp only [SendBuffer.pushTyped, ClientSendBuffer.pushTyped, mirror] at hlt hle ⊢
  cases closed with
  | true => rfl
  | false =>
    simp only [Bool.false_eq_true, if_false]
    cases htail : replaceableTail items kind replaceable with
    | some tail =>
      obtain ⟨-, -, -, before, hitems⟩ := replaceableTail_eq_some htail
      have htailLe := hle tail (by rw [hitems]; simp)
      have hnext : plus (minus bytes tail.data.length) data.length
          = ((bytes - tail.data.length + data.length : Nat) : Int) := by
        rw [minus_size hlt htailLe, plus_size (by omega) hdata]
      simp only [hnext, Nat.cast_lt]
      split <;> rfl
    | none =>
      simp only [plus_size hlt hdata, Nat.cast_lt, Nat.cast_le]
      split
      · rfl
      · split <;> rfl

theorem tryPop_mirror (h : Bounded b) :
    (mirror b).tryPop = (b.pop.1, mirror b.pop.2) := by
  have hlt := h.bytes_lt
  have hle : ∀ item ∈ b.items, item.data.length ≤ b.bytes := fun _ => h.size_le_bytes
  obtain ⟨items, bytes, maxItems, maxBytes, closed⟩ := b
  cases items with
  | nil => rfl
  | cons item items =>
    simp only [SendBuffer.pop, ClientSendBuffer.tryPop, mirror] at hlt hle ⊢
    rw [minus_size hlt (hle item List.mem_cons_self)]

/-- **Every call of the client's buffer is the relay's.** -/
theorem call_mirror (h : Bounded b) {c : BufferCall} (hc : FitsArray c) :
    (mirror b).call c = ((b.call c).1, mirror (b.call c).2) := by
  cases c with
  | pushTyped data kind replaceable =>
    simp only [ClientSendBuffer.call, SendBuffer.call, h.pushTyped_mirror hc]
  | pop => simp only [ClientSendBuffer.call, SendBuffer.call, h.tryPop_mirror]
  | close => rfl

/-- What is queued after a call was queued before, or is its payload. -/
theorem call (h : Bounded b) {c : BufferCall} (hc : FitsArray c) : Bounded (b.call c).2 := by
  refine ⟨h.valid.call c, (b.call_maxItems c).1 ▸ h.few, ?_⟩
  cases c with
  | pushTyped data kind replaceable =>
    show ∀ item ∈ (b.pushTyped data kind replaceable).2.items, item.data.length < 2 ^ 31
    have hlast : ∀ (before : List BufferedMessage) (last : BufferedMessage),
        (∀ item ∈ before, item.data.length < 2 ^ 31) → last.data = data →
        ∀ item ∈ before ++ [last], item.data.length < 2 ^ 31 := by
      intro before last hbefore hdata item hitem
      rcases List.mem_append.mp hitem with hmem | hmem
      · exact hbefore item hmem
      · rw [List.mem_singleton.mp hmem, hdata]
        exact hc
    rcases b.pushTyped_cases data kind replaceable with
      ⟨_, heq⟩ | ⟨before, tail, hitems, -, -, -, -, heq⟩ | ⟨-, -, heq⟩
    · rw [heq]
      exact h.small
    · rw [heq]
      refine hlast before _ (fun item hitem => h.small item ?_) rfl
      rw [hitems]
      exact List.mem_append_left _ hitem
    · rw [heq]
      exact hlast b.items _ h.small rfl
  | pop =>
    show ∀ item ∈ b.pop.2.items, item.data.length < 2 ^ 31
    unfold SendBuffer.pop
    split
    · exact h.small
    · rename_i item items hitems
      exact fun other hother => h.small other (by rw [hitems]; exact List.mem_cons_of_mem _ hother)
  | close => exact h.small

end Bounded

/-! ## §3 — the specification of both -/

/-- **The send buffer.** After every sequence of calls the count is that of the queued bytes, both
caps are kept, a rejected push changes nothing, and what was popped and what is queued is what is
left of the admissions. The client's buffer of the same capacities gives the same replies and queues
the same messages. -/
theorem sendBuffer_spec (maxItems maxBytes : Nat) (calls : List BufferCall) :
    (runCalls SendBuffer.call (.withCapacity maxItems maxBytes) calls).2.bytes
        = queuedBytes (runCalls SendBuffer.call (.withCapacity maxItems maxBytes) calls).2.items ∧
    (runCalls SendBuffer.call (.withCapacity maxItems maxBytes) calls).2.items.length ≤ maxItems ∧
    (runCalls SendBuffer.call (.withCapacity maxItems maxBytes) calls).2.bytes ≤ maxBytes ∧
    (∀ data kind replaceable reason,
      ((runCalls SendBuffer.call (.withCapacity maxItems maxBytes) calls).2.pushTyped data kind
        replaceable).1 = .rejected reason →
      ((runCalls SendBuffer.call (.withCapacity maxItems maxBytes) calls).2.pushTyped data kind
        replaceable).2 = (runCalls SendBuffer.call (.withCapacity maxItems maxBytes) calls).2) ∧
    popped (runCalls SendBuffer.call (.withCapacity maxItems maxBytes) calls).1 ++
        (runCalls SendBuffer.call (.withCapacity maxItems maxBytes) calls).2.items.map
          BufferedMessage.data
      = collapse (admissions calls
          (runCalls SendBuffer.call (.withCapacity maxItems maxBytes) calls).1) ∧
    (maxItems < 2 ^ 31 → (∀ c ∈ calls, FitsArray c) →
      (runCalls ClientSendBuffer.call { maxItems, maxBytes } calls).1
          = (runCalls SendBuffer.call (.withCapacity maxItems maxBytes) calls).1 ∧
        (runCalls ClientSendBuffer.call { maxItems, maxBytes } calls).2.items
          = (runCalls SendBuffer.call (.withCapacity maxItems maxBytes) calls).2.items) := by
  have hstart : (SendBuffer.withCapacity maxItems maxBytes).Valid :=
    ⟨rfl, Nat.zero_le _, Nat.zero_le _⟩
  have hvalid := hstart.run calls
  obtain ⟨hmaxItems, hmaxBytes⟩ := (SendBuffer.withCapacity maxItems maxBytes).run_maxItems calls
  refine ⟨hvalid.bytes, hvalid.items.trans_eq hmaxItems, hvalid.fits.trans_eq hmaxBytes, ?_, ?_, ?_⟩
  · intro data kind replaceable reason hrejected
    rcases SendBuffer.pushTyped_cases _ data kind replaceable with
      ⟨_, heq⟩ | ⟨_, _, _, _, _, _, _, heq⟩ | ⟨_, _, heq⟩
    · rw [heq]
    · rw [heq] at hrejected
      cases hrejected
    · rw [heq] at hrejected
      cases hrejected
  · have hempty : ([] : List Bytes) ++
        (SendBuffer.withCapacity maxItems maxBytes).items.map BufferedMessage.data
        = collapse [] := rfl
    exact SendBuffer.run_collapse hempty calls
  · intro hfew hcalls
    have hbounded : Bounded (.withCapacity maxItems maxBytes) :=
      ⟨hstart, hfew, by simp [SendBuffer.withCapacity]⟩
    have hagree : ∀ c ∈ calls, ∀ b k, (k = mirror b ∧ Bounded b) →
        (SendBuffer.call b c).1 = (ClientSendBuffer.call k c).1 ∧
          (ClientSendBuffer.call k c).2 = mirror (SendBuffer.call b c).2 ∧
          Bounded (SendBuffer.call b c).2 := by
      rintro c hc b _ ⟨rfl, hb⟩
      rw [hb.call_mirror (hcalls c hc)]
      exact ⟨rfl, rfl, hb.call (hcalls c hc)⟩
    obtain ⟨hreplies, hfinal, -⟩ := runCalls_agree
      (R := fun b k => k = mirror b ∧ Bounded b) hagree ⟨rfl, hbounded⟩
    refine ⟨hreplies.symm, ?_⟩
    show (runCalls ClientSendBuffer.call (mirror (.withCapacity maxItems maxBytes)) calls).2.items
      = _
    rw [hfinal]
    rfl

/-- Two replaceable messages of one type, one that does not fit, and two pops. -/
def sampleCalls : List BufferCall :=
  [.pushTyped [1, 2] "agents" true, .pushTyped [3] "agents" true, .pushTyped [4, 5] "receipt" false,
    .pushTyped [6, 7, 8] "receipt" false, .pop, .pop]

theorem sendBuffer_spec_sample :
    (runCalls ClientSendBuffer.call { maxItems := (3 : Nat), maxBytes := (4 : Nat) } sampleCalls).1
      = [.pushed .queued, .pushed .coalesced, .pushed .queued, .pushed (.rejected .byteLimit),
          .popped (some [3]), .popped (some [4, 5])] := by
  have hspec := (sendBuffer_spec 3 4 sampleCalls).2.2.2.2.2 (by decide) (by decide)
  rw [hspec.1]
  decide

end Lerdr.Transport
