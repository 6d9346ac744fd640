/-
# Lerdr.E2ee.Channel — two sessions and an adversary on the wire.

An endpoint is named by the direction it sends in: `c2s` is the client, `s2c` the server. The
adversary decides everything about the wire: at any point it hands any byte string to either
endpoint, so frames are dropped, duplicated, reordered, reflected, re-encoded and forged. `World`
keeps, besides the two sessions, the cipher calls made so far and the plaintexts sealed and accepted
by each endpoint. What carries the proof is `Sound.calls`: the calls of an endpoint are the
plaintexts it sealed, numbered.
-/
import Lerdr.E2ee.Session
import Lerdr.Lib.Consecutive
import Mathlib.Data.List.Infix

namespace Lerdr.E2ee

/-- The two endpoints and the history of the wire. -/
structure World where
  endpoint : Direction → Endpoint
  calls : Direction → List AeadCall
  sealed : Direction → List Bytes
  accepted : Direction → List Bytes

/-- What happens next: an endpoint seals, or the adversary delivers some bytes to it. -/
inductive ChannelEvent where
  | send (direction : Direction) (plaintext : Bytes)
  | deliver (direction : Direction) (rawFrame : Bytes)

namespace World

/-- Both sessions fresh, over the same keys and codec; each endpoint may be of either kind. -/
def new (keys : SessionKeys) (codec : Codec) (impl : Direction → Implementation) : World where
  endpoint d := .new keys codec d (impl d)
  calls _ := []
  sealed _ := []
  accepted _ := []

/-- Everything the cipher has ever sealed under either key. -/
def allCalls (w : World) : List AeadCall := w.calls .c2s ++ w.calls .s2c

section Steps

variable (cipher : Cipher) (libs : Libs)

/-- What an event does to the two ends. -/
def step (w : World) : ChannelEvent → World
  | .send d plaintext =>
    match (w.endpoint d).sealFrame cipher libs plaintext with
    | (e, some (_, call)) =>
      { w with endpoint := Function.update w.endpoint d e
               calls := Function.update w.calls d (w.calls d ++ [call])
               sealed := Function.update w.sealed d (w.sealed d ++ [plaintext]) }
    | (e, none) => { w with endpoint := Function.update w.endpoint d e }
  | .deliver d rawFrame =>
    match (w.endpoint d).openFrame w.allCalls libs rawFrame with
    | (e, some plaintext) =>
      { w with endpoint := Function.update w.endpoint d e
               accepted := Function.update w.accepted d (w.accepted d ++ [plaintext]) }
    | (e, none) => { w with endpoint := Function.update w.endpoint d e }

def run (w : World) (events : List ChannelEvent) : World := events.foldl (step cipher libs) w

end Steps

/-! ## §1 — the invariant -/

structure Sound (keys : SessionKeys) (w : World) : Prop where
  sendKey : ∀ d, (w.endpoint d).sendKey = keys.key d
  receiveKey : ∀ d, (w.endpoint d).receiveKey = keys.key d.peer
  sendDirection : ∀ d, (w.endpoint d).sendDirection = d
  receiveDirection : ∀ d, (w.endpoint d).receiveDirection = d.peer
  sent : ∀ d, (w.endpoint d).sendSequence = (w.sealed d).length
  received : ∀ d, (w.endpoint d).receiveSequence = (w.accepted d).length
  capped : ∀ d, (w.sealed d).length ≤ maxSequence + 1
  calls : ∀ d, ((w.calls d).map fun c => (c.key, c.nonce, c.aad, c.plaintext))
    = (w.sealed d).mapIdx fun n plaintext => (keys.key d, frameNonce n, aad d n, plaintext)
  accepted : ∀ d, w.accepted d <+: w.sealed d.peer

theorem sound_new (keys : SessionKeys) (codec : Codec) (impl : Direction → Implementation) :
    Sound keys (new keys codec impl) := by
  have h := fun d => Endpoint.new_spec keys codec d (impl d)
  exact ⟨fun d => (h d).1, fun d => (h d).2.1, fun d => (h d).2.2.1, fun d => (h d).2.2.2.1,
    fun d => (h d).2.2.2.2.1, fun d => (h d).2.2.2.2.2, fun d => by simp [new],
    fun d => by simp [new], fun d => List.nil_prefix⟩

/-- Every cipher call is one of the numbered plaintexts of the endpoint that made it. -/
theorem Sound.call_spec {keys : SessionKeys} {w : World} (h : Sound keys w) {d : Direction}
    {call : AeadCall} (hcall : call ∈ w.calls d) :
    ∃ n, n ≤ maxSequence ∧ (w.sealed d)[n]? = some call.plaintext ∧
      call.key = keys.key d ∧ call.nonce = frameNonce n ∧ call.aad = aad d n := by
  have hmem : (call.key, call.nonce, call.aad, call.plaintext)
      ∈ (w.sealed d).mapIdx fun n plaintext =>
        (keys.key d, frameNonce n, aad d n, plaintext) := by
    rw [← h.calls d]
    exact List.mem_map_of_mem hcall
  obtain ⟨n, hn, heq⟩ := List.mem_mapIdx.mp hmem
  simp only [Prod.mk.injEq] at heq
  obtain ⟨hkey, hnonce, haad, hplain⟩ := heq
  have hcap := h.capped d
  exact ⟨n, by omega, by rw [List.getElem?_eq_getElem hn, hplain], hkey.symm, hnonce.symm,
    haad.symm⟩

/-- **What an endpoint opens at its next sequence is what the peer sealed there.** The additional
data carries the direction, so a reflected frame fails. -/
theorem Sound.opened {keys : SessionKeys} {w : World} (h : Sound keys w) {d : Direction}
    {call : AeadCall} {n : Nat} (hcall : call ∈ w.allCalls) (hmax : n ≤ maxSequence)
    (haad : call.aad = aad (w.endpoint d).receiveDirection n) :
    (w.sealed d.peer)[n]? = some call.plaintext := by
  obtain ⟨d', hd'⟩ : ∃ d', call ∈ w.calls d' := by
    rcases List.mem_append.mp hcall with hmem | hmem
    · exact ⟨.c2s, hmem⟩
    · exact ⟨.s2c, hmem⟩
  obtain ⟨m, hm, hget, -, -, haad'⟩ := h.call_spec hd'
  rw [haad', h.receiveDirection] at haad
  obtain ⟨rfl, rfl⟩ := aad_inj hm hmax haad
  exact hget

section Steps

variable {cipher : Cipher} {libs : Libs} {keys : SessionKeys}
variable {w : World}

/-- An endpoint that went on over the same channel still holds the keys of its direction. -/
theorem Sound.same_channel (h : Sound keys w) {d : Direction} {e' : Endpoint}
    (same : Endpoint.SameChannel (w.endpoint d) e') (d' : Direction) :
    (Function.update w.endpoint d e' d').sendKey = keys.key d' ∧
      (Function.update w.endpoint d e' d').receiveKey = keys.key d'.peer ∧
      (Function.update w.endpoint d e' d').sendDirection = d' ∧
      (Function.update w.endpoint d e' d').receiveDirection = d'.peer := by
  by_cases hd : d' = d
  · subst hd
    rw [Function.update_self, same.sendKey, same.receiveKey, same.sendDirection,
      same.receiveDirection]
    exact ⟨h.sendKey d', h.receiveKey d', h.sendDirection d', h.receiveDirection d'⟩
  · rw [Function.update_of_ne hd]
    exact ⟨h.sendKey d', h.receiveKey d', h.sendDirection d', h.receiveDirection d'⟩

/-- What one endpoint seals only adds to what the other may accept. -/
theorem Sound.accepted_of_send (h : Sound keys w) (d : Direction) (plaintext : Bytes)
    (d' : Direction) :
    w.accepted d' <+: Function.update w.sealed d (w.sealed d ++ [plaintext]) d'.peer := by
  by_cases hd : d'.peer = d
  · subst hd
    rw [Function.update_self]
    exact (h.accepted d').trans (List.prefix_append _ _)
  · rw [Function.update_of_ne hd]
    exact h.accepted d'

/-- **One `seal`.** The counter is the number of plaintexts sealed, so the new call carries the
number of the new plaintext. -/
theorem Sound.send (h : Sound keys w) (d : Direction) (plaintext : Bytes) :
    Sound keys (w.step cipher libs (.send d plaintext)) := by
  have hspec := Endpoint.sealFrame_spec cipher libs (w.endpoint d) plaintext
  simp only [step]
  generalize (w.endpoint d).sealFrame cipher libs plaintext = result at hspec
  cases hspec with
  | refused =>
    simp only [Function.update_eq_self]
    exact h
  | @sealed e' frame call n hseq hmax same hsend hreceive hkey hnonce haad hplain =>
    have hn : n = (w.sealed d).length := by
      have := h.sent d
      omega
    have hchannel := h.same_channel same
    refine ⟨fun d' => (hchannel d').1, fun d' => (hchannel d').2.1, fun d' => (hchannel d').2.2.1,
      fun d' => (hchannel d').2.2.2, ?_, ?_, ?_, ?_, h.accepted_of_send d plaintext⟩ <;>
      intro d' <;> by_cases hd : d' = d <;>
      simp only [Function.update_apply, hd, if_true, if_false]
    · rw [hsend, List.length_append, List.length_singleton, ← hn]
      push_cast
      rfl
    · exact h.sent d'
    · rw [hreceive, h.received]
    · exact h.received d'
    · rw [List.length_append, List.length_singleton]
      omega
    · exact h.capped d'
    · rw [List.map_append, List.mapIdx_concat, ← h.calls d, List.map_singleton, hkey, hnonce, haad,
        hplain, h.sendKey, h.sendDirection, hn]
    · exact h.calls d'

/-- **One delivery.** Whatever the bytes, an accepted plaintext is the next one of the peer. -/
theorem Sound.deliver (h : Sound keys w) (d : Direction) (rawFrame : Bytes) :
    Sound keys (w.step cipher libs (.deliver d rawFrame)) := by
  have hspec := Endpoint.openFrame_spec w.allCalls libs (w.endpoint d) rawFrame
  simp only [step]
  generalize (w.endpoint d).openFrame w.allCalls libs rawFrame = result at hspec
  cases hspec with
  | refused =>
    simp only [Function.update_eq_self]
    exact h
  | @opened e' call n hseq hmax same hreceive hsend hcall hkey hnonce haad =>
    have hn : n = (w.accepted d).length := by
      have := h.received d
      omega
    have hnext := h.opened hcall hmax haad
    have hchannel := h.same_channel same
    refine ⟨fun d' => (hchannel d').1, fun d' => (hchannel d').2.1, fun d' => (hchannel d').2.2.1,
      fun d' => (hchannel d').2.2.2, ?_, ?_, h.capped, h.calls, ?_⟩ <;>
      intro d' <;> by_cases hd : d' = d <;>
      simp only [Function.update_apply, hd, if_true, if_false]
    · rw [hsend, h.sent]
    · exact h.sent d'
    · rw [hreceive, List.length_append, List.length_singleton, ← hn]
      push_cast
      rfl
    · exact h.received d'
    · exact Lib.prefix_concat (h.accepted d) (hn ▸ hnext)
    · exact h.accepted d'

theorem sound_run (codec : Codec) (impl : Direction → Implementation)
    (events : List ChannelEvent) :
    Sound keys ((new keys codec impl).run cipher libs events) := by
  refine List.foldlRecOn events (step cipher libs) (sound_new keys codec impl) ?_
  intro w hw event _
  cases event with
  | send d plaintext => exact hw.send d plaintext
  | deliver d rawFrame => exact hw.deliver d rawFrame

end Steps

variable {keys : SessionKeys} {w : World}

/-! ## §2 — the channel -/

/-- The nonces of one endpoint are pairwise different. -/
theorem Sound.nodup_nonces (h : Sound keys w) (d : Direction) :
    ((w.calls d).map (·.nonce)).Nodup := by
  have hnonces : (w.calls d).map (·.nonce)
      = (List.range (w.sealed d).length).map frameNonce := by
    have hmap := congrArg (List.map fun q => q.2.1) (h.calls d)
    rw [List.map_map] at hmap
    refine Eq.trans hmap (List.ext_getElem (by simp) fun i hi hi' => ?_)
    simp
  rw [hnonces]
  refine List.Nodup.map_on ?_ List.nodup_range
  intro m hm n hn heq
  have hcap := h.capped d
  rw [List.mem_range] at hm hn
  exact frameNonce_inj (by omega) (by omega) heq

/-- A failed `open` is no step at all. -/
theorem deliver_of_refused (cipher : Cipher) (libs : Libs) (w : World) (d : Direction)
    (rawFrame : Bytes) (hfail : ((w.endpoint d).openFrame w.allCalls libs rawFrame).2 = none) :
    ((w.endpoint d).openFrame w.allCalls libs rawFrame).1 = w.endpoint d ∧
      w.step cipher libs (.deliver d rawFrame) = w := by
  have hspec := Endpoint.openFrame_spec w.allCalls libs (w.endpoint d) rawFrame
  simp only [step]
  generalize (w.endpoint d).openFrame w.allCalls libs rawFrame = result at hspec hfail
  cases hspec with
  | refused => exact ⟨rfl, by simp only [Function.update_eq_self]⟩
  | opened => cases hfail

/-- The calls of one endpoint never share key and nonce. -/
theorem Sound.nodup_calls (h : Sound keys w) (d : Direction) :
    ((w.calls d).map fun c => (c.key, c.nonce)).Nodup := by
  refine List.Nodup.of_map Prod.snd ?_
  rw [List.map_map]
  exact h.nodup_nonces d

/-- Nor do the calls of both, when the two direction keys differ. -/
theorem Sound.nodup_allCalls (h : Sound keys w)
    (hkeys : keys.c2s ≠ keys.s2c) : (w.allCalls.map fun c => (c.key, c.nonce)).Nodup := by
  rw [allCalls, List.map_append, List.nodup_append]
  refine ⟨h.nodup_calls .c2s, h.nodup_calls .s2c, ?_⟩
  intro p hp q hq heq
  obtain ⟨c, hc, rfl⟩ := List.mem_map.mp hp
  obtain ⟨c', hc', rfl⟩ := List.mem_map.mp hq
  obtain ⟨-, -, -, hkey, -⟩ := h.call_spec hc
  obtain ⟨-, -, -, hkey', -⟩ := h.call_spec hc'
  have := congrArg Prod.fst heq
  simp only [hkey, hkey'] at this
  exact hkeys this

theorem Sound.length_calls (h : Sound keys w) (d : Direction) :
    (w.calls d).length = (w.sealed d).length := by
  simpa using congrArg List.length (h.calls d)

/-- **Exhaustion.** An endpoint that has used every sequence number seals nothing more. -/
theorem Sound.exhausted (h : Sound keys w) {d : Direction}
    (hfull : (w.calls d).length = maxSequence + 1) (cipher : Cipher) (libs : Libs)
    (plaintext : Bytes) :
    (w.endpoint d).sealFrame cipher libs plaintext = (w.endpoint d, none) := by
  have hspec := Endpoint.sealFrame_spec cipher libs (w.endpoint d) plaintext
  have hsent := h.sent d
  generalize (w.endpoint d).sealFrame cipher libs plaintext = result at hspec
  cases hspec with
  | refused => rfl
  | sealed hseq hmax =>
    rw [h.length_calls d] at hfull
    omega

/-- **The record channel.** For any cipher and any codec libraries, either implementation at either
end, and every run in which the endpoints seal what they like and the adversary delivers what it
likes: what an endpoint accepted is a prefix of what its peer sealed; an `open` that fails changes
nothing; no endpoint seals twice under one key and nonce, nor do the two of them when their keys
differ; and an endpoint whose sequence numbers are used up refuses every further `seal` without
calling the cipher. -/
theorem record_channel (cipher : Cipher) (libs : Libs) (keys : SessionKeys) (codec : Codec)
    (impl : Direction → Implementation) (events : List ChannelEvent) :
    let w := (new keys codec impl).run cipher libs events
    (∀ d, w.accepted d <+: w.sealed d.peer) ∧
    (∀ d rawFrame, ((w.endpoint d).openFrame w.allCalls libs rawFrame).2 = none →
      ((w.endpoint d).openFrame w.allCalls libs rawFrame).1 = w.endpoint d ∧
      w.step cipher libs (.deliver d rawFrame) = w) ∧
    (∀ d, ((w.calls d).map fun c => (c.key, c.nonce)).Nodup) ∧
    (keys.c2s ≠ keys.s2c → (w.allCalls.map fun c => (c.key, c.nonce)).Nodup) ∧
    (∀ d, (w.calls d).length ≤ maxSequence + 1 ∧
      ((w.calls d).length = maxSequence + 1 → ∀ plaintext,
        (w.endpoint d).sealFrame cipher libs plaintext = (w.endpoint d, none))) := by
  intro w
  have hw : Sound keys w := sound_run codec impl events
  refine ⟨hw.accepted, deliver_of_refused cipher libs w, hw.nodup_calls, hw.nodup_allCalls, ?_⟩
  intro d
  exact ⟨hw.length_calls d ▸ hw.capped d, fun hfull => hw.exhausted hfull cipher libs⟩

-- The first frame of a Rust client opens at a Kotlin server, once, and not back at the client.
example :
    let keys : SessionKeys :=
      ⟨List.replicate 32 0x11, List.replicate 32 0x22, by decide, by decide⟩
    let libs : Libs := ⟨⟨fun _ => none, fun _ => [], fun _ => none⟩,
      ⟨fun _ => none, fun _ => [], fun _ => none⟩⟩
    let frame := binaryFrame 0 [7, 7]
    let w := (World.new keys .binary fun d => if d = .c2s then .rust else .kotlin).run
      (fun _ _ _ _ => some [7, 7]) libs
      [.send .c2s [104, 105], .deliver .c2s frame, .deliver .s2c frame, .deliver .s2c frame]
    w.accepted .s2c = [[104, 105]] ∧ w.accepted .c2s = [] := by
  decide +kernel

end World

end Lerdr.E2ee
