/-
# Lerdr.Auth.Guesses — how many wrong proofs an invitation takes.

The store counts a failed proof when it is recorded, and checks the count and the backoff when the
secret is resolved. Between the two the driver verifies the proof with the lock free. While no two
handshakes against one invitation are in that stretch at the same time, the record of the store and
the history agree (`Ledger`), and an instance takes at most five wrong proofs, the `k`-th and the
next one `1000 * 2 ^ (k - 1)` milliseconds apart. Handshakes that overlap there all pass the check
before the first failure counts.
-/
import Lerdr.Auth.Exchange
import Lerdr.Auth.Invariant
import Lerdr.E2ee.Separation

namespace Lerdr.Auth

variable {times : List Int} {now : Int}

open Lib Lerdr.Rust
open Lerdr.E2ee (Bytes AuthSelector secretBytes HandshakeLib parseClientHello)
open AuthState

/-! ## §1 — times that keep the backoff -/

/-- Each time is followed by the backoff of its place: 1000, 2000, 4000, … milliseconds. -/
def Spaced (times : List Int) : Prop :=
  ∀ (k : Nat) (t u : Int), times[k]? = some t → times[k + 1]? = some u → t + 1000 * 2 ^ k ≤ u

theorem spaced_nil : Spaced [] := nofun

theorem spaced_concat {u : Int} :
    Spaced (times ++ [u]) ↔ Spaced times ∧
      ∀ (k : Nat) (t : Int), times[k]? = some t → times.length = k + 1 → t + 1000 * 2 ^ k ≤ u := by
  constructor
  · intro h
    refine ⟨?_, ?_⟩
    · intro k t v ht hv
      obtain ⟨hk, -⟩ := List.getElem?_eq_some_iff.mp hv
      refine h k t v ?_ ?_
      · rw [List.getElem?_append_left (by omega), ht]
      · rw [List.getElem?_append_left hk, hv]
    · intro k t ht hlength
      refine h k t u ?_ ?_
      · rw [List.getElem?_append_left (by omega), ht]
      · rw [List.getElem?_append_right (by omega), hlength, Nat.sub_self]
        rfl
  · rintro ⟨hspaced, hlast⟩ k t v ht hv
    have hk : k + 1 < times.length + 1 := by
      obtain ⟨hlt, -⟩ := List.getElem?_eq_some_iff.mp hv
      rwa [List.length_append, List.length_singleton] at hlt
    rw [List.getElem?_append_left (by omega)] at ht
    by_cases hend : times.length = k + 1
    · rw [← hend, List.getElem?_append_right (le_refl _), Nat.sub_self] at hv
      obtain rfl : u = v := by simpa using hv
      exact hlast k t ht hend
    · rw [List.getElem?_append_left (by omega)] at hv
      exact hspaced k t v ht hv

theorem Spaced.later {u v : Int} (h : Spaced (times ++ [u])) (huv : u ≤ v) :
    Spaced (times ++ [v]) := by
  rw [spaced_concat] at h ⊢
  exact ⟨h.1, fun k t ht hlength => (h.2 k t ht hlength).trans huv⟩

/-- A backoff from now on of at least the last place's keeps the times spaced. -/
theorem Spaced.backoff {n : Nat} (h : Spaced times)
    (hpast : ∀ t ∈ times, t ≤ now) (hn : times.length ≤ n + 1) :
    Spaced (times ++ [now + 1000 * 2 ^ n]) := by
  rw [spaced_concat]
  refine ⟨h, ?_⟩
  intro k t ht hlength
  have ht' : t ≤ now := hpast t (List.mem_of_getElem? ht)
  have hpow : (2 : Int) ^ k ≤ 2 ^ n := pow_le_pow_right₀ (by norm_num) (by omega)
  omega

/-! ## §2 — what the store records -/

/-- A clock reading to which a backoff can be added. -/
def InRange (now : Int) : Prop := -2 ^ 63 ≤ now ∧ now + 8000 < 2 ^ 63

instance (now : Int) : Decidable (InRange now) := inferInstanceAs (Decidable (_ ∧ _))

/-- The invitation accounts for the wrong proofs so far: each is counted, and the next attempt is
admitted only after the backoff. -/
def Counted (times : List Int) (i : Invitation) : Prop :=
  times.length ≤ i.failedAttempts.toNat ∧ Spaced (times ++ [i.nextAttemptAtMs])

theorem toNat_lt_of_limit {i : Invitation} (h : i.failedAttempts < maxInviteAttempts) :
    i.failedAttempts.toNat < 5 := UInt32.lt_iff_toNat_lt.mp h

/-- The charge counts one more failure and sets the backoff of its place. -/
theorem counted_charge {i : Invitation} (hspaced : Spaced times)
    (hpast : ∀ t ∈ times, t ≤ now) (hnow : InRange now)
    (hlimit : i.failedAttempts < maxInviteAttempts)
    (hlimit' : i.failedAttempts + 1 < maxInviteAttempts)
    (hn : times.length ≤ i.failedAttempts.toNat + 1) : Counted times (charge i now) := by
  have hlt := toNat_lt_of_limit hlimit
  have hsucc : (i.failedAttempts + 1).toNat = i.failedAttempts.toNat + 1 := by
    rw [UInt32.toNat_add, UInt32.toNat_one]
    omega
  have hlt' : i.failedAttempts.toNat + 1 < 5 := hsucc ▸ UInt32.lt_iff_toNat_lt.mp hlimit'
  have hplace : (i.failedAttempts + 1 - 1).toNat % 64 = i.failedAttempts.toNat := by
    rw [UInt32.add_sub_cancel]
    omega
  have hpow : (2 : Int) ^ i.failedAttempts.toNat ≤ 2 ^ 3 :=
    pow_le_pow_right₀ (by norm_num) (by omega)
  have hpos : (0 : Int) < 2 ^ i.failedAttempts.toNat := by positivity
  obtain ⟨hlo, hhi⟩ := hnow
  have hnext : (charge i now).nextAttemptAtMs = now + 1000 * 2 ^ i.failedAttempts.toNat := by
    simp only [charge, hplace]
    exact addI64_eq (by omega) (by omega)
  refine ⟨?_, ?_⟩
  · simp only [charge, hsucc]
    exact hn
  · rw [hnext]
    exact hspaced.backoff hpast hn

/-- Within an instance: the same invitation, with the attempts as they were or one more. -/
structure Continues (now : Int) (i i' : Invitation) : Prop where
  invitationId : i'.invitationId = i.invitationId
  version : i'.version = i.version
  attempts : (i'.failedAttempts = i.failedAttempts ∧ i'.nextAttemptAtMs = i.nextAttemptAtMs) ∨
    (i.failedAttempts + 1 < maxInviteAttempts ∧ i' = charge i now)

theorem Continues.refl (now : Int) (i : Invitation) : Continues now i i :=
  ⟨rfl, rfl, .inl ⟨rfl, rfl⟩⟩

theorem Continues.counted {i i' : Invitation}
    (h : Continues now i i') (hspaced : Spaced times) (hpast : ∀ t ∈ times, t ≤ now)
    (hnow : InRange now) (hlimit : i.failedAttempts < maxInviteAttempts) (hi : Counted times i) :
    Counted times i' := by
  rcases h.attempts with ⟨hfailed, hnext⟩ | ⟨hlimit', rfl⟩
  · unfold Counted
    rw [hfailed, hnext]
    exact hi
  · exact counted_charge hspaced hpast hnow hlimit hlimit' (Nat.le_succ_of_le hi.1)

theorem Continues.behind {n : Nat} {i i' : Invitation} (h : Continues now i i')
    (hlimit : i.failedAttempts < maxInviteAttempts) (hn : n ≤ i.failedAttempts.toNat + 1) :
    n ≤ i'.failedAttempts.toNat + 1 := by
  rcases h.attempts with ⟨hfailed, -⟩ | ⟨-, rfl⟩
  · rw [hfailed]
    exact hn
  · have hlt := toNat_lt_of_limit hlimit
    simp only [charge, UInt32.toNat_add, UInt32.toNat_one]
    omega

section
variable {tape : Tape}

theorem StoreStep.continues {c c' : StoreCore} {t : Transaction} (h : StoreStep tape c t c')
    (hbegins : ¬ t.Begins) {i' : Invitation} (hi' : c'.state.invitation = some i') :
    ∃ i, c.state.invitation = some i ∧ Continues t.call.now i i' := by
  have heffect := h.effect
  have hinvitation := heffect.invitation
  rw [hi'] at hinvitation
  generalize hinv : c.state.invitation = inv at hinvitation
  cases hinvitation with
  | same => exact ⟨i', rfl, .refl _ _⟩
  | @rearmed i expires heq => exact ⟨i, heq, ⟨rfl, rfl, .inl ⟨rfl, rfl⟩⟩⟩
  | @charged i heq hlimit => exact ⟨i, heq, ⟨rfl, rfl, .inr ⟨hlimit, rfl⟩⟩⟩
  | @reserved i id heq hpending hdrawn => exact ⟨i, heq, ⟨rfl, rfl, .inl ⟨rfl, rfl⟩⟩⟩
  | installed hop hinstalled =>
    have hunmutated : t.mutated = false := Bool.eq_false_iff.mpr fun hm => hbegins ⟨hop, hm⟩
    rw [heffect.unmutated hunmutated, hinv] at hi'
    exact ⟨i', hi', .refl _ _⟩

theorem StoreStep.limit {c c' : StoreCore} {t : Transaction} (h : StoreStep tape c t c')
    (hc : ∀ i, c.state.invitation = some i → i.failedAttempts < maxInviteAttempts) :
    ∀ i, c'.state.invitation = some i → i.failedAttempts < maxInviteAttempts := by
  have hinvitation := h.effect.invitation
  generalize c'.state.invitation = inv' at hinvitation
  cases hinvitation with
  | same => exact hc
  | dropped => exact nofun
  | @rearmed i expires heq =>
    rintro _ ⟨⟩
    exact hc i heq
  | charged heq hlimit =>
    rintro _ ⟨⟩
    exact hlimit
  | @reserved i id heq hpending hdrawn =>
    rintro _ ⟨⟩
    exact hc i heq
  | installed hop hinstalled =>
    rintro _ ⟨⟩
    rw [hinstalled.failedAttempts]
    decide

/-- A resolved secret of an invitation: the invitation is there, under the limit and past its
backoff, and stays as it is. -/
theorem resolveInvitation_ok {s : AuthState} {selector : AuthSelector} {now : Int}
    {secret : Block secretBytes} (hboot : selector.id ≠ bootstrapInvitationId)
    (h : (s.resolveInvitation selector now).result = .ok secret) :
    (s.resolveInvitation selector now).state = s ∧
      ∃ i, s.invitation = some i ∧ i.invitationId = selector.id ∧ i.version = selector.version ∧
        i.failedAttempts < maxInviteAttempts ∧ i.nextAttemptAtMs ≤ now := by
  unfold resolveInvitation at h ⊢
  cases hinv : s.invitation with
  | none => rw [hinv] at h; cases h
  | some i =>
    rw [hinv] at h
    simp only at h ⊢
    by_cases hmatch : i.invitationId ≠ selector.id ∨ i.version ≠ selector.version
    · rw [if_pos hmatch] at h
      cases h
    rw [if_neg hmatch] at h ⊢
    push Not at hmatch
    have hi : i.invitationId ≠ bootstrapInvitationId := hmatch.1 ▸ hboot
    by_cases hexpired : i.expiresAtMs ≤ now
    · rw [if_pos hexpired, if_neg (fun hrearm => hi hrearm.1)] at h
      cases h
    rw [if_neg hexpired] at h ⊢
    simp only [attempt] at h
    by_cases hburned : maxInviteAttempts ≤ i.failedAttempts
    · rw [if_pos hburned] at h
      cases h
    by_cases hlimited : now < i.nextAttemptAtMs
    · rw [if_neg hburned, if_pos hlimited] at h
      cases h
    exact ⟨rfl, i, rfl, hmatch.1, hmatch.2, UInt32.not_le.mp hburned, not_lt.mp hlimited⟩

/-- The record of a failed proof: the invitation is charged, or gone. -/
theorem recordFailedInvitation_charges {s : AuthState} {selector : AuthSelector} {now : Int}
    {i i' : Invitation} (hinv : s.invitation = some i) (hid : i.invitationId = selector.id)
    (hversion : i.version = selector.version) (hboot : selector.id ≠ bootstrapInvitationId)
    (hi' : (s.recordFailedInvitation selector now).state.invitation = some i') :
    i.failedAttempts + 1 < maxInviteAttempts ∧ i' = charge i now := by
  unfold recordFailedInvitation at hi'
  rw [hinv] at hi'
  have hmatch : ¬ (i.invitationId ≠ selector.id ∨ i.version ≠ selector.version) := by
    rw [not_or, not_not, not_not]
    exact ⟨hid, hversion⟩
  simp only [if_neg hmatch, if_neg (hid ▸ hboot)] at hi'
  by_cases hexpired : i.expiresAtMs ≤ now
  · rw [if_pos hexpired] at hi'
    cases hi'
  by_cases hburned : maxInviteAttempts ≤ i.failedAttempts + 1
  · rw [if_neg hexpired, if_pos hburned] at hi'
    cases hi'
  rw [if_neg hexpired, if_neg hburned] at hi'
  exact ⟨UInt32.not_le.mp hburned, (Option.some.inj hi').symm⟩

end

/-! ## §3 — the ledger -/

/-- The times of the wrong proofs against the instance, the bootstrap invitation's apart. -/
def guessesOf (failures : List Failure) (generation : Nat) : List Int :=
  (failures.filter fun f =>
    f.generation = generation ∧ f.invitationId ≠ bootstrapInvitationId).map (·.time)

def Exchanges.guesses (w : Exchanges) (generation : Nat) : List Int :=
  guessesOf w.failures generation

theorem guessesOf_append (xs ys : List Failure) (g : Nat) :
    guessesOf (xs ++ ys) g = guessesOf xs g ++ guessesOf ys g := by
  simp only [guessesOf, List.filter_append, List.map_append]

theorem mem_guessesOf {xs : List Failure} {g : Nat} {t : Int} (h : t ∈ guessesOf xs g) :
    ∃ f ∈ xs, f.generation = g ∧ f.time = t := by
  obtain ⟨f, hf, rfl⟩ := List.mem_map.mp h
  obtain ⟨hmem, hf⟩ := List.mem_filter.mp hf
  exact ⟨f, hmem, (of_decide_eq_true hf).1, rfl⟩

/-- The handshake holds the secret of an invitation that counts attempts, or has yet to record its
failure. -/
def Exchange.Guessing (x : Exchange) : Prop :=
  x.selector.kind = .invitation ∧ x.selector.id ≠ bootstrapInvitationId ∧
    (x.stage = .refused ∨ ∃ rawHello secret, x.stage = .resolved rawHello secret)

/-- Such a handshake is under way at the connection. -/
def Exchanges.GuessAt (w : Exchanges) (connection : Nat) (x : Exchange) : Prop :=
  w.table connection = some x ∧ x.Guessing

/-- The state of the store agrees with the history. -/
structure Ledger (w : Exchanges) : Prop where
  limit : ∀ i, w.core.state.invitation = some i → i.failedAttempts < maxInviteAttempts
  past : ∀ f ∈ w.failures, f.generation ≤ w.generation ∧ f.time ≤ w.clock
  paced : ∀ g, (w.guesses g).length ≤ 5 ∧ Spaced (w.guesses g)
  known : ∀ c x, w.table c = some x → x.generation ≤ w.generation
  matched : ∀ c x i, w.GuessAt c x → x.generation = w.generation →
    w.core.state.invitation = some i →
      i.invitationId = x.selector.id ∧ i.version = x.selector.version
  /-- At most one handshake per instance holds the secret. -/
  alone : ∀ c c' x x', w.GuessAt c x → w.GuessAt c' x' → x.generation = x'.generation → c = c'
  /-- It may fail now: under the limit, and the backoff has passed. -/
  room : ∀ c x, w.GuessAt c x → x.stage ≠ .refused →
    (w.guesses x.generation).length < 5 ∧ Spaced (w.guesses x.generation ++ [w.clock])
  /-- The count is behind by at most the failure that is not recorded yet. -/
  behind : ∀ i, w.core.state.invitation = some i → i.invitationId ≠ bootstrapInvitationId →
    (w.guesses w.generation).length ≤ i.failedAttempts.toNat + 1
  counted : ∀ i, w.core.state.invitation = some i → i.invitationId ≠ bootstrapInvitationId →
    (∀ c x, w.GuessAt c x → x.generation = w.generation → x.stage ≠ .refused) →
      Counted (w.guesses w.generation) i

namespace Ledger

variable {w : Exchanges}
variable {x : Exchange} {c : Nat} {y : Option Exchange}

theorem start {core : StoreCore} (clock : Int) (hvalid : core.state.validate = .ok ()) :
    Ledger (.start core clock) where
  limit i hi := ((validate_iff.mp hvalid).invitation i hi).failedAttempts
  past := nofun
  paced _ := ⟨Nat.zero_le _, spaced_nil⟩
  known := nofun
  matched := nofun
  alone := nofun
  room := nofun
  behind _ _ _ := Nat.zero_le _
  counted _ _ _ _ := ⟨Nat.zero_le _, spaced_concat.mpr ⟨spaced_nil, nofun⟩⟩

theorem times_le (h : Ledger w) (g : Nat) : ∀ t ∈ w.guesses g, t ≤ w.clock := by
  intro t ht
  obtain ⟨f, hf, -, rfl⟩ := mem_guessesOf ht
  exact (h.past f hf).2

theorem guesses_future (h : Ledger w) {g : Nat} (hg : w.generation < g) : w.guesses g = [] := by
  rw [List.eq_nil_iff_forall_not_mem]
  intro t ht
  obtain ⟨f, hf, rfl, -⟩ := mem_guessesOf ht
  exact absurd (h.past f hf).1 (by omega)

theorem tick (h : Ledger w) {now : Int} (hclock : w.clock ≤ now) :
    Ledger { w with clock := now } :=
  { h with
    past := fun f hf => ⟨(h.past f hf).1, (h.past f hf).2.trans hclock⟩
    room := fun c x hx hstage =>
      ⟨(h.room c x hx hstage).1, (h.room c x hx hstage).2.later hclock⟩ }

/-- A call of the store, with the handshakes as they are. -/
theorem call (h : Ledger w) (tape : Tape) {call : Call} (hclock : w.clock ≤ call.now)
    (hnow : InRange call.now) : Ledger (w.call tape call) := by
  have hstep := StoreCore.storeStep_transaction tape w.core call
  have hlimit := hstep.limit h.limit
  have htick := h.tick hclock
  by_cases hbegins : (w.core.transaction tape call).Begins
  · -- a new instance: nothing has failed against it
    have hnew : w.guesses (w.generation + 1) = [] := h.guesses_future (Nat.lt_succ_self _)
    have hgeneration : (w.call tape call).generation = w.generation + 1 := if_pos hbegins
    refine { htick with limit := hlimit, past := ?_, known := ?_, matched := ?_, behind := ?_,
                        counted := ?_ }
    · intro f hf
      rw [hgeneration]
      exact ⟨Nat.le_succ_of_le (htick.past f hf).1, (htick.past f hf).2⟩
    · intro c x hx
      rw [hgeneration]
      exact Nat.le_succ_of_le (h.known c x hx)
    · intro c x i hx hgen
      have := h.known c x hx.1
      omega
    · intro i hi hboot
      rw [hgeneration]
      show (w.guesses (w.generation + 1)).length ≤ _
      rw [hnew]
      exact Nat.zero_le _
    · intro i hi hboot _
      rw [hgeneration]
      show Counted (w.guesses (w.generation + 1)) i
      rw [hnew]
      exact ⟨Nat.zero_le _, spaced_concat.mpr ⟨spaced_nil, nofun⟩⟩
  · have hgeneration : (w.call tape call).generation = w.generation := if_neg hbegins
    refine { htick with limit := hlimit, past := ?_, known := ?_, matched := ?_, behind := ?_,
                        counted := ?_ }
    · rw [hgeneration]
      exact htick.past
    · rw [hgeneration]
      exact h.known
    · intro c x i' hx hgen hi'
      obtain ⟨i, hi, hcont⟩ := hstep.continues hbegins hi'
      rw [hcont.invitationId, hcont.version]
      exact h.matched c x i hx (hgen.trans hgeneration) hi
    · intro i' hi' hboot
      obtain ⟨i, hi, hcont⟩ := hstep.continues hbegins hi'
      rw [hgeneration]
      exact hcont.behind (h.limit i hi) (h.behind i hi (hcont.invitationId ▸ hboot))
    · intro i' hi' hboot howes
      obtain ⟨i, hi, hcont⟩ := hstep.continues hbegins hi'
      rw [hgeneration] at howes ⊢
      exact hcont.counted (h.paced _).2 (htick.times_le _) hnow (h.limit i hi)
        (h.counted i hi (hcont.invitationId ▸ hboot) howes)

theorem guessAt_put {c c' : Nat} :
    (w.put c y).GuessAt c' x ↔
      c' = c ∧ y = some x ∧ x.Guessing ∨ c' ≠ c ∧ w.GuessAt c' x := by
  unfold Exchanges.GuessAt Exchanges.put
  by_cases hc : c' = c
  · subst hc
    simp
  · simp [hc]

theorem table_put {c c' : Nat}
    (h : (w.put c y).table c' = some x) : (c' = c ∧ y = some x) ∨ w.table c' = some x := by
  have h : Function.update w.table c y c' = some x := h
  by_cases hc : c' = c
  · subst hc
    rw [Function.update_self] at h
    exact .inl ⟨rfl, h⟩
  · rw [Function.update_of_ne hc] at h
    exact .inr h

/-- A connection leaves the stretch, its failure recorded if it had one. -/
theorem put (h : Ledger w) (hy : ∀ x, y = some x → ¬ x.Guessing ∧ x.generation ≤ w.generation)
    (hpaid : ∀ x, w.GuessAt c x → x.stage = .refused → x.generation = w.generation →
      ∀ i, w.core.state.invitation = some i → i.invitationId ≠ bootstrapInvitationId →
        Counted (w.guesses w.generation) i) : Ledger (w.put c y) := by
  have hold : ∀ {c' x}, (w.put c y).GuessAt c' x → w.GuessAt c' x := by
    intro c' x hx
    rcases guessAt_put.mp hx with ⟨-, hx, hguessing⟩ | ⟨-, hx⟩
    · exact absurd hguessing (hy x hx).1
    · exact hx
  refine { h with known := ?_, matched := ?_, alone := ?_, room := ?_, counted := ?_ }
  · intro c' x hx
    rcases table_put hx with ⟨-, hx⟩ | hx
    · exact (hy x hx).2
    · exact h.known c' x hx
  · exact fun c' x i hx => h.matched c' x i (hold hx)
  · exact fun c₁ c₂ x₁ x₂ h₁ h₂ => h.alone c₁ c₂ x₁ x₂ (hold h₁) (hold h₂)
  · exact fun c' x hx => h.room c' x (hold hx)
  · intro i hi hboot howes
    -- who owes a record now: the connection itself, which has paid, or nobody
    by_cases hself : ∃ x, w.GuessAt c x ∧ x.generation = w.generation ∧ x.stage = .refused
    · obtain ⟨x, hx, hgen, hstage⟩ := hself
      exact hpaid x hx hstage hgen i hi hboot
    · refine h.counted i hi hboot ?_
      intro c' x hx hgen hstage
      by_cases hc : c' = c
      · subst hc
        exact hself ⟨x, hx, hgen, hstage⟩
      · exact howes c' x (guessAt_put.mpr (.inr ⟨hc, hx⟩)) hgen hstage

/-- A connection whose proof has not failed leaves the stretch. -/
theorem leave (h : Ledger w) (hx : w.table c = some x) (hstage : x.stage ≠ .refused)
    (hy : ∀ x, y = some x → ¬ x.Guessing ∧ x.generation ≤ w.generation) : Ledger (w.put c y) := by
  refine h.put hy ?_
  intro x' hx' hrefused
  obtain rfl := Option.some.inj (hx.symm.trans hx'.1)
  exact absurd hrefused hstage

/-- A secret is resolved while no other handshake of the instance holds it. -/
theorem resolve (h : Ledger w) {selector : AuthSelector} {rawHello : Bytes}
    {secret : Block secretBytes} (hfree : ∀ c x, w.GuessAt c x → x.generation ≠ w.generation)
    {i : Invitation} (hi : w.core.state.invitation = some i) (hid : i.invitationId = selector.id)
    (hversion : i.version = selector.version) (hboot : i.invitationId ≠ bootstrapInvitationId)
    (hnext : i.nextAttemptAtMs ≤ w.clock) :
    Ledger (w.put c (some ⟨selector, .resolved rawHello secret, w.generation⟩)) := by
  have hcounted := h.counted i hi hboot (fun c x hx hgen => absurd hgen (hfree c x hx))
  have hold : ∀ {c' x}, (w.put c (some ⟨selector, .resolved rawHello secret, w.generation⟩)).GuessAt
      c' x → (c' = c ∧ x = ⟨selector, .resolved rawHello secret, w.generation⟩) ∨
        w.GuessAt c' x := by
    intro c' x hx
    rcases guessAt_put.mp hx with ⟨hc, hx, -⟩ | ⟨-, hx⟩
    · exact .inl ⟨hc, (Option.some.inj hx).symm⟩
    · exact .inr hx
  refine { h with known := ?_, matched := ?_, alone := ?_, room := ?_, counted := ?_ }
  · intro c' x hx
    rcases table_put hx with ⟨-, hx⟩ | hx
    · obtain rfl := Option.some.inj hx
      exact le_refl _
    · exact h.known c' x hx
  · intro c' x i' hx hgen hi'
    rcases hold hx with ⟨-, rfl⟩ | hx
    · obtain rfl := Option.some.inj (hi.symm.trans hi')
      exact ⟨hid, hversion⟩
    · exact h.matched c' x i' hx hgen hi'
  · intro c₁ c₂ x₁ x₂ h₁ h₂ hgen
    rcases hold h₁ with ⟨rfl, rfl⟩ | hx₁ <;> rcases hold h₂ with ⟨rfl, rfl⟩ | hx₂
    · rfl
    · exact absurd hgen.symm (hfree c₂ x₂ hx₂)
    · exact absurd hgen (hfree c₁ x₁ hx₁)
    · exact h.alone c₁ c₂ x₁ x₂ hx₁ hx₂ hgen
  · intro c' x hx hstage
    rcases hold hx with ⟨-, rfl⟩ | hx
    · exact ⟨hcounted.1.trans_lt (toNat_lt_of_limit (h.limit i hi)), hcounted.2.later hnext⟩
    · exact h.room c' x hx hstage
  · intro i' hi' hboot' _
    obtain rfl := Option.some.inj (hi.symm.trans hi')
    exact hcounted

theorem past_refuse (h : Ledger w) (hx : w.table c = some x) :
    ∀ f ∈ w.failures ++ x.failure w.clock, f.generation ≤ w.generation ∧ f.time ≤ w.clock := by
  intro f hf
  rcases List.mem_append.mp hf with hf | hf
  · exact h.past f hf
  · cases hkind : x.selector.kind with
    | credential => simp [Exchange.failure, hkind] at hf
    | invitation =>
      obtain rfl : f = x.failedAt w.clock := by simpa [Exchange.failure, hkind] using hf
      exact ⟨h.known c x hx, le_refl _⟩

/-- A failure that does not count. -/
theorem refuse_of_not_guessing (h : Ledger w) (hx : w.table c = some x)
    (hguessing : ¬ Exchange.Guessing { x with stage := .refused }) (hfree : ¬ x.Guessing) :
    Ledger (w.refuse c x) := by
  have hnone : ∀ g, guessesOf (w.failures ++ x.failure w.clock) g = guessesOf w.failures g := by
    intro g
    rw [guessesOf_append]
    cases hkind : x.selector.kind with
    | credential => simp [Exchange.failure, hkind, guessesOf]
    | invitation =>
      have hboot : x.selector.id = bootstrapInvitationId := by
        by_contra hne
        exact hguessing ⟨hkind, hne, .inl rfl⟩
      simp [Exchange.failure, hkind, guessesOf, Exchange.failedAt, hboot]
  have hnoted : Ledger { w with failures := w.failures ++ x.failure w.clock } := by
    refine { h with past := h.past_refuse hx, paced := ?_, room := ?_, behind := ?_, counted := ?_ }
    all_goals simp only [Exchanges.guesses, hnone]
    · exact h.paced
    · exact h.room
    · exact h.behind
    · exact h.counted
  refine hnoted.put ?_ ?_
  · rintro _ ⟨⟩
    exact ⟨hguessing, h.known c x hx⟩
  · intro y hy
    obtain rfl := Option.some.inj (hx.symm.trans hy.1)
    exact absurd hy.2 hfree

theorem guesses_refuse (hx : x.Guessing) (c g : Nat) :
    (w.refuse c x).guesses g = w.guesses g ++ if x.generation = g then [w.clock] else [] := by
  have hfailure : x.failure w.clock = [x.failedAt w.clock] := by
    simp only [Exchange.failure, hx.1]
  show guessesOf (w.failures ++ x.failure w.clock) g = _
  rw [guessesOf_append, hfailure]
  by_cases hg : x.generation = g
  · simp [Exchanges.guesses, guessesOf, Exchange.failedAt, hg, hx.2.1]
  · simp [Exchanges.guesses, guessesOf, Exchange.failedAt, hg]

/-- After a failure, the only handshake of its instance is the one that failed. -/
theorem of_guessAt_refuse (h : Ledger w) {c c' : Nat} {x y : Exchange} (hx : w.GuessAt c x)
    (hy : (w.refuse c x).GuessAt c' y) :
    (c' = c ∧ y = { x with stage := .refused }) ∨
      (c' ≠ c ∧ y.generation ≠ x.generation ∧ w.GuessAt c' y) := by
  rcases guessAt_put.mp hy with ⟨hc, hy, -⟩ | ⟨hc, hy⟩
  · exact .inl ⟨hc, (Option.some.inj hy).symm⟩
  · exact .inr ⟨hc, fun hgen => hc (h.alone c' c y x hy hx hgen), hy⟩

/-- A proof fails against an invitation that counts. -/
theorem refuse (h : Ledger w) (hx : w.GuessAt c x)
    (hstage : x.stage ≠ .refused) : Ledger (w.refuse c x) := by
  obtain ⟨hroom, hspaced⟩ := h.room c x hx hstage
  have hself : (w.refuse c x).guesses x.generation = w.guesses x.generation ++ [w.clock] := by
    rw [guesses_refuse hx.2, if_pos rfl]
  have hother : ∀ g, x.generation ≠ g → (w.refuse c x).guesses g = w.guesses g := by
    intro g hg
    rw [guesses_refuse hx.2, if_neg hg, List.append_nil]
  refine { h with past := h.past_refuse hx.1, paced := ?_, known := ?_, matched := ?_, alone := ?_,
                  room := ?_, behind := ?_, counted := ?_ }
  · intro g
    by_cases hg : x.generation = g
    · subst hg
      rw [hself, List.length_append, List.length_singleton]
      exact ⟨hroom, hspaced⟩
    · rw [hother g hg]
      exact h.paced g
  · intro c' y hy
    rcases table_put hy with ⟨-, hy⟩ | hy
    · obtain rfl := Option.some.inj hy
      exact h.known c x hx.1
    · exact h.known c' y hy
  · intro c' y i hy
    rcases h.of_guessAt_refuse hx hy with ⟨-, rfl⟩ | ⟨-, -, hy⟩
    · exact h.matched c x i hx
    · exact h.matched c' y i hy
  · intro c₁ c₂ y₁ y₂ h₁ h₂ hgen
    rcases h.of_guessAt_refuse hx h₁ with ⟨rfl, rfl⟩ | ⟨-, hne₁, hy₁⟩ <;>
      rcases h.of_guessAt_refuse hx h₂ with ⟨rfl, rfl⟩ | ⟨-, hne₂, hy₂⟩
    · rfl
    · exact absurd hgen.symm hne₂
    · exact absurd hgen hne₁
    · exact h.alone c₁ c₂ y₁ y₂ hy₁ hy₂ hgen
  · intro c' y hy hstage'
    rcases h.of_guessAt_refuse hx hy with ⟨-, rfl⟩ | ⟨-, hne, hy⟩
    · exact absurd rfl hstage'
    · rw [hother _ hne.symm]
      exact h.room c' y hy hstage'
  · intro i hi hboot
    show ((w.refuse c x).guesses w.generation).length ≤ _
    by_cases hg : x.generation = w.generation
    · -- before the failure nobody owed a record, since this handshake was alone
      have hcounted := h.counted i hi hboot (fun c' y hy hgen => by
        obtain rfl := h.alone c' c y x hy hx (hgen.trans hg.symm)
        obtain rfl := Option.some.inj (hx.1.symm.trans hy.1)
        exact hstage)
      rw [← hg, hself, List.length_append, List.length_singleton, hg]
      exact Nat.succ_le_succ hcounted.1
    · rw [hother _ hg]
      exact h.behind i hi hboot
  · intro i hi hboot howes
    show Counted ((w.refuse c x).guesses w.generation) i
    by_cases hg : x.generation = w.generation
    · have hself' : (w.refuse c x).GuessAt c { x with stage := .refused } :=
        guessAt_put.mpr (.inl ⟨rfl, rfl, hx.2.1, hx.2.2.1, .inl rfl⟩)
      exact absurd rfl (howes c _ hself' hg)
    · rw [hother _ hg]
      refine h.counted i hi hboot ?_
      intro c' y hy hgen hstage'
      have hc : c' ≠ c := by
        rintro rfl
        obtain rfl := Option.some.inj (hx.1.symm.trans hy.1)
        exact hg hgen
      exact howes c' y (guessAt_put.mpr (.inr ⟨hc, hy⟩)) hgen hstage'

end Ledger

/-! ## §4 — runs -/

section
variable {Point Scalar : Type} {lib : HandshakeLib Point Scalar} {tape : Tape} {w w' : Exchanges}
variable {c : Nat} {now : Int}

/-- A hello for an invitation that counts is resolved only while no other handshake of its instance
is between its own resolve and the record of its failure. -/
def Sequential (lib : HandshakeLib Point Scalar) (w : Exchanges) : ExchangeEvent → Prop
  | .hello _ rawHello _ _ => ∀ hello, parseClientHello lib rawHello = .ok hello →
      hello.selector.kind = .invitation → hello.selector.id ≠ bootstrapInvitationId →
        ∀ c x, w.GuessAt c x → x.generation ≠ w.generation
  | _ => True

/-- The clock does not go back, and a backoff can be added to it. -/
def Timely (w : Exchanges) (e : ExchangeEvent) : Prop :=
  ∀ now, e.now? = some now → w.clock ≤ now ∧ InRange now

/-- A step in which handshakes against one invitation do not overlap. -/
structure GuessStep (lib : HandshakeLib Point Scalar) (tape : Tape) (w : Exchanges)
    (e : ExchangeEvent) (w' : Exchanges) : Prop where
  step : ExchangeStep lib tape w e w'
  sequential : Sequential lib w e
  timely : Timely w e

theorem generation_call {call : Call} (h : ¬ Installs call.op) :
    (w.call tape call).generation = w.generation := by
  have hbegins : ¬ (w.core.transaction tape call).Begins := fun hb => h hb.1
  exact if_neg hbegins

theorem Ledger.hello (h : Ledger w) {rawHello : Bytes}
    {persist : Except StoreError Unit} (hclock : w.clock ≤ now) (hnow : InRange now)
    (hsequential : Sequential lib w (.hello c rawHello now persist)) (hc : w.table c = none) :
    Ledger (w.hello lib tape c rawHello now persist) := by
  unfold Exchanges.hello
  cases hparse : parseClientHello lib rawHello with
  | error e => exact h
  | ok hello =>
    have hcall : Ledger (w.call tape ⟨.resolve hello.selector, now, persist⟩) :=
      h.call tape hclock hnow
    simp only
    split
    · rename_i secret hreply
      have hgeneration : (w.call tape ⟨.resolve hello.selector, now, persist⟩).generation
          = w.generation := generation_call id
      by_cases hguess : hello.selector.kind = .invitation ∧
          hello.selector.id ≠ bootstrapInvitationId
      · have hresult := (StoreCore.storeStep_transaction tape w.core
          ⟨.resolve hello.selector, now, persist⟩).result_of_reply_ok hreply
        obtain ⟨secret', hresolved, -⟩ := Answer.result_of_map_ok hresult
        simp only [AuthState.resolve, hguess.1] at hresolved
        obtain ⟨hsame, i, hi, hid, hversion, -, hnext⟩ := resolveInvitation_ok hguess.2 hresolved
        have hstate : (w.call tape ⟨.resolve hello.selector, now, persist⟩).core.state
            = w.core.state := by
          refine (StoreCore.perform_memory tape w.core _).1.trans ?_
          simp only [AuthState.perform, Answer.map, AuthState.resolve, hguess.1, hsame]
        rw [← hgeneration]
        refine hcall.resolve ?_ (hstate ▸ hi) hid hversion (hid ▸ hguess.2) hnext
        rw [hgeneration]
        exact hsequential hello hparse hguess.1 hguess.2
      · refine hcall.put ?_ ?_
        · rintro _ ⟨⟩
          exact ⟨fun hx => hguess ⟨hx.1, hx.2.1⟩, hgeneration.ge⟩
        · intro x hx
          have hx' : w.table c = some x := hx.1
          rw [hc] at hx'
          cases hx'
    · exact hcall

theorem Ledger.record (h : Ledger w) {x : Exchange}
    {persist : Except StoreError Unit} (hclock : w.clock ≤ now) (hnow : InRange now)
    (hx : w.table c = some x) :
    Ledger ((w.call tape ⟨.complete x.selector false, now, persist⟩).put c none) := by
  have hcall : Ledger (w.call tape ⟨.complete x.selector false, now, persist⟩) :=
    h.call tape hclock hnow
  refine hcall.put nofun ?_
  intro y hy hstage hgen i' hi' hboot
  obtain rfl : x = y := Option.some.inj (hx.symm.trans hy.1)
  have hgeneration : (w.call tape ⟨.complete x.selector false, now, persist⟩).generation
      = w.generation := generation_call id
  rw [hgeneration] at hgen ⊢
  obtain ⟨i, hi, hcont⟩ := (StoreCore.storeStep_transaction tape w.core
    ⟨.complete x.selector false, now, persist⟩).continues (fun hb => hb.1) hi'
  obtain ⟨hid, hversion⟩ := h.matched c x i ⟨hx, hy.2⟩ hgen hi
  -- the record finds the invitation of the handshake, and charges it
  have hstate : (w.call tape ⟨.complete x.selector false, now, persist⟩).core.state
      = (w.core.state.recordFailedInvitation x.selector now).state := by
    refine (StoreCore.perform_memory tape w.core _).1.trans ?_
    simp only [AuthState.perform, complete, hy.2.1, Answer.map, Bool.not_false, if_true]
  rw [hstate] at hi'
  obtain ⟨hlimit, rfl⟩ := recordFailedInvitation_charges hi hid hversion hy.2.2.1 hi'
  exact counted_charge (h.paced _).2 (fun t ht => (h.times_le _ t ht).trans hclock) hnow
    (h.limit i hi) hlimit (h.behind i hi hboot)

theorem Ledger.verify (h : Ledger w) {x : Exchange} {rawHello : Bytes}
    {secret : Block secretBytes} (hclock : w.clock ≤ now) (hx : w.table c = some x)
    (hstage : x.stage = .resolved rawHello secret) :
    Ledger (w.verify lib c x rawHello secret now) := by
  have htick := h.tick hclock
  have hresolved : x.stage ≠ .refused := by
    rw [hstage]
    nofun
  unfold Exchanges.verify
  split
  · refine htick.leave hx hresolved ?_
    rintro _ ⟨⟩
    refine ⟨?_, h.known c x hx⟩
    rintro ⟨-, -, hfalse | ⟨_, _, hfalse⟩⟩ <;> cases hfalse
  · by_cases hguess : x.selector.kind = .invitation ∧ x.selector.id ≠ bootstrapInvitationId
    · exact htick.refuse ⟨hx, hguess.1, hguess.2, .inr ⟨rawHello, secret, hstage⟩⟩ hresolved
    · exact htick.refuse_of_not_guessing hx (fun hg => hguess ⟨hg.1, hg.2.1⟩)
        (fun hg => hguess ⟨hg.1, hg.2.1⟩)
  · exact htick.leave hx hresolved nofun

/-- **One event keeps the ledger.** -/
theorem Ledger.step {e : ExchangeEvent} (h : Ledger w) (hstep : GuessStep lib tape w e w') :
    Ledger w' := by
  obtain ⟨hstep, hsequential, htimely⟩ := hstep
  unfold ExchangeStep at hstep
  cases e with
  | hello c rawHello now persist =>
    obtain ⟨hclock, hnow⟩ := htimely now rfl
    simp only [Exchanges.step] at hstep
    split at hstep
    · rename_i hc
      obtain rfl := Option.some.inj hstep
      exact h.hello hclock hnow hsequential hc
    · cases hstep
  | verify c now =>
    simp only [Exchanges.step] at hstep
    split at hstep
    · rename_i hx
      obtain rfl := Option.some.inj hstep
      exact h.verify (htimely now rfl).1 hx rfl
    · cases hstep
  | record c now persist =>
    obtain ⟨hclock, hnow⟩ := htimely now rfl
    simp only [Exchanges.step] at hstep
    split at hstep
    · rename_i hx
      obtain rfl := Option.some.inj hstep
      exact h.record hclock hnow hx
    · cases hstep
  | finish c =>
    simp only [Exchanges.step] at hstep
    split at hstep
    · rename_i hx
      obtain rfl := Option.some.inj hstep
      have hknown := h.known c _ hx
      refine h.leave hx (by rintro ⟨⟩) ?_
      rintro _ ⟨⟩
      refine ⟨?_, hknown⟩
      rintro ⟨-, -, hfalse | ⟨_, _, hfalse⟩⟩ <;> cases hfalse
    · cases hstep
  | close c =>
    simp only [Exchanges.step] at hstep
    split at hstep
    · rename_i hx
      obtain rfl := Option.some.inj hstep
      exact h.leave hx (by rintro ⟨⟩) (by rintro _ ⟨⟩)
    · cases hstep
  | commit c now persist =>
    obtain ⟨hclock, hnow⟩ := htimely now rfl
    simp only [Exchanges.step] at hstep
    split at hstep
    · rename_i hx
      obtain rfl := Option.some.inj hstep
      exact (h.call tape hclock hnow).leave hx (by rintro ⟨⟩) (by rintro _ ⟨⟩)
    · cases hstep
  | other call =>
    obtain ⟨hclock, hnow⟩ := htimely call.now rfl
    obtain rfl := Option.some.inj hstep
    exact h.call tape hclock hnow

/-- **Guess limit.** In every run from a document that `validate` accepts in which handshakes
against one invitation do not overlap between the resolve of the secret and the record of a failure,
and the clock does not go back, every instance of a non-bootstrap invitation takes at most
`MAX_INVITE_ATTEMPTS` wrong proofs, and the `k`-th and the next are `1000 * 2 ^ (k - 1)`
milliseconds apart (`k` counts from zero here). -/
theorem guess_limit {core : StoreCore} {clock : Int} {es : List ExchangeEvent}
    (hvalid : core.state.validate = .ok ())
    (hrun : Runs (GuessStep lib tape) (.start core clock) es w') (generation : Nat) :
    (w'.guesses generation).length ≤ maxInviteAttempts.toNat ∧
    ∀ (k : Nat) (t u : Int), (w'.guesses generation)[k]? = some t →
      (w'.guesses generation)[k + 1]? = some u → t + 1000 * 2 ^ k ≤ u :=
  (hrun.invariant (I := Ledger) (fun _ _ _ h hstep => h.step hstep)
    (Ledger.start clock hvalid)).paced generation

end

/-! ### Wrong proofs against one invitation -/

/-- The first invitation of `countingTape`. -/
def guessSelector : AuthSelector where
  kind := .invitation
  id := Base64.encode (List.replicate 18 0)
  version := 1
  locale := "en".toList

/-- A hello whose proof is none. -/
def guessRaw : Bytes :=
  E2ee.encodeClientHello guessSelector E2ee.sampleNonce E2ee.samplePoint E2ee.sampleProof

def guessWire : E2ee.ClientHelloWire :=
  { E2ee.sampleWire 1 "en".toList with authKind := "invitation".toList, authId := guessSelector.id }

def guessLib : HandshakeLib Bytes Bytes := E2ee.sampleLib guessWire guessWire guessRaw guessRaw

/-- An invitation is created, `n` handshakes resolve its secret, then their proofs are verified. -/
def overlapping (n : Nat) : List ExchangeEvent :=
  .other createPhone :: ((List.range n).map fun c => .hello c guessRaw 1 (.ok ())) ++
    (List.range n).map fun c => .verify c 1

/-- **Six wrong proofs in one millisecond**: handshakes that all resolve the secret before the first
failure is recorded get past both the limit and the backoff. -/
theorem guess_limit_overlapping :
    emptyStore.state.validate = .ok () ∧ maxInviteAttempts.toNat = 5 ∧
    ∃ w, Runs (ExchangeStep guessLib countingTape) (.start emptyStore 0) (overlapping 6) w ∧
      w.guesses 1 = [1, 1, 1, 1, 1, 1] := by
  exact ⟨by decide +kernel, rfl, Runs.of_any (fun _ _ _ _ => id) (by decide +kernel)⟩

/-- An event of the first connection, or of another caller, as the clock allows it. -/
def aloneStep (w : Exchanges) (e : ExchangeEvent) : Option Exchanges :=
  if e.connection?.all (· = 0) ∧ e.now?.all fun now => decide (w.clock ≤ now ∧ InRange now) then
    w.step guessLib countingTape e
  else none

/-- With one connection no two handshakes overlap. -/
theorem runs_alone {w w' : Exchanges} {es : List ExchangeEvent}
    (h : Runs (fun w e w' => aloneStep w e = some w') w es w')
    (halone : ∀ c ≠ 0, w.table c = none) : Runs (GuessStep guessLib countingTape) w es w' := by
  induction h with
  | nil => exact .nil _
  | @cons w _ _ e _ first _ ih =>
    rw [aloneStep, Option.ite_none_right_eq_some] at first
    obtain ⟨⟨hzero, htimely⟩, hstep⟩ := first
    refine .cons ⟨hstep, ?_, ?_⟩ (ih fun c hc => ?_)
    · cases e with
      | hello c =>
        obtain rfl : c = 0 := by simpa [ExchangeEvent.connection?] using hzero
        have hfree : w.table 0 = none := (Option.ite_none_right_eq_some.mp hstep).1
        rintro _ - - - c x ⟨hx, -⟩
        by_cases hc : c = 0
        · cases hfree.symm.trans (hc ▸ hx)
        · cases (halone c hc).symm.trans hx
      | _ => trivial
    · intro now hnow
      rw [hnow] at htimely
      simpa using htimely
    · rw [Exchanges.step_table _ _ hstep, halone c hc]
      intro hconnection
      rw [hconnection] at hzero
      exact hc (by simpa using hzero)

/-- A wrong proof, its record, and another one after the backoff. -/
def inTurn : List ExchangeEvent :=
  [.other createPhone, .hello 0 guessRaw 1 (.ok ()), .verify 0 1, .record 0 1 (.ok ()),
    .hello 0 guessRaw 1001 (.ok ()), .verify 0 1001]

/-- One handshake after the other keeps the condition: there are two wrong proofs, a second
apart. -/
theorem guess_limit_alone :
    emptyStore.state.validate = .ok () ∧
    ∃ w, Runs (GuessStep guessLib countingTape) (.start emptyStore 0) inTurn w ∧
      w.guesses 1 = [1, 1001] ∧ (w.guesses 1).length ≤ maxInviteAttempts.toNat ∧
      (1 : Int) + 1000 * 2 ^ 0 ≤ 1001 := by
  have hvalid : emptyStore.state.validate = .ok () := by decide +kernel
  obtain ⟨w, halone, hguesses⟩ : ∃ w, Runs (fun w e w' => aloneStep w e = some w')
      (.start emptyStore 0) inTurn w ∧ w.guesses 1 = [1, 1001] :=
    Runs.of_any (fun _ _ _ _ => id) (by decide +kernel)
  have hrun := runs_alone halone fun _ _ => rfl
  obtain ⟨hlimit, hspaced⟩ := guess_limit hvalid hrun 1
  rw [hguesses] at hspaced
  exact ⟨hvalid, w, hrun, hguesses, hlimit, hspaced 0 1 1001 rfl rfl⟩

end Lerdr.Auth
