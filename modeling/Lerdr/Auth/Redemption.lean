/-
# Lerdr.Auth.Redemption — one invitation, one credential.

An instance of an invitation lasts from the operation that installed it to the next `create` or
`reset` that goes through. Its credential is the pending one: a redemption mints it and records it,
later redemptions return it, and the first credential handshake with it, or its revocation, drops
the invitation. Handshakes are sequences of store calls, so every interleaving of handshakes and
administration is a run of the store.
-/
import Lerdr.Auth.Effects
import Lerdr.Lib.Runs

namespace Lerdr.Auth

open Lib Lerdr.Rust
open Lerdr.E2ee (AuthSelector)
open AuthState

variable {tape : Tape}
variable {c c' : StoreCore} {t : Transaction} {id : Text}

/-! ## §1 — events -/

/-- The transaction began a new instance. -/
def Transaction.Begins (t : Transaction) : Prop := Installs t.call.op ∧ t.mutated = true

/-- The transaction redeemed the invitation into this credential, whatever became of the write. -/
def Transaction.Redeems (t : Transaction) (credentialId : Text) : Prop :=
  ∃ selector outcome, t.call.op = .complete selector true ∧ selector.kind = .invitation ∧
    t.result = .ok (.outcome outcome) ∧ outcome.identity.credentialId = credentialId

/-- The credential completed a credential authentication, or was revoked. -/
def Transaction.Retires (t : Transaction) (credentialId : Text) : Prop :=
  t.result.isOk = true ∧
    ((∃ selector, t.call.op = .complete selector true ∧ selector.kind = .credential ∧
      selector.id = credentialId) ∨ t.call.op = .revokeDevice credentialId)

/-- An invitation was resolved or redeemed. -/
def Transaction.Opens (t : Transaction) : Prop :=
  t.result.isOk = true ∧ ∃ selector : AuthSelector, selector.kind = .invitation ∧
    (t.call.op = .resolve selector ∨ t.call.op = .complete selector true)

/-- The identifiers drawn in a run are all different, and none is the credential that was pending
when it began. -/
structure Fresh (tape : Tape) (c : StoreCore) (last : Nat) : Prop where
  distinct : ∀ p q, c.drawn ≤ p → p < q → q < last →
    tape p identifierBytes ≠ tape q identifierBytes
  unused : ∀ i p, c.state.invitation = some i → c.drawn ≤ p → p < last →
    Base64.encode (tape p identifierBytes).toList ≠ i.pendingCredentialId

/-! ## §2 — what one call does to the pending credential -/

theorem perform_complete_redeem (s : AuthState) (now : Int) (drawn : Nat) {selector : AuthSelector}
    (hkind : selector.kind = .invitation) :
    s.perform now tape drawn (.complete selector true) =
      ((s.redeemInvitation selector now tape drawn).1.map .outcome,
        (s.redeemInvitation selector now tape drawn).2) := by
  simp only [AuthState.perform, complete, hkind, Bool.not_true, Bool.false_eq_true, if_false]

theorem Answer.result_of_map_ok {α β : Type} {a : Answer α} {f : α → β} {b : β}
    (h : (a.map f).result = .ok b) : ∃ x, a.result = .ok x ∧ f x = b := by
  unfold Answer.map at h
  cases hresult : a.result with
  | error e => rw [hresult] at h; cases h
  | ok x => rw [hresult] at h; exact ⟨x, rfl, Except.ok.inj h⟩

/-- A redemption leaves its credential pending, and mints only if none was. -/
theorem Transaction.Redeems.pending (h : StoreStep tape c t c') (hredeems : t.Redeems id) :
    (∃ i, c'.state.invitation = some i ∧ i.pendingCredentialId = id) ∧ id ≠ [] ∧
      (t.mutated = true → ∃ i, c.state.invitation = some i ∧ i.pendingCredentialId = []) := by
  obtain ⟨selector, outcome, hop, hkind, hpayload, hid⟩ := hredeems
  rw [h.2.1, hop, perform_complete_redeem _ _ _ hkind] at hpayload
  obtain ⟨outcome, hresult, heq⟩ := Answer.result_of_map_ok hpayload
  obtain rfl := Payload.outcome.inj heq
  clear hpayload heq
  have hstate := (StoreCore.perform_memory tape c t.call).1
  have hmutated := h.2.2
  rw [h.1, hop, perform_complete_redeem _ _ _ hkind] at hstate
  rw [hop, perform_complete_redeem _ _ _ hkind] at hmutated
  have hspec := redeemInvitation_spec c.state selector t.call.now tape c.drawn
  generalize (c.state.redeemInvitation selector t.call.now tape c.drawn).1 = a at *
  cases hspec with
  | refused => cases hresult
  | expired => cases hresult
  | @reissued i r hinv hpending hrecord =>
    have hr : r.credential.credentialId = id := by
      simp only [issuedOutcome] at hresult
      cases hsecret : decodeSecret r.secret with
      | error e => rw [hsecret] at hresult; cases hresult
      | ok secret =>
        rw [hsecret] at hresult
        rw [← hid, ← Except.ok.inj hresult]
        rfl
    have hid' : i.pendingCredentialId = id := (credentialId_of_record hrecord).symm.trans hr
    refine ⟨⟨i, by rw [hstate]; exact hinv, hid'⟩, hid' ▸ hpending, ?_⟩
    intro hm
    rw [hmutated] at hm
    cases hm
  | @minted i r secret hinv hpending hr =>
    have hr' : r.credential.credentialId = id := by
      rw [← hid, ← Except.ok.inj hresult]
      rfl
    refine ⟨⟨_, by rw [hstate]; rfl, hr'⟩, hr' ▸ hr.drawn.ne_nil, fun _ => ⟨i, hinv, hpending⟩⟩

/-- An invitation, if there is one, waits for this credential. -/
def PendingOn (id : Text) (c : StoreCore) : Prop :=
  ∀ i, c.state.invitation = some i → i.pendingCredentialId = id

/-- Within an instance the pending credential does not change. -/
theorem PendingOn.step (hid : id ≠ [])
    (hc : PendingOn id c) (h : StoreStep tape c t c') (hbegins : ¬ t.Begins) : PendingOn id c' := by
  unfold PendingOn at hc ⊢
  have heffect := h.effect
  have hinvitation := heffect.invitation
  generalize hinv' : c'.state.invitation = inv' at hinvitation
  cases hinvitation with
  | same => exact hc
  | dropped => exact nofun
  | @rearmed i expires hinv =>
    rintro _ ⟨⟩
    exact hc i hinv
  | @charged i hinv hlimit =>
    rintro _ ⟨⟩
    exact hc i hinv
  | @reserved i id' hinv hpending hdrawn => exact absurd ((hc i hinv).symm.trans hpending) hid
  | @installed i hop hinstalled =>
    have hunmutated : t.mutated = false := Bool.eq_false_iff.mpr fun hm => hbegins ⟨hop, hm⟩
    rw [heffect.unmutated hunmutated] at hinv'
    rwa [hinv'] at hc

/-- Within an instance, an invitation that is gone does not come back. -/
theorem none_stays (h : StoreStep tape c t c')
    (hbegins : ¬ t.Begins) (hc : c.state.invitation = none) : c'.state.invitation = none := by
  -- otherwise it would be pending on every identifier at once
  cases hinv : c'.state.invitation with
  | none => rfl
  | some i =>
    have hall : ∀ id : Text, id ≠ [] → i.pendingCredentialId = id := by
      intro id hid
      have hvacuous : PendingOn id c := by
        rw [PendingOn, hc]
        nofun
      exact hvacuous.step hid h hbegins i hinv
    exact absurd ((hall ['a'] nofun).symm.trans (hall ['b'] nofun)) (by decide)

/-- The credential that completes, or is revoked, takes the invitation that waits for it along. -/
theorem Transaction.Retires.drops
    (h : StoreStep tape c t c') (hretires : t.Retires id) (hc : PendingOn id c) :
    c'.state.invitation = none := by
  have hfilter : c.state.invitation.filter (·.pendingCredentialId ≠ id) = none := by
    cases hinv : c.state.invitation with
    | none => rfl
    | some i => simp [Option.filter, hc i hinv]
  have hstate := (StoreCore.perform_memory tape c t.call).1
  rw [h.1] at hstate
  obtain ⟨hresult, hop⟩ := hretires
  rw [h.2.1] at hresult
  rcases hop with ⟨selector, hop, hkind, rfl⟩ | hop
  · rw [hop] at hstate hresult
    simp only [AuthState.perform, Answer.map, complete, hkind, Bool.not_true, Bool.false_eq_true,
      if_false, completeCredential] at hstate hresult
    cases hrecord : c.state.record selector.id with
    | none => simp only [hrecord] at hresult; cases hresult
    | some r =>
      simp only [hrecord] at hstate hresult
      split at hresult
      · cases hresult
      · rename_i hlive
        rw [if_neg hlive] at hstate
        rw [hstate, dropPending_invitation]
        have hr : (refresh t.call.now selector.locale r).credential.credentialId = selector.id :=
          ((touches_refresh _ _).credentialId r).trans (credentialId_of_record hrecord)
        rw [hr]
        exact hfilter
  · rw [hop] at hstate hresult
    simp only [AuthState.perform, Answer.map, revoke] at hstate hresult
    cases hrecord : c.state.record id with
    | none => simp only [hrecord] at hresult; cases hresult
    | some r =>
      simp only [hrecord] at hstate hresult
      split at hresult
      · cases hresult
      · rename_i hlast
        rw [if_neg hlast] at hstate
        rw [hstate]
        split <;> exact (dropPending_invitation _ _).trans hfilter

/-- Without an invitation nothing resolves or redeems. -/
theorem not_opens_of_none (h : StoreStep tape c t c')
    (hc : c.state.invitation = none) : ¬ t.Opens := by
  rintro ⟨hok, selector, hkind, hop⟩
  rw [h.2.1] at hok
  rcases hop with hop | hop
  · rw [hop, AuthState.perform, Answer.isOk_map] at hok
    simp only [resolve, hkind, resolveInvitation, hc] at hok
    cases hok
  · rw [hop, perform_complete_redeem _ _ _ hkind, Answer.isOk_map] at hok
    simp only [redeemInvitation, hc] at hok
    cases hok

/-! ## §3 — across instances -/

theorem AuthState.Draws.Mem.mono {tape : Tape} {lo lo' hi hi' : Nat}
    (h : Draws.Mem ⟨tape, lo, hi⟩ id) (hlo : lo' ≤ lo) (hhi : hi ≤ hi') :
    Draws.Mem ⟨tape, lo', hi'⟩ id := by
  obtain ⟨p, hp, hp', hid⟩ := h
  exact ⟨p, hlo.trans hp, hp'.trans_le hhi, hid⟩

theorem drawn_le_mint (s : AuthState) (i : Invitation) (selector : AuthSelector) (now : Int)
    (drawn : Nat) : drawn ≤ (s.mint i selector now tape drawn).2 := by
  have hdevice := drawn_le_uniqueId s true tape drawn 8
  have hcredential := drawn_le_uniqueId s false tape (s.uniqueId true tape drawn 8).2 8
  simp only [mint]
  split <;> exact (hdevice.trans hcredential).trans (Nat.le_succ _)

theorem drawn_le_redeemInvitation (s : AuthState) (selector : AuthSelector) (now : Int)
    (drawn : Nat) : drawn ≤ (s.redeemInvitation selector now tape drawn).2 := by
  unfold redeemInvitation
  cases s.invitation with
  | none => exact le_refl _
  | some i =>
    simp only
    split_ifs
    · exact le_refl _
    · exact le_refl _
    · exact le_refl _
    · exact drawn_le_mint s i selector now drawn

/-- The random source only moves on. -/
theorem StoreStep.drawn_le (h : StoreStep tape c t c') :
    c.drawn ≤ c'.drawn := by
  have hdrawn := (StoreCore.perform_memory tape c t.call).2
  rw [h.1] at hdrawn
  rw [hdrawn]
  cases t.call.op with
  | complete selector authenticated =>
    simp only [AuthState.perform, complete]
    cases authenticated <;> cases selector.kind
    · exact le_refl _
    · exact le_refl _
    · exact le_refl _
    · exact drawn_le_redeemInvitation c.state selector t.call.now c.drawn
  | createInvitation name role locale =>
    simp only [AuthState.perform, create]
    split
    · exact le_refl _
    · exact Nat.le_add_right _ _
  | _ => exact le_refl _

/-- The pending credential is none, an old one, or one drawn since. -/
def PendingSince (tape : Tape) (old : Text → Prop) (first : Nat) (c : StoreCore) : Prop :=
  first ≤ c.drawn ∧ ∀ i, c.state.invitation = some i →
    i.pendingCredentialId = [] ∨ old i.pendingCredentialId ∨
      Draws.Mem ⟨tape, first, c.drawn⟩ i.pendingCredentialId

theorem PendingSince.step {old : Text → Prop} {first : Nat}
    (hc : PendingSince tape old first c) (h : StoreStep tape c t c') :
    PendingSince tape old first c' := by
  obtain ⟨hfirst, hpending⟩ := hc
  have hle := h.drawn_le
  have hgrow : ∀ {id : Text}, id = [] ∨ old id ∨ Draws.Mem ⟨tape, first, c.drawn⟩ id →
      id = [] ∨ old id ∨ Draws.Mem ⟨tape, first, c'.drawn⟩ id := by
    rintro id (hnil | hold | hmem)
    · exact .inl hnil
    · exact .inr (.inl hold)
    · exact .inr (.inr (hmem.mono (le_refl _) hle))
  refine ⟨hfirst.trans hle, ?_⟩
  have hinvitation := h.effect.invitation
  generalize c'.state.invitation = inv' at hinvitation
  cases hinvitation with
  | same => exact fun i hi => hgrow (hpending i hi)
  | dropped => exact nofun
  | @rearmed i expires hinv =>
    rintro _ ⟨⟩
    exact hgrow (hpending i hinv)
  | @charged i hinv hlimit =>
    rintro _ ⟨⟩
    exact hgrow (hpending i hinv)
  | reserved hinv hnil hdrawn =>
    rintro _ ⟨⟩
    exact .inr (.inr (hdrawn.mono hfirst (le_refl _)))
  | installed hop hinstalled =>
    rintro _ ⟨⟩
    exact .inl hinstalled.pendingCredentialId

/-- A new instance has no credential yet. -/
theorem Transaction.Begins.renews (h : StoreStep tape c t c')
    (hbegins : t.Begins) : ∀ i, c'.state.invitation = some i → i.pendingCredentialId = [] := by
  have hstate := (StoreCore.perform_memory tape c t.call).1
  have hmutated := h.2.2
  obtain ⟨hop, hm⟩ := hbegins
  rw [hm] at hmutated
  rw [h.1] at hstate
  rw [hstate]
  cases hcall : t.call.op with
  | createInvitation name role locale =>
    rw [hcall] at hmutated
    simp only [AuthState.perform, Answer.map, create] at hmutated ⊢
    split at hmutated
    · cases hmutated
    · rintro i ⟨⟩
      rfl
  | resetDevices rearm locale =>
    rw [hcall] at hmutated
    cases rearm with
    | none => exact nofun
    | some rearm =>
      simp only [AuthState.perform, Answer.map, reset] at hmutated ⊢
      split at hmutated
      · cases hmutated
      · rintro i ⟨⟩
        rfl
  | _ => rw [hcall] at hop; cases hop

/-- After a new instance has begun, every pending credential was drawn since. -/
theorem pendingSince_of_begins {a b : StoreCore} {mid : List Transaction}
    (hmid : Runs (StoreStep tape) a mid b) (hbegins : ∃ t ∈ mid, t.Begins) :
    PendingSince tape (fun _ => False) a.drawn b := by
  obtain ⟨t, ht, hbegins⟩ := hbegins
  obtain ⟨before, after, rfl⟩ := List.append_of_mem ht
  obtain ⟨c, d, hbefore, hstep, hafter⟩ := hmid.around
  have hle : a.drawn ≤ c.drawn :=
    hbefore.invariant (I := fun c => a.drawn ≤ c.drawn) (fun _ _ _ hc h => hc.trans h.drawn_le)
      (le_refl _)
  refine hafter.invariant (I := PendingSince tape (fun _ => False) a.drawn)
    (fun _ _ _ hc h => hc.step h) ⟨hle.trans hstep.drawn_le, ?_⟩
  exact fun i hi => .inl (hbegins.renews hstep i hi)

/-- Fresh identifiers drawn before and after a point differ. -/
theorem Fresh.ne_of_mem {c : StoreCore} {last mid : Nat} (hfresh : Fresh tape c last) {x y : Text}
    (hmid : c.drawn ≤ mid) (hy : Draws.Mem ⟨tape, mid, last⟩ y)
    (hx : (∃ i, c.state.invitation = some i ∧ x = i.pendingCredentialId) ∨
      Draws.Mem ⟨tape, c.drawn, mid⟩ x) : x ≠ y := by
  obtain ⟨q, hq, hq', rfl⟩ := hy
  rcases hx with ⟨i, hi, rfl⟩ | ⟨p, hp, hp', rfl⟩
  · exact fun h => hfresh.unused i q hi (hmid.trans hq) hq' h.symm
  · intro h
    exact hfresh.distinct p q hp (hp'.trans_le hq) hq' (Subtype.ext (Base64.encode_injective h))

/-! ## §4 — the run theorem -/

/-- From a redemption on, as long as its instance lasts, its credential is the pending one. -/
theorem Transaction.Redeems.pendingOn {a a' b : StoreCore} {mid : List Transaction} {x : Text}
    (hx : t.Redeems x) (h : StoreStep tape a t a')
    (hmid : Runs (StoreStep tape) a' mid b) (hbegins : ∀ t ∈ mid, ¬ t.Begins) : PendingOn x b := by
  obtain ⟨⟨i, hi, hix⟩, hxne, -⟩ := hx.pending h
  have hkeep : ∀ c t c', PendingOn x c → ¬ Transaction.Begins t → StoreStep tape c t c' →
      PendingOn x c' := fun _ _ _ hc ht h => hc.step hxne h ht
  refine hmid.stays hkeep hbegins ?_
  intro i' hi'
  obtain rfl := Option.some.inj (hi.symm.trans hi')
  exact hix

/-- Two redemptions of a run: what lies between them decides whether they are one credential. -/
theorem redemptions_agree {c a b a' b' : StoreCore} {pre mid : List Transaction}
    {t₁ t₂ : Transaction} {x y : Text} (hpre : Runs (StoreStep tape) c pre a)
    (h₁ : StoreStep tape a t₁ a') (hmid : Runs (StoreStep tape) a' mid b)
    (h₂ : StoreStep tape b t₂ b') (hfresh : Fresh tape c b'.drawn) (hx : t₁.Redeems x)
    (hy : t₂.Redeems y) :
    ((∀ t ∈ mid, ¬ t.Begins) → y = x ∧ t₂.mutated = false) ∧ ((∃ t ∈ mid, t.Begins) → y ≠ x) := by
  obtain ⟨⟨i, hi, hix⟩, hxne, -⟩ := hx.pending h₁
  obtain ⟨⟨j, hj, hjy⟩, hyne, hmints⟩ := hy.pending h₂
  refine ⟨?_, ?_⟩
  · intro hbegins
    have hstays : PendingOn x b := hx.pendingOn h₁ hmid hbegins
    have hredeem : ¬ t₂.Begins := by
      obtain ⟨selector, outcome, hop, -⟩ := hy
      rintro ⟨hinstalls, -⟩
      rw [hop] at hinstalls
      exact hinstalls
    refine ⟨hjy.symm.trans (hstays.step hxne h₂ hredeem j hj), ?_⟩
    cases hm : t₂.mutated with
    | false => rfl
    | true =>
      obtain ⟨k, hk, hnil⟩ := hmints hm
      exact absurd ((hstays k hk).symm.trans hnil) hxne
  · intro hbegins
    have hknown : PendingSince tape
        (fun id => ∃ i, c.state.invitation = some i ∧ id = i.pendingCredentialId) c.drawn a' := by
      refine (hpre.invariant (I := PendingSince tape _ c.drawn) (fun _ _ _ hc h => hc.step h)
        ?_).step h₁
      exact ⟨le_refl _, fun i hi => .inr (.inl ⟨i, hi, rfl⟩)⟩
    have hrenewed := (pendingSince_of_begins hmid hbegins).step h₂
    have hold := hknown.2 i hi
    have hnew := hrenewed.2 j hj
    rw [hix] at hold
    rw [hjy] at hnew
    have hnew' := (hnew.resolve_left hyne).resolve_left id
    exact (hfresh.ne_of_mem hknown.1 hnew' (hold.resolve_left hxne)).symm

/-- Once the credential of an instance is in use or revoked, the instance is closed. -/
theorem instance_closed {a a' b b' d d' : StoreCore} {mid mid' : List Transaction}
    {t₁ t₂ t₃ : Transaction} {x : Text} (h₁ : StoreStep tape a t₁ a')
    (hmid : Runs (StoreStep tape) a' mid b) (h₂ : StoreStep tape b t₂ b')
    (hmid' : Runs (StoreStep tape) b' mid' d) (h₃ : StoreStep tape d t₃ d') (hx : t₁.Redeems x)
    (hretires : t₂.Retires x) (hbegins : ∀ t ∈ mid, ¬ t.Begins)
    (hbegins' : ∀ t ∈ mid', ¬ t.Begins) : ¬ t₃.Opens := by
  have hkeep : ∀ (c : StoreCore) (t : Transaction) (c' : StoreCore), c.state.invitation = none →
      ¬ t.Begins → StoreStep tape c t c' → c'.state.invitation = none :=
    fun _ _ _ hc ht h => none_stays h ht hc
  have hnone := hmid'.stays hkeep hbegins' (hretires.drops h₂ (hx.pendingOn h₁ hmid hbegins))
  exact not_opens_of_none h₃ hnone

theorem runs_drawn_le {ts : List Transaction}
    (hrun : Runs (StoreStep tape) c ts c') : c.drawn ≤ c'.drawn :=
  hrun.invariant (I := fun d => c.drawn ≤ d.drawn) (fun _ _ _ hc h => hc.trans h.drawn_le)
    (le_refl _)

theorem Fresh.of_le {c : StoreCore} {last last' : Nat} (h : Fresh tape c last')
    (hle : last ≤ last') : Fresh tape c last :=
  ⟨fun p q hp hpq hq => h.distinct p q hp hpq (hq.trans_le hle),
    fun i p hi hp hp' => h.unused i p hi hp (hp'.trans_le hle)⟩

/-- **Single redemption.** In every run of the store, from any state, whose identifiers are fresh:
what comes back as a success is the result of the operation; two redemptions of one instance give
the same credential, and the later one mints none; a redemption of a later instance gives another
credential; and once the credential of an instance has completed a credential authentication or was
revoked, no invitation resolves or redeems until the next instance begins. -/
theorem single_redemption {c c' : StoreCore} {ts : List Transaction}
    (hrun : Runs (StoreStep tape) c ts c') (hfresh : Fresh tape c c'.drawn) :
    (∀ t ∈ ts, ∀ payload, t.reply = .ok payload → t.result = .ok payload) ∧
    (∀ (pre mid post : List Transaction) (t₁ t₂ : Transaction),
      ts = pre ++ t₁ :: (mid ++ t₂ :: post) → ∀ x y : Text, t₁.Redeems x → t₂.Redeems y →
        ((∀ t ∈ mid, ¬ t.Begins) → y = x ∧ t₂.mutated = false) ∧
        ((∃ t ∈ mid, t.Begins) → y ≠ x)) ∧
    (∀ (pre mid mid' post : List Transaction) (t₁ t₂ t₃ : Transaction),
      ts = pre ++ t₁ :: (mid ++ t₂ :: (mid' ++ t₃ :: post)) →
      ∀ x : Text, t₁.Redeems x → t₂.Retires x →
        (∀ t ∈ mid, ¬ t.Begins) → (∀ t ∈ mid', ¬ t.Begins) → ¬ t₃.Opens) := by
  refine ⟨?_, ?_, ?_⟩
  · exact hrun.forall_mem (I := fun _ => True) (fun _ _ _ _ _ => trivial)
      (fun _ _ _ _ h _ => h.result_of_reply_ok) trivial
  · rintro pre mid post t₁ t₂ rfl x y hx hy
    obtain ⟨a, a', b, b', hpre, h₁, hmid, h₂, hpost⟩ := hrun.between
    exact redemptions_agree hpre h₁ hmid h₂ (hfresh.of_le (runs_drawn_le hpost)) hx hy
  · rintro pre mid mid' post t₁ t₂ t₃ rfl x hx hretires hbegins hbegins'
    obtain ⟨a, a', b, b', -, h₁, hmid, h₂, hrest⟩ := hrun.between
    obtain ⟨d, d', hmid', h₃, -⟩ := hrest.around
    exact instance_closed h₁ hmid h₂ hmid' h₃ hx hretires hbegins hbegins'

/-! ### An invitation created and redeemed twice -/

/-- Block `n` repeats the byte `n`. -/
def countingTape : Tape := fun p n => List.Vector.replicate n (UInt8.ofNat p)

def emptyStore : StoreCore := { state := {}, drawn := 0, disk := {} }

def createPhone : Call where
  op := .createInvitation "phone".toList "controller".toList "en".toList
  now := 0
  persist := .ok ()

def redeemPhone : Call where
  op := .complete
    { kind := .invitation, id := Base64.encode (List.replicate 18 0), version := 1,
      locale := "en".toList } true
  now := 1
  persist := .ok ()

def createdStore : StoreCore := (emptyStore.perform countingTape createPhone).1

def redeemedStore : StoreCore := (createdStore.perform countingTape redeemPhone).1

def phoneOutcome : AuthOutcome where
  identity :=
    { deviceId := Base64.encode (List.replicate 18 2)
      credentialId := Base64.encode (List.replicate 18 3)
      role := .controller, locale := "en".toList, credentialVersion := 1 }
  credentialSecret := some (List.Vector.replicate 32 4)

/-- Created, redeemed, redeemed again: one credential, minted once. -/
theorem single_redemption_phone :
    Fresh countingTape emptyStore (redeemedStore.perform countingTape redeemPhone).1.drawn ∧
    (createdStore.transaction countingTape redeemPhone).Redeems phoneOutcome.identity.credentialId ∧
    (redeemedStore.transaction countingTape redeemPhone).Redeems
      phoneOutcome.identity.credentialId ∧
    (redeemedStore.transaction countingTape redeemPhone).mutated = false := by
  have hrun : Runs (StoreStep countingTape) emptyStore
      [emptyStore.transaction countingTape createPhone,
        createdStore.transaction countingTape redeemPhone,
        redeemedStore.transaction countingTape redeemPhone]
      (redeemedStore.perform countingTape redeemPhone).1 :=
    .cons (StoreCore.storeStep_transaction _ _ _) (.cons (StoreCore.storeStep_transaction _ _ _)
      (.cons (StoreCore.storeStep_transaction _ _ _) (.nil _)))
  have hlast : (redeemedStore.perform countingTape redeemPhone).1.drawn = 5 := by decide +kernel
  have hfresh : Fresh countingTape emptyStore
      (redeemedStore.perform countingTape redeemPhone).1.drawn := by
    have hnone : emptyStore.state.invitation = none := rfl
    have hblocks : ∀ q < 5, ∀ p < q,
        countingTape p identifierBytes ≠ countingTape q identifierBytes := by decide +kernel
    rw [hlast]
    refine ⟨fun p q _ hpq hq => hblocks q hq p hpq, ?_⟩
    intro i p hi
    rw [hnone] at hi
    cases hi
  have hfirst : (createdStore.transaction countingTape redeemPhone).Redeems
      phoneOutcome.identity.credentialId := ⟨_, phoneOutcome, rfl, rfl, by decide +kernel, rfl⟩
  have hsecond : (redeemedStore.transaction countingTape redeemPhone).Redeems
      phoneOutcome.identity.credentialId := ⟨_, phoneOutcome, rfl, rfl, by decide +kernel, rfl⟩
  have htheorem := (single_redemption hrun hfresh).2.1
    [emptyStore.transaction countingTape createPhone] [] []
    (createdStore.transaction countingTape redeemPhone)
    (redeemedStore.transaction countingTape redeemPhone) rfl _ _ hfirst hsecond
  exact ⟨hfresh, hfirst, hsecond, (htheorem.1 (List.forall_mem_nil _)).2⟩

end Lerdr.Auth
