/-
# Lerdr.Pairing.Stores — what pairing writes, and what it leaves alone.

The registry (`RelayRegistry.kt`) is a list of endpoints that `upsert` writes by id; the credential
store (`KeystoreCredentialStore.kt`) is a map from relay ids to one record each. `pair`
(`PairingManager.kt`) makes an endpoint of the link, writes both under its id, and waits for the
session, which commits what the relay issued under the same id. So pairing touches one id
(`pair_others`), and another relay is safe exactly as long as its words are others.

Writes that fail, sessions that commit any number of times and every verdict are part of `PairRun`.
-/
import Lerdr.E2ee.Codec
import Lerdr.Lib.Base64
import Lerdr.Lib.Keyed
import Lerdr.Lib.Table
import Mathlib.Data.Bool.AllAny
import Lerdr.Pairing.Endpoint

namespace Lerdr.Pairing

open Lib Lerdr.Kotlin

/-! ## §1 — records -/

inductive DeviceRole where
  | reader
  | controller
  deriving DecidableEq, Repr

structure RelayInvitation where
  id : Units
  version : Int
  secret : Units
  expiresAtEpochMs : Option Int
  deriving DecidableEq, Repr

structure RelayDeviceCredential where
  id : Units
  version : Int
  secret : Units
  deviceId : Units
  role : DeviceRole
  locale : Units
  issuedAtEpochMs : Int
  invitationId : Option Units
  deriving DecidableEq, Repr

/-- What is kept of a relay. -/
inductive RelayDeviceAuth where
  | invitation (record : RelayInvitation)
  | credential (record : RelayDeviceCredential)
  deriving DecidableEq, Repr

/-- What a finish issues. -/
structure CredentialEnrollment where
  deviceId : Units
  credentialId : Units
  credentialVersion : Int
  credentialSecret : Option (List UInt8)
  role : DeviceRole
  locale : Units
  deriving DecidableEq, Repr

def RelayInvitation.isExpired (invitation : RelayInvitation) (now : Int) : Bool :=
  match invitation.expiresAtEpochMs with
  | some expiry => expiry ≤ now
  | none => false

/-- `[\u0000-\u001f\u007f]`. -/
def controlChar (u : UInt16) : Bool := u.toNat ≤ 0x1f || u.toNat = 0x7f

/-- `requireIdentifier`: the trimmed value, where it is one. -/
def requireIdentifier (env : Platform) (value : Units) : Option Units :=
  let id := env.trim value
  if id ≠ [] ∧ id.length ≤ 256 ∧ id.any controlChar = false then some id else none

/-- `requireSecret`: 43 digits of base64url, which are 32 bytes. -/
def validSecret (secret : Units) : Bool :=
  secret.length = 43 && secret.all E2ee.isBase64UrlUnit

/-- The checks in the constructor of `RelayInvitation`. -/
def newInvitation (env : Platform) (id : Units) (version : Int) (secret : Units)
    (expiresAtEpochMs : Option Int) : Option RelayInvitation :=
  if (requireIdentifier env id).isSome ∧ 1 ≤ version ∧ validSecret secret ∧
      0 ≤ expiresAtEpochMs.getD 0 then
    some { id, version, secret, expiresAtEpochMs }
  else none

/-! ## §2 — the stores -/

/-- The registry's list and the credential store's map. -/
structure Stores where
  relays : List RelayEndpoint
  records : Table Units RelayDeviceAuth

def Stores.upsert (s : Stores) (endpoint : RelayEndpoint) : Stores :=
  { s with relays := Keyed.put RelayEndpoint.id endpoint s.relays }

/-- `relays.firstOrNull { it.id == id }`. -/
def Stores.relay (s : Stores) (id : Units) : Option RelayEndpoint :=
  Keyed.lookup RelayEndpoint.id id s.relays

def Stores.put (s : Stores) (id : Units) (record : RelayDeviceAuth) : Stores :=
  { s with records := s.records.insert id record }

def Stores.drop (s : Stores) (id : Units) : Stores :=
  { s with records := s.records.erase id }

/-- What an operation of the store throws. -/
inductive StoreFailure where
  | illegalArgument
  | illegalState
  /-- the file could not be written -/
  | persist (message : Option String)
  deriving DecidableEq, Repr

/-- Whether a write reaches the disk, and what it throws if not. -/
inductive Write where
  | done
  | fails (message : Option String)
  deriving DecidableEq, Repr

/-- `persistLocked`: the map is the new one only once the file is. -/
def Stores.persist (s next : Stores) : Write → Except StoreFailure Unit × Stores
  | .done => (.ok (), next)
  | .fails message => (.error (.persist message), s)

def Stores.saveInvitation (env : Platform) (s : Stores) (relayId : Units)
    (invitation : RelayInvitation) (now : Int) (write : Write) :
    Except StoreFailure Unit × Stores :=
  match requireIdentifier env relayId with
  | none => (.error .illegalArgument, s)
  | some id =>
    if invitation.isExpired now then (.error .illegalArgument, s)
    else s.persist (s.put id (.invitation invitation)) write

def CredentialEnrollment.toCredential (enrollment : CredentialEnrollment) (secret : List UInt8)
    (invitationId : Units) (now : Int) : RelayDeviceCredential where
  id := enrollment.credentialId
  version := enrollment.credentialVersion
  secret := utf16 (Base64.encode secret)
  deviceId := enrollment.deviceId
  role := enrollment.role
  locale := enrollment.locale
  issuedAtEpochMs := now
  invitationId := some invitationId

section

variable (env : Platform)

/-- The invitation becomes a credential. -/
def Stores.redeemInvitation (s : Stores) (relayId invitationId : Units)
    (enrollment : CredentialEnrollment) (now : Int) (write : Write) :
    Except StoreFailure Unit × Stores :=
  match requireIdentifier env relayId, requireIdentifier env invitationId,
      enrollment.credentialSecret with
  | some id, some expected, some secret =>
    match s.records.lookup id with
    | some (.invitation current) =>
      if current.id = expected then
        s.persist (s.put id (.credential (enrollment.toCredential secret expected now))) write
      else (.error .illegalState, s)
    | _ => (.error .illegalState, s)
  | _, _, _ => (.error .illegalArgument, s)

/-- The credential is brought up to date. -/
def Stores.updateCredential (s : Stores) (relayId : Units)
    (enrollment : CredentialEnrollment) (write : Write) : Except StoreFailure Unit × Stores :=
  match requireIdentifier env relayId with
  | none => (.error .illegalArgument, s)
  | some id =>
    if enrollment.credentialSecret.isSome then (.error .illegalArgument, s)
    else
      match s.records.lookup id with
      | some (.credential current) =>
        if current.id = enrollment.credentialId ∧ current.deviceId = enrollment.deviceId then
          s.persist (s.put id (.credential
            { current with
              version := enrollment.credentialVersion
              role := enrollment.role
              locale := enrollment.locale })) write
        else (.error .illegalState, s)
      | _ => (.error .illegalState, s)

/-- `get`: an expired invitation is dropped on reading. -/
def Stores.get (s : Stores) (relayId : Units) (now : Int) (write : Write) :
    Except StoreFailure (Option RelayDeviceAuth) × Stores :=
  match requireIdentifier env relayId with
  | none => (.error .illegalArgument, s)
  | some id =>
    match s.records.lookup id with
    | some (.invitation current) =>
      if current.isExpired now then
        ((s.persist (s.drop id) write).1.map fun _ => none, (s.persist (s.drop id) write).2)
      else (.ok (some (.invitation current)), s)
    | record => (.ok record, s)

/-! ## §3 — pairing -/

/-- `InvitePayload.Invitation`. -/
structure InviteInvitation where
  id : Units
  version : Int
  secret : Units
  expiresAtEpochMs : Int
  deriving DecidableEq, Repr

/-- What a link says. -/
structure InvitePayload where
  label : Units
  socketOrigin : Units
  setup : Units
  invitation : Option InviteInvitation

def InvitePayload.relayEndpoint (payload : InvitePayload) : Option RelayEndpoint :=
  fromSocketOrigin env payload.socketOrigin payload.label payload.invitation.isSome

def InvitePayload.toPendingInvitation (payload : InvitePayload) :
    Option RelayInvitation :=
  match payload.invitation with
  | some invite =>
    newInvitation env invite.id invite.version invite.secret (some invite.expiresAtEpochMs)
  | none =>
    let keyBytes := env.toUtf8 payload.setup
    if keyBytes.length = 32 then
      newInvitation env (units "bootstrap".toList) 1
        (utf16 (Base64.encode keyBytes)) none
    else none

/-- A call of `commitEnrollment` by the session: the id it authenticated with, what the relay's
finish said (nothing where it is malformed), when, and whether the write succeeds. -/
structure Commit where
  authId : Units
  enrollment : Option CredentialEnrollment
  now : Int
  write : Write

/-- `SessionRepository.commitEnrollment`. What throws is ignored. -/
def Stores.commitEnrollment (relayId : Units) (s : Stores) (commit : Commit) :
    Stores :=
  match commit.enrollment with
  | none => s
  | some enrollment =>
    if enrollment.credentialSecret.isSome then
      (s.redeemInvitation env relayId commit.authId enrollment commit.now commit.write).2
    else (s.updateCredential env relayId enrollment commit.write).2

/-- How the session ended up. -/
inductive Verdict where
  | connected
  | authRejected (reason : Units)
  | closed
  | timedOut
  deriving DecidableEq, Repr

inductive PairingOutcome where
  | success (relayId : Units)
  | invalidLink
  | invitationExpired
  | rejected (reason : Units)
  | timedOut
  | failed (message : String)
  deriving DecidableEq, Repr

/-- What a run of `pair` meets: the clock, the writes, the session's commits and its verdict. -/
structure PairRun where
  now : Int
  upsert : Write
  saveNow : Int
  save : Write
  commits : List Commit
  verdict : Verdict
  getNow : Int
  get : Write

/-- What the verdict comes to. -/
def judge (s : Stores) (relayId : Units) (run : PairRun) :
    Stores × PairingOutcome :=
  match run.verdict with
  | .timedOut => (s, .timedOut)
  | .authRejected reason =>
    (s, .rejected (if reason = [] then
      utf16 ("The relay rejected this device".toList) else reason))
  | .closed => (s, .failed "Connection closed while pairing")
  | .connected =>
    let read := s.get env relayId run.getNow run.get
    match read.1 with
    | .ok (some (.credential _)) => (read.2, .success relayId)
    | _ => (read.2, .failed "Enrollment was not persisted")

/-- `PairingManager.pair`. -/
def pair (s : Stores) (payload : InvitePayload) (run : PairRun) :
    Stores × PairingOutcome :=
  match payload.relayEndpoint env, payload.toPendingInvitation env with
  | some endpoint, some invitation =>
    if invitation.isExpired run.now then (s, .invitationExpired)
    else
      match run.upsert with
      | .fails message => (s, .failed (message.getD "Could not save the relay"))
      | .done =>
        let s := s.upsert endpoint
        let saved := s.saveInvitation env endpoint.id invitation run.saveNow run.save
        match saved.1 with
        | .error .illegalArgument => (saved.2, .invitationExpired)
        | .error (.persist message) =>
          (saved.2, .failed (message.getD "Could not store the invitation"))
        | .error .illegalState => (saved.2, .failed "Could not store the invitation")
        | .ok () =>
          judge env (run.commits.foldl (Stores.commitEnrollment env endpoint.id) saved.2)
            endpoint.id run
  | _, _ => (s, .invalidLink)

end

/-! ## §4 — one id -/

/-- **Everything stays as it is, but for one id.** -/
structure Touches (id : Units) (s s' : Stores) : Prop where
  relay : ∀ k, k ≠ id → s'.relay k = s.relay k
  record : ∀ k, k ≠ id → s'.records.lookup k = s.records.lookup k

namespace Touches

variable {id relayId : Units} {s s' s'' : Stores} {env : Platform}

theorem refl (id : Units) (s : Stores) : Touches id s s := ⟨fun _ _ => rfl, fun _ _ => rfl⟩

theorem trans (h : Touches id s s') (h' : Touches id s' s'') : Touches id s s'' :=
  ⟨fun k hk => (h'.relay k hk).trans (h.relay k hk),
    fun k hk => (h'.record k hk).trans (h.record k hk)⟩

theorem upsert (s : Stores) (endpoint : RelayEndpoint) :
    Touches endpoint.id s (s.upsert endpoint) where
  relay k hk := by
    show Keyed.lookup RelayEndpoint.id k (Keyed.put RelayEndpoint.id endpoint s.relays) = _
    rw [Keyed.lookup_put, if_neg (Ne.symm hk)]
    rfl
  record _ _ := rfl

theorem put (s : Stores) (id : Units) (record : RelayDeviceAuth) :
    Touches id s (s.put id record) where
  relay _ _ := rfl
  record k hk := by
    show (s.records.insert id record).lookup k = _
    rw [Table.lookup_insert_eq, if_neg hk]

theorem drop (s : Stores) (id : Units) : Touches id s (s.drop id) where
  relay _ _ := rfl
  record k hk := by
    show (s.records.erase id).lookup k = _
    rw [Table.lookup_erase_eq, if_neg hk]

theorem persist {next : Stores} (h : Touches id s next) (write : Write) :
    Touches id s (s.persist next write).2 := by
  cases write with
  | done => exact h
  | fails message => exact refl id s

section

variable (htrim : env.trim relayId = relayId)
include htrim

/-- The identifier that is required is the id itself. -/
theorem id_of_requireIdentifier (h : requireIdentifier env relayId = some id) : id = relayId := by
  unfold requireIdentifier at h
  dsimp only at h
  split at h
  · rw [htrim] at h
    exact (Option.some.inj h).symm
  · cases h

theorem saveInvitation (s : Stores) (invitation : RelayInvitation) (now : Int) (write : Write) :
    Touches relayId s (s.saveInvitation env relayId invitation now write).2 := by
  unfold Stores.saveInvitation
  cases hid : requireIdentifier env relayId with
  | none => exact refl relayId s
  | some id =>
    obtain rfl := id_of_requireIdentifier htrim hid
    dsimp only
    split
    · exact refl id s
    · exact (put s id _).persist write

theorem redeemInvitation (s : Stores) (invitationId : Units)
    (enrollment : CredentialEnrollment) (now : Int) (write : Write) :
    Touches relayId s (s.redeemInvitation env relayId invitationId enrollment now write).2 := by
  unfold Stores.redeemInvitation
  split
  · rename_i id expected secret hid _ _
    obtain rfl := id_of_requireIdentifier htrim hid
    split
    · split
      · exact (put s id _).persist write
      · exact refl id s
    · exact refl id s
  · exact refl relayId s

theorem updateCredential (s : Stores) (enrollment : CredentialEnrollment) (write : Write) :
    Touches relayId s (s.updateCredential env relayId enrollment write).2 := by
  unfold Stores.updateCredential
  cases hid : requireIdentifier env relayId with
  | none => exact refl relayId s
  | some id =>
    obtain rfl := id_of_requireIdentifier htrim hid
    dsimp only
    split
    · exact refl id s
    · split
      · split
        · exact (put s id _).persist write
        · exact refl id s
      · exact refl id s

theorem get (s : Stores) (now : Int) (write : Write) :
    Touches relayId s (s.get env relayId now write).2 := by
  unfold Stores.get
  cases hid : requireIdentifier env relayId with
  | none => exact refl relayId s
  | some id =>
    obtain rfl := id_of_requireIdentifier htrim hid
    dsimp only
    split
    · split
      · exact (drop s id).persist write
      · exact refl id s
    · exact refl id s

theorem commitEnrollment (s : Stores) (commit : Commit) :
    Touches relayId s (s.commitEnrollment env relayId commit) := by
  unfold Stores.commitEnrollment
  split
  · exact refl relayId s
  · split
    · exact redeemInvitation htrim s _ _ _ _
    · exact updateCredential htrim s _ _

/-- However often the session commits. -/
theorem commits (s : Stores) (commits : List Commit) :
    Touches relayId s (commits.foldl (Stores.commitEnrollment env relayId) s) := by
  induction commits generalizing s with
  | nil => exact refl relayId s
  | cons commit commits ih => exact (commitEnrollment htrim s commit).trans (ih _)

theorem judge (s : Stores) (run : PairRun) :
    Touches relayId s (Pairing.judge env s relayId run).1 := by
  unfold Pairing.judge
  split
  · exact refl relayId s
  · exact refl relayId s
  · exact refl relayId s
  · dsimp only
    split
    · exact get htrim s _ _
    · exact get htrim s _ _

end

end Touches

/-- **Pairing touches the id of its endpoint only.** -/
theorem pair_others {env : Platform} {payload : InvitePayload} {endpoint : RelayEndpoint}
    (hendpoint : payload.relayEndpoint env = some endpoint)
    (htrim : env.trim endpoint.id = endpoint.id) (s : Stores) (run : PairRun) :
    Touches endpoint.id s (pair env s payload run).1 := by
  unfold pair
  rw [hendpoint]
  cases hinvitation : payload.toPendingInvitation env with
  | none => exact Touches.refl _ s
  | some invitation =>
    dsimp only
    split
    · exact Touches.refl _ s
    · cases run.upsert with
      | fails message => exact Touches.refl _ s
      | done =>
        dsimp only
        have hsaved := (Touches.upsert s endpoint).trans
          (Touches.saveInvitation htrim (s.upsert endpoint) invitation run.saveNow run.save)
        split
        · exact hsaved
        · exact hsaved
        · exact hsaved
        · exact hsaved.trans ((Touches.commits htrim _ run.commits).trans
            (Touches.judge htrim _ run))

/-- A run in which the registry is written and the store is not. -/
def unsavedRun (now : Int) : PairRun where
  now
  upsert := .done
  saveNow := now
  save := .fails none
  commits := []
  verdict := .timedOut
  getNow := now
  get := .done

/-- Such a run leaves the new endpoint behind. -/
theorem pair_unsavedRun {env : Platform} {payload : InvitePayload} {endpoint : RelayEndpoint}
    {invitation : RelayInvitation} (hendpoint : payload.relayEndpoint env = some endpoint)
    (hinvitation : payload.toPendingInvitation env = some invitation) {now : Int}
    (hnow : invitation.isExpired now = false) (s : Stores) :
    (pair env s payload (unsavedRun now)).1 = s.upsert endpoint := by
  have hsaved : ((s.upsert endpoint).saveInvitation env endpoint.id invitation now
      (.fails none)).2 = s.upsert endpoint ∧
      ((s.upsert endpoint).saveInvitation env endpoint.id invitation now (.fails none)).1
        ≠ .ok () := by
    unfold Stores.saveInvitation
    cases requireIdentifier env endpoint.id with
    | none => exact ⟨rfl, nofun⟩
    | some id =>
      dsimp only
      rw [if_neg (by simp [hnow])]
      exact ⟨rfl, nofun⟩
  have hlive : ¬ invitation.isExpired (unsavedRun now).now = true := by simp [unsavedRun, hnow]
  unfold pair
  rw [hendpoint, hinvitation]
  dsimp only
  rw [if_neg hlive]
  dsimp only [unsavedRun]
  split
  · exact hsaved.1
  · exact hsaved.1
  · exact hsaved.1
  · rename_i hok
    exact absurd hok hsaved.2

variable {env : Platform} {e e' : RelayEndpoint}

/-- **Pairing with another origin leaves a relay alone exactly when their words differ.** The first
endpoint is stored and a valid link names the second, with another origin. In every run of pairing
the first is still found under its id afterwards, with the record it had, if and only if label and
origin of the two do not have the same words in the room that an id has. -/
theorem pairing_keeps_relay (henv : env.Lawful) {s : Stores} {payload : InvitePayload}
    {origin label : Units} {paired : Bool} {invitation : RelayInvitation}
    (he : fromSocketOrigin env origin label paired = some e) (hstored : s.relay e.id = some e)
    (he' : payload.relayEndpoint env = some e')
    (hinvitation : payload.toPendingInvitation env = some invitation)
    (horigin : e.socketOrigin ≠ e'.socketOrigin) :
    (∀ run, (pair env s payload run).1.relay e.id = some e ∧
      (pair env s payload run).1.records.lookup e.id = s.records.lookup e.id) ↔
      e.idWords env ≠ e'.idWords env := by
  have hmade := made_of_fromSocketOrigin he
  have hmade' : e'.Made env := made_of_fromSocketOrigin he'
  rw [Ne, ← hmade.id_eq_iff hmade']
  constructor
  · intro hkept hid
    -- an invitation that has not expired: one millisecond before it does
    have hnow : invitation.isExpired (invitation.expiresAtEpochMs.getD 0 - 1) = false := by
      unfold RelayInvitation.isExpired
      cases invitation.expiresAtEpochMs with
      | none => rfl
      | some expiry => simp
    have hrelay := (hkept (unsavedRun (invitation.expiresAtEpochMs.getD 0 - 1))).1
    rw [pair_unsavedRun he' hinvitation hnow, Stores.relay, Stores.upsert, Keyed.lookup_put,
      if_pos hid.symm] at hrelay
    exact horigin (congrArg RelayEndpoint.socketOrigin (Option.some.inj hrelay).symm)
  · intro hid run
    have htouches := pair_others he' (hmade'.trim_id henv) s run
    exact ⟨(htouches.relay _ hid).trans hstored, htouches.record _ hid⟩

/-! ### Two relays -/

/-- A platform with ASCII only. Its URIs are an authority behind a scheme. -/
def plainPlatform : Platform where
  parseUri value :=
    if (units "ws://".toList).isPrefixOf value then
      some { scheme := some (units ['w', 's']), rawAuthority := some (value.drop 5) }
    else if (units "wss://".toList).isPrefixOf value then
      some { scheme := some (units "wss".toList), rawAuthority := some (value.drop 6) }
    else none
  lowercase := List.map fun u => if 65 ≤ u.toNat ∧ u.toNat ≤ 90 then u + 32 else u
  isWhitespace u := u.toNat ≤ 32
  toIntOrNull value := (E2ee.decimal? value).map Int.ofNat
  toUtf8 := List.map fun u => UInt8.ofNat u.toNat

theorem lawful_plainPlatform : plainPlatform.Lawful where
  slug_not_blank u hu := by
    have hhigh : 32 < u.toNat := by
      rcases hu with hu | rfl
      · simp only [slugUnit, Bool.or_eq_true, Bool.and_eq_true, decide_eq_true_eq] at hu
        omega
      · decide
    exact decide_eq_false (by omega)

/-- `wss://` and a host. -/
def secureOrigin (host : List Char) : Units := units ("wss://".toList ++ host)

def bootstrapLink (host : List Char) : InvitePayload where
  label := units "home".toList
  socketOrigin := secureOrigin host
  setup := units (List.replicate 32 'k')
  invitation := none

def homeRelay (first : Char) (rest : List Char) : RelayEndpoint where
  id := makeRelayId plainPlatform (units "home".toList) (secureOrigin (first :: rest))
  label := units "home".toList
  host := units (first :: rest)
  port := 443
  transport := .websocketTls
  paired := false
  host_ne := List.cons_ne_nil _ _
  port_range := by decide

/-- Nothing fails, and the relay never answers. -/
def silentRun : PairRun where
  now := 0
  upsert := .done
  saveNow := 0
  save := .done
  commits := []
  verdict := .timedOut
  getNow := 0
  get := .done

def pairAll (links : List InvitePayload) : Stores :=
  links.foldl (fun s link => (pair plainPlatform s link silentRun).1) ⟨[], ∅⟩

theorem pairing_keeps_relay_sample :
    (pair plainPlatform (pairAll [bootstrapLink "a.b".toList]) (bootstrapLink "a.c".toList)
      silentRun).1.relay (homeRelay 'a' ['.', 'b']).id = some (homeRelay 'a' ['.', 'b']) := by
  have he : fromSocketOrigin plainPlatform (secureOrigin "a.b".toList)
      (units "home".toList) false = some (homeRelay 'a' ['.', 'b']) := by
    decide +kernel
  have he' : (bootstrapLink "a.c".toList).relayEndpoint plainPlatform
      = some (homeRelay 'a' ['.', 'c']) := by
    decide +kernel
  have hstored : (pairAll [bootstrapLink "a.b".toList]).relay (homeRelay 'a' ['.', 'b']).id
      = some (homeRelay 'a' ['.', 'b']) := by
    decide +kernel
  obtain ⟨invitation, hinvitation⟩ := Option.isSome_iff_exists.mp
    (show ((bootstrapLink "a.c".toList).toPendingInvitation plainPlatform).isSome by
      decide +kernel)
  exact ((pairing_keeps_relay lawful_plainPlatform he hstored he' hinvitation (by decide)).mpr
    (by decide +kernel) silentRun).1

/-- **The second relay takes the place of the first**: `wss://a.b` and `wss://a-b` under one label
have one id, so the endpoint is written over, and the record with it. -/
theorem dash_and_dot_collide :
    (homeRelay 'a' ['.', 'b']).socketOrigin ≠ (homeRelay 'a' ['-', 'b']).socketOrigin ∧
    (pairAll [bootstrapLink "a.b".toList]).relays = [homeRelay 'a' ['.', 'b']] ∧
    (pairAll [bootstrapLink "a.b".toList, bootstrapLink "a-b".toList]).relays
      = [homeRelay 'a' ['-', 'b']] ∧
    (pairAll [bootstrapLink "a.b".toList, bootstrapLink "a-b".toList]).records.keys.length
      = 1 := by
  decide +kernel

end Lerdr.Pairing
