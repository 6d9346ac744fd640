/-
# Lerdr.Auth.Exchange — the relay's handshake driver (`handshake.rs`), many at a time.

`exchange` reads a client hello, resolves its secret in the store, verifies the proof, and either
records the failure or answers, waits for the client finish and commits. Between two calls of the
store the lock is free, and the relay runs connections on several threads; so the model has one
event per call of the store and one for each piece of work between two calls, and a run is any
interleaving of such events over any number of connections.

The state also keeps what happened: how many invitations were installed so far, and every proof that
failed against an invitation's secret, with the time. Nothing the driver does reads these.
-/
import Lerdr.Auth.Redemption

namespace Lerdr.Auth

open Lerdr.Rust
open Lerdr.E2ee (Bytes AuthSelector secretBytes HandshakeLib ServerHandshake parseClientHello)
open AuthState

/-- Where the driver of one connection stands. -/
inductive Stage where
  /-- The secret is resolved, the proof not verified yet. -/
  | resolved (rawHello : Bytes) (secret : Block secretBytes)
  /-- The proof failed, the failure is not recorded yet. -/
  | refused
  /-- The server hello is out; the driver waits for the client finish. -/
  | responded
  /-- The client finish opened and parsed; nothing is committed yet. -/
  | finished
  deriving DecidableEq

/-- One handshake under way, and the instance of the invitation its secret was resolved in. -/
structure Exchange where
  selector : AuthSelector
  stage : Stage
  generation : Nat
  deriving DecidableEq

/-- A proof that failed against the secret of an invitation. -/
structure Failure where
  generation : Nat
  invitationId : Text
  time : Int
  deriving DecidableEq

def Exchange.failedAt (x : Exchange) (now : Int) : Failure where
  generation := x.generation
  invitationId := x.selector.id
  time := now

/-- What a failed proof leaves in the history. -/
def Exchange.failure (x : Exchange) (now : Int) : List Failure :=
  match x.selector.kind with
  | .invitation => [x.failedAt now]
  | .credential => []

/-- The store and the handshakes under way, by connection. -/
structure Exchanges where
  core : StoreCore
  table : Nat → Option Exchange
  generation : Nat
  failures : List Failure
  clock : Int

/-- What happens at a connection, or at the store by another caller. -/
inductive ExchangeEvent where
  /-- A hello arrives and its selector is resolved. -/
  | hello (connection : Nat) (rawHello : Bytes) (now : Int) (persist : Except StoreError Unit)
  /-- The proof is verified. -/
  | verify (connection : Nat) (now : Int)
  /-- The failed proof is recorded, and the connection refused. -/
  | record (connection : Nat) (now : Int) (persist : Except StoreError Unit)
  /-- The client finish arrives, opens and parses. -/
  | finish (connection : Nat)
  /-- The exchange ends while it waits: no key material, a failed write or read, a malformed finish,
  or the deadline. -/
  | close (connection : Nat)
  /-- The record of the credential or of the redemption is committed. -/
  | commit (connection : Nat) (now : Int) (persist : Except StoreError Unit)
  /-- Another caller's operation. -/
  | other (call : Call)

def ExchangeEvent.now? : ExchangeEvent → Option Int
  | .hello _ _ now _ | .verify _ now | .record _ now _ | .commit _ now _ => some now
  | .other call => some call.now
  | .finish _ | .close _ => none

/-- The connection it happens at. -/
def ExchangeEvent.connection? : ExchangeEvent → Option Nat
  | .hello c _ _ _ | .verify c _ | .record c _ _ | .finish c | .close c | .commit c _ _ => some c
  | .other _ => none

instance (t : Transaction) : Decidable t.Begins :=
  inferInstanceAs (Decidable (Installs t.call.op ∧ t.mutated = true))

namespace Exchanges

/-- No handshake under way. -/
def start (core : StoreCore) (clock : Int) : Exchanges where
  core := core
  table := fun _ => none
  generation := 0
  failures := []
  clock := clock

/-- Rewrites one connection. -/
def put (w : Exchanges) (connection : Nat) (x : Option Exchange) : Exchanges :=
  { w with table := Function.update w.table connection x }

/-- The proof failed: the history has it, and the connection owes its record. -/
def refuse (w : Exchanges) (connection : Nat) (x : Exchange) : Exchanges :=
  { w with failures := w.failures ++ x.failure w.clock }.put connection
    (some { x with stage := .refused })

section
variable {Point Scalar : Type} (lib : HandshakeLib Point Scalar) (tape : Tape)

def call (w : Exchanges) (call : Call) : Exchanges :=
  { w with
    core := (w.core.perform tape call).1
    generation := if (w.core.transaction tape call).Begins then w.generation + 1 else w.generation
    clock := call.now }

/-- Steps 1 and 2 of `exchange`. -/
def hello (w : Exchanges) (connection : Nat) (rawHello : Bytes) (now : Int)
    (persist : Except StoreError Unit) : Exchanges :=
  match parseClientHello lib rawHello with
  | .error _ => w
  | .ok hello =>
    let call : Call := { op := .resolve hello.selector, now, persist }
    match (w.core.perform tape call).2 with
    | .ok (.secret secret) =>
      (w.call tape call).put connection (some
        { selector := hello.selector
          stage := .resolved rawHello secret
          generation := w.generation })
    | _ => w.call tape call

/-- Step 3, up to the record of the failure: the proof is verified with the resolved secret. -/
def verify (w : Exchanges) (connection : Nat) (x : Exchange) (rawHello : Bytes)
    (secret : Block secretBytes) (now : Int) : Exchanges :=
  match ServerHandshake.begin lib rawHello secret.toList with
  | .ok _ => { w with clock := now }.put connection (some { x with stage := .responded })
  | .error .clientProofFailed => { w with clock := now }.refuse connection x
  | .error _ => { w with clock := now }.put connection none

/-- `none` where the exchange is not at that stage. -/
def step (w : Exchanges) : ExchangeEvent → Option Exchanges
  | .hello connection rawHello now persist =>
    if w.table connection = none then some (w.hello lib tape connection rawHello now persist)
    else none
  | .verify connection now =>
    match w.table connection with
    | some { selector, stage := .resolved rawHello secret, generation } =>
      some (w.verify lib connection { selector, stage := .resolved rawHello secret, generation }
        rawHello secret now)
    | _ => none
  | .record connection now persist =>
    match w.table connection with
    | some { selector, stage := .refused, .. } =>
      some ((w.call tape { op := .complete selector false, now, persist }).put connection none)
    | _ => none
  | .finish connection =>
    match w.table connection with
    | some { selector, stage := .responded, generation } =>
      some (w.put connection (some { selector, stage := .finished, generation }))
    | _ => none
  | .close connection =>
    match w.table connection with
    | some { stage := .responded, .. } => some (w.put connection none)
    | _ => none
  | .commit connection now persist =>
    match w.table connection with
    | some { selector, stage := .finished, .. } =>
      some ((w.call tape { op := .complete selector true, now, persist }).put connection none)
    | _ => none
  | .other call => some (w.call tape call)

/-- What happens at one connection leaves the others alone. -/
theorem step_table {w w' : Exchanges} {e : ExchangeEvent} {c : Nat}
    (h : w.step lib tape e = some w') (hc : e.connection? ≠ some c) : w'.table c = w.table c := by
  have hput : ∀ (v : Exchanges) c' x, e.connection? = some c' →
      (v.put c' x).table c = v.table c := by
    intro v c' x hc'
    have hne : c ≠ c' := by
      rintro rfl
      exact hc hc'
    simp [put, hne]
  cases e with
  | other =>
    cases h
    rfl
  | hello =>
    obtain rfl := Option.some.inj (Option.ite_none_right_eq_some.mp h).2
    unfold hello
    split
    · rfl
    · dsimp only
      split
      · exact hput _ _ _ rfl
      · rfl
  | verify =>
    simp only [step] at h
    split at h <;> cases h
    unfold verify
    split <;> exact hput _ _ _ rfl
  | _ =>
    simp only [step] at h
    split at h <;> cases h
    exact hput _ _ _ rfl

end

end Exchanges

def ExchangeStep {Point Scalar : Type} (lib : HandshakeLib Point Scalar) (tape : Tape)
    (w : Exchanges) (e : ExchangeEvent) (w' : Exchanges) : Prop :=
  w.step lib tape e = some w'

end Lerdr.Auth
