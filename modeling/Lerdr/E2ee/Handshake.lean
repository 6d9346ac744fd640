/-
# Lerdr.E2ee.Handshake — the authenticated key exchange of the sealed session (`handshake.rs`).

The client's hello names a credential or an invitation and proves knowledge of its secret over a
binding, a nonce and a P-256 point; the relay answers with a proof over the whole transcript, and
both sides derive the session keys from the shared point and a salt over the same transcript:

```
binding      = "herdr-e2ee-v2 auth\0" ‖ kind ‖ 0 ‖ auth_id ‖ 0 ‖ decimal(auth_version) ‖ 0
client_proof = HMAC(secret, "herdr-e2ee-v2 client\0" ‖ binding ‖ client_nonce ‖ client_public)
transcript   = binding ‖ client_nonce ‖ client_public ‖ server_nonce ‖ server_public
server_proof = HMAC(secret, "herdr-e2ee-v2 server\0" ‖ transcript)
key_salt     = HMAC(secret, "herdr-e2ee-v2 key\0" ‖ transcript)
```

serde, HMAC, HKDF and the curve are libraries and enter as the fields of `HandshakeLib`. The base64
crate is `Lib.Base64`, here and in the stores; `Agreement`, where two libraries meet, takes laws.
-/
import Lerdr.E2ee.Session
import Lerdr.Lib.Base64

namespace Lerdr.E2ee

open Lib Lerdr.Rust

def nonceBytes : Nat := 32
/-- `PUBLIC_KEY_BYTES` — an uncompressed point `0x04 ‖ X ‖ Y`. -/
def publicKeyBytes : Nat := 65
def secretBytes : Nat := 32
def proofBytes : Nat := 32
def maxAuthIdBytes : Nat := 128
def maxLocaleBytes : Nat := 32

def clientProofLabel : Bytes := ascii "herdr-e2ee-v2 client".toList ++ [0]
def serverProofLabel : Bytes := ascii "herdr-e2ee-v2 server".toList ++ [0]
def keySaltLabel : Bytes := ascii "herdr-e2ee-v2 key".toList ++ [0]
def bindingPrefix : Bytes := ascii "herdr-e2ee-v2 auth".toList ++ [0]
def hkdfInfoC2s : Bytes := ascii "herdr-e2ee-v2 c2s".toList
def hkdfInfoS2c : Bytes := ascii "herdr-e2ee-v2 s2c".toList

/-! ## §1 — the selector and its binding -/

/-- What a client authenticates with. -/
inductive AuthKind where
  | credential
  | invitation
  deriving DecidableEq, Repr

def AuthKind.asStr : AuthKind → Text
  | .credential => "credential".toList
  | .invitation => "invitation".toList

def AuthKind.fromLabel (label : Text) : Option AuthKind :=
  if label = "credential".toList then some .credential
  else if label = "invitation".toList then some .invitation
  else none

/-- `AuthSelector` — what the client authenticates under. -/
structure AuthSelector where
  kind : AuthKind
  id : Text
  version : UInt64
  locale : Text
  deriving DecidableEq, Repr

/-- `u64::to_string`. -/
def decimal (n : UInt64) : Text := Nat.toDigits 10 n.toNat

/-- `AuthSelector::binding`; the locale is not part of it. -/
def AuthSelector.binding (s : AuthSelector) : Bytes :=
  bindingPrefix ++ ascii s.kind.asStr ++ [0] ++ utf8 s.id ++ [0] ++ ascii (decimal s.version) ++ [0]

def AuthSelector.isValid (s : AuthSelector) : Bool :=
  !s.id.isEmpty && len s.id ≤ maxAuthIdBytes && s.version ≠ 0 && len s.locale ≤ maxLocaleBytes

/-! ## §2 — hellos, libraries, proofs -/

/-- `ClientHelloWire`, as serde fills it: absent or `null` members are zero values. -/
structure ClientHelloWire where
  type : Text := []
  version : Int := 0
  authKind : Text := []
  authId : Text := []
  authVersion : UInt64 := 0
  locale : Text := []
  nonce : Text := []
  publicKey : Text := []
  proof : Text := []

/-- What `handshake.rs` takes from its libraries: `serde_json::from_slice` for the hello,
HMAC-SHA256, HKDF-SHA256 (salt, key material, info) and the P-256 operations. -/
structure HandshakeLib (Point Scalar : Type) where
  clientHelloFromSlice : Bytes → Option ClientHelloWire
  hmac : Bytes → Bytes → Block proofBytes
  hkdf : Bytes → Bytes → Bytes → Block 32
  fromSec1Bytes : Bytes → Option Point
  publicKey : Scalar → Point
  toSec1Point : Point → Bytes
  diffieHellman : Scalar → Point → Bytes

/-- `ClientHello` — parsed and validated. -/
structure ClientHello (Point : Type) where
  selector : AuthSelector
  nonce : Block nonceBytes
  publicBytes : Block publicKeyBytes
  publicKey : Point
  proof : Block proofBytes
  deriving DecidableEq

/-- `ServerHelloFields` — a server hello as the client has parsed it. -/
structure ServerHello (Point : Type) where
  nonce : Block nonceBytes
  publicBytes : Block publicKeyBytes
  publicKey : Point
  proof : Block proofBytes
  deriving DecidableEq

/-- The variants of `E2eeError` that the handshake returns. -/
inductive HandshakeError where
  | invalidClientHello
  | unsupportedClientHello
  | invalidAuthSelector
  | invalidClientNonce
  | invalidClientPublicKey
  | invalidClientProof
  | clientProofFailed
  | invalidKeyMaterial
  deriving DecidableEq, Repr

/-- What both sides have said. -/
def transcript (binding clientNonce clientPublic serverNonce serverPublic : Bytes) : Bytes :=
  binding ++ clientNonce ++ clientPublic ++ serverNonce ++ serverPublic

/-- What `client_proof` and `verify_client_proof` feed to the MAC. -/
def clientProofInput (binding clientNonce clientPublic : Bytes) : Bytes :=
  clientProofLabel ++ binding ++ clientNonce ++ clientPublic

/-- What `server_proof` feeds to the MAC. -/
def serverProofInput (transcript : Bytes) : Bytes := serverProofLabel ++ transcript

/-- What `key_salt` feeds to the MAC. -/
def keySaltInput (transcript : Bytes) : Bytes := keySaltLabel ++ transcript

section
variable {Point Scalar : Type} (lib : HandshakeLib Point Scalar)

/-- The tag of a hello. -/
def clientProof (secret binding clientNonce clientPublic : Bytes) : Block proofBytes :=
  lib.hmac secret (clientProofInput binding clientNonce clientPublic)

/-- The tag of an answer. -/
def serverProof (secret transcript : Bytes) : Block proofBytes :=
  lib.hmac secret (serverProofInput transcript)

def keySalt (secret transcript : Bytes) : Block proofBytes :=
  lib.hmac secret (keySaltInput transcript)

/-- One key for each direction. -/
def deriveSessionKeys (sharedSecret keySalt : Bytes) : SessionKeys where
  c2s := (lib.hkdf keySalt sharedSecret hkdfInfoC2s).toList
  s2c := (lib.hkdf keySalt sharedSecret hkdfInfoS2c).toList
  c2s_length := List.Vector.toList_length _
  s2c_length := List.Vector.toList_length _

/-! ## §3 — parsing -/

/-- `decode_field` — `RAW_URL` tolerates non-zero trailing bits. -/
def decodeField (n : Nat) (value : Text) : Option (Block n) :=
  (Base64.decode true value).bind (Block.ofBytes n)

/-- Only the form that begins with `0x04`. -/
def parseUncompressedP256 (bytes : Block publicKeyBytes) : Option Point :=
  if bytes.toList.getD 0 0 ≠ 4 then none else lib.fromSec1Bytes bytes.toList

def okOr {α ε : Type} (o : Option α) (e : ε) : Except ε α :=
  match o with
  | some a => .ok a
  | none => .error e

/-- The relay reads a hello. -/
def parseClientHello (rawHello : Bytes) : Except HandshakeError (ClientHello Point) := do
  let hello ← okOr (lib.clientHelloFromSlice rawHello) .invalidClientHello
  if hello.type ≠ "e2ee_client_hello".toList ∨ hello.version ≠ version then
    throw .unsupportedClientHello
  let selector ← match AuthKind.fromLabel hello.authKind with
    | some kind =>
      let selector : AuthSelector :=
        { kind, id := hello.authId, version := hello.authVersion, locale := hello.locale }
      if selector.isValid then pure selector else throw .invalidAuthSelector
    | none => throw .invalidAuthSelector
  let nonce ← okOr (decodeField nonceBytes hello.nonce) .invalidClientNonce
  let publicBytes ← okOr (decodeField publicKeyBytes hello.publicKey) .invalidClientPublicKey
  let proof ← okOr (decodeField proofBytes hello.proof) .invalidClientProof
  let publicKey ← okOr (parseUncompressedP256 lib publicBytes) .invalidClientPublicKey
  pure { selector, nonce, publicBytes, publicKey, proof }

def verifyClientProof (secret : Bytes) (hello : ClientHello Point) : Bool :=
  hello.proof =
    clientProof lib secret hello.selector.binding hello.nonce.toList hello.publicBytes.toList

end

/-! ## §4 — encoding -/

/-- The client writes its hello. -/
def encodeClientHello (selector : AuthSelector) (nonce : Block nonceBytes)
    (publicBytes : Block publicKeyBytes) (proof : Block proofBytes) : Bytes :=
  utf8 ("\x7b\"type\":\"e2ee_client_hello\",\"version\":2,\"auth_kind\":".toList ++
    escapeString selector.kind.asStr ++
    ",\"auth_id\":".toList ++ escapeString selector.id ++
    ",\"auth_version\":".toList ++ decimal selector.version ++
    ",\"locale\":".toList ++ escapeString selector.locale ++
    ",\"nonce\":".toList ++ escapeString (Base64.encode nonce.toList) ++
    ",\"public_key\":".toList ++ escapeString (Base64.encode publicBytes.toList) ++
    ",\"proof\":".toList ++ escapeString (Base64.encode proof.toList) ++ ['}'])

/-- The relay writes its answer. -/
def encodeServerHello (nonce : Block nonceBytes) (publicBytes : Block publicKeyBytes)
    (proof : Block proofBytes) : Bytes :=
  utf8 ("\x7b\"type\":\"e2ee_server_hello\",\"version\":2,\"nonce\":".toList ++
    escapeString (Base64.encode nonce.toList) ++
    ",\"public_key\":".toList ++ escapeString (Base64.encode publicBytes.toList) ++
    ",\"proof\":".toList ++ escapeString (Base64.encode proof.toList) ++ ['}'])

/-! ## §5 — the relay's half of the exchange -/

section
variable {Point Scalar : Type} (lib : HandshakeLib Point Scalar)

/-- `ServerHandshake` — an authenticated client hello with its binding. -/
structure ServerHandshake (Point : Type) where
  hello : ClientHello Point
  binding : Bytes
  deriving DecidableEq

/-- `Established` — the derived material once both hellos are fixed. -/
structure Established where
  transcript : Bytes
  sharedSecret : Bytes
  keySalt : Block proofBytes
  keys : SessionKeys

/-- `ServerHandshake::begin` — parse the hello and verify its proof. -/
def ServerHandshake.begin (rawHello secret : Bytes) :
    Except HandshakeError (ServerHandshake Point) := do
  let hello ← parseClientHello lib rawHello
  if !verifyClientProof lib secret hello then throw .clientProofFailed
  pure { hello, binding := hello.selector.binding }

/-- `ServerHandshake::respond` — the server hello, and what the session is made of. -/
def ServerHandshake.respond (h : ServerHandshake Point) (secret : Bytes) (serverPrivate : Scalar)
    (serverNonce : Block nonceBytes) : Except HandshakeError (Bytes × Established) := do
  let serverPublic := lib.publicKey serverPrivate
  let serverPublicBytes ← okOr (Block.ofBytes publicKeyBytes (lib.toSec1Point serverPublic))
    .invalidKeyMaterial
  let sharedSecret := lib.diffieHellman serverPrivate h.hello.publicKey
  let transcript := transcript h.binding h.hello.nonce.toList h.hello.publicBytes.toList
    serverNonce.toList serverPublicBytes.toList
  let serverProof := serverProof lib secret transcript
  let keySalt := keySalt lib secret transcript
  let keys := deriveSessionKeys lib sharedSecret keySalt.toList
  pure (encodeServerHello serverNonce serverPublicBytes serverProof,
    { transcript, sharedSecret, keySalt, keys })

end

/-! ## §6 — the client's half (`E2EEHandshake.kt`, `CryptoPrimitives.kt`) -/

namespace HkdfSha256

variable (mac : Bytes → Bytes → Block proofBytes)

/-- `HkdfSha256.extract`. -/
def extract (salt ikm : Bytes) : Bytes :=
  (mac (if salt.isEmpty then List.replicate proofBytes 0 else salt) ikm).toList

/-- The loop of `HkdfSha256.expand`, for so many blocks. -/
def blocks (prk info : Bytes) : Nat → Bytes → Nat → Bytes
  | 0, _, _ => []
  | n + 1, t, counter =>
    let t := (mac prk (t ++ info ++ [UInt8.ofNat counter])).toList
    t ++ blocks prk info n t (counter + 1)

/-- `HkdfSha256.expand`. -/
def expand (prk info : Bytes) (length : Nat) : Bytes :=
  (blocks mac prk info ((length + proofBytes - 1) / proofBytes) [] 1).take length

/-- `HkdfSha256.derive`. -/
def derive (ikm salt info : Bytes) (length : Nat) : Bytes :=
  expand mac (extract mac salt ikm) info length

end HkdfSha256

/-- The cryptography under the client's handshake: the JCE's HMAC-SHA256, and `P256` over the JCE's
curve. -/
structure ClientCrypto (Point Scalar : Type) where
  mac : Bytes → Bytes → Block proofBytes
  publicKey : Bytes → Option Point
  encodePublic : Point → Bytes
  ecdh : Scalar → Point → Bytes

section
variable {Point Scalar : Type} (kotlin : KotlinLib) (crypto : ClientCrypto Point Scalar)

/-- `decodeFixedField`. -/
def decodeFixedField (encoded : Option Kotlin.Units) (n : Nat) (message : FormatMessage) :
    Except E2eeException (Block n) :=
  okOr ((base64UrlDecode kotlin (encoded.getD [])).bind (Block.ofBytes n)) (.format message)

/-- `parseServerHello`. -/
def parseServerHello (rawHello : Bytes) : Except E2eeException (ServerHello Point) := do
  let hello ← okOr (kotlin.parseJsonObject rawHello) (.format .invalidServerHello)
  let type := (← stringField .invalidServerHello (hello "type".toList)).getD []
  let version' := (← longField .invalidServerHello (hello "version".toList)).getD 0
  let encodedNonce ← stringField .invalidServerHello (hello "nonce".toList)
  let encodedPublicKey ← stringField .invalidServerHello (hello "public_key".toList)
  let encodedProof ← stringField .invalidServerHello (hello "proof".toList)
  if type ≠ Kotlin.utf16 "e2ee_server_hello".toList ∨ version' ≠ version then
    throw (.format .unsupportedServerHello)
  let nonce ← decodeFixedField kotlin encodedNonce nonceBytes .invalidServerNonce
  let publicBytes ←
    decodeFixedField kotlin encodedPublicKey publicKeyBytes .invalidServerPublicKey
  let proof ← decodeFixedField kotlin encodedProof proofBytes .invalidServerProof
  let publicKey ← okOr (crypto.publicKey publicBytes.toList) (.format .invalidServerPublicKey)
  pure { nonce, publicBytes, publicKey, proof }

/-- `acceptServerHello` of the client that sent the hello `c`. -/
def acceptServerHello (secret : Bytes) (ephemeral : Scalar) (codec : Codec) (c : ClientHello Point)
    (rawHello : Bytes) : Except E2eeException E2EESession := do
  let hello ← parseServerHello kotlin crypto rawHello
  let sharedSecret := crypto.ecdh ephemeral hello.publicKey
  let transcript := transcript c.selector.binding c.nonce.toList c.publicBytes.toList
    hello.nonce.toList hello.publicBytes.toList
  let expectedProof := crypto.mac secret (serverProofInput transcript)
  if expectedProof ≠ hello.proof then throw .auth
  let keySalt := crypto.mac secret (keySaltInput transcript)
  let c2sKey := HkdfSha256.derive crypto.mac sharedSecret keySalt.toList hkdfInfoC2s 32
  let s2cKey := HkdfSha256.derive crypto.mac sharedSecret keySalt.toList hkdfInfoS2c 32
  pure (.client c2sKey s2cKey codec)

end

end Lerdr.E2ee
