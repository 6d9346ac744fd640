/-
# Lerdr.E2ee.Separation — what the byte strings of the handshake determine.

The binding is delimited from behind: the version is decimal digits between two zero bytes, so an
`auth_id` that itself holds zero bytes cannot shift it. After the binding, the transcript has fixed
width. The labels of the three MAC inputs and of the two HKDF infos differ within their first
sixteen bytes.

`MacUse` is the abstract side: a use of the pairing secret is a role together with what it speaks
of. `MacUse.input_injective` says that the code's byte strings keep exactly that apart.
-/
import Lerdr.E2ee.Handshake
import Lerdr.Lib.Json
import Lerdr.Lib.PrefixCode
import Lerdr.Lib.Utf8

namespace Lerdr.E2ee

open Lib Lerdr.Rust

/-! ## §1 — text encodings -/

theorem isDigit_of_mem_decimal {n : UInt64} {c : Char} (h : c ∈ decimal n) : c.isDigit = true :=
  Nat.isDigit_of_mem_toDigits (by decide) (by decide) h

theorem decimal_injective : Function.Injective decimal := by
  intro m n h
  have hread : ∀ k : UInt64, Nat.ofDigitChars 10 (decimal k) 0 = k.toNat :=
    fun k => Nat.ofDigitChars_toDigits (by decide) (by decide)
  apply UInt64.toNat_inj.mp
  rw [← hread m, h, hread]

theorem ascii_decimal_injective {m n : UInt64} (h : ascii (decimal m) = ascii (decimal n)) :
    m = n := by
  have hdigits : ∀ k : UInt64, ∀ c ∈ decimal k, c.toNat < 0x80 := by
    intro k c hc
    have := Utf8.toNat_of_isDigit (isDigit_of_mem_decimal hc)
    omega
  have hbytes : Utf8.bytes (decimal m) = Utf8.bytes (decimal n) := by
    rw [Utf8.bytes_ascii (hdigits m), Utf8.bytes_ascii (hdigits n)]
    exact h
  exact decimal_injective (Utf8.bytes_injective hbytes)

theorem zero_notMem_ascii_decimal (n : UInt64) : (0 : UInt8) ∉ ascii (decimal n) := by
  intro hmem
  obtain ⟨c, hc, hzero⟩ := List.mem_map.mp hmem
  have hrange := Utf8.toNat_of_isDigit (isDigit_of_mem_decimal hc)
  have hval := congrArg UInt8.toNat hzero
  rw [UInt8.toNat_ofNat_of_lt' (by simp only [UInt8.size]; omega)] at hval
  simp at hval
  omega

/-! ## §2 — binding and transcript -/

theorem asStr_length (kind : AuthKind) : (ascii kind.asStr).length = 10 := by
  cases kind <;> decide +kernel

theorem ascii_asStr_injective {a b : AuthKind} (h : ascii a.asStr = ascii b.asStr) : a = b := by
  have hne : ascii AuthKind.credential.asStr ≠ ascii AuthKind.invitation.asStr := by decide +kernel
  cases a <;> cases b
  · rfl
  · exact absurd h hne
  · exact absurd h.symm hne
  · rfl

/-- **A binding names kind, identifier and version**, whatever bytes the identifier holds. -/
theorem binding_inj {a b : AuthSelector} (h : a.binding = b.binding) :
    a.kind = b.kind ∧ a.id = b.id ∧ a.version = b.version := by
  simp only [AuthSelector.binding, List.append_assoc] at h
  obtain ⟨hkind, hrest⟩ := List.append_inj (List.append_cancel_left h)
    (by rw [asStr_length, asStr_length])
  -- the last zero byte ends the digits, the one before it ends the identifier
  have hbody : utf8 a.id ++ 0 :: ascii (decimal a.version)
      = utf8 b.id ++ 0 :: ascii (decimal b.version) := by
    have hended : (utf8 a.id ++ 0 :: ascii (decimal a.version)) ++ [0]
        = (utf8 b.id ++ 0 :: ascii (decimal b.version)) ++ [0] := by simpa using hrest
    exact List.append_cancel_right hended
  obtain ⟨hid, hversion⟩ := last_sep_inj (zero_notMem_ascii_decimal _)
    (zero_notMem_ascii_decimal _) hbody
  exact ⟨ascii_asStr_injective hkind, Utf8.bytes_injective hid, ascii_decimal_injective hversion⟩

/-- What the handshake binds of a client hello: everything but locale and proof. -/
structure ClientBound where
  kind : AuthKind
  id : Text
  version : UInt64
  nonce : Block nonceBytes
  publicBytes : Block publicKeyBytes
  deriving DecidableEq

/-- What the handshake binds of a server hello: everything but the proof. -/
structure ServerBound where
  nonce : Block nonceBytes
  publicBytes : Block publicKeyBytes
  deriving DecidableEq

section
variable {Point : Type}

def ClientHello.bound (c : ClientHello Point) : ClientBound where
  kind := c.selector.kind
  id := c.selector.id
  version := c.selector.version
  nonce := c.nonce
  publicBytes := c.publicBytes

def ServerHello.bound (s : ServerHello Point) : ServerBound where
  nonce := s.nonce
  publicBytes := s.publicBytes

end

variable {n : Nat} {x y : List Char}

/-- The binding of any selector with these fields. -/
def ClientBound.binding (c : ClientBound) : Bytes :=
  AuthSelector.binding { kind := c.kind, id := c.id, version := c.version, locale := [] }

/-- The transcript over the bound fields. -/
def boundTranscript (c : ClientBound) (s : ServerBound) : Bytes :=
  transcript c.binding c.nonce.toList c.publicBytes.toList s.nonce.toList s.publicBytes.toList

theorem append_block_inj {xs ys : Bytes} {a b : Block n}
    (h : xs ++ a.toList = ys ++ b.toList) : xs = ys ∧ a = b := by
  obtain ⟨hxs, hab⟩ := List.append_inj' h (by rw [a.toList_length, b.toList_length])
  exact ⟨hxs, Subtype.ext hab⟩

theorem ClientBound.ext_of_parts {c c' : ClientBound} (hbinding : c.binding = c'.binding)
    (hnonce : c.nonce = c'.nonce) (hpublic : c.publicBytes = c'.publicBytes) : c = c' := by
  obtain ⟨hkind, hid, hversion⟩ := binding_inj hbinding
  cases c
  cases c'
  simp_all

/-- **The transcript names the bound fields of both hellos.** -/
theorem boundTranscript_inj {c c' : ClientBound} {s s' : ServerBound}
    (h : boundTranscript c s = boundTranscript c' s') : c = c' ∧ s = s' := by
  simp only [boundTranscript, transcript] at h
  obtain ⟨h, hserverPublic⟩ := append_block_inj h
  obtain ⟨h, hserverNonce⟩ := append_block_inj h
  obtain ⟨h, hclientPublic⟩ := append_block_inj h
  obtain ⟨hbinding, hclientNonce⟩ := append_block_inj h
  refine ⟨ClientBound.ext_of_parts hbinding hclientNonce hclientPublic, ?_⟩
  cases s
  cases s'
  simp_all

/-! ## §3 — roles -/

/-- A use of the pairing secret: a role, and what it speaks of. -/
inductive MacUse where
  | clientProof (client : ClientBound)
  | serverProof (client : ClientBound) (server : ServerBound)
  | keySalt (client : ClientBound) (server : ServerBound)
  deriving DecidableEq

/-- What the code feeds to the MAC for a use. -/
def MacUse.input : MacUse → Bytes
  | .clientProof c => clientProofInput c.binding c.nonce.toList c.publicBytes.toList
  | .serverProof c s => serverProofInput (boundTranscript c s)
  | .keySalt c s => keySaltInput (boundTranscript c s)

/-- The first sixteen bytes of a labelled input are those of its label. -/
theorem take_label {label : Bytes} (h : 16 ≤ label.length) (rest : Bytes) :
    (label ++ rest).take 16 = label.take 16 :=
  List.take_append_of_le_length h

/-- **The labels tell the roles apart**, over all arguments. -/
theorem labelled_inputs_nodup (binding clientNonce clientPublic t t' : Bytes) :
    [clientProofInput binding clientNonce clientPublic, serverProofInput t, keySaltInput t',
      hkdfInfoC2s, hkdfInfoS2c].Nodup := by
  apply List.Nodup.of_map (List.take 16)
  simp only [List.map_cons, List.map_nil, clientProofInput, serverProofInput, keySaltInput,
    List.append_assoc]
  rw [take_label (by decide +kernel), take_label (by decide +kernel),
    take_label (by decide +kernel)]
  decide +kernel

theorem clientProofInput_ne_serverProofInput (b n p t : Bytes) :
    clientProofInput b n p ≠ serverProofInput t := by
  have h := labelled_inputs_nodup b n p t t
  simp only [List.nodup_cons, List.mem_cons, not_or] at h
  exact h.1.1

theorem clientProofInput_ne_keySaltInput (b n p t : Bytes) :
    clientProofInput b n p ≠ keySaltInput t := by
  have h := labelled_inputs_nodup b n p t t
  simp only [List.nodup_cons, List.mem_cons, not_or] at h
  exact h.1.2.1

theorem serverProofInput_ne_keySaltInput (t t' : Bytes) :
    serverProofInput t ≠ keySaltInput t' := by
  have h := labelled_inputs_nodup [] [] [] t t'
  simp only [List.nodup_cons, List.mem_cons, not_or] at h
  exact h.2.1.1

/-- **The MAC inputs determine role and bound fields.** -/
theorem MacUse.input_injective : Function.Injective MacUse.input := by
  intro u v h
  cases u with
  | clientProof c =>
    cases v with
    | clientProof c' =>
      simp only [input, clientProofInput] at h
      obtain ⟨h, hpublic⟩ := append_block_inj h
      obtain ⟨h, hnonce⟩ := append_block_inj h
      have hbinding : c.binding = c'.binding := List.append_cancel_left h
      rw [ClientBound.ext_of_parts hbinding hnonce hpublic]
    | serverProof c' s' => exact absurd h (clientProofInput_ne_serverProofInput _ _ _ _)
    | keySalt c' s' => exact absurd h (clientProofInput_ne_keySaltInput _ _ _ _)
  | serverProof c s =>
    cases v with
    | clientProof c' => exact absurd h.symm (clientProofInput_ne_serverProofInput _ _ _ _)
    | serverProof c' s' =>
      obtain ⟨rfl, rfl⟩ := boundTranscript_inj (List.append_cancel_left h)
      rfl
    | keySalt c' s' => exact absurd h (serverProofInput_ne_keySaltInput _ _)
  | keySalt c s =>
    cases v with
    | clientProof c' => exact absurd h.symm (clientProofInput_ne_keySaltInput _ _ _ _)
    | serverProof c' s' => exact absurd h.symm (serverProofInput_ne_keySaltInput _ _)
    | keySalt c' s' =>
      obtain ⟨rfl, rfl⟩ := boundTranscript_inj (List.append_cancel_left h)
      rfl

/-! ## §4 — the hello messages -/

theorem readChar_control {n : Nat} (h : n < 0x20) (rest : List Char) :
    Json.readChar (['\\', 'u', '0', '0', hexDigit (n / 16), hexDigit (n % 16)] ++ rest)
      = some (Char.ofNat n, rest) := by
  have hall : ∀ n < 0x20,
      Json.hex4? ['0', '0', hexDigit (n / 16), hexDigit (n % 16)] = some (n, []) := by
    decide
  exact Json.readChar_unicode (hall n h) (by omega) rest

/-- **Go's escapes are read as the characters they stand for.** -/
theorem escapes_goEscapeChar : Json.Escapes goEscapeChar := by
  intro c rest
  by_cases hquote : c = '"'
  · subst hquote; rfl
  by_cases hbackslash : c = '\\'
  · subst hbackslash; rfl
  by_cases hn : c = '\n'
  · subst hn; rfl
  by_cases hr : c = '\r'
  · subst hr; rfl
  by_cases ht : c = '\t'
  · subst ht; rfl
  by_cases hlt : c = '<'
  · subst hlt
    exact Json.readChar_unicode rfl (by decide) rest
  by_cases hgt : c = '>'
  · subst hgt
    exact Json.readChar_unicode rfl (by decide) rest
  by_cases hamp : c = '&'
  · subst hamp
    exact Json.readChar_unicode rfl (by decide) rest
  by_cases hline : c.toNat = 0x2028
  · rw [← Char.ofNat_toNat c, hline]
    exact Json.readChar_unicode rfl (by decide) rest
  by_cases hparagraph : c.toNat = 0x2029
  · rw [← Char.ofNat_toNat c, hparagraph]
    exact Json.readChar_unicode rfl (by decide) rest
  rw [goEscapeChar, if_neg hquote, if_neg hbackslash, if_neg hn, if_neg hr, if_neg ht, if_neg hlt,
    if_neg hgt, if_neg hamp, if_neg hline, if_neg hparagraph]
  by_cases hcontrol : c.toNat < 0x20
  · rw [if_pos hcontrol, readChar_control hcontrol, Char.ofNat_toNat]
  · rw [if_neg hcontrol, List.singleton_append, Json.readChar.eq_def]
    dsimp only
    rw [if_neg hquote, if_neg hbackslash, if_neg hcontrol]

theorem goString_eq_literal (s : Text) : goString s = Json.literal goEscapeChar s := by
  rw [goString, Json.literal, List.cons_append]

def hexValue (c : Char) : Nat := if c.toNat < 58 then c.toNat - 48 else c.toNat - 87

/-- The character with these four hex digits. -/
def readUnicode : List Char → Option Char
  | a :: b :: c :: d :: _ =>
    some (Char.ofNat (((hexValue a * 16 + hexValue b) * 16 + hexValue c) * 16 + hexValue d))
  | _ => none

/-- The character that what follows a backslash stands for. -/
def readEscape : List Char → Option Char
  | [] => none
  | c :: rest =>
    if c = 'n' then some '\n'
    else if c = 'r' then some '\r'
    else if c = 't' then some '\t'
    else if c = 'u' then readUnicode rest
    else some c

/-- The first character of an escaped text. -/
def readEscaped : List Char → Option Char
  | [] => none
  | c :: rest => if c = '\\' then readEscape rest else some c

theorem readEscaped_control (h : n < 0x20) (x : List Char) :
    readEscaped (['\\', 'u', '0', '0', hexDigit (n / 16), hexDigit (n % 16)] ++ x)
      = some (Char.ofNat n) := by
  have hall : ∀ n < 0x20, ((hexValue '0' * 16 + hexValue '0') * 16 + hexValue (hexDigit (n / 16)))
      * 16 + hexValue (hexDigit (n % 16)) = n := by decide
  show some (Char.ofNat _) = _
  rw [hall n h]

theorem readEscaped_goEscapeChar (c : Char) (x : List Char) :
    readEscaped (goEscapeChar c ++ x) = some c := by
  by_cases hquote : c = '"'
  · subst hquote; rfl
  by_cases hbackslash : c = '\\'
  · subst hbackslash; rfl
  by_cases hn : c = '\n'
  · subst hn; rfl
  by_cases hr : c = '\r'
  · subst hr; rfl
  by_cases ht : c = '\t'
  · subst ht; rfl
  by_cases hlt : c = '<'
  · subst hlt; rfl
  by_cases hgt : c = '>'
  · subst hgt; rfl
  by_cases hamp : c = '&'
  · subst hamp; rfl
  by_cases hline : c.toNat = 0x2028
  · rw [← Char.ofNat_toNat c, hline]
    rfl
  by_cases hparagraph : c.toNat = 0x2029
  · rw [← Char.ofNat_toNat c, hparagraph]
    rfl
  rw [goEscapeChar, if_neg hquote, if_neg hbackslash, if_neg hn, if_neg hr, if_neg ht, if_neg hlt,
    if_neg hgt, if_neg hamp, if_neg hline, if_neg hparagraph]
  by_cases hcontrol : c.toNat < 0x20
  · rw [if_pos hcontrol, readEscaped_control hcontrol, Char.ofNat_toNat]
  · rw [if_neg hcontrol, List.singleton_append, readEscaped, if_neg hbackslash]

theorem prefixFree_goEscapeChar : PrefixFree goEscapeChar := by
  intro a b x y h
  have hsome : some a = some b := by
    rw [← readEscaped_goEscapeChar a x, h, readEscaped_goEscapeChar]
  obtain rfl := Option.some.inj hsome
  exact ⟨rfl, List.append_cancel_left h⟩

theorem terminator_quote (x : List Char) : Terminator goEscapeChar ('"' :: x) := by
  intro c y h
  have hc : some c = some '"' := by rw [← readEscaped_goEscapeChar c y, h]; rfl
  obtain rfl := Option.some.inj hc
  exact absurd (List.cons.inj h).1 (by decide)

/-- **A string literal determines its text**, in front of any rest. -/
theorem escapeString_append_inj {s s' : Text}
    (h : escapeString s ++ x = escapeString s' ++ y) : s = s' ∧ x = y := by
  have hbody : s.flatMap goEscapeChar ++ '"' :: x = s'.flatMap goEscapeChar ++ '"' :: y := by
    simpa [escapeString, goString] using h
  obtain ⟨hs, hxy⟩ := prefixFree_goEscapeChar.flatMap_inj (terminator_quote x) (terminator_quote y)
    hbody
  exact ⟨hs, (List.cons.inj hxy).2⟩

theorem escapeString_block_append_inj {a b : Block n}
    (h : escapeString (Base64.encode a.toList) ++ x = escapeString (Base64.encode b.toList) ++ y) :
    a = b ∧ x = y := by
  obtain ⟨hab, hxy⟩ := escapeString_append_inj h
  exact ⟨Subtype.ext (Base64.encode_injective hab), hxy⟩

theorem decimal_comma_inj {m n : UInt64}
    (h : decimal m ++ ',' :: x = decimal n ++ ',' :: y) : m = n ∧ x = y := by
  have hcomma : ∀ k : UInt64, ',' ∉ decimal k :=
    fun k hmem => absurd (isDigit_of_mem_decimal hmem) (by decide)
  obtain ⟨hmn, hxy⟩ := first_sep_inj (hcomma m) (hcomma n) h
  exact ⟨decimal_injective hmn, hxy⟩

/-- **A client hello on the wire determines its fields.** -/
theorem encodeClientHello_inj {a a' : AuthSelector} {n n' : Block nonceBytes}
    {k k' : Block publicKeyBytes} {p p' : Block proofBytes}
    (h : encodeClientHello a n k p = encodeClientHello a' n' k' p') :
    a = a' ∧ n = n' ∧ k = k' ∧ p = p' := by
  have hlocale : ",\"locale\":".toList = ',' :: "\"locale\":".toList := by decide +kernel
  have hkinds : ∀ {a b : AuthKind}, a.asStr = b.asStr → a = b :=
    fun h => ascii_asStr_injective (congrArg ascii h)
  have htext := Utf8.bytes_injective h
  simp only [List.append_assoc, hlocale, List.cons_append] at htext
  obtain ⟨hkind, htext⟩ := escapeString_append_inj (List.append_cancel_left htext)
  obtain ⟨hid, htext⟩ := escapeString_append_inj (List.append_cancel_left htext)
  obtain ⟨hversion, htext⟩ := decimal_comma_inj (List.append_cancel_left htext)
  obtain ⟨hloc, htext⟩ := escapeString_append_inj (List.append_cancel_left htext)
  obtain ⟨hnonce, htext⟩ := escapeString_block_append_inj (List.append_cancel_left htext)
  obtain ⟨hpublic, htext⟩ := escapeString_block_append_inj (List.append_cancel_left htext)
  obtain ⟨hproof, -⟩ := escapeString_block_append_inj (List.append_cancel_left htext)
  refine ⟨?_, hnonce, hpublic, hproof⟩
  have := hkinds hkind
  cases a
  cases a'
  simp_all

/-- **A server hello on the wire determines its fields.** -/
theorem encodeServerHello_inj {n n' : Block nonceBytes} {k k' : Block publicKeyBytes}
    {p p' : Block proofBytes} (h : encodeServerHello n k p = encodeServerHello n' k' p') :
    n = n' ∧ k = k' ∧ p = p' := by
  have htext := Utf8.bytes_injective h
  simp only [List.append_assoc] at htext
  obtain ⟨hnonce, htext⟩ := escapeString_block_append_inj (List.append_cancel_left htext)
  obtain ⟨hpublic, htext⟩ := escapeString_block_append_inj (List.append_cancel_left htext)
  obtain ⟨hproof, -⟩ := escapeString_block_append_inj (List.append_cancel_left htext)
  exact ⟨hnonce, hpublic, hproof⟩

/-! ## §5 — handshakes -/

section
variable {Point Scalar : Type}
variable {lib : HandshakeLib Point Scalar}

/-- The transcript of a handshake with these hellos, as `respond` builds it. -/
def handshakeTranscript (c : ClientHello Point) (s : ServerHello Point) : Bytes :=
  transcript c.selector.binding c.nonce.toList c.publicBytes.toList s.nonce.toList
    s.publicBytes.toList

/-- The uses of the pairing secret in a handshake. -/
def macUses (c : ClientHello Point) (s : ServerHello Point) : List MacUse :=
  [.clientProof c.bound, .serverProof c.bound s.bound, .keySalt c.bound s.bound]

/-- The MAC keeps apart whatever two lists of uses feed to it under two secrets. -/
def CollisionFree (lib : HandshakeLib Point Scalar) (secret secret' : Bytes)
    (uses uses' : List MacUse) : Prop :=
  ∀ u ∈ uses, ∀ v ∈ uses', lib.hmac secret u.input = lib.hmac secret' v.input → u.input = v.input

instance (lib : HandshakeLib Point Scalar) (secret secret' : Bytes) (uses uses' : List MacUse) :
    Decidable (CollisionFree lib secret secret' uses uses') :=
  inferInstanceAs (Decidable (∀ u ∈ uses, ∀ v ∈ uses',
    lib.hmac secret u.input = lib.hmac secret' v.input → u.input = v.input))

theorem handshakeTranscript_eq (c : ClientHello Point) (s : ServerHello Point) :
    handshakeTranscript c s = boundTranscript c.bound s.bound := rfl

theorem verifyClientProof_iff {secret : Bytes} {c : ClientHello Point} :
    verifyClientProof lib secret c = true ↔
      c.proof = lib.hmac secret (MacUse.clientProof c.bound).input := by
  rw [verifyClientProof, decide_eq_true_eq]
  rfl

/-- **The byte strings of the handshake keep apart what they speak of.** For all hellos the parsers
can return: transcripts agree only if kind, identifier, version, nonces and public keys do; the MAC
inputs of the three roles and the two HKDF infos differ whatever they are applied to; a binding
names its kind, identifier and version; a hello message names its fields. So under a MAC without
collisions among the inputs of two handshakes, a tag made in the one never passes in the other for
another role or other fields. -/
theorem handshake_encodings_separate (lib : HandshakeLib Point Scalar) (c c' : ClientHello Point)
    (s s' : ServerHello Point) :
    (handshakeTranscript c s = handshakeTranscript c' s' ↔
      c.bound = c'.bound ∧ s.bound = s'.bound) ∧
    (∀ binding clientNonce clientPublic t t' : Bytes,
      [clientProofInput binding clientNonce clientPublic, serverProofInput t, keySaltInput t',
        hkdfInfoC2s, hkdfInfoS2c].Nodup) ∧
    (∀ a b : AuthSelector, a.binding = b.binding ↔
      a.kind = b.kind ∧ a.id = b.id ∧ a.version = b.version) ∧
    (encodeClientHello c.selector c.nonce c.publicBytes c.proof
        = encodeClientHello c'.selector c'.nonce c'.publicBytes c'.proof →
      c.bound = c'.bound ∧ c.selector.locale = c'.selector.locale ∧ c.proof = c'.proof) ∧
    (encodeServerHello s.nonce s.publicBytes s.proof
        = encodeServerHello s'.nonce s'.publicBytes s'.proof →
      s.bound = s'.bound ∧ s.proof = s'.proof) ∧
    ∀ secret secret' : Bytes, CollisionFree lib secret secret' (macUses c s) (macUses c' s') →
      (∀ u ∈ macUses c s, ∀ v ∈ macUses c' s',
        lib.hmac secret u.input = lib.hmac secret' v.input → u = v) ∧
      (verifyClientProof lib secret c = true → ∀ v ∈ macUses c' s',
        c.proof = lib.hmac secret' v.input → v = .clientProof c.bound) := by
  rw [handshakeTranscript_eq, handshakeTranscript_eq]
  refine ⟨⟨boundTranscript_inj, ?_⟩, labelled_inputs_nodup, fun a b => ⟨binding_inj, ?_⟩,
    ?_, ?_, ?_⟩
  · rintro ⟨hc, hs⟩
    rw [hc, hs]
  · rintro ⟨hkind, hid, hversion⟩
    rw [AuthSelector.binding, AuthSelector.binding, hkind, hid, hversion]
  · intro h
    obtain ⟨hselector, hnonce, hpublic, hproof⟩ := encodeClientHello_inj h
    rw [ClientHello.bound, ClientHello.bound, hselector, hnonce, hpublic]
    exact ⟨rfl, rfl, hproof⟩
  · intro h
    obtain ⟨hnonce, hpublic, hproof⟩ := encodeServerHello_inj h
    rw [ServerHello.bound, ServerHello.bound, hnonce, hpublic]
    exact ⟨rfl, hproof⟩
  · intro secret secret' hfree
    have hsame : ∀ u ∈ macUses c s, ∀ v ∈ macUses c' s',
        lib.hmac secret u.input = lib.hmac secret' v.input → u = v :=
      fun u hu v hv h => MacUse.input_injective (hfree u hu v hv h)
    refine ⟨hsame, ?_⟩
    intro hverify v hv htag
    rw [verifyClientProof_iff.mp hverify] at htag
    exact (hsame _ List.mem_cons_self v hv htag).symm

end

/-! ### Two hellos on one transcript -/

/-- A keyed checksum in the place of HMAC, a curve whose points are their encodings, and a reader
that knows two client hello messages. -/
def sampleLib (first second : ClientHelloWire) (firstRaw secondRaw : Bytes) :
    HandshakeLib Bytes Bytes where
  clientHelloFromSlice raw :=
    if raw = firstRaw then some first else if raw = secondRaw then some second else none
  hmac key message :=
    List.Vector.replicate proofBytes ((key ++ message).foldl (fun acc b => acc * 31 + b) 7)
  hkdf salt material info :=
    List.Vector.replicate 32 ((salt ++ material ++ info).foldl (fun acc b => acc * 31 + b) 7)
  fromSec1Bytes := some
  publicKey := id
  toSec1Point := id
  diffieHellman := (· ++ ·)

def samplePoint : Block publicKeyBytes := 4 ::ᵥ List.Vector.replicate 64 9

def sampleSelector (version : UInt64) (locale : Text) : AuthSelector :=
  { kind := .credential, id := "phone".toList, version, locale }

def sampleNonce : Block nonceBytes := List.Vector.replicate 32 5

def sampleProof : Block proofBytes := List.Vector.replicate 32 6

def sampleRaw (version : UInt64) (locale : Text) : Bytes :=
  encodeClientHello (sampleSelector version locale) sampleNonce samplePoint sampleProof

def sampleWire (version : UInt64) (locale : Text) : ClientHelloWire where
  type := "e2ee_client_hello".toList
  version := 2
  authKind := "credential".toList
  authId := "phone".toList
  authVersion := version
  locale := locale
  nonce := Base64.encode sampleNonce.toList
  publicKey := Base64.encode samplePoint.toList
  proof := Base64.encode sampleProof.toList

def sampleHello (version : UInt64) (locale : Text) : ClientHello Bytes where
  selector := sampleSelector version locale
  nonce := sampleNonce
  publicBytes := samplePoint
  publicKey := samplePoint.toList
  proof := sampleProof

def sampleServerHello : ServerHello Bytes where
  nonce := List.Vector.replicate 32 8
  publicBytes := samplePoint
  publicKey := samplePoint.toList
  proof := sampleProof

/-- The sample library with two hellos that differ in their locale. -/
def localeLib : HandshakeLib Bytes Bytes :=
  sampleLib (sampleWire 1 "en".toList) (sampleWire 1 "zh-CN".toList) (sampleRaw 1 "en".toList)
    (sampleRaw 1 "zh-CN".toList)

/-- **The locale is not in the transcript**: two accepted hellos, different in their locale only,
give one transcript with every server hello. -/
theorem locale_outside_transcript :
    parseClientHello localeLib (sampleRaw 1 "en".toList) = .ok (sampleHello 1 "en".toList) ∧
    parseClientHello localeLib (sampleRaw 1 "zh-CN".toList) = .ok (sampleHello 1 "zh-CN".toList) ∧
    (sampleHello 1 "en".toList).selector.locale ≠ (sampleHello 1 "zh-CN".toList).selector.locale ∧
    handshakeTranscript (sampleHello 1 "en".toList) sampleServerHello
      = handshakeTranscript (sampleHello 1 "zh-CN".toList) sampleServerHello := by
  have hbound : (sampleHello 1 "en".toList).bound = (sampleHello 1 "zh-CN".toList).bound := rfl
  refine ⟨?_, ?_, ?_, ?_⟩
  · decide +kernel
  · decide +kernel
  · decide +kernel
  · rw [handshakeTranscript_eq, handshakeTranscript_eq, hbound]

/-- The checksum keeps the inputs of two handshakes with different versions apart, so a tag of the
one is none of the other. -/
theorem handshake_encodings_separate_versions :
    CollisionFree localeLib [1] [1] (macUses (sampleHello 1 []) sampleServerHello)
      (macUses (sampleHello 2 []) sampleServerHello) ∧
    ∀ u ∈ macUses (sampleHello 1 []) sampleServerHello,
      ∀ v ∈ macUses (sampleHello 2 []) sampleServerHello,
        localeLib.hmac [1] u.input = localeLib.hmac [1] v.input → u = v := by
  have hfree : CollisionFree localeLib [1] [1] (macUses (sampleHello 1 []) sampleServerHello)
      (macUses (sampleHello 2 []) sampleServerHello) := by decide +kernel
  exact ⟨hfree, ((handshake_encodings_separate localeLib (sampleHello 1 []) (sampleHello 2 [])
    sampleServerHello sampleServerHello).2.2.2.2.2 [1] [1] hfree).1⟩

end Lerdr.E2ee
