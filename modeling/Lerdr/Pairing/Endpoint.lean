/-
# Lerdr.Pairing.Endpoint — relay endpoints and their ids (`RelayEndpoint.kt`).

An endpoint is made from a socket origin and a label. Its id is a slug of both: lower case, every
run of other characters than letters and digits turned into one dash, at most 72 characters. What
such a slug keeps is the words of label and origin, as far as they have room (`idWords`); which
punctuation stood between them is lost, so that `a.b` and `a-b` are the same to it.

`java.net.URI`, `String.lowercase`, `Char.isWhitespace`, `String.toIntOrNull` and
`String.toByteArray` belong to the platform and enter as parameters.
-/
import Lerdr.Kotlin.Runtime
import Lerdr.Lib.Words

namespace Lerdr.Pairing

open Lib Lerdr.Kotlin

/-- The code unit of an ASCII character. -/
def unit (c : Char) : UInt16 := UInt16.ofNat c.toNat

def units (text : List Char) : Units := text.map unit

inductive RelayTransport where
  | websocket
  | websocketTls
  deriving DecidableEq, Repr

def RelayTransport.scheme : RelayTransport → Units
  | .websocket => units ['w', 's']
  | .websocketTls => units "wss".toList

def RelayTransport.defaultPort : RelayTransport → Int
  | .websocket => 80
  | .websocketTls => 443

/-- What is read of a `java.net.URI`. -/
structure Uri where
  scheme : Option Units := none
  userInfo : Option Units := none
  rawAuthority : Option Units := none
  rawPath : Option Units := none
  rawQuery : Option Units := none
  rawFragment : Option Units := none
  host : Option Units := none

/-- What the platform provides. `parseUri` gives nothing where the constructor throws. -/
structure Platform where
  parseUri : Units → Option Uri
  lowercase : Units → Units
  isWhitespace : UInt16 → Bool
  toIntOrNull : Units → Option Int
  toUtf8 : Units → List UInt8

def Platform.trim (env : Platform) (value : Units) : Units :=
  (value.dropWhile env.isWhitespace).rdropWhile env.isWhitespace

/-! ## §1 — origins -/

/-- `SocketOrigin`. What the parser checked is kept. -/
structure SocketOrigin where
  scheme : RelayTransport
  host : Units
  port : Int
  host_ne : host ≠ []
  port_range : 1 ≤ port ∧ port ≤ 65535

/-- Host and port of an authority; the port is `-1` where there is none. -/
def splitAuthority (env : Platform) (authority : Units) : Option (Units × Int) :=
  if authority.head? = some (unit '[') then
    let close := authority.idxOf (unit ']')
    if close = authority.length then none
    else
      let host := (authority.take close).drop 1
      let rest := authority.drop (close + 1)
      if rest = [] then some (host, -1)
      else if rest.head? = some (unit ':') then (env.toIntOrNull (rest.drop 1)).map (host, ·)
      else none
  else if authority.any (· = unit ':') then
    -- up to the last colon
    let tail := authority.reverse.takeWhile (· ≠ unit ':')
    let host := authority.take (authority.length - tail.length - 1)
    (env.toIntOrNull tail.reverse).map (host, ·)
  else some (authority, -1)

/-- Scheme, host and port, and nothing else. -/
def parseSocketOrigin (env : Platform) (value : Units) : Option SocketOrigin := do
  let uri ← env.parseUri (env.trim value)
  let scheme ←
    if uri.scheme = some RelayTransport.websocket.scheme then some RelayTransport.websocket
    else if uri.scheme = some RelayTransport.websocketTls.scheme then
      some RelayTransport.websocketTls
    else none
  if uri.userInfo.isSome then none
  else if !(uri.rawPath.getD []).isEmpty && uri.rawPath ≠ some [unit '/'] then none
  else if uri.rawQuery.isSome || uri.rawFragment.isSome then none
  else
    let authority ← uri.rawAuthority
    if authority.any (· = unit '@') then none
    else
      let (host, port) ← splitAuthority env authority
      let resolvedPort := if port = -1 then scheme.defaultPort else port
      if h : host ≠ [] ∧ host.any env.isWhitespace = false ∧
          1 ≤ resolvedPort ∧ resolvedPort ≤ 65535 then
        some { scheme, host, port := resolvedPort, host_ne := h.1, port_range := h.2.2 }
      else none

/-- `substringBefore('.')`, `null` for nothing. -/
def firstLabel (host : Units) : Option Units :=
  let label := host.takeWhile (· ≠ unit '.')
  if label = [] then none else some label

def relayLabelFromUrl (env : Platform) (url : Units) : Units :=
  (((parseSocketOrigin env url).bind fun origin => firstLabel origin.host).or
    ((env.parseUri url).bind fun uri => uri.host.bind firstLabel)).getD
      (units "relay".toList)

/-- `socketOrigin`: the default port is left out. -/
def originText (transport : RelayTransport) (host : Units) (port : Int) : Units :=
  transport.scheme ++ units "://".toList ++
    (if host.any (· = unit ':') then unit '[' :: host ++ [unit ']'] else host) ++
    (if port ≠ transport.defaultPort then unit ':' :: units (Nat.toDigits 10 port.toNat) else [])

/-! ## §2 — ids -/

/-- `[a-z0-9]`. -/
def slugUnit (u : UInt16) : Bool :=
  (97 ≤ u.toNat && u.toNat ≤ 122) || (48 ≤ u.toNat && u.toNat ≤ 57)

/-- `replace(Regex("^wss?://"), "")`. -/
def stripScheme (value : Units) : Units :=
  if (units "ws://".toList).isPrefixOf value then value.drop 5
  else if (units "wss://".toList).isPrefixOf value then value.drop 6
  else value

/-- The slug of label and origin. -/
def makeRelayId (env : Platform) (label url : Units) : Units :=
  let base := (if label = [] then relayLabelFromUrl env url else label) ++ unit '-' :: url
  let slug := (Words.trim (unit '-')
    (Words.collapse slugUnit (unit '-') false (stripScheme (env.lowercase base)))).take 72
  if slug = [] then units "relay".toList else slug

/-- `RelayEndpoint`, with what its constructor requires of host and port. -/
structure RelayEndpoint where
  id : Units
  label : Units
  host : Units
  port : Int
  transport : RelayTransport
  paired : Bool
  host_ne : host ≠ []
  port_range : 1 ≤ port ∧ port ≤ 65535
  deriving DecidableEq

def RelayEndpoint.socketOrigin (e : RelayEndpoint) : Units := originText e.transport e.host e.port

/-- The endpoint of a link. -/
def fromSocketOrigin (env : Platform) (origin label : Units) (paired : Bool) :
    Option RelayEndpoint :=
  (parseSocketOrigin env origin).map fun parsed =>
    let resolvedLabel :=
      if env.trim label = [] then relayLabelFromUrl env origin else env.trim label
    { id := makeRelayId env resolvedLabel (originText parsed.scheme parsed.host parsed.port)
      label := resolvedLabel
      host := parsed.host
      port := parsed.port
      transport := parsed.scheme
      paired
      host_ne := parsed.host_ne
      port_range := parsed.port_range }

/-! ## §3 — what an id says -/

/-- What is taken of the platform: no letter, digit or dash is white space. -/
structure Platform.Lawful (env : Platform) : Prop where
  slug_not_blank : ∀ u, slugUnit u = true ∨ u = unit '-' → env.isWhitespace u = false

/-- An endpoint as `fromSocketOrigin` makes it. -/
structure RelayEndpoint.Made (env : Platform) (e : RelayEndpoint) : Prop where
  label_ne : e.label ≠ []
  id_eq : e.id = makeRelayId env e.label e.socketOrigin

/-- **The words of label and origin**: the longest runs of letters and digits in the two, in lower
case and without a scheme that the label begins with; as many as have room in 72 characters, with
one character for each gap. Where there is none, `relay` stands for them. -/
def RelayEndpoint.idWords (env : Platform) (e : RelayEndpoint) : List Units :=
  let found := Words.words slugUnit
    (stripScheme (env.lowercase (e.label ++ unit '-' :: e.socketOrigin)))
  if found = [] then [units "relay".toList] else Words.clip 72 found

variable {env : Platform} {e e' : RelayEndpoint}

theorem relayLabelFromUrl_ne_nil (env : Platform) (url : Units) :
    relayLabelFromUrl env url ≠ [] := by
  have hfirst : ∀ host label, firstLabel host = some label → label ≠ [] := by
    intro host label h
    unfold firstLabel at h
    dsimp only at h
    split at h
    · cases h
    · rename_i hne
      obtain rfl := Option.some.inj h
      exact hne
  unfold relayLabelFromUrl
  cases hor : (((parseSocketOrigin env url).bind fun origin => firstLabel origin.host).or
      ((env.parseUri url).bind fun uri => uri.host.bind firstLabel)) with
  | none => decide
  | some label =>
    rw [Option.getD_some]
    rcases Option.or_eq_some_iff.mp hor with hlabel | ⟨-, hlabel⟩
    · obtain ⟨origin, -, horigin⟩ := Option.bind_eq_some_iff.mp hlabel
      exact hfirst _ _ horigin
    · obtain ⟨uri, -, huri⟩ := Option.bind_eq_some_iff.mp hlabel
      obtain ⟨host, -, hhost⟩ := Option.bind_eq_some_iff.mp huri
      exact hfirst _ _ hhost

theorem made_of_fromSocketOrigin {origin label : Units} {paired : Bool}
    (h : fromSocketOrigin env origin label paired = some e) : e.Made env := by
  obtain ⟨parsed, -, rfl⟩ := Option.map_eq_some_iff.mp h
  refine ⟨?_, rfl⟩
  show (if env.trim label = [] then relayLabelFromUrl env origin else env.trim label) ≠ []
  split
  · exact relayLabelFromUrl_ne_nil env origin
  · assumption

/-- **What an id is**: its words, joined. -/
theorem RelayEndpoint.Made.id_eq_join (h : e.Made env) :
    e.id = Words.join (unit '-') (e.idWords env) := by
  rw [h.id_eq, makeRelayId, if_neg h.label_ne, RelayEndpoint.idWords,
    Words.trim_collapse (by decide), Words.take_join]
  generalize hfound : Words.words slugUnit
    (stripScheme (env.lowercase (e.label ++ unit '-' :: e.socketOrigin))) = found
  by_cases hnone : found = []
  · rw [if_pos hnone, hnone]
    rfl
  · -- words are not empty, so neither is what is left of them
    have hslug : Words.join (unit '-') (Words.clip 72 found) ≠ [] := by
      rw [← Words.take_join, ← hfound]
      intro hnil
      rcases List.take_eq_nil_iff.mp hnil with h72 | hnil
      · cases h72
      · exact hnone (hfound ▸ Words.join_words_eq_nil hnil)
    rw [if_neg hnone, if_neg hslug]

theorem RelayEndpoint.idWords_ne_nil (env : Platform) (e : RelayEndpoint) : e.idWords env ≠ [] := by
  unfold RelayEndpoint.idWords
  dsimp only
  split
  · exact List.cons_ne_nil _ _
  · rename_i hne
    exact Words.clip_ne_nil hne

theorem RelayEndpoint.slugUnit_of_mem_idWords {w : Units} (hw : w ∈ e.idWords env) :
    ∀ u ∈ w, slugUnit u = true := by
  unfold RelayEndpoint.idWords at hw
  dsimp only at hw
  split at hw
  · obtain rfl := List.mem_singleton.mp hw
    exact List.all_eq_true.mp rfl
  · obtain ⟨v, hv, hsub⟩ := Words.subset_of_mem_clip hw
    exact fun u hu => (Words.forall_of_mem_words hv).2 u (hsub hu)

/-- **Ids are equal exactly when the words are.** -/
theorem RelayEndpoint.Made.id_eq_iff (h : e.Made env) (h' : e'.Made env) :
    e.id = e'.id ↔ e.idWords env = e'.idWords env := by
  have hdash : ∀ (d : RelayEndpoint), ∀ w ∈ d.idWords env, unit '-' ∉ w := by
    intro d w hw hmem
    exact absurd (RelayEndpoint.slugUnit_of_mem_idWords hw _ hmem) (by decide)
  rw [h.id_eq_join, h'.id_eq_join]
  exact ⟨Words.join_injective (e.idWords_ne_nil env) (e'.idWords_ne_nil env) (hdash e) (hdash e'),
    congrArg _⟩

/-- An id is of letters, digits and dashes, so that trimming leaves it as it is. -/
theorem RelayEndpoint.Made.trim_id (henv : env.Lawful) (h : e.Made env) :
    env.trim e.id = e.id := by
  have hblank : ∀ u ∈ e.id, env.isWhitespace u = false := by
    intro u hu
    rw [h.id_eq_join] at hu
    apply henv.slug_not_blank
    rcases Words.mem_join hu with rfl | ⟨w, hw, huw⟩
    · exact .inr rfl
    · exact .inl (RelayEndpoint.slugUnit_of_mem_idWords hw u huw)
  have hdrop : e.id.dropWhile env.isWhitespace = e.id := by
    cases hid : e.id with
    | nil => rfl
    | cons u rest =>
      have hu := hblank u (by rw [hid]; exact List.mem_cons_self)
      rw [List.dropWhile_cons_of_neg (by simp [hu])]
  rw [Platform.trim, hdrop, List.rdropWhile_eq_self_iff]
  intro hne hlast
  rw [hblank _ (List.getLast_mem hne)] at hlast
  cases hlast

end Lerdr.Pairing
