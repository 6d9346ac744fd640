/-
# Lib.Utf8 — the bytes of a text.

A byte below `0x80` is a character of its own; the first byte of a character says how many bytes the
character has.
-/
import Mathlib.Tactic

namespace Lib.Utf8

variable {s a b : List Char} {k n : Nat} {byte : UInt8}
variable {bs : List UInt8} {c : Char}

def bytes (s : List Char) : List UInt8 := s.flatMap String.utf8EncodeChar

theorem bytes_append : bytes (a ++ b) = bytes a ++ bytes b := List.flatMap_append

theorem bytes_cons (c : Char) : bytes (c :: s) = String.utf8EncodeChar c ++ bytes s :=
  List.flatMap_cons

/-- Two bytes that begin a character of three. -/
def BeginsThree (a b : Nat) : Prop :=
  (a = 0xe0 ∧ 0xa0 ≤ b ∧ b ≤ 0xbf) ∨ (a = 0xed ∧ 0x80 ≤ b ∧ b ≤ 0x9f) ∨
    (0xe1 ≤ a ∧ a ≤ 0xef ∧ a ≠ 0xed ∧ 0x80 ≤ b ∧ b ≤ 0xbf)

/-- Two bytes that begin a character of four. -/
def BeginsFour (a b : Nat) : Prop :=
  (a = 0xf0 ∧ 0x90 ≤ b ∧ b ≤ 0xbf) ∨ (a = 0xf4 ∧ 0x80 ≤ b ∧ b ≤ 0x8f) ∨
    (0xf1 ≤ a ∧ a ≤ 0xf3 ∧ 0x80 ≤ b ∧ b ≤ 0xbf)

instance (a b : Nat) : Decidable (BeginsThree a b) := by unfold BeginsThree; infer_instance

instance (a b : Nat) : Decidable (BeginsFour a b) := by unfold BeginsFour; infer_instance

/-- **The bytes of a character**: one to four, in their ranges. -/
theorem encodeChar_form (c : Char) :
    (∃ a, String.utf8EncodeChar c = [a] ∧ a.toNat < 0x80) ∨
    (∃ a b, String.utf8EncodeChar c = [a, b] ∧ 0xc2 ≤ a.toNat ∧ a.toNat ≤ 0xdf ∧
      0x80 ≤ b.toNat) ∨
    (∃ a b d, String.utf8EncodeChar c = [a, b, d] ∧ BeginsThree a.toNat b.toNat ∧
      0x80 ≤ d.toNat) ∨
    ∃ a b d e, String.utf8EncodeChar c = [a, b, d, e] ∧ BeginsFour a.toNat b.toNat ∧
      0x80 ≤ d.toNat ∧ d.toNat ≤ 0xbf ∧ 0x80 ≤ e.toNat := by
  have hvalid := c.valid
  simp only [UInt32.isValidChar, Nat.isValidChar] at hvalid
  unfold String.utf8EncodeChar
  simp only
  split
  · exact .inl ⟨_, rfl, by simp only [UInt8.toNat_ofNat']; omega⟩
  · split
    · refine .inr (.inl ⟨_, _, rfl, ?_⟩)
      simp only [UInt8.toNat_ofNat']
      omega
    · split
      · refine .inr (.inr (.inl ⟨_, _, _, rfl, ?_⟩))
        simp only [BeginsThree, UInt8.toNat_ofNat']
        omega
      · refine .inr (.inr (.inr ⟨_, _, _, _, rfl, ?_⟩))
        simp only [BeginsFour, UInt8.toNat_ofNat']
        omega

/-- The number of bytes of a character, read off the first. -/
def sizeOfFirst (byte : UInt8) : Nat :=
  if byte.toNat ≤ 0x7f then 1
  else if 0xc0 ≤ byte.toNat ∧ byte.toNat ≤ 0xdf then 2
  else if 0xe0 ≤ byte.toNat ∧ byte.toNat ≤ 0xef then 3
  else 4

theorem encodeChar_head (c : Char) : ∃ first rest, String.utf8EncodeChar c = first :: rest ∧
    sizeOfFirst first = c.utf8Size ∧ (first.toNat < 0x80 ∨ 0xc0 ≤ first.toNat) := by
  have hsize := String.length_utf8EncodeChar c
  obtain ⟨a, hc, h⟩ | ⟨a, b, hc, h⟩ | ⟨a, b, d, hc, h⟩ | ⟨a, b, d, e, hc, h⟩ := encodeChar_form c
  all_goals
    rw [hc] at hsize
    simp only [BeginsThree, BeginsFour, List.length_cons, List.length_nil] at h hsize
    refine ⟨a, _, hc, ?_, by omega⟩
    rw [← hsize, sizeOfFirst]
    split_ifs <;> omega

theorem encodeChar_ascii (h : c.toNat < 0x80) :
    String.utf8EncodeChar c = [UInt8.ofNat c.toNat] := by
  have hle : c.val.toNat ≤ 0x7f := Nat.le_of_lt_succ h
  simp only [String.utf8EncodeChar, if_pos hle]
  rfl

theorem bytes_ascii (h : ∀ c ∈ s, c.toNat < 0x80) :
    bytes s = s.map fun c => UInt8.ofNat c.toNat := by
  rw [bytes, List.map_eq_flatMap]
  exact List.flatMap_congr fun c hc => encodeChar_ascii (h c hc)

/-- A character whose first byte is ASCII is. -/
theorem ascii_of_first {first : UInt8} {rest : List UInt8}
    (h : String.utf8EncodeChar c = first :: rest) (hfirst : first.toNat < 0x80) :
    c.toNat < 0x80 := by
  obtain ⟨first', rest', hencode, hsize, -⟩ := encodeChar_head c
  obtain ⟨rfl, -⟩ := List.cons.inj (h.symm.trans hencode)
  have hone : c.utf8Size = 1 := by
    rw [← hsize, sizeOfFirst, if_pos (by omega)]
  have hle : c.toNat ≤ 127 := UInt32.le_iff_toNat_le.mp (Char.utf8Size_eq_one_iff.mp hone)
  omega

/-- A text of ASCII bytes is in ASCII. -/
theorem ascii_of_bytes (h : ∀ byte ∈ bytes s, byte.toNat < 0x80) : ∀ c ∈ s, c.toNat < 0x80 := by
  intro c hc
  obtain ⟨first, rest, hencode, -⟩ := encodeChar_head c
  refine ascii_of_first hencode (h first (List.mem_flatMap.mpr ⟨c, hc, ?_⟩))
  rw [hencode]
  exact List.mem_cons_self

theorem toNat_of_isDigit (h : c.isDigit = true) : 48 ≤ c.toNat ∧ c.toNat ≤ 57 := by
  simp only [Char.isDigit, Bool.and_eq_true, decide_eq_true_eq] at h
  exact ⟨UInt32.le_iff_toNat_le.mp h.1, UInt32.le_iff_toNat_le.mp h.2⟩

/-- **The first byte of a text, if below `0x80`, is its first character.** -/
theorem head_of_bytes {rest : List UInt8} (h : bytes s = byte :: rest) (hbyte : byte.toNat < 0x80) :
    ∃ c text, s = c :: text ∧ c.toNat = byte.toNat := by
  cases s with
  | nil => cases h
  | cons c s =>
    refine ⟨c, s, rfl, ?_⟩
    rw [bytes_cons] at h
    by_cases hc : c.toNat < 0x80
    · rw [encodeChar_ascii hc, List.singleton_append, List.cons.injEq] at h
      rw [← h.1, UInt8.toNat_ofNat']
      omega
    · obtain ⟨first, others, hencode, -⟩ := encodeChar_head c
      rw [hencode, List.cons_append, List.cons.injEq] at h
      obtain ⟨rfl, -⟩ := h
      exact absurd (ascii_of_first hencode hbyte) hc

/-! ### Reading the bytes back -/

/-- The text that bytes are, if they are one's. -/
def decode (bs : List UInt8) : Option (List Char) := bs.toByteArray.utf8Decode?.map Array.toList

theorem decode_bytes (s : List Char) : decode (bytes s) = some s := by
  have hdecode : (bytes s).toByteArray.utf8Decode? = some s.toArray := List.utf8Decode?_utf8Encode
  rw [decode, hdecode, Option.map_some]

theorem bytes_injective : Function.Injective bytes := by
  intro s s' h
  rw [← Option.some_inj, ← decode_bytes s, h, decode_bytes]

theorem toByteArray_injective : Function.Injective (List.toByteArray : List UInt8 → ByteArray) := by
  intro xs ys h
  have hdata := congrArg (fun b => b.data.toList) h
  simpa using hdata

/-- **Only the bytes of a text are decoded to it.** -/
theorem bytes_of_decode (h : decode bs = some s) : bytes s = bs := by
  obtain ⟨chars, hchars, rfl⟩ := Option.map_eq_some_iff.mp h
  have hsome : bs.toByteArray.utf8Decode?.isSome := by rw [hchars]; rfl
  have hencode := ByteArray.utf8Encode_get_utf8Decode? (h := hsome)
  simp only [hchars, Option.get_some] at hencode
  exact toByteArray_injective hencode

/-! ### Reading bytes that may be no text -/

/-- How many bytes at the head of `bs` stand for one `U+FFFD`: the longest run there that begins
some character. -/
def brokenLength (bs : List UInt8) : Nat :=
  match bs with
  | first :: second :: rest =>
    if BeginsThree first.toNat second.toNat then 2
    else if BeginsFour first.toNat second.toNat then
      if rest.head?.any (fun third => 0x80 ≤ third.toNat && third.toNat ≤ 0xbf) then 3 else 2
    else 1
  | _ => 1

/-- The characters that `n` steps read, each ill-formed run as one `U+FFFD`. -/
def lossySteps : Nat → List UInt8 → List Char
  | n + 1, byte :: bs =>
    match decode ((byte :: bs).take (sizeOfFirst byte)) with
    | some [c] => c :: lossySteps n ((byte :: bs).drop (sizeOfFirst byte))
    | _ => '\uFFFD' :: lossySteps n ((byte :: bs).drop (brokenLength (byte :: bs)))
  | _, _ => []

/-- The text of any bytes. -/
def lossy (bs : List UInt8) : List Char := lossySteps bs.length bs

theorem sizeOfFirst_pos (byte : UInt8) : 0 < sizeOfFirst byte := by
  unfold sizeOfFirst
  repeat' split
  all_goals omega

theorem brokenLength_pos (bs : List UInt8) : 0 < brokenLength bs := by
  unfold brokenLength
  repeat' split
  all_goals omega

/-- **One step** reads a character off its own bytes, or `U+FFFD` off some. -/
theorem lossySteps_succ (n : Nat) (byte : UInt8) (bs : List UInt8) :
    ∃ c k, 0 < k ∧ lossySteps (n + 1) (byte :: bs) = c :: lossySteps n ((byte :: bs).drop k) ∧
      (c = '\uFFFD' ∨ bytes [c] = (byte :: bs).take k) := by
  rw [lossySteps]
  split
  · next c hc => exact ⟨c, _, sizeOfFirst_pos byte, rfl, .inr (bytes_of_decode hc)⟩
  · exact ⟨_, _, brokenLength_pos _, rfl, .inl rfl⟩

/-- **No ASCII character is made up.** -/
theorem mem_of_mem_lossySteps (hc : c.toNat < 0x80) :
    ∀ (n : Nat) (bs : List UInt8), c ∈ lossySteps n bs → UInt8.ofNat c.toNat ∈ bs := by
  intro n
  induction n with
  | zero =>
    intro bs h
    rw [lossySteps.eq_2 _ _ (by simp)] at h
    cases h
  | succ n ih =>
    intro bs h
    cases bs with
    | nil =>
      rw [lossySteps.eq_2 _ _ (by simp)] at h
      cases h
    | cons byte bs =>
      obtain ⟨d, k, -, hstep, hd⟩ := lossySteps_succ n byte bs
      rw [hstep] at h
      rcases List.mem_cons.mp h with rfl | h
      · rcases hd with rfl | hd
        · exact absurd hc (by decide)
        · have hmem : UInt8.ofNat c.toNat ∈ bytes [c] := by
            rw [bytes_cons, encodeChar_ascii hc]
            exact List.mem_cons_self
          rw [hd] at hmem
          exact List.mem_of_mem_take hmem
      · exact List.mem_of_mem_drop (ih _ h)

theorem mem_of_mem_lossy (hc : c.toNat < 0x80) (h : c ∈ lossy bs) :
    UInt8.ofNat c.toNat ∈ bs :=
  mem_of_mem_lossySteps hc _ bs h

/-- **Bytes read without `U+FFFD` are the text's own.** -/
theorem bytes_lossySteps : ∀ (n : Nat) (bs : List UInt8), bs.length ≤ n →
    '\uFFFD' ∉ lossySteps n bs → bytes (lossySteps n bs) = bs := by
  intro n
  induction n with
  | zero =>
    intro bs hn h
    obtain rfl := List.length_eq_zero_iff.mp (Nat.le_zero.mp hn)
    rfl
  | succ n ih =>
    intro bs hn h
    cases bs with
    | nil => rfl
    | cons byte bs =>
      obtain ⟨c, k, hk, hstep, hc⟩ := lossySteps_succ n byte bs
      rw [hstep, List.mem_cons, not_or] at h
      rcases hc with rfl | hc
      · exact absurd rfl h.1
      · have hrest : ((byte :: bs).drop k).length ≤ n := by
          rw [List.length_drop, List.length_cons]
          simp only [List.length_cons] at hn
          omega
        rw [hstep, ← List.singleton_append, bytes_append, hc, ih _ hrest h.2, List.take_append_drop]

theorem bytes_lossy (h : '\uFFFD' ∉ lossy bs) : bytes (lossy bs) = bs :=
  bytes_lossySteps _ bs (le_refl _) h

/-! ### Reading up to an error -/

/-- What `n` steps leave: the bytes from the first character that cannot be read. -/
def unread : Nat → List UInt8 → List UInt8
  | n + 1, byte :: bs =>
    match decode ((byte :: bs).take (sizeOfFirst byte)) with
    | some [_] => unread n ((byte :: bs).drop (sizeOfFirst byte))
    | _ => byte :: bs
  | _, bs => bs

def incomplete : List UInt8 → Bool
  | [a] => 0xc2 ≤ a.toNat && a.toNat ≤ 0xf4
  | [a, b] => BeginsThree a.toNat b.toNat ∨ BeginsFour a.toNat b.toNat
  | [a, b, c] => BeginsFour a.toNat b.toNat ∧ 0x80 ≤ c.toNat ∧ c.toNat ≤ 0xbf
  | _ => false

/-- The bytes begin with a character's. -/
def StartsChar (bs : List UInt8) : Prop := ∃ c, String.utf8EncodeChar c <+: bs

/-- The first byte says where the first character ends. -/
theorem take_sizeOfFirst (h : String.utf8EncodeChar c <+: byte :: bs) :
    (byte :: bs).take (sizeOfFirst byte) = String.utf8EncodeChar c := by
  obtain ⟨first, rest, hc, hsize, -⟩ := encodeChar_head c
  obtain ⟨tail, htail⟩ := h
  have hbyte : first = byte := by
    rw [hc, List.cons_append, List.cons.injEq] at htail
    exact htail.1
  rw [← hbyte, hsize, hbyte, ← htail, ← String.length_utf8EncodeChar, List.take_left]

theorem bytes_singleton (c : Char) : bytes [c] = String.utf8EncodeChar c := by
  rw [bytes_cons]
  exact List.append_nil _

/-- **What is left** begins no character; what was read is a text. -/
theorem unread_spec (n : Nat) (bs : List UInt8) (hn : bs.length ≤ n) :
    (∃ v, bs = bytes v ++ unread n bs) ∧ ¬ StartsChar (unread n bs) := by
  induction n generalizing bs with
  | zero =>
    obtain rfl := List.length_eq_zero_iff.mp (Nat.le_zero.mp hn)
    refine ⟨⟨[], rfl⟩, ?_⟩
    rintro ⟨c, hc⟩
    exact String.utf8EncodeChar_ne_nil (List.prefix_nil.mp hc)
  | succ n ih =>
    cases bs with
    | nil =>
      refine ⟨⟨[], rfl⟩, ?_⟩
      rintro ⟨c, hc⟩
      exact String.utf8EncodeChar_ne_nil (List.prefix_nil.mp hc)
    | cons byte bs =>
      rw [unread]
      split
      · next c hc =>
        have hpos := sizeOfFirst_pos byte
        obtain ⟨⟨v, hv⟩, hrest⟩ := ih ((byte :: bs).drop (sizeOfFirst byte)) (by
          rw [List.length_drop]
          omega)
        refine ⟨⟨c :: v, ?_⟩, hrest⟩
        rw [show c :: v = [c] ++ v from rfl, bytes_append, bytes_of_decode hc, List.append_assoc,
          ← hv,
          List.take_append_drop]
      · next hnone =>
        refine ⟨⟨[], rfl⟩, ?_⟩
        rintro ⟨c, hc⟩
        exact hnone c (by rw [take_sizeOfFirst hc, ← bytes_singleton, decode_bytes])

/-- A text that begins with a text goes on with one. -/
theorem bytes_of_append {t v : List Char} (h : bytes t = bytes v ++ bs) :
    ∃ u, bytes u = bs := by
  induction v generalizing t with
  | nil => exact ⟨t, h⟩
  | cons c v ih =>
    rw [bytes_cons, List.append_assoc] at h
    cases t with
    | nil =>
      exact absurd (List.append_eq_nil_iff.mp h.symm).1 String.utf8EncodeChar_ne_nil
    | cons d t =>
      have hsame : String.utf8EncodeChar d = String.utf8EncodeChar c := by
        obtain ⟨first, rest, hd, -⟩ := encodeChar_head d
        have hfirst := h
        rw [bytes_cons, hd, List.cons_append] at hfirst
        have hdfirst : String.utf8EncodeChar d <+: first :: (rest ++ bytes t) :=
          ⟨bytes t, by rw [hd]; rfl⟩
        have hcfirst : String.utf8EncodeChar c <+: first :: (rest ++ bytes t) :=
          hfirst ▸ List.prefix_append _ _
        rw [← take_sizeOfFirst hdfirst, ← take_sizeOfFirst hcfirst]
      rw [bytes_cons, hsame] at h
      exact ih (List.append_cancel_left h)

/-- A strict part of a character's bytes. -/
theorem incomplete_of_isPrefix (hne : bs ≠ [])
    (h : bs <+: String.utf8EncodeChar c) (hstrict : bs ≠ String.utf8EncodeChar c) :
    incomplete bs = true := by
  obtain ⟨a, hc, hr⟩ | ⟨a, b, hc, hr⟩ | ⟨a, b, d, hc, hr⟩ | ⟨a, b, d, e, hc, hr⟩ :=
      encodeChar_form c
  all_goals
    rw [hc] at h hstrict
    simp only [List.prefix_cons_iff, List.prefix_nil] at h
  · obtain rfl | ⟨_, rfl, rfl⟩ := h <;> simp_all
  · obtain rfl | ⟨_, rfl, rfl | ⟨_, rfl, rfl⟩⟩ := h <;> simp_all [incomplete]
    omega
  · obtain rfl | ⟨_, rfl, rfl | ⟨_, rfl, rfl | ⟨_, rfl, rfl⟩⟩⟩ := h <;> simp_all [incomplete]
    simp only [BeginsThree] at hr
    omega
  · obtain rfl | ⟨_, rfl, rfl | ⟨_, rfl, rfl | ⟨_, rfl, rfl | ⟨_, rfl, rfl⟩⟩⟩⟩ := h <;>
      simp_all [incomplete]
    simp only [BeginsFour] at hr
    omega

/-- **No continuation helps**: bytes that neither begin with a character nor are part of one. -/
theorem not_text_of_broken {v : List Char} (hne : bs ≠ [])
    (hstart : ¬ StartsChar bs) (hbroken : incomplete bs = false) (more : List UInt8)
    (t : List Char) :
    bytes t ≠ bytes v ++ bs ++ more := by
  intro h
  rw [List.append_assoc] at h
  obtain ⟨u, hu⟩ := bytes_of_append h
  cases u with
  | nil => exact hne (List.append_eq_nil_iff.mp hu.symm).1
  | cons c u =>
    rw [bytes_cons] at hu
    rcases List.prefix_or_prefix_of_prefix (⟨bytes u, hu⟩ : String.utf8EncodeChar c <+: bs ++ more)
      (List.prefix_append bs more) with hc | hbs
    · exact hstart ⟨c, hc⟩
    · by_cases heq : bs = String.utf8EncodeChar c
      · exact hstart ⟨c, heq ▸ List.prefix_rfl⟩
      · rw [incomplete_of_isPrefix hne hbs heq] at hbroken
        cases hbroken

end Lib.Utf8
