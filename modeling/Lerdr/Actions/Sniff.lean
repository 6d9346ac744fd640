/-
# Lerdr.Actions.Sniff — the buffers of an upload's sniffer (`uploads.rs`).

An upload comes in chunks, and the sniffer keeps the first bytes, the last ones, and for text
whether the bytes so far are UTF-8. Nothing of that depends on where the upload was cut: between two
chunks the tail that is carried is the beginning of a character, and what was flagged has no
continuation that is a text.
-/
import Lerdr.Lib.Utf8
import Lerdr.Rust.Text

namespace Lerdr.Actions.Sniff

open Lib Lerdr.Rust

/-- `PREFIX_BYTES`. -/
def prefixWidth : Nat := 512

/-- `SUFFIX_BYTES`. -/
def suffixWidth : Nat := 1024

/-- The buffers of a `SessionFile`, and its media type. -/
structure SessionFile where
  mediaType : Text
  prefixBytes : Bytes := []
  suffixBytes : Bytes := []
  utf8Tail : Bytes := []
  invalidUtf : Bool := false
  hasNul : Bool := false

/-- Is the content sniffed as text? -/
def isText (mediaType : Text) : Bool :=
  "text/".toList.isPrefixOf mediaType || mediaType = "application/json".toList

/-- `capture_utf8`. What `from_utf8` could not read ends the input, or is malformed. -/
def captureUtf8 (item : SessionFile) (data : Bytes) : SessionFile :=
  let combined := item.utf8Tail ++ data
  let rest := Utf8.unread combined.length combined
  if rest = [] then { item with utf8Tail := [] }
  else if Utf8.incomplete rest then { item with utf8Tail := rest }
  else { item with utf8Tail := [], invalidUtf := true }

def capturePrefixBytes (kept data : Bytes) : Bytes :=
  if kept.length < prefixWidth then kept ++ data.take (min (prefixWidth - kept.length) data.length)
  else kept

def captureSuffixBytes (kept data : Bytes) : Bytes :=
  if suffixWidth ≤ data.length then data.drop (data.length - suffixWidth)
  else if suffixWidth < (kept ++ data).length then
    (kept ++ data).drop ((kept ++ data).length - suffixWidth)
  else kept ++ data

def capture (item : SessionFile) (data : Bytes) : SessionFile :=
  let item := { item with
    prefixBytes := capturePrefixBytes item.prefixBytes data
    suffixBytes := captureSuffixBytes item.suffixBytes data }
  if isText item.mediaType then
    captureUtf8 (if data.contains 0 then { item with hasNul := true } else item) data
  else item

def validTextContent (item : SessionFile) : Bool :=
  !item.invalidUtf && item.utf8Tail.isEmpty && !item.hasNul

/-! ## §2 — what is kept of the bytes so far -/

theorem capturePrefixBytes_take (whole data : Bytes) :
    capturePrefixBytes (whole.take prefixWidth) data = (whole ++ data).take prefixWidth := by
  rw [capturePrefixBytes, List.take_append]
  split
  · next h =>
    rw [List.length_take] at h
    have hle : whole.length ≤ prefixWidth := by omega
    rw [List.take_of_length_le hle]
    congr 1
    rw [List.take_eq_take_iff]
    omega
  · next h =>
    rw [List.length_take] at h
    rw [show prefixWidth - whole.length = 0 by omega, List.take_zero, List.append_nil]

theorem captureSuffixBytes_rtake (whole data : Bytes) :
    captureSuffixBytes (whole.rtake suffixWidth) data = (whole ++ data).rtake suffixWidth := by
  rw [captureSuffixBytes]
  generalize suffixWidth = n
  simp only [List.rtake, List.length_append, List.length_drop]
  split
  · have hwhole : whole.drop (whole.length + data.length - n) = [] :=
      List.drop_eq_nil_of_le (by omega)
    rw [List.drop_append, hwhole, List.nil_append]
    congr 1
    omega
  · split
    · rw [List.drop_append, List.drop_append, List.drop_drop, List.length_drop]
      congr 2 <;> omega
    · rw [List.drop_append, show whole.length + data.length - n - whole.length = 0 by omega,
        List.drop_zero]
      congr 2
      omega

/-- **The flags of a text**, after the bytes `whole`: a carried tail that is not empty begins a
character, and after a flag no continuation is a text. -/
structure Reads (whole : Bytes) (item : SessionFile) : Prop where
  hasNul : item.hasNul = true ↔ 0 ∈ whole
  tail : item.invalidUtf = false → ∃ v, whole = Utf8.bytes v ++ item.utf8Tail
  tail_start : ¬ Utf8.StartsChar item.utf8Tail
  invalid : item.invalidUtf = true → ∀ more t, Utf8.bytes t ≠ whole ++ more

theorem Reads.init (mediaType : Text) : Reads [] { mediaType := mediaType } where
  hasNul := by simp
  tail _ := ⟨[], rfl⟩
  tail_start := (Utf8.unread_spec 0 [] le_rfl).2
  invalid h := by cases h

theorem Reads.captureUtf8 {whole data : Bytes} {item : SessionFile}
    (h : Reads whole item) (nul : Bool) (hnul : nul = true ↔ 0 ∈ whole ++ data) :
    Reads (whole ++ data) (captureUtf8 { item with hasNul := nul } data) := by
  obtain ⟨⟨v, hv⟩, hstart⟩ := Utf8.unread_spec (item.utf8Tail ++ data).length _ le_rfl
  have hread : item.invalidUtf = false → ∃ u, whole ++ data = Utf8.bytes (u ++ v) ++
      Utf8.unread (item.utf8Tail ++ data).length (item.utf8Tail ++ data) := by
    intro hvalid
    obtain ⟨u, hu⟩ := h.tail hvalid
    exact ⟨u, by rw [hu, Utf8.bytes_append, List.append_assoc, List.append_assoc, ← hv]⟩
  have hinvalid : item.invalidUtf = true → ∀ more t, Utf8.bytes t ≠ whole ++ data ++ more := by
    intro hinvalid more t
    rw [List.append_assoc]
    exact h.invalid hinvalid _ t
  have hempty : ¬ Utf8.StartsChar [] := (Utf8.unread_spec 0 [] le_rfl).2
  rw [Sniff.captureUtf8]
  generalize Utf8.unread (item.utf8Tail ++ data).length (item.utf8Tail ++ data) = rest at *
  simp only
  split
  · next hrest =>
    refine ⟨hnul, fun hvalid => ?_, hempty, hinvalid⟩
    obtain ⟨u, hu⟩ := hread hvalid
    exact ⟨u ++ v, hrest ▸ hu⟩
  · next hrest =>
    split
    · refine ⟨hnul, fun hvalid => ?_, hstart, hinvalid⟩
      obtain ⟨u, hu⟩ := hread hvalid
      exact ⟨u ++ v, hu⟩
    · next hbroken =>
      refine ⟨hnul, fun hvalid => (by cases hvalid), hempty, fun _ more t => ?_⟩
      cases hflag : item.invalidUtf with
      | true => exact hinvalid hflag more t
      | false =>
        obtain ⟨u, hu⟩ := hread hflag
        rw [hu]
        exact Utf8.not_text_of_broken hrest hstart (Bool.eq_false_iff.mpr hbroken) more t

/-- What the flags say at the end. -/
theorem Reads.validTextContent_iff {whole : Bytes} {item : SessionFile} (h : Reads whole item) :
    validTextContent item = true ↔ (∃ t, Utf8.decode whole = some t) ∧ 0 ∉ whole := by
  simp only [validTextContent, Bool.and_eq_true, Bool.not_eq_true', List.isEmpty_iff]
  constructor
  · rintro ⟨⟨hvalid, htail⟩, hnul⟩
    obtain ⟨v, hv⟩ := h.tail hvalid
    rw [htail, List.append_nil] at hv
    refine ⟨⟨v, by rw [hv, Utf8.decode_bytes]⟩, fun hmem => ?_⟩
    rw [h.hasNul.mpr hmem] at hnul
    cases hnul
  · rintro ⟨⟨t, ht⟩, hnul⟩
    have hbytes := Utf8.bytes_of_decode ht
    have hvalid : item.invalidUtf = false := by
      refine Bool.eq_false_iff.mpr fun hflag => h.invalid hflag [] t ?_
      rw [hbytes, List.append_nil]
    refine ⟨⟨hvalid, ?_⟩, Bool.eq_false_iff.mpr fun hflag => hnul (h.hasNul.mp hflag)⟩
    -- the tail of a text is a text, and begins with a character unless it is empty
    obtain ⟨v, hv⟩ := h.tail hvalid
    obtain ⟨u, hu⟩ := Utf8.bytes_of_append (hbytes.trans hv)
    cases u with
    | nil => exact hu.symm
    | cons c u => exact absurd ⟨c, hu ▸ ⟨Utf8.bytes u, rfl⟩⟩ h.tail_start

/-! ## §3 — all chunks -/

theorem capture_mediaType (item : SessionFile) (data : Bytes) :
    (capture item data).mediaType = item.mediaType := by
  rw [capture]
  simp only [captureUtf8]
  split_ifs <;> rfl

theorem capture_buffers (item : SessionFile) (data : Bytes) :
    (capture item data).prefixBytes = capturePrefixBytes item.prefixBytes data ∧
      (capture item data).suffixBytes = captureSuffixBytes item.suffixBytes data := by
  rw [capture]
  simp only [captureUtf8]
  split_ifs <;> exact ⟨rfl, rfl⟩

theorem Reads.capture {whole data : Bytes} {item : SessionFile} (h : Reads whole item)
    (htext : isText item.mediaType = true) : Reads (whole ++ data) (capture item data) := by
  have hbuffers : Reads whole { item with
      prefixBytes := capturePrefixBytes item.prefixBytes data
      suffixBytes := captureSuffixBytes item.suffixBytes data } :=
    ⟨h.hasNul, h.tail, h.tail_start, h.invalid⟩
  rw [Sniff.capture]
  simp only [htext, if_true]
  split
  · next hnul =>
    exact hbuffers.captureUtf8 true (by simp_all)
  · next hnul =>
    refine hbuffers.captureUtf8 item.hasNul ?_
    rw [h.hasNul, List.mem_append]
    exact ⟨.inl, fun hmem => hmem.resolve_right (by simpa using hnul)⟩

/-- **Sniffing does not depend on the chunks.** -/
theorem sniff_independent_of_chunks (mediaType : Text) (chunks : List Bytes) :
    let item := chunks.foldl capture { mediaType := mediaType }
    item.prefixBytes = chunks.flatten.take prefixWidth ∧
    item.suffixBytes = chunks.flatten.rtake suffixWidth ∧
    (isText mediaType = true → (validTextContent item = true ↔
      (∃ t, Utf8.decode chunks.flatten = some t) ∧ 0 ∉ chunks.flatten)) := by
  -- the buffers and the flags, after the chunks so far
  have hrun : ∀ (chunks : List Bytes) (whole : Bytes) (item : SessionFile),
      item.mediaType = mediaType → item.prefixBytes = whole.take prefixWidth →
      item.suffixBytes = whole.rtake suffixWidth → (isText mediaType = true → Reads whole item) →
      (chunks.foldl capture item).prefixBytes = (whole ++ chunks.flatten).take prefixWidth ∧
      (chunks.foldl capture item).suffixBytes = (whole ++ chunks.flatten).rtake suffixWidth ∧
      (isText mediaType = true → Reads (whole ++ chunks.flatten) (chunks.foldl capture item)) := by
    intro chunks
    induction chunks with
    | nil =>
      intro whole item _ hprefixes hsuffix hreads
      rw [List.flatten_nil, List.append_nil]
      exact ⟨hprefixes, hsuffix, hreads⟩
    | cons data chunks ih =>
      intro whole item htype hprefixes hsuffix hreads
      obtain ⟨hleft, hright⟩ := capture_buffers item data
      rw [List.foldl_cons, List.flatten_cons, ← List.append_assoc]
      refine ih (whole ++ data) (capture item data)
        ((capture_mediaType item data).trans htype) ?_ ?_ ?_
      · rw [hleft, hprefixes, capturePrefixBytes_take]
      · rw [hright, hsuffix, captureSuffixBytes_rtake]
      · intro htext
        exact (hreads htext).capture (htype ▸ htext)
  obtain ⟨hleft, hright, hreads⟩ := hrun chunks [] { mediaType := mediaType } rfl rfl rfl
    fun _ => .init mediaType
  exact ⟨hleft, hright, fun htext => (hreads htext).validTextContent_iff⟩

/-- A character cut in two. -/
theorem sniff_sample :
    validTextContent ([[0xc3], [0xa9]].foldl capture { mediaType := "text/plain".toList }) =
      true := by
  refine ((sniff_independent_of_chunks "text/plain".toList [[0xc3], [0xa9]]).2.2 rfl).mpr
    ⟨⟨['é'], Utf8.decode_bytes ['é']⟩, by decide⟩

end Lerdr.Actions.Sniff
