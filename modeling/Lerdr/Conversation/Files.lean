/-
# Lerdr.Conversation.Files — transcripts on disk, and where they may lie
(`lerdr-coord/src/conversation/{reader,roots,claude}.rs`).

A located transcript is opened only if its path is the one its links resolve to, strictly below the
resolved root, and its last component is no link. `openContained_spec` says what that comes to in a
tree of files: the path's names lead to the file from the root of the tree through directories
alone.

Paths are bytes on disk and text in a `Location`; `pathText` is `to_string_lossy`, which cannot join
components, as a slash is a character of its own.
-/
import Lerdr.Conversation.Text
import Lerdr.Lib.FileTree

namespace Lerdr.Conversation

open Lib Lerdr.Rust
open Lib.FileTree (Name Ino slash)

/-! ## §1 — paths -/

/-- A regular file: its bytes and the time of its last change. -/
structure FileData where
  data : Bytes
  ctime : Int
  ctimeNsec : Int
  deriving DecidableEq, Repr

abbrev Fs := FileTree.Tree FileData

structure Location where
  path : Text
  root : Text
  title : Text
  deriving DecidableEq, Repr

/-- The absolute path of components, as text. -/
def absolute (parts : List Text) : Text := '/' :: join ['/'] parts

/-- `to_string_lossy` of a canonical path. -/
def pathText (names : List Name) : Text := absolute (names.map Utf8.lossy)

def pathBytes (names : List Name) : Bytes := slash :: List.intercalate [slash] names

/-- `Path::components`, of a path as text. -/
def pathParts (path : Text) : List Text :=
  (path.splitOn '/').filter fun part => !part.isEmpty && part ≠ ['.']

/-- `Path::parent`, as text; nothing above the root and above the empty path. -/
def pathParent (path : Text) : Option Text :=
  if pathParts path = [] then none
  else if path.head? = some '/' then some (absolute (pathParts path).dropLast)
  else some (join ['/'] (pathParts path).dropLast)

/-- `Path::join` with a relative path. -/
def pathJoin (dir child : Text) : Text :=
  if dir.isEmpty ∨ dir.getLast? = some '/' then dir ++ child else dir ++ '/' :: child

/-- One component of `clean_path`; the parts stand last first. -/
def cleanPart (isAbsolute : Bool) (parts : List Text) (part : Text) : List Text :=
  if part = [] ∨ part = ['.'] then parts
  else if part = ['.', '.'] then
    if parts.head? = some ['.', '.'] ∨ (parts = [] ∧ !isAbsolute) then part :: parts
    else parts.tail
  else part :: parts

def cleanPath (path : Text) : Text :=
  let isAbsolute : Bool := path.head? = some '/'
  let joined := join ['/'] ((path.splitOn '/').foldl (cleanPart isAbsolute) []).reverse
  if isAbsolute then '/' :: joined
  else if joined.isEmpty then ['.'] else joined

/-- A component that says nothing about directories. -/
structure PlainPart (part : Text) : Prop where
  ne_nil : part ≠ []
  ne_dot : part ≠ ['.']
  ne_dotdot : part ≠ ['.', '.']
  no_slash : '/' ∉ part

section Paths

variable {parts : List Text} {names : List Name}

/-- Reading a name as text makes nothing of it that it is not. -/
theorem plainPart_lossy {name : Name} (h : FileTree.Plain name) : PlainPart (Utf8.lossy name) where
  ne_nil hnil := h.ne_nil (by
    have hbytes := Utf8.bytes_lossy (by rw [hnil]; exact List.not_mem_nil)
    rw [hnil] at hbytes
    exact hbytes.symm)
  ne_dot hdot := h.ne_dot (by
    have hbytes := Utf8.bytes_lossy (by rw [hdot]; decide)
    rw [hdot] at hbytes
    rw [← hbytes]
    decide)
  ne_dotdot hdots := h.ne_dotdot (by
    have hbytes := Utf8.bytes_lossy (by rw [hdots]; decide)
    rw [hdots] at hbytes
    rw [← hbytes]
    decide)
  no_slash hmem := h.no_slash (Utf8.mem_of_mem_lossy (by decide) hmem)

theorem plainParts_lossy (h : ∀ name ∈ names, FileTree.Plain name) :
    ∀ part ∈ names.map Utf8.lossy, PlainPart part := by
  intro part hpart
  obtain ⟨name, hname, rfl⟩ := List.mem_map.mp hpart
  exact plainPart_lossy (h name hname)

theorem splitOn_absolute (h : ∀ part ∈ parts, PlainPart part) :
    (absolute parts).splitOn '/' = [] :: if parts = [] then [[]] else parts := by
  have hhead : absolute parts = [] ++ '/' :: join ['/'] parts := rfl
  rw [hhead, List.splitOn_append_cons_self_of_not_mem List.not_mem_nil]
  split
  · next hnil =>
    subst hnil
    rfl
  · next hne =>
    rw [join, List.splitOn_intercalate '/' (fun part hpart => (h part hpart).no_slash) hne]

theorem pathParts_absolute (h : ∀ part ∈ parts, PlainPart part) :
    pathParts (absolute parts) = parts := by
  rw [pathParts, splitOn_absolute h, List.filter_cons_of_neg (by simp)]
  split
  · next hnil =>
    subst hnil
    rfl
  · apply List.filter_eq_self.mpr
    intro part hpart
    simp [(h part hpart).ne_nil, (h part hpart).ne_dot]

/-- **The text of plain components says what they are.** -/
theorem absolute_injective {other : List Text} (h : ∀ part ∈ parts, PlainPart part)
    (hother : ∀ part ∈ other, PlainPart part) (heq : absolute parts = absolute other) :
    parts = other := by
  rw [← pathParts_absolute h, heq, pathParts_absolute hother]

theorem pathParent_absolute (h : ∀ part ∈ parts, PlainPart part) (hne : parts ≠ []) :
    pathParent (absolute parts) = some (absolute parts.dropLast) := by
  have hroot : (absolute parts).head? = some '/' := rfl
  rw [pathParent, pathParts_absolute h, if_neg hne, if_pos hroot]

theorem foldl_cleanPart (b : Bool) (h : ∀ part ∈ parts, PlainPart part) (before : List Text) :
    parts.foldl (cleanPart b) before = parts.reverse ++ before := by
  induction parts generalizing before with
  | nil => rfl
  | cons part parts ih =>
    have hpart := h part List.mem_cons_self
    rw [List.foldl_cons, cleanPart, if_neg (by simp [hpart.ne_nil, hpart.ne_dot]),
      if_neg hpart.ne_dotdot, ih (fun other hother => h other (List.mem_cons_of_mem _ hother)),
      List.reverse_cons, List.append_assoc, List.singleton_append]

/-- **A canonical path is clean.** -/
theorem cleanPath_absolute (h : ∀ part ∈ parts, PlainPart part) :
    cleanPath (absolute parts) = absolute parts := by
  have hfold : ((absolute parts).splitOn '/').foldl (cleanPart true) [] = parts.reverse := by
    rw [splitOn_absolute h, List.foldl_cons]
    have hskip : cleanPart true [] [] = [] := rfl
    rw [hskip]
    split
    · next hnil =>
      subst hnil
      rfl
    · rw [foldl_cleanPart true h, List.append_nil]
  have hroot : (absolute parts).head? = some '/' := rfl
  simp only [cleanPath, hroot, decide_true, if_true, hfold, List.reverse_reverse]
  rfl

end Paths

variable {fs : Fs} {location : Location}

/-! ## §2 — opening a contained file -/

/-- Why a source could not be captured. -/
inductive SourceError where
  /-- "conversation source is not contained" -/
  | notContained
  /-- "conversation source changed while opening" -/
  | changed
  /-- What the system says of a path that cannot be opened, or that no regular file is. -/
  | io
  deriving DecidableEq, Repr

/-- `contained_regular_file`: the names of the file a path leads to, below the root's. -/
def containedRegularFile (fs : Fs) (path root : Text) : Option (List Name) :=
  match fs.canonicalize (Utf8.bytes root), fs.canonicalize (Utf8.bytes path) with
  | some realRoot, some realPath =>
    if realRoot.isPrefixOf realPath ∧ realPath ≠ realRoot then
      match fs.stat (pathBytes realPath) with
      | some (_, .file _) => some realPath
      | _ => none
    else none
  | _, _ => none

/-- `open_contained_conversation_file`: the number of the file, and what it holds. -/
def openContained (fs : Fs) (location : Location) : Except SourceError (Ino × FileData) :=
  if location.path.isEmpty ∨ location.root.isEmpty then .error .notContained
  else match containedRegularFile fs location.path location.root with
    | none => .error .notContained
    | some resolved =>
      if cleanPath (pathText resolved) ≠ cleanPath location.path then .error .notContained
      else match fs.openNoFollow (Utf8.bytes location.path) with
        | none => .error .io
        | some (ino, file) =>
          -- the path is resolved again, and must be what it was
          if (fs.canonicalize (Utf8.bytes location.path)).any
                (fun again => cleanPath (pathText again) = cleanPath location.path) ∧
              (containedRegularFile fs location.path location.root).any
                (fun again => pathText again = location.path) then
            match fs.stat (Utf8.bytes location.path) with
            | some (now, .file _) => if now = ino then .ok (ino, file) else .error .changed
            | some _ => .error .changed
            | none => .error .io
          else .error .changed

/-- **What is opened lies where its path says**: the names of the path lead to it from the root of
the tree, through directories alone, below the resolved root. -/
structure Contained (fs : Fs) (location : Location) (ino : Ino) (root : List Name)
    (place : FileTree.Place) : Prop where
  root_eq : fs.canonicalize (Utf8.bytes location.root) = some root
  place_eq : fs.resolve (Utf8.bytes location.path) = some place
  path_eq : location.path = pathText (FileTree.names place)
  ino_eq : FileTree.inoOf fs.root place = ino
  below : root <+: FileTree.names place
  strict : FileTree.names place ≠ root

theorem Contained.leads {ino : Ino} {root : List Name}
    {place : FileTree.Place} (h : Contained fs location ino root place) :
    FileTree.Leads fs.node fs.root place :=
  FileTree.Tree.leads_of_resolve h.place_eq

theorem plain_of_canonicalize {path : Bytes} {names : List Name}
    (h : fs.canonicalize path = some names) : ∀ name ∈ names, FileTree.Plain name := by
  obtain ⟨place, hplace, rfl⟩ := Option.map_eq_some_iff.mp h
  exact FileTree.Tree.Leads.plain (FileTree.Tree.leads_of_resolve hplace)

theorem containedRegularFile_spec {path root : Text} {names : List Name}
    (h : containedRegularFile fs path root = some names) :
    ∃ realRoot, fs.canonicalize (Utf8.bytes root) = some realRoot ∧
      fs.canonicalize (Utf8.bytes path) = some names ∧ realRoot <+: names ∧ names ≠ realRoot := by
  rw [containedRegularFile] at h
  split at h
  · next realRoot realPath hroot hpath =>
    split at h
    · next hbelow =>
      split at h
      · rw [Option.some.injEq] at h
        subst h
        exact ⟨realRoot, hroot, hpath, List.isPrefixOf_iff_prefix.mp hbelow.1, hbelow.2⟩
      · cases h
    · cases h
  · cases h

theorem openContained_spec {ino : Ino} {file : FileData}
    (h : openContained fs location = .ok (ino, file)) :
    ∃ root place, Contained fs location ino root place := by
  rw [openContained] at h
  split at h
  · cases h
  · split at h
    · cases h
    · next resolved hresolved =>
      split at h
      · cases h
      · split at h
        · cases h
        · split at h
          · next hagain =>
            rw [hresolved, Option.any_some, decide_eq_true_eq] at hagain
            obtain ⟨root, hroot, hnames, hbelow, hstrict⟩ := containedRegularFile_spec hresolved
            obtain ⟨place, hplace, rfl⟩ := Option.map_eq_some_iff.mp hnames
            split at h
            · next now _ hstat =>
              split at h
              · next hnow =>
                cases h
                -- `stat` saw the node of the same place
                rw [FileTree.Tree.stat, hplace, Option.bind_some] at hstat
                obtain ⟨node, -, hnode⟩ := Option.map_eq_some_iff.mp hstat
                have hino : FileTree.inoOf fs.root place = now := congrArg Prod.fst hnode
                exact ⟨root, place, hroot, hplace, hagain.2.symm, hino.trans hnow, hbelow, hstrict⟩
              · cases h
            · cases h
            · cases h
          · cases h

/-! ## §3 — captured sources -/

structure FileSource where
  location : Location
  ino : Ino
  file : FileData
  revision : Text
  deriving DecidableEq, Repr

/-- `end` of a source. -/
def FileSource.length (source : FileSource) : Nat := source.file.data.length

def fileIdentity (ino : Ino) : Text :=
  "Dev=".toList ++ Nat.toDigits 10 ino.dev ++ ",Ino=".toList ++ Nat.toDigits 10 ino.ino

def fileChangeToken (file : FileData) : Text :=
  "Ctim=\x7b".toList ++ (toString file.ctime).toList ++ ' ' :: (toString file.ctimeNsec).toList ++
    ['\x7d']

def anchorBytes : Nat := 64 * 1024

/-- The first record of a file, as far as it is anchored, with its line feed. -/
def firstRecord (data : Bytes) : Bytes :=
  let anchor := data.take anchorBytes
  if anchor.any (· = 0x0a) then anchor.takeWhile (· ≠ 0x0a) ++ [0x0a] else anchor

def fileRevision (host : Host) (ino : Ino) (file : FileData) : Text :=
  hex (host.sha256 (Utf8.bytes (fileIdentity ino) ++
    0 :: Utf8.bytes (hex (host.sha256 (firstRecord file.data)).toList))).toList

def captureFileSource (host : Host) (fs : Fs) (location : Location) :
    Except SourceError FileSource :=
  match openContained fs location with
  | .error e => .error e
  | .ok (ino, file) => .ok ⟨location, ino, file, fileRevision host ino file⟩

theorem captureFileSource_spec {host : Host} {source : FileSource}
    (h : captureFileSource host fs location = .ok source) :
    source.location = location ∧ source.revision = fileRevision host source.ino source.file ∧
      ∃ root place, Contained fs location source.ino root place := by
  rw [captureFileSource] at h
  split at h
  · cases h
  · next ino file hopen =>
    cases h
    exact ⟨rfl, rfl, openContained_spec hopen⟩

end Lerdr.Conversation
