/-
# Lerdr.Lib.FileTree — a tree of files with symbolic and hard links.

Nodes are numbered by device and inode, so two names may lead to one file. A path is resolved one
component at a time from a place already reached; a symbolic link puts its target in front of what
is left, at most `maxLinks` times. What is proved is what `realpath` is for: a resolved place is
reached from the root through directories alone, by names that are no dots (`leads_of_resolve`).
-/
import Lerdr.Lib.PrefixCode
import Mathlib.Tactic.Common

namespace Lib.FileTree

/-- A path, or one component of it. -/
abbrev Name := List UInt8

/-- The number of a node. -/
structure Ino where
  dev : Nat
  ino : Nat
  deriving DecidableEq, Repr

/-- What a number stands for. -/
inductive Node (F : Type) where
  | dir (entries : List (Name × Ino))
  | file (f : F)
  | symlink (target : Name)

def slash : UInt8 := 0x2f

def dot : Name := [0x2e]

def dotdot : Name := [0x2e, 0x2e]

/-- A name that can stand in a directory. -/
structure Plain (name : Name) : Prop where
  ne_nil : name ≠ []
  ne_dot : name ≠ dot
  ne_dotdot : name ≠ dotdot
  no_slash : slash ∉ name

/-- A place: the names that led there and their nodes, the last first. -/
abbrev Place := List (Name × Ino)

def names (place : Place) : List Name := (place.map Prod.fst).reverse

/-- What became of a walk. -/
inductive Progress where
  | arrived (place : Place)
  /-- A symbolic link stood at `place`, with `rest` still to go. -/
  | link (place : Place) (target : Name) (rest : List Name)
  | missing
  deriving DecidableEq

section Walk

variable {F : Type} (node : Ino → Option (Node F)) (root : Ino)

def inoOf : Place → Ino
  | [] => root
  | (_, ino) :: _ => ino

def entriesOf (place : Place) : Option (List (Name × Ino)) :=
  match node (inoOf root place) with
  | some (.dir entries) => some entries
  | _ => none

/-- Follow components up to the first symbolic link. -/
def advance : Place → List Name → Progress
  | place, [] => .arrived place
  | place, name :: rest =>
    match entriesOf node root place with
    | none => .missing
    | some entries =>
      if name = dot then advance place rest
      else if name = dotdot then advance place.tail rest
      else match entries.lookup name with
        | none => .missing
        | some ino => match node ino with
          | none => .missing
          | some (.symlink target) => .link place target rest
          | some _ => advance ((name, ino) :: place) rest

/-- **The names of a place lead there from the root**, each an entry of the directory before it and
no symbolic link. -/
inductive Leads : Place → Prop where
  | nil : Leads []
  | cons {place : Place} {name : Name} {ino : Ino} {entries : List (Name × Ino)} {found : Node F} :
    Leads place → Plain name → entriesOf node root place = some entries →
    entries.lookup name = some ino → node ino = some found → (∀ target, found ≠ .symlink target) →
    Leads ((name, ino) :: place)

end Walk

/-- **A tree of files**, with the directory a relative path starts from. -/
structure Tree (F : Type) where
  node : Ino → Option (Node F)
  root : Ino
  cwd : Place
  cwd_leads : Leads node root cwd

namespace Tree

variable {F : Type} (t : Tree F)

/-- The components of a path; a slash at the end asks for a directory. -/
def components (path : Name) : List Name :=
  (path.splitOn slash).filter (!·.isEmpty) ++ if path.getLast? = some slash then [dot] else []

/-- The place a path starts from, if `place` is where it is read. -/
def startOf (place : Place) (path : Name) : Place :=
  if path.head? = some slash then [] else place

/-- Follow components through at most `n` symbolic links. -/
def walk : Nat → Place → List Name → Option Place
  | 0, place, todo =>
    match advance t.node t.root place todo with
    | .arrived found => some found
    | _ => none
  | n + 1, place, todo =>
    match advance t.node t.root place todo with
    | .arrived found => some found
    | .link found target rest => walk n (startOf found target) (components target ++ rest)
    | .missing => none

/-- How many links one path may meet (`ELOOP` beyond). -/
def maxLinks : Nat := 40

def resolve (path : Name) : Option Place :=
  if path = [] then none else t.walk maxLinks (startOf t.cwd path) (components path)

/-- `realpath`: the names of the place a path leads to. -/
def canonicalize (path : Name) : Option (List Name) := (t.resolve path).map names

/-- `stat`: the node a path leads to. -/
def stat (path : Name) : Option (Ino × Node F) :=
  (t.resolve path).bind fun place =>
    (t.node (inoOf t.root place)).map fun node => (inoOf t.root place, node)

/-- `open` with `O_NOFOLLOW`, of a regular file: the last component is no symbolic link. -/
def openNoFollow (path : Name) : Option (Ino × F) :=
  match (components path).getLast? with
  | none => none
  | some last =>
    if last = dot ∨ last = dotdot then none
    else
      (t.walk maxLinks (startOf t.cwd path) (components path).dropLast).bind fun place =>
        (entriesOf t.node t.root place).bind fun entries =>
          (entries.lookup last).bind fun ino =>
            match t.node ino with
            | some (.file f) => some (ino, f)
            | _ => none

/-! ### What a resolved place is -/

variable {t}

theorem names_cons (name : Name) (ino : Ino) (place : Place) :
    names ((name, ino) :: place) = names place ++ [name] := by
  simp [names]

theorem Leads.tail {place : Place} (h : Leads t.node t.root place) :
    Leads t.node t.root place.tail := by
  cases h with
  | nil => exact .nil
  | cons hplace => exact hplace

theorem Leads.plain {place : Place} (h : Leads t.node t.root place) :
    ∀ name ∈ names place, Plain name := by
  induction h with
  | nil => simp [names]
  | cons _ hname _ _ _ _ ih =>
    intro other hother
    rw [names_cons, List.mem_append, List.mem_singleton] at hother
    rcases hother with hother | rfl
    · exact ih other hother
    · exact hname

def Component (name : Name) : Prop := name ≠ [] ∧ slash ∉ name

theorem component_of_mem {path name : Name} (h : name ∈ components path) : Component name := by
  rw [components, List.mem_append, List.mem_filter] at h
  rcases h with ⟨hmem, hne⟩ | hdot
  · exact ⟨by simpa using hne, not_mem_of_mem_splitOn hmem⟩
  · split at hdot
    · rw [List.mem_singleton.mp hdot]
      exact ⟨by decide, by decide⟩
    · cases hdot

/-- **What a walk keeps**: the place it reaches, or stops at before a link, is led to. -/
def Kept (t : Tree F) : Progress → Prop
  | .arrived found => Leads t.node t.root found
  | .link found _ rest => Leads t.node t.root found ∧ ∀ name ∈ rest, Component name
  | .missing => True

theorem advance_kept (todo : List Name) (htodo : ∀ name ∈ todo, Component name) :
    ∀ place, Leads t.node t.root place → Kept t (advance t.node t.root place todo) := by
  induction todo with
  | nil => exact fun place hplace => hplace
  | cons name rest ih =>
    intro place hplace
    have hname := htodo name List.mem_cons_self
    have hrest : ∀ other ∈ rest, Component other :=
      fun other hother => htodo other (List.mem_cons_of_mem _ hother)
    rw [advance]
    split
    · trivial
    · next entries hentries =>
      split
      · exact ih hrest place hplace
      · next hdot =>
        split
        · exact ih hrest _ (Leads.tail hplace)
        · next hdotdot =>
          split
          · trivial
          · next ino hino =>
            split
            · trivial
            · exact ⟨hplace, hrest⟩
            · next found hlink hfound =>
              exact ih hrest _ (.cons hplace ⟨hname.1, hdot, hdotdot, hname.2⟩ hentries hino hfound
                hlink)

theorem startOf_leads {place : Place} (h : Leads t.node t.root place) (path : Name) :
    Leads t.node t.root (startOf place path) := by
  rw [startOf]
  split
  · exact .nil
  · exact h

theorem walk_leads (n : Nat) : ∀ (place : Place) (todo : List Name) {found : Place},
    Leads t.node t.root place → (∀ name ∈ todo, Component name) →
    t.walk n place todo = some found → Leads t.node t.root found := by
  induction n with
  | zero =>
    intro place todo found hplace htodo h
    have hkept := advance_kept todo htodo place hplace
    rw [walk] at h
    split at h
    · next harrived =>
      rw [harrived] at hkept
      rwa [← Option.some.inj h]
    · cases h
  | succ n ih =>
    intro place todo found hplace htodo h
    have hkept := advance_kept todo htodo place hplace
    rw [walk] at h
    split at h
    · next harrived =>
      rw [harrived] at hkept
      rwa [← Option.some.inj h]
    · next target rest hlink =>
      rw [hlink] at hkept
      refine ih _ _ (startOf_leads hkept.1 target) ?_ h
      intro name hname
      rcases List.mem_append.mp hname with hname | hname
      · exact component_of_mem hname
      · exact hkept.2 name hname
    · cases h

/-- **A resolved place is led to.** -/
theorem leads_of_resolve {path : Name} {place : Place} (h : t.resolve path = some place) :
    Leads t.node t.root place := by
  rw [resolve] at h
  split at h
  · cases h
  · exact walk_leads _ _ _ (startOf_leads t.cwd_leads path) (fun name => component_of_mem) h

end Tree

end Lib.FileTree
