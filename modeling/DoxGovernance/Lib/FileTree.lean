import DoxGovernance.Lib.Effect
import Mathlib.Data.List.AList
import Mathlib.Data.List.Infix

/-!
# File trees

Directories and files under a root directory, and what the calls of a POSIX system do to
them. A path is the stack of its names, the last one first, so that its tail is its parent.
There are no links. A call fails as a whole, except that the directories made on the way to
one that cannot be made stay.
-/

set_option autoImplicit false

namespace FileTree

inductive Node (β : Type) where
  | directory
  | file (content : β)

inductive Errno where
  | noEntry
  | fileExists
  | notDirectory
  | isDirectory
  | nameTooLong
  deriving DecidableEq

/-- The paths that a system takes. -/
structure PathLimit (ν : Type) where
  fits : List ν → Bool
  parent : ∀ {name path}, fits (name :: path) = true → fits path = true

def Node.isDirectory {β : Type} : Node β → Bool
  | directory => true
  | file _ => false

end FileTree

open FileTree

/-- Every entry but the root stands in a directory. -/
structure FileTree (ν β : Type) [DecidableEq ν] where
  entries : AList fun _ : List ν => Node β
  root : entries.lookup [] = some .directory
  parent : ∀ {name path}, (entries.lookup (name :: path)).isSome = true →
    entries.lookup path = some .directory

namespace FileTree
variable {ν β : Type} [DecidableEq ν]

def empty : FileTree ν β where
  entries := AList.insert [] .directory ∅
  root := AList.lookup_insert ∅
  parent := by
    intro name path h
    rw [AList.lookup_insert_ne (List.cons_ne_nil name path), AList.lookup_empty] at h
    cases h

def node? (t : FileTree ν β) (path : List ν) : Option (Node β) := t.entries.lookup path

def isDir (t : FileTree ν β) (path : List ν) : Bool := (t.node? path).any Node.isDirectory

theorem isDir_iff {t : FileTree ν β} {path : List ν} :
    t.isDir path = true ↔ t.node? path = some .directory := by
  rw [isDir]
  rcases t.node? path with - | - | content <;> simp [Node.isDirectory]

@[simp] theorem node?_root (t : FileTree ν β) : t.node? [] = some .directory := t.root

theorem node?_empty (path : List ν) :
    (empty : FileTree ν β).node? path = if path = [] then some .directory else none := by
  split
  · rename_i h
    rw [h, node?_root]
  · rename_i h
    exact (AList.lookup_insert_ne h).trans (AList.lookup_empty path)

theorem node?_parent {t : FileTree ν β} {name : ν} {path : List ν} {node : Node β}
    (h : t.node? (name :: path) = some node) : t.node? path = some .directory :=
  t.parent (Option.isSome_iff_exists.mpr ⟨node, h⟩)

/-- Whatever stands above an entry is a directory. -/
theorem node?_above {t : FileTree ν β} {path above : List ν} {node : Node β}
    (h : t.node? path = some node) (habove : above <:+ path) (hne : above ≠ path) :
    t.node? above = some .directory := by
  induction path generalizing node with
  | nil => exact absurd (List.suffix_nil.mp habove) hne
  | cons name parent ih =>
    have hparent := node?_parent h
    rcases List.suffix_cons_iff.mp habove with rfl | hrest
    · exact absurd rfl hne
    · by_cases heq : above = parent
      · rw [heq, hparent]
      · exact ih hparent hrest heq

theorem node?_of_directory {t : FileTree ν β} {path : List ν}
    (h : t.node? path = some .directory) (other : List ν) :
    t.node? other = if other <:+ path then some .directory else t.node? other := by
  split
  · rename_i hsuffix
    by_cases heq : other = path
    · rw [heq, h]
    · exact node?_above h hsuffix heq
  · rfl

/-- Puts an entry into a directory; nothing happens where the parent is none or where another
directory is in the place. -/
def insert (t : FileTree ν β) (path : List ν) (node : Node β) : FileTree ν β :=
  if h : t.isDir path.tail = true ∧ t.isDir path = false then
    { entries := t.entries.insert path node
      root := by
        have hne : [] ≠ path := by
          rintro rfl
          have hroot := isDir_iff.mpr t.root
          rw [h.2] at hroot
          cases hroot
        rw [AList.lookup_insert_ne hne, t.root]
      parent := by
        intro name above hsome
        have habove : t.node? above = some .directory := by
          by_cases heq : name :: above = path
          · exact isDir_iff.mp (by rw [← heq] at h; exact h.1)
          · rw [AList.lookup_insert_ne heq] at hsome
            exact t.parent hsome
        have hne : above ≠ path := by
          rintro rfl
          rw [isDir_iff.mpr habove] at h
          cases h.2
        rw [AList.lookup_insert_ne hne]
        exact habove }
  else t

theorem node?_insert {t : FileTree ν β} {path : List ν} (node : Node β)
    (hparent : t.node? path.tail = some .directory) (hfree : t.node? path ≠ some .directory)
    (other : List ν) :
    (t.insert path node).node? other = if other = path then some node else t.node? other := by
  have h : t.isDir path.tail = true ∧ t.isDir path = false :=
    ⟨isDir_iff.mpr hparent, Bool.eq_false_iff.mpr (mt isDir_iff.mp hfree)⟩
  rw [insert, dif_pos h]
  split
  · rename_i heq
    rw [heq]
    exact AList.lookup_insert t.entries
  · rename_i hne
    exact AList.lookup_insert_ne hne

/-- Removes what is no directory. -/
def remove (t : FileTree ν β) (path : List ν) : FileTree ν β :=
  if h : t.isDir path = false then
    { entries := t.entries.erase path
      root := by
        have hne : [] ≠ path := by
          rintro rfl
          have hroot := isDir_iff.mpr t.root
          rw [h] at hroot
          cases hroot
        rw [AList.lookup_erase_ne hne, t.root]
      parent := by
        intro name above hsome
        have hold : (t.entries.lookup (name :: above)).isSome = true := by
          rw [AList.lookup_isSome] at hsome ⊢
          exact (AList.mem_erase.mp hsome).2
        have habove : t.node? above = some .directory := t.parent hold
        have hne : above ≠ path := by
          rintro rfl
          rw [isDir_iff.mpr habove] at h
          cases h
        rw [AList.lookup_erase_ne hne]
        exact habove }
  else t

theorem node?_remove {t : FileTree ν β} {path : List ν} (h : t.node? path ≠ some .directory)
    (other : List ν) :
    (t.remove path).node? other = if other = path then none else t.node? other := by
  rw [remove, dif_pos (Bool.eq_false_iff.mpr (mt isDir_iff.mp h))]
  split
  · rename_i heq
    rw [heq]
    exact AList.lookup_erase path t.entries
  · rename_i hne
    exact AList.lookup_erase_ne hne

/-- The error of a path that leads nowhere. -/
def missing (t : FileTree ν β) (path : List ν) : Errno :=
  if path.tails.any fun above => (t.node? above).any (!·.isDirectory) then .notDirectory
  else .noEntry

theorem missing_of_clear {t : FileTree ν β} {path : List ν}
    (h : ∀ above, above <:+ path → ∀ content, t.node? above ≠ some (.file content)) :
    t.missing path = .noEntry := by
  rw [missing, if_neg]
  intro hany
  obtain ⟨above, habove, hfile⟩ := List.any_eq_true.mp hany
  obtain ⟨node, hnode, hnot⟩ := (Option.any_eq_true _ _).mp hfile
  cases node with
  | directory => cases hnot
  | file content => exact h above ((List.mem_tails _ _).mp habove) content hnode

section Calls
variable (limit : PathLimit ν)

def stat (path : List ν) : Effect (FileTree ν β) Errno (Node β) := fun t =>
  if limit.fits path then
    match t.node? path with
    | some node => (.ok node, t)
    | none => (.error (t.missing path), t)
  else (.error .nameTooLong, t)

/-- A new entry where no directory is. -/
def create (path : List ν) (node : Node β) : Effect (FileTree ν β) Errno Unit := fun t =>
  if t.isDir path.tail then (.ok (), t.insert path node) else (.error (t.missing path), t)

def mkdir (path : List ν) : Effect (FileTree ν β) Errno Unit := fun t =>
  if limit.fits path then
    if (t.node? path).isSome then (.error .fileExists, t) else create path .directory t
  else (.error .nameTooLong, t)

/-- Open for writing, truncate and write. -/
def write (path : List ν) (content : β) : Effect (FileTree ν β) Errno Unit := fun t =>
  if limit.fits path then
    if t.isDir path then (.error .isDirectory, t) else create path (.file content) t
  else (.error .nameTooLong, t)

def read (path : List ν) : Effect (FileTree ν β) Errno β := do
  match ← stat limit path with
  | .directory => Effect.raise .isDirectory
  | .file content => return content

def unlink (path : List ν) : Effect (FileTree ν β) Errno Unit := do
  match ← stat limit path with
  | .directory => Effect.raise .isDirectory
  | .file _ => Effect.change fun t => ((), t.remove path)

/-- The errors that only say that nothing is there. -/
def Errno.isIgnored : Errno → Bool
  | noEntry | notDirectory => true
  | fileExists | isDirectory | nameTooLong => false

def ifPresent (found : Node β → Bool) (path : List ν) : Effect (FileTree ν β) Errno Bool :=
  Effect.recover (do return found (← stat limit path)) fun e =>
    if e.isIgnored then pure false else Effect.raise e

/-- `Path.exists`; a directory exists too. -/
def pathExists : List ν → Effect (FileTree ν β) Errno Bool := ifPresent limit fun _ => true

/-- `Path.is_dir`. -/
def pathIsDir : List ν → Effect (FileTree ν β) Errno Bool := ifPresent limit Node.isDirectory

/-- `Path.mkdir(exist_ok=True)`, and what it does where the parent is missing. -/
def mkdirExistOk (orphan : Effect (FileTree ν β) Errno Unit) (path : List ν) :
    Effect (FileTree ν β) Errno Unit :=
  Effect.recover (mkdir limit path) fun e =>
    if e = .noEntry then orphan
    else do if ← pathIsDir limit path then pure () else Effect.raise e

/-- `Path.mkdir(parents=True, exist_ok=True)`. -/
def makeDirs : List ν → Effect (FileTree ν β) Errno Unit
  | [] => mkdirExistOk limit (Effect.raise .noEntry) []
  | name :: parent => mkdirExistOk limit (do
      makeDirs parent
      mkdirExistOk limit (Effect.raise .noEntry) (name :: parent)) (name :: parent)

section Specs
variable {limit} {t : FileTree ν β} {path : List ν}

theorem stat_some {node : Node β} (hfits : limit.fits path = true) (h : t.node? path = some node) :
    stat limit path t = (.ok node, t) := by
  simp only [stat, hfits, h, if_true]

theorem stat_none (hfits : limit.fits path = true) (h : t.node? path = none) :
    stat limit path t = (.error (t.missing path), t) := by
  simp only [stat, hfits, h, if_true]

theorem isIgnored_missing (t : FileTree ν β) (path : List ν) : (t.missing path).isIgnored = true := by
  rw [missing]
  split <;> rfl

theorem ifPresent_run (found : Node β → Bool) (hfits : limit.fits path = true) :
    ifPresent limit found path t = (.ok ((t.node? path).any found), t) := by
  rcases h : t.node? path with - | node
  · rw [ifPresent, Effect.recover_error (Effect.bind_error (stat_none hfits h)),
      if_pos (isIgnored_missing t path)]
    rfl
  · rw [ifPresent, Effect.recover_ok ((Effect.bind_ok (stat_some hfits h)).trans rfl)]
    rfl

theorem pathExists_run (hfits : limit.fits path = true) :
    pathExists limit path t = (.ok (t.node? path).isSome, t) := by
  rw [pathExists, ifPresent_run _ hfits]
  rcases t.node? path with - | node <;> rfl

theorem pathExists_unfit (hfits : limit.fits path = false) :
    pathExists limit path t = (.error .nameTooLong, t) := by
  have hstat : stat limit path t = (.error .nameTooLong, t) := by
    rw [stat, hfits]
    rfl
  exact Effect.recover_error (Effect.bind_error hstat)

theorem read_run {content : β} (hfits : limit.fits path = true)
    (h : t.node? path = some (.file content)) : read limit path t = (.ok content, t) :=
  Effect.bind_ok (stat_some hfits h)

theorem read_directory (hfits : limit.fits path = true) (h : t.node? path = some .directory) :
    read limit path t = (.error .isDirectory, t) :=
  Effect.bind_ok (stat_some hfits h)

theorem unlink_run {content : β} (hfits : limit.fits path = true)
    (h : t.node? path = some (.file content)) : unlink limit path t = (.ok (), t.remove path) :=
  Effect.bind_ok (stat_some hfits h)

theorem unlink_directory (hfits : limit.fits path = true) (h : t.node? path = some .directory) :
    unlink limit path t = (.error .isDirectory, t) :=
  Effect.bind_ok (stat_some hfits h)

theorem create_run (node : Node β) (hparent : t.node? path.tail = some .directory) :
    create path node t = (.ok (), t.insert path node) := by
  rw [create, if_pos (isDir_iff.mpr hparent)]

theorem write_run (content : β) (hfits : limit.fits path = true)
    (hparent : t.node? path.tail = some .directory) (hfree : t.node? path ≠ some .directory) :
    write limit path content t = (.ok (), t.insert path (.file content)) := by
  rw [write, if_pos hfits, if_neg (mt isDir_iff.mp hfree), create_run _ hparent]

theorem write_unfit (content : β) (hfits : limit.fits path = false) :
    write limit path content t = (.error .nameTooLong, t) := by
  rw [write, hfits]
  rfl

/-- A directory that is there is left alone. -/
theorem mkdirExistOk_present (orphan : Effect (FileTree ν β) Errno Unit)
    (hfits : limit.fits path = true) (h : t.node? path = some .directory) :
    mkdirExistOk limit orphan path t = (.ok (), t) := by
  have hmkdir : mkdir limit path t = (.error .fileExists, t) := by
    rw [mkdir, if_pos hfits, h]
    rfl
  have hdir : pathIsDir limit path t = (.ok true, t) := by
    rw [pathIsDir, ifPresent_run _ hfits, h]
    rfl
  rw [mkdirExistOk, Effect.recover_error hmkdir, if_neg (by decide), Effect.bind_ok hdir]
  rfl

theorem mkdirExistOk_absent (orphan : Effect (FileTree ν β) Errno Unit)
    (hfits : limit.fits path = true) (h : t.node? path = none)
    (hparent : t.node? path.tail = some .directory) :
    mkdirExistOk limit orphan path t = (.ok (), t.insert path .directory) := by
  have hmkdir : mkdir limit path t = (.ok (), t.insert path .directory) := by
    rw [mkdir, if_pos hfits, h, if_neg (by simp), create_run _ hparent]
  rw [mkdirExistOk, Effect.recover_ok hmkdir]

theorem mkdirExistOk_orphan (orphan : Effect (FileTree ν β) Errno Unit)
    (hfits : limit.fits path = true) (h : t.node? path = none)
    (hparent : t.node? path.tail ≠ some .directory) (hmissing : t.missing path = .noEntry) :
    mkdirExistOk limit orphan path t = orphan t := by
  have hmkdir : mkdir limit path t = (.error .noEntry, t) := by
    rw [mkdir, if_pos hfits, h, if_neg (by simp), create, if_neg (mt isDir_iff.mp hparent),
      hmissing]
  rw [mkdirExistOk, Effect.recover_error hmkdir, if_pos rfl]

/-- Where no file is in the way, the path and all that is above it are directories afterwards, and
nothing else changes. -/
theorem makeDirs_run (hfits : limit.fits path = true)
    (hclear : ∀ above, above <:+ path → ∀ content, t.node? above ≠ some (.file content)) :
    ∃ t', makeDirs limit path t = (.ok (), t') ∧ ∀ other,
      t'.node? other = if other <:+ path then some .directory else t.node? other := by
  induction path with
  | nil =>
    exact ⟨t, mkdirExistOk_present _ hfits (node?_root t), node?_of_directory (node?_root t)⟩
  | cons name parent ih =>
    rcases h : t.node? (name :: parent) with - | - | content
    · by_cases hparent : t.node? parent = some .directory
      · refine ⟨_, mkdirExistOk_absent _ hfits h hparent, fun other => ?_⟩
        rw [node?_insert _ hparent (by rw [h]; exact nofun)]
        by_cases heq : other = name :: parent
        · simp [heq]
        · simpa [heq, List.suffix_cons_iff] using node?_of_directory hparent other
      · obtain ⟨t', hrun, hnodes⟩ := ih (limit.parent hfits) fun above habove =>
          hclear above (habove.trans (List.suffix_cons name parent))
        have hlonger : ¬name :: parent <:+ parent := by
          intro hsuffix
          have hlength := hsuffix.length_le
          rw [List.length_cons] at hlength
          omega
        have habsent : t'.node? (name :: parent) = none := by rw [hnodes, if_neg hlonger, h]
        have hmade : t'.node? parent = some .directory := by
          rw [hnodes, if_pos (List.suffix_refl parent)]
        refine ⟨t'.insert (name :: parent) .directory, ?_, fun other => ?_⟩
        · rw [makeDirs, mkdirExistOk_orphan _ hfits h hparent (missing_of_clear hclear),
            Effect.bind_ok hrun, mkdirExistOk_absent _ hfits habsent hmade]
        · rw [node?_insert _ hmade (by rw [habsent]; exact nofun), hnodes]
          by_cases heq : other = name :: parent <;> simp [heq, List.suffix_cons_iff]
    · exact ⟨t, mkdirExistOk_present _ hfits h, node?_of_directory h⟩
    · exact absurd h (hclear _ (List.suffix_refl _) content)

end Specs
end Calls
end FileTree
