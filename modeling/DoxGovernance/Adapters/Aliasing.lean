import DoxGovernance.Adapters.ObjectStore
import DoxGovernance.Lib.Run

/-!
# Keys that stay apart

The two stores give the same outcomes as long as no call reaches, under a key that is not kept,
something that the file system holds for other keys: the base directory, a directory made for
an earlier object or the file of an object that is kept, nor, for a put, the place below such
a file.
-/

set_option autoImplicit false

namespace Dox.LocalFsObjectStoreAdapter
open FileTree

/-- The objects that are kept, and the paths that objects have been put at so far. -/
structure Kept where
  objects : InMemoryObjectStore
  used : List (List FileName)

section Conditions
variable (store : LocalFsObjectStoreAdapter)

def pathOf (key : Str) : Option (List FileName) := (store.resolvePath key).toOption

def Kept.step (kept : Kept) (call : StoreCall) : Kept where
  objects := (InMemoryObjectStoreAdapter.call call kept.objects).2
  used := if call.isPut then (store.pathOf call.key).toList ++ kept.used else kept.used

/-- Nothing that a call for a new key could meet stands at the path. -/
def Free (kept : Kept) (isPut : Bool) (path : List FileName) : Prop :=
  path ≠ [] ∧ (∀ used ∈ kept.used, path <:+ used → path = used) ∧
    (∀ key ∈ kept.objects.keys, store.pathOf key ≠ some path) ∧
    (isPut = true → ∀ key ∈ kept.objects.keys, ∀ above ∈ store.pathOf key, ¬above <:+ path)

/-- The condition on a call: the system takes its path, and its key is kept or its path is free. -/
def Apart (kept : Kept) (call : StoreCall) : Prop :=
  ∀ path ∈ store.pathOf call.key, store.limit.fits path = true ∧
    (call.key ∈ kept.objects.keys ∨ store.Free kept call.isPut path)

instance (kept : Kept) (isPut : Bool) (path : List FileName) :
    Decidable (store.Free kept isPut path) :=
  inferInstanceAs (Decidable (_ ∧ _ ∧ _ ∧ _))

instance (kept : Kept) (call : StoreCall) : Decidable (store.Apart kept call) :=
  inferInstanceAs (Decidable (∀ path ∈ store.pathOf call.key, _))

end Conditions

/-- The files are those of the objects, each at the path of its key, and the directories lie above
the paths that were used. -/
structure Mirrors (store : LocalFsObjectStoreAdapter) (kept : Kept) (t : Disk) : Prop where
  files : ∀ key data, kept.objects.lookup key = some data →
    ∃ path, store.pathOf key = some path ∧ t.node? path = some (.file data)
  owned : ∀ path data, t.node? path = some (.file data) →
    ∃ key ∈ kept.objects, store.pathOf key = some path
  directories : ∀ path, t.node? path = some .directory →
    path = [] ∨ ∃ used ∈ kept.used, path <:+ used ∧ path ≠ used
  made : ∀ used ∈ kept.used, ∀ path, path <:+ used → path ≠ used → t.node? path = some .directory
  injective : ∀ key ∈ kept.objects, ∀ other ∈ kept.objects,
    store.pathOf key = store.pathOf other → key = other

variable {store : LocalFsObjectStoreAdapter} {kept : Kept} {t : Disk} {key : Str}
  {path : List FileName}

theorem mirrors_empty : Mirrors store ⟨∅, []⟩ FileTree.empty := by
  constructor
  · intro key data h
    rw [AList.lookup_empty] at h
    cases h
  · intro path data h
    rw [node?_empty] at h
    split at h <;> cases h
  · intro path h
    rw [node?_empty] at h
    split at h
    · exact Or.inl ‹_›
    · cases h
  · intro used hused
    exact absurd hused List.not_mem_nil
  · intro key hkey
    exact absurd hkey (AList.notMem_empty key)

theorem Mirrors.absent {isPut : Bool} (h : Mirrors store kept t)
    (hfree : store.Free kept isPut path) : t.node? path = none := by
  obtain ⟨hbase, hnoDirectory, hunshared, -⟩ := hfree
  rcases hnode : t.node? path with - | - | data
  · rfl
  · rcases h.directories path hnode with hroot | ⟨used, hused, habove, hne⟩
    · exact absurd hroot hbase
    · exact absurd (hnoDirectory used hused habove) hne
  · obtain ⟨key, hkey, hpath⟩ := h.owned path data hnode
    exact absurd hpath (hunshared key hkey)

/-- No file stands above a path that is free for a put or holds a file itself. -/
theorem Mirrors.clear (h : Mirrors store kept t)
    (hpath : (∃ data, t.node? path = some (.file data)) ∨ store.Free kept true path)
    {above : List FileName} (habove : above <:+ path) (hne : above ≠ path) (data : ByteArray) :
    t.node? above ≠ some (.file data) := by
  intro hfile
  rcases hpath with ⟨old, hold⟩ | ⟨-, -, -, hbelow⟩
  · rw [node?_above hold habove hne] at hfile
    cases hfile
  · obtain ⟨key, hkey, hkeyPath⟩ := h.owned above data hfile
    exact hbelow rfl key hkey above hkeyPath habove

theorem suffix_parent_ne {name : FileName} {parent other : List FileName} (h : other <:+ parent) :
    other ≠ name :: parent := by
  rintro rfl
  have hlength := h.length_le
  rw [List.length_cons] at hlength
  omega

section Put
variable {t' : Disk} {name : FileName} {parent : List FileName} {data : ByteArray}

/-- What may stand at the path of a key that is put: its own file, or nothing that is in the way. -/
def Puttable (store : LocalFsObjectStoreAdapter) (kept : Kept) (t : Disk) (key : Str)
    (path : List FileName) : Prop :=
  (key ∈ kept.objects ∧ ∃ old, t.node? path = some (.file old)) ∨ store.Free kept true path

theorem Puttable.noDirectory (h : Mirrors store kept t) (hput : Puttable store kept t key path) :
    t.node? path ≠ some .directory := by
  rcases hput with ⟨-, old, hold⟩ | hfree
  · rw [hold]
    exact nofun
  · rw [h.absent hfree]
    exact nofun

theorem Puttable.unshared (h : Mirrors store kept t) (hput : Puttable store kept t key path)
    (hkey : store.pathOf key = some path) {other : Str} (hother : other ∈ kept.objects)
    (hne : other ≠ key) : store.pathOf other ≠ some path := by
  intro hsame
  rcases hput with ⟨hkept, -⟩ | hfree
  · exact hne (h.injective other hother key hkept (hsame.trans hkey.symm))
  · exact hfree.2.2.1 other hother hsame

/-- No object but the one being put has its path. -/
theorem Puttable.sole (h : Mirrors store kept t) (hput : Puttable store kept t key path)
    (hkey : store.pathOf key = some path) {data : ByteArray} {other : Str}
    (hother : other ∈ kept.objects.insert key data) (hsame : store.pathOf other = store.pathOf key) :
    other = key := by
  rcases (AList.mem_insert _).mp hother with heq | hold
  · exact heq
  · by_contra hne
    exact hput.unshared h hkey hold hne (hsame.trans hkey)

theorem Puttable.clear (h : Mirrors store kept t) (hput : Puttable store kept t key (name :: parent))
    {above : List FileName} (habove : above <:+ parent) (old : ByteArray) :
    t.node? above ≠ some (.file old) :=
  h.clear (hput.imp_left And.right) (habove.trans (List.suffix_cons name parent))
    (suffix_parent_ne habove) old

/-- The disk after a file was written at a path, its parents made. -/
def Written (t : Disk) (name : FileName) (parent : List FileName) (data : ByteArray) (t' : Disk) :
    Prop :=
  ∀ other, t'.node? other = if other = name :: parent then some (.file data)
    else if other <:+ parent then some .directory else t.node? other

theorem Written.file (hwritten : Written t name parent data t') :
    t'.node? (name :: parent) = some (.file data) := by
  rw [hwritten, if_pos rfl]

theorem Written.other_file (h : Mirrors store kept t)
    (hput : Puttable store kept t key (name :: parent)) (hwritten : Written t name parent data t')
    {other : List FileName} {content : ByteArray} (hne : other ≠ name :: parent) :
    t'.node? other = some (.file content) ↔ t.node? other = some (.file content) := by
  rw [hwritten, if_neg hne]
  split
  · exact iff_of_false nofun (hput.clear h ‹_› content)
  · exact Iff.rfl

theorem Written.directory (h : Mirrors store kept t)
    (hput : Puttable store kept t key (name :: parent)) (hwritten : Written t name parent data t')
    (other : List FileName) :
    t'.node? other = some .directory ↔ other <:+ parent ∨ t.node? other = some .directory := by
  rw [hwritten]
  split
  · rename_i heq
    rw [heq]
    exact iff_of_false nofun
      (not_or.mpr ⟨fun hsuffix => suffix_parent_ne hsuffix rfl, hput.noDirectory h⟩)
  · split
    · exact iff_of_true rfl (Or.inl ‹_›)
    · rw [or_iff_right ‹_›]

/-- Once it is written, the file at the path of a key stands for the object. -/
theorem Mirrors.put (h : Mirrors store kept t) (hkey : store.pathOf key = some (name :: parent))
    (hput : Puttable store kept t key (name :: parent)) (hwritten : Written t name parent data t') :
    Mirrors store ⟨kept.objects.insert key data, (name :: parent) :: kept.used⟩ t' := by
  constructor
  · intro other content hlookup
    by_cases heq : other = key
    · rw [heq, AList.lookup_insert] at hlookup
      rw [heq, ← Option.some.inj hlookup]
      exact ⟨name :: parent, hkey, hwritten.file⟩
    · rw [AList.lookup_insert_ne heq] at hlookup
      obtain ⟨path, hpath, hnode⟩ := h.files other content hlookup
      have hother : other ∈ kept.objects := AList.lookup_isSome.mp (by rw [hlookup]; rfl)
      have hne : path ≠ name :: parent := by
        rintro rfl
        exact hput.unshared h hkey hother heq hpath
      exact ⟨path, hpath, (hwritten.other_file h hput hne).mpr hnode⟩
  · intro path content hnode
    by_cases heq : path = name :: parent
    · exact ⟨key, (AList.mem_insert _).mpr (Or.inl rfl), by rw [hkey, heq]⟩
    · obtain ⟨other, hother, hpath⟩ :=
        h.owned path content ((hwritten.other_file h hput heq).mp hnode)
      exact ⟨other, (AList.mem_insert _).mpr (Or.inr hother), hpath⟩
  · intro path hnode
    rcases (hwritten.directory h hput path).mp hnode with hsuffix | hold
    · exact Or.inr ⟨name :: parent, List.mem_cons_self,
        hsuffix.trans (List.suffix_cons name parent), suffix_parent_ne hsuffix⟩
    · rcases h.directories path hold with hroot | ⟨used, hused, hsuffix⟩
      · exact Or.inl hroot
      · exact Or.inr ⟨used, List.mem_cons_of_mem _ hused, hsuffix⟩
  · intro used hused path habove hne
    apply (hwritten.directory h hput path).mpr
    rcases List.mem_cons.mp hused with rfl | hold
    · exact Or.inl ((List.suffix_cons_iff.mp habove).resolve_left hne)
    · exact Or.inr (h.made used hold path habove hne)
  · intro first hfirst second hsecond hsame
    rcases (AList.mem_insert _).mp hfirst with heq | holdFirst
    · exact heq.trans (hput.sole h hkey hsecond (by rw [← hsame, heq])).symm
    · rcases (AList.mem_insert _).mp hsecond with heq | holdSecond
      · exact (hput.sole h hkey hfirst (by rw [hsame, heq])).trans heq.symm
      · exact h.injective first holdFirst second holdSecond hsame

end Put

/-- Without the object and its file the rest stays as it was. -/
theorem Mirrors.delete {data : ByteArray} (h : Mirrors store kept t)
    (hkept : key ∈ kept.objects) (hkey : store.pathOf key = some path)
    (hfile : t.node? path = some (.file data)) :
    Mirrors store ⟨kept.objects.erase key, kept.used⟩ (t.remove path) := by
  have hnoDirectory : t.node? path ≠ some .directory := by
    rw [hfile]
    exact nofun
  have hnodes := node?_remove hnoDirectory
  constructor
  · intro other content hlookup
    have hmem : other ∈ kept.objects.erase key := AList.lookup_isSome.mp (by rw [hlookup]; rfl)
    obtain ⟨hne, hother⟩ := AList.mem_erase.mp hmem
    rw [AList.lookup_erase_ne hne] at hlookup
    obtain ⟨otherPath, hpath, hnode⟩ := h.files other content hlookup
    refine ⟨otherPath, hpath, ?_⟩
    rw [hnodes, if_neg, hnode]
    rintro rfl
    exact hne (h.injective other hother key hkept (hpath.trans hkey.symm))
  · intro otherPath content hnode
    rw [hnodes] at hnode
    split at hnode
    · cases hnode
    · rename_i hne
      obtain ⟨other, hother, hpath⟩ := h.owned otherPath content hnode
      refine ⟨other, AList.mem_erase.mpr ⟨?_, hother⟩, hpath⟩
      rintro rfl
      exact hne (Option.some.inj (hpath.symm.trans hkey))
  · intro otherPath hnode
    rw [hnodes] at hnode
    split at hnode
    · cases hnode
    · exact h.directories otherPath hnode
  · intro used hused otherPath habove hne
    have hdirectory := h.made used hused otherPath habove hne
    rw [hnodes, if_neg, hdirectory]
    rintro rfl
    rw [hfile] at hdirectory
    cases hdirectory
  · intro first hfirst second hsecond
    exact h.injective first (AList.mem_erase.mp hfirst).2 second (AList.mem_erase.mp hsecond).2

section Steps

theorem withPath_run {α : Type} (h : store.pathOf key = some path)
    (f : List FileName → Action α) : store.withPath key f = f path := by
  rw [pathOf] at h
  rcases hpath : store.resolvePath key with e | found
  · rw [hpath] at h
    cases h
  · rw [hpath] at h
    cases h
    simp only [withPath, hpath]

theorem memory_get (objects : InMemoryObjectStore) (key : Str) :
    InMemoryObjectStoreAdapter.call (.get key) objects = match objects.lookup key with
      | none => (.error (.keyError key), objects)
      | some data => (.ok (.object data), objects) := by
  cases hlookup : objects.lookup key with
  | none =>
    apply Effect.bind_error
    simp only [InMemoryObjectStoreAdapter.get, hlookup]
  | some data =>
    have hget : InMemoryObjectStoreAdapter.get key objects = (.ok data, objects) := by
      simp only [InMemoryObjectStoreAdapter.get, hlookup]
    exact Effect.bind_ok hget

theorem memory_exists (objects : InMemoryObjectStore) (key : Str) :
    InMemoryObjectStoreAdapter.call (.exists_ key) objects =
      (.ok (.answer (objects.lookup key).isSome), objects) := rfl

theorem exists_run (hpath : store.pathOf key = some path) (hfits : store.limit.fits path = true) :
    store.exists_ key t = (.ok (t.node? path).isSome, t) := by
  rw [exists_, withPath_run hpath]
  exact Effect.mapError_ok (pathExists_run hfits)

theorem get_run (hpath : store.pathOf key = some path) (hfits : store.limit.fits path = true) :
    store.get key t = match t.node? path with
      | none => (.error (.keyError key), t)
      | some (.file data) => (.ok data, t)
      | some .directory => (.error (.osError .isDirectory), t) := by
  have hexists : sys (pathExists store.limit path) t = (.ok (t.node? path).isSome, t) :=
    Effect.mapError_ok (pathExists_run hfits)
  rcases hnode : t.node? path with - | - | data
  all_goals
    rw [hnode] at hexists
    rw [get, withPath_run hpath, Effect.bind_ok hexists]
  · rfl
  · exact Effect.mapError_error (read_directory hfits hnode)
  · exact Effect.mapError_ok (read_run hfits hnode)

theorem delete_run (hpath : store.pathOf key = some path) (hfits : store.limit.fits path = true) :
    store.delete key t = match t.node? path with
      | none => (.ok (), t)
      | some (.file _) => (.ok (), t.remove path)
      | some .directory => (.error (.osError .isDirectory), t) := by
  have hexists : sys (pathExists store.limit path) t = (.ok (t.node? path).isSome, t) :=
    Effect.mapError_ok (pathExists_run hfits)
  rcases hnode : t.node? path with - | - | data
  all_goals
    rw [hnode] at hexists
    rw [delete, withPath_run hpath, Effect.bind_ok hexists]
  · rfl
  · exact Effect.mapError_error (unlink_directory hfits hnode)
  · exact Effect.mapError_ok (unlink_run hfits hnode)

theorem put_run {name : FileName} {parent : List FileName} (data : ByteArray)
    (hpath : store.pathOf key = some (name :: parent))
    (hfits : store.limit.fits (name :: parent) = true)
    (hclear : ∀ above, above <:+ parent → ∀ content, t.node? above ≠ some (.file content))
    (hfree : t.node? (name :: parent) ≠ some .directory) :
    ∃ t', store.put key data t = (.ok (), t') ∧ Written t name parent data t' := by
  obtain ⟨made, hmake, hnodes⟩ := makeDirs_run (store.limit.parent hfits) hclear
  have hparent : made.node? (name :: parent).tail = some .directory := by
    rw [List.tail_cons, hnodes, if_pos (List.suffix_refl parent)]
  have hnotAbove : ¬name :: parent <:+ parent := fun habove => suffix_parent_ne habove rfl
  have hstill : made.node? (name :: parent) ≠ some .directory := by
    rw [hnodes, if_neg hnotAbove]
    exact hfree
  refine ⟨made.insert (name :: parent) (.file data), ?_, fun other => ?_⟩
  · rw [put, withPath_run hpath]
    exact (Effect.bind_ok (Effect.mapError_ok hmake)).trans
      (Effect.mapError_ok (write_run data hfits hparent hstill))
  · rw [node?_insert _ hparent hstill, hnodes]

theorem pathOf_of_accepts (h : store.accepts key = true) : ∃ path, store.pathOf key = some path := by
  unfold accepts at h
  unfold pathOf
  cases hpath : store.resolvePath key with
  | error e =>
    rw [hpath] at h
    cases h
  | ok path => exact ⟨path, rfl⟩

/-- What stands at the path of a call that is apart: the file of its key, if that is kept. -/
theorem Mirrors.node (h : Mirrors store kept t) {isPut : Bool} (hpath : store.pathOf key = some path)
    (hcase : key ∈ kept.objects.keys ∨ store.Free kept isPut path) :
    t.node? path = (kept.objects.lookup key).map Node.file := by
  cases hlookup : kept.objects.lookup key with
  | some data =>
    obtain ⟨found, hfound, hnode⟩ := h.files key data hlookup
    obtain rfl := Option.some.inj (hpath.symm.trans hfound)
    exact hnode
  | none =>
    rcases hcase with hkept | hfree
    · exact absurd (AList.lookup_eq_none.mp hlookup) (not_not_intro hkept)
    · exact h.absent hfree

/-- One outcome of both stores, after which the disk still mirrors the objects. -/
structure StepsTo (store : LocalFsObjectStoreAdapter) (kept : Kept) (t : Disk) (call : StoreCall) :
    Prop where
  alike : (store.call call t).1 = (InMemoryObjectStoreAdapter.call call kept.objects).1
  mirrors : Mirrors store (kept.step store call) (store.call call t).2

theorem StepsTo.of_run {call : StoreCall} {outcome : Except StoreError StoreAnswer}
    {objects : InMemoryObjectStore} {t' : Disk}
    (hmemory : InMemoryObjectStoreAdapter.call call kept.objects = (outcome, objects))
    (hdisk : store.call call t = (outcome, t'))
    (hmirrors : Mirrors store ⟨objects, (kept.step store call).used⟩ t') :
    StepsTo store kept t call := by
  constructor
  · rw [hmemory, hdisk]
  · rw [Kept.step, hmemory, hdisk]
    exact hmirrors

theorem get_step (h : Mirrors store kept t) (hpath : store.pathOf key = some path)
    (hfits : store.limit.fits path = true)
    (hnode : t.node? path = (kept.objects.lookup key).map Node.file) :
    StepsTo store kept t (.get key) := by
  have hget := get_run (t := t) hpath hfits
  have hmemory := memory_get kept.objects key
  cases hlookup : kept.objects.lookup key with
  | none =>
    rw [hnode, hlookup] at hget
    rw [hlookup] at hmemory
    exact .of_run hmemory (Effect.bind_error hget) h
  | some data =>
    rw [hnode, hlookup] at hget
    rw [hlookup] at hmemory
    exact .of_run hmemory (Effect.bind_ok hget) h

theorem exists_step (h : Mirrors store kept t) (hpath : store.pathOf key = some path)
    (hfits : store.limit.fits path = true)
    (hnode : t.node? path = (kept.objects.lookup key).map Node.file) :
    StepsTo store kept t (.exists_ key) := by
  have hexists := exists_run (t := t) hpath hfits
  rw [hnode, Option.isSome_map] at hexists
  exact .of_run (memory_exists kept.objects key) (Effect.bind_ok hexists) h

theorem delete_step (h : Mirrors store kept t) (hpath : store.pathOf key = some path)
    (hfits : store.limit.fits path = true)
    (hnode : t.node? path = (kept.objects.lookup key).map Node.file) :
    StepsTo store kept t (.delete key) := by
  have hdelete := delete_run (t := t) hpath hfits
  have hmemory := Effect.change_run (ε := StoreError)
    (fun objects : InMemoryObjectStore => ((), objects.erase key)) kept.objects
  cases hlookup : kept.objects.lookup key with
  | none =>
    rw [hnode, hlookup] at hdelete
    have habsent : key ∉ kept.objects := AList.lookup_eq_none.mp hlookup
    have herase : kept.objects.erase key = kept.objects := by
      apply AList.ext
      exact List.kerase_of_notMem_keys habsent
    refine .of_run (Effect.bind_ok hmemory) (Effect.bind_ok hdelete) ?_
    rw [herase]
    exact h
  | some data =>
    rw [hnode, hlookup] at hdelete
    have hkept : key ∈ kept.objects := AList.lookup_isSome.mp (by rw [hlookup]; rfl)
    have hfile : t.node? path = some (.file data) := by rw [hnode, hlookup]; rfl
    exact .of_run (Effect.bind_ok hmemory) (Effect.bind_ok hdelete) (h.delete hkept hpath hfile)

theorem put_step {data : ByteArray} (h : Mirrors store kept t)
    (hpath : store.pathOf key = some path) (hfits : store.limit.fits path = true)
    (hcase : key ∈ kept.objects.keys ∨ store.Free kept true path) :
    StepsTo store kept t (.put key data) := by
  have hnode := h.node hpath hcase
  have hput : Puttable store kept t key path := by
    rcases hcase with hkept | hfree
    · obtain ⟨old, hold⟩ := Option.isSome_iff_exists.mp (AList.lookup_isSome.mpr hkept)
      exact Or.inl ⟨hkept, old, by rw [hnode, hold]; rfl⟩
    · exact Or.inr hfree
  have hnoDirectory := hput.noDirectory h
  rcases path with - | ⟨name, parent⟩
  · exact absurd (node?_root t) hnoDirectory
  · obtain ⟨t', hrun, hwritten⟩ :=
      put_run data hpath hfits (fun _ habove => hput.clear h habove) hnoDirectory
    have hmemory := Effect.change_run (ε := StoreError)
      (fun objects : InMemoryObjectStore => ((), objects.insert key data)) kept.objects
    refine .of_run (Effect.bind_ok hmemory) (Effect.bind_ok hrun) ?_
    rw [Kept.step, StoreCall.isPut, if_pos rfl, StoreCall.key, hpath]
    exact h.put hpath hput hwritten

theorem call_step {call : StoreCall} (h : Mirrors store kept t)
    (haccepted : store.accepts call.key = true) (hapart : store.Apart kept call) :
    StepsTo store kept t call := by
  obtain ⟨path, hpath⟩ := pathOf_of_accepts haccepted
  obtain ⟨hfits, hcase⟩ := hapart path hpath
  have hnode := h.node hpath hcase
  cases call with
  | put key data => exact put_step h hpath hfits hcase
  | get key => exact get_step h hpath hfits hnode
  | delete key => exact delete_step h hpath hfits hnode
  | exists_ key => exact exists_step h hpath hfits hnode

/-! ### The condition is exact -/

theorem memory_ne_osError (call : StoreCall) (objects : InMemoryObjectStore) (e : Errno) :
    (InMemoryObjectStoreAdapter.call call objects).1 ≠ .error (.osError e) := by
  cases call with
  | get key =>
    rw [memory_get]
    cases objects.lookup key <;> exact nofun
  | put key data => exact nofun
  | delete key => exact nofun
  | exists_ key => exact nofun

/-- A call for a path that the system does not take fails. -/
theorem call_unfit {call : StoreCall} (hpath : store.pathOf call.key = some path)
    (hfits : store.limit.fits path = false) :
    ∃ e, (store.call call t).1 = .error (.osError e) := by
  have hexists : sys (pathExists store.limit path) t = (.error (.osError .nameTooLong), t) :=
    Effect.mapError_error (pathExists_unfit hfits)
  have hwrite : ∀ data (t : Disk), sys (FileTree.write store.limit path data) t =
      (.error (.osError .nameTooLong), t) :=
    fun data t => Effect.mapError_error (write_unfit data hfits)
  cases call with
  | get key =>
    dsimp only [StoreCall.key] at hpath
    have hget : store.get key t = (.error (.osError .nameTooLong), t) := by
      rw [get, withPath_run hpath, Effect.bind_error hexists]
    exact ⟨_, congrArg Prod.fst (Effect.bind_error hget)⟩
  | delete key =>
    dsimp only [StoreCall.key] at hpath
    have hdelete : store.delete key t = (.error (.osError .nameTooLong), t) := by
      rw [delete, withPath_run hpath, Effect.bind_error hexists]
    exact ⟨_, congrArg Prod.fst (Effect.bind_error hdelete)⟩
  | exists_ key =>
    dsimp only [StoreCall.key] at hpath
    have hanswer : store.exists_ key t = (.error (.osError .nameTooLong), t) := by
      rw [exists_, withPath_run hpath, hexists]
    exact ⟨_, congrArg Prod.fst (Effect.bind_error hanswer)⟩
  | put key data =>
    dsimp only [StoreCall.key] at hpath
    have hput : ∃ e t', store.put key data t = (.error (.osError e), t') := by
      rw [put, withPath_run hpath]
      rcases path with - | ⟨name, parent⟩
      · exact ⟨_, t, hwrite data t⟩
      · rcases hmake : makeDirs store.limit parent t with ⟨e | made, t'⟩
        · exact ⟨e, t', Effect.bind_error (Effect.mapError_error hmake)⟩
        · exact ⟨_, t', (Effect.bind_ok (Effect.mapError_ok hmake)).trans (hwrite data t')⟩
    obtain ⟨e, t', hput⟩ := hput
    exact ⟨e, congrArg Prod.fst (Effect.bind_error hput)⟩

/-- Where nothing is at the path, it is free for a call that does not put. -/
theorem Mirrors.free (h : Mirrors store kept t) (hnone : t.node? path = none) :
    store.Free kept false path := by
  refine ⟨?_, fun used hused habove => ?_, fun key hkey hpath => ?_, nofun⟩
  · rintro rfl
    rw [node?_root] at hnone
    cases hnone
  · by_contra hne
    rw [h.made used hused path habove hne] at hnone
    cases hnone
  · obtain ⟨data, hdata⟩ := Option.isSome_iff_exists.mp (AList.lookup_isSome.mpr hkey)
    obtain ⟨found, hfound, hnode⟩ := h.files key data hdata
    obtain rfl := Option.some.inj (hpath.symm.trans hfound)
    rw [hnode] at hnone
    cases hnone

/-- After a put that kept the stores in step, nothing of the others was in its way. -/
theorem free_of_put {data : ByteArray} (hpath : store.pathOf key = some path)
    (hnew : key ∉ kept.objects) {t' : Disk}
    (h : Mirrors store ⟨kept.objects.insert key data, path :: kept.used⟩ t') :
    store.Free kept true path := by
  obtain ⟨found, hfound, hfile⟩ := h.files key data (AList.lookup_insert kept.objects)
  obtain rfl := Option.some.inj (hpath.symm.trans hfound)
  have hunshared : ∀ other ∈ kept.objects, store.pathOf other ≠ some path := by
    intro other hother hsame
    have heq := h.injective other ((AList.mem_insert _).mpr (Or.inr hother)) key
      ((AList.mem_insert _).mpr (Or.inl rfl)) (hsame.trans hpath.symm)
    rw [heq] at hother
    exact hnew hother
  refine ⟨?_, fun used hused habove => ?_, hunshared, fun _ other hother above habove hsuffix => ?_⟩
  · rintro rfl
    rw [node?_root] at hfile
    cases hfile
  · by_contra hne
    rw [h.made used (List.mem_cons_of_mem _ hused) path habove hne] at hfile
    cases hfile
  · obtain ⟨content, hcontent⟩ := Option.isSome_iff_exists.mp (AList.lookup_isSome.mpr hother)
    have hne : other ≠ key := by
      rintro rfl
      exact hnew hother
    have hlookup : (kept.objects.insert key data).lookup other = some content := by
      rw [AList.lookup_insert_ne hne, hcontent]
    obtain ⟨otherPath, hotherPath, hnode⟩ := h.files other content hlookup
    obtain rfl := Option.some.inj (hotherPath.symm.trans habove)
    have hdifferent : otherPath ≠ path := by
      rintro rfl
      exact hunshared other hother hotherPath
    rw [node?_above hfile hsuffix hdifferent] at hnode
    cases hnode

/-- To delete a file under a key that is not kept loses the file of another object. -/
theorem Mirrors.not_foreign_delete {data : ByteArray} {used : List (List FileName)}
    (h : Mirrors store kept t) (hnew : key ∉ kept.objects)
    (hnode : t.node? path = some (.file data)) :
    ¬Mirrors store ⟨kept.objects.erase key, used⟩ (t.remove path) := by
  intro hmirrors
  obtain ⟨other, hother, hpath⟩ := h.owned path data hnode
  obtain ⟨content, hcontent⟩ := Option.isSome_iff_exists.mp (AList.lookup_isSome.mpr hother)
  have hne : other ≠ key := by
    rintro rfl
    exact hnew hother
  have hstill : (kept.objects.erase key).lookup other = some content := by
    rw [AList.lookup_erase_ne hne, hcontent]
  obtain ⟨found, hfound, hfile⟩ := hmirrors.files other content hstill
  obtain rfl := Option.some.inj (hpath.symm.trans hfound)
  have hnoDirectory : t.node? path ≠ some .directory := by
    rw [hnode]
    exact nofun
  rw [node?_remove hnoDirectory, if_pos rfl] at hfile
  cases hfile

/-- A call for a new key that kept the stores in step met nothing. -/
theorem none_of_step {call : StoreCall} (h : Mirrors store kept t)
    (hpath : store.pathOf call.key = some path) (hfits : store.limit.fits path = true)
    (hnew : call.key ∉ kept.objects) (hput : call.isPut = false)
    (hstep : StepsTo store kept t call) : t.node? path = none := by
  have hlookup : kept.objects.lookup call.key = none := AList.lookup_eq_none.mpr hnew
  have halike := hstep.alike
  cases call with
  | put key data => cases hput
  | get key =>
    dsimp only [StoreCall.key] at hpath hlookup
    have hget := get_run (t := t) hpath hfits
    rw [memory_get, hlookup] at halike
    rcases hnode : t.node? path with - | - | data
    · rfl
    · rw [hnode] at hget
      rw [call, Effect.bind_error hget] at halike
      cases halike
    · rw [hnode] at hget
      rw [call, Effect.bind_ok hget] at halike
      cases halike
  | delete key =>
    dsimp only [StoreCall.key] at hpath hlookup hnew
    have hdelete := delete_run (t := t) hpath hfits
    rcases hnode : t.node? path with - | - | data
    · rfl
    · rw [hnode] at hdelete
      rw [call, Effect.bind_error hdelete] at halike
      cases halike
    · rw [hnode] at hdelete
      have hmirrors := hstep.mirrors
      rw [call, Effect.bind_ok hdelete] at hmirrors
      exact absurd hmirrors (h.not_foreign_delete hnew hnode)
  | exists_ key =>
    dsimp only [StoreCall.key] at hpath hlookup
    have hexists := exists_run (t := t) hpath hfits
    rw [memory_exists, hlookup, call, Effect.bind_ok hexists] at halike
    rcases hnode : t.node? path with - | node
    · rfl
    · rw [hnode] at halike
      cases halike

/-- From stores that mirror each other, the calls that are apart are those that keep them in step. -/
theorem stepsTo_iff_apart {call : StoreCall} (h : Mirrors store kept t)
    (haccepted : store.accepts call.key = true) :
    StepsTo store kept t call ↔ store.Apart kept call := by
  constructor
  · intro hstep path hpath
    have hfits : store.limit.fits path = true := by
      by_contra hnot
      obtain ⟨e, hfails⟩ := call_unfit (t := t) hpath (Bool.not_eq_true _ ▸ hnot)
      exact memory_ne_osError call kept.objects e (hstep.alike.symm.trans hfails)
    refine ⟨hfits, ?_⟩
    by_cases hkept : call.key ∈ kept.objects
    · exact Or.inl hkept
    · refine Or.inr ?_
      cases hput : call.isPut with
      | false => exact h.free (none_of_step h hpath hfits hkept hput hstep)
      | true =>
        cases call with
        | put key data =>
          have hmirrors := hstep.mirrors
          rw [Kept.step, StoreCall.isPut, if_pos rfl, hpath] at hmirrors
          exact free_of_put hpath hkept hmirrors
        | get key => cases hput
        | delete key => cases hput
        | exists_ key => cases hput
  · exact call_step h haccepted

end Steps

theorem outcomes_eq {calls : List StoreCall} (h : Mirrors store kept t)
    (haccepted : ∀ call ∈ calls, store.accepts call.key = true)
    (hapart : Run.Meets (Kept.step store) store.Apart kept calls) :
    Effect.outcomes store.call calls t =
      Effect.outcomes InMemoryObjectStoreAdapter.call calls kept.objects := by
  induction calls generalizing kept t with
  | nil => rfl
  | cons call calls ih =>
    have hstep := call_step h (haccepted call List.mem_cons_self) hapart.1
    have hrest := ih hstep.mirrors (fun c hc => haccepted c (List.mem_cons_of_mem _ hc)) hapart.2
    rw [Effect.outcomes, Effect.outcomes, hstep.alike, hrest]
    rfl

/-- When every call of the run is apart, both stores give the same outcomes. -/
theorem outcomes_agree (store : LocalFsObjectStoreAdapter) {calls : List StoreCall}
    (haccepted : ∀ call ∈ calls, store.accepts call.key = true)
    (hapart : Run.Meets (Kept.step store) store.Apart ⟨∅, []⟩ calls) :
    Effect.outcomes store.call calls FileTree.empty =
      Effect.outcomes InMemoryObjectStoreAdapter.call calls ∅ :=
  outcomes_eq mirrors_empty haccepted hapart

/-- Names of at most 255 bytes. -/
def nameMax : PathLimit FileName where
  fits path := path.all fun name => name.length ≤ 255
  parent h := by
    rw [List.all_cons, Bool.and_eq_true] at h
    exact h.2

/-- The store under `/s`. -/
def sampleStore : LocalFsObjectStoreAdapter := ⟨[[115]], nameMax⟩

/-- `a/b` is put, read and overwritten, deleted and put again beside `a//c`. -/
def apartCalls : List StoreCall :=
  [.put [97, 47, 98] ⟨#[1]⟩, .get [97, 47, 98], .put [97, 47, 98] ⟨#[2]⟩, .delete [97, 47, 98],
    .exists_ [97, 47, 98], .put [97, 47, 47, 99] ⟨#[3]⟩, .get [97, 47, 98], .put [97, 47, 98] ⟨#[4]⟩]

theorem outcomes_agree_sample :
    Effect.outcomes sampleStore.call apartCalls FileTree.empty =
      Effect.outcomes InMemoryObjectStoreAdapter.call apartCalls ∅ :=
  outcomes_agree sampleStore (by decide) (by decide)

/-- `a/b` is put, and then `a` is asked for. -/
def directoryCalls : List StoreCall := [.put [97, 47, 98] ⟨#[1]⟩, .exists_ [97], .get [97]]

/-- The directory that `a/b` stands in is taken for an object with the key `a`. -/
theorem directory_taken_for_object :
    (∀ call ∈ directoryCalls, sampleStore.accepts call.key = true) ∧
    Effect.outcomes InMemoryObjectStoreAdapter.call directoryCalls ∅ =
      [.ok .done, .ok (.answer false), .error (.keyError [97])] ∧
    Effect.outcomes sampleStore.call directoryCalls FileTree.empty =
      [.ok .done, .ok (.answer true), .error (.osError .isDirectory)] :=
  ⟨by decide, rfl, rfl⟩

end Dox.LocalFsObjectStoreAdapter
