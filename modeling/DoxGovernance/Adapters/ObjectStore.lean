import DoxGovernance.Lib.FileTree
import DoxGovernance.Lib.Utf8

/-!
# The object store adapters

One store keeps its objects in a dict under their keys, the other in files under a base
directory: the key, resolved against the base, is the path of the file. A key whose path
leaves the base is refused, and so is one that is no path at all.
-/

set_option autoImplicit false

namespace Dox

/-- `keyError` is `Object not found: {key!r}`, `escapes` is `Key {key!r} escapes the storage root`;
`badName` is the error of a name that has no bytes or holds a null byte. -/
inductive StoreError where
  | keyError (key : Str)
  | escapes (key : Str)
  | badName (key : Str)
  | osError (e : FileTree.Errno)

inductive StoreCall where
  | put (key : Str) (data : ByteArray)
  | get (key : Str)
  | delete (key : Str)
  | exists_ (key : Str)

inductive StoreAnswer where
  | done
  | object (data : ByteArray)
  | answer (b : Bool)

namespace StoreCall

def key : StoreCall → Str
  | put key _ | get key | delete key | exists_ key => key

def isPut : StoreCall → Bool
  | put _ _ => true
  | get _ | delete _ | exists_ _ => false

end StoreCall

abbrev InMemoryObjectStore := AList fun _ : Str => ByteArray

namespace InMemoryObjectStoreAdapter

abbrev Action (α : Type) := Effect InMemoryObjectStore StoreError α

def put (key : Str) (data : ByteArray) : Action Unit :=
  Effect.change fun store => ((), store.insert key data)

def get (key : Str) : Action ByteArray := fun store =>
  match store.lookup key with
  | some data => (.ok data, store)
  | none => (.error (.keyError key), store)

def delete (key : Str) : Action Unit := Effect.change fun store => ((), store.erase key)

def exists_ (key : Str) : Action Bool := Effect.gets fun store => (store.lookup key).isSome

def call : StoreCall → Action StoreAnswer
  | .put key data => do put key data; return .done
  | .get key => do return .object (← get key)
  | .delete key => do delete key; return .done
  | .exists_ key => do return .answer (← exists_ key)

end InMemoryObjectStoreAdapter

/-- The bytes of a name in the file system. -/
abbrev FileName := List UInt8

/-- UTF-8 with `surrogateescape`, as for file names: the code points U+DC80 to U+DCFF stand for one
byte each. No name holds a null byte. -/
def fsencodePoint (c : CodePoint) : Option FileName :=
  let n := c.val
  if n = 0 then none
  else if n < 0x80 then some [n.toUInt8]
  else if n < 0x800 then some [(0xC0 + n / 64).toUInt8, (0x80 + n % 64).toUInt8]
  else if c.isSurrogate then
    if 0xDC80 ≤ n ∧ n ≤ 0xDCFF then some [(n - 0xDC00).toUInt8] else none
  else if n < 0x10000 then
    some [(0xE0 + n / 4096).toUInt8, (0x80 + n / 64 % 64).toUInt8, (0x80 + n % 64).toUInt8]
  else some [(0xF0 + n / 262144).toUInt8, (0x80 + n / 4096 % 64).toUInt8,
    (0x80 + n / 64 % 64).toUInt8, (0x80 + n % 64).toUInt8]

def fsencode (name : Str) : Option FileName := (name.mapM fsencodePoint).map List.flatten

namespace PosixPath

def separator : CodePoint := 47

def curdir : Str := [46]

def pardir : Str := [46, 46]

/-- One component of a path: the stack of names that it leads to. -/
def enter (path : List Str) (component : Str) : Option (List Str) :=
  if component = [] ∨ component = curdir then some path
  else if component = pardir then some path.tail
  else if (fsencode component).isSome then some (component :: path)
  else none

/-- `(base / key).resolve()` without links; an absolute key starts at the root. -/
def resolve (base : List Str) (key : Str) : Option (List Str) :=
  (key.splitOn separator).foldlM enter (if key.head? = some separator then [] else base)

end PosixPath

/-- The names of the base directory, the last one first, and the paths that the system takes. -/
structure LocalFsObjectStoreAdapter where
  base : List Str
  limit : FileTree.PathLimit FileName

abbrev Disk := FileTree FileName ByteArray

namespace LocalFsObjectStoreAdapter
variable (store : LocalFsObjectStoreAdapter)

/-- `_resolve_path`: the path from the base directory. -/
def resolvePath (key : Str) : Except StoreError (List FileName) :=
  match PosixPath.resolve store.base key with
  | none => .error (.badName key)
  | some resolved =>
    if store.base <:+ resolved then
      match (resolved.take (resolved.length - store.base.length)).mapM fsencode with
      | some path => .ok path
      | none => .error (.badName key)
    else .error (.escapes key)

def accepts (key : Str) : Bool := (store.resolvePath key).isOk

abbrev Action (α : Type) := Effect Disk StoreError α

/-- A call of the system. -/
def sys {α : Type} (m : Effect Disk FileTree.Errno α) : Action α := m.mapError .osError

def withPath {α : Type} (key : Str) (f : List FileName → Action α) : Action α :=
  match store.resolvePath key with
  | .ok path => f path
  | .error e => Effect.raise e

/-- The parent of the base directory is there already. -/
def put (key : Str) (data : ByteArray) : Action Unit := store.withPath key fun path => do
  match path with
  | [] => pure ()
  | _ :: parent => sys (FileTree.makeDirs store.limit parent)
  sys (FileTree.write store.limit path data)

def get (key : Str) : Action ByteArray := store.withPath key fun path => do
  if ← sys (FileTree.pathExists store.limit path) then sys (FileTree.read store.limit path)
  else Effect.raise (.keyError key)

def delete (key : Str) : Action Unit := store.withPath key fun path => do
  if ← sys (FileTree.pathExists store.limit path) then sys (FileTree.unlink store.limit path)
  else pure ()

def exists_ (key : Str) : Action Bool := store.withPath key fun path =>
  sys (FileTree.pathExists store.limit path)

def call : StoreCall → Action StoreAnswer
  | .put key data => do store.put key data; return .done
  | .get key => do return .object (← store.get key)
  | .delete key => do store.delete key; return .done
  | .exists_ key => do return .answer (← store.exists_ key)

end LocalFsObjectStoreAdapter
end Dox
