import Mathlib.Data.List.Lex
import Mathlib.Data.List.Nodup
import Mathlib.Data.List.Sort
import Mathlib.Order.Fin.Basic

/-!
# JSON values and reordering of object keys

Strings are sequences of Unicode code points, which may be lone surrogates; the numbers
are integers and values of a type of floats that the values are generic in. `Reorder`
is the least relation that permutes the members of an object and is closed under doing
so at any depth, one place after another.
-/

set_option autoImplicit false

universe u

/-- A Unicode code point, surrogates included. -/
abbrev CodePoint := Fin 1114112

namespace CodePoint

instance : @NeZero Nat ⟨0⟩ 1114112 := ⟨by decide⟩

def isSurrogate (c : CodePoint) : Bool := 0xD800 ≤ c.val && c.val ≤ 0xDFFF

end CodePoint

abbrev Str := List CodePoint

inductive Json (F : Type u) where
  | null
  | bool (b : Bool)
  | int (z : Int)
  | float (f : F)
  | str (s : Str)
  | arr (items : List (Json F))
  | obj (members : List (Str × Json F))

namespace Json
variable {F : Type u}

/-- Induction over values, with one hypothesis for each item and for each member's value. -/
theorem ind {P : Json F → Prop} (null : P .null) (bool : ∀ b, P (.bool b)) (int : ∀ z, P (.int z))
    (float : ∀ f, P (.float f)) (str : ∀ s, P (.str s))
    (arr : ∀ items, (∀ x ∈ items, P x) → P (.arr items))
    (obj : ∀ members, (∀ m ∈ members, P m.2) → P (.obj members)) (j : Json F) : P j := by
  refine @Json.rec F P (fun items => ∀ x ∈ items, P x) (fun members => ∀ m ∈ members, P m.2)
    (fun m => P m.2) null bool int float str arr obj ?_ ?_ ?_ ?_ (fun _ _ hv => hv) j
  · exact fun x hx => absurd hx List.not_mem_nil
  · exact fun x xs hx hxs => List.forall_mem_cons.mpr ⟨hx, hxs⟩
  · exact fun m hm => absurd hm List.not_mem_nil
  · exact fun m ms hm hms => List.forall_mem_cons.mpr ⟨hm, hms⟩

mutual

/-- Whether no object of the value lists a key twice. -/
def distinctKeys : Json F → Bool
  | .arr items => distinctKeysItems items
  | .obj members => (members.map Prod.fst).Nodup && distinctKeysMembers members
  | _ => true

def distinctKeysItems : List (Json F) → Bool
  | [] => true
  | x :: xs => distinctKeys x && distinctKeysItems xs

def distinctKeysMembers : List (Str × Json F) → Bool
  | [] => true
  | (_, v) :: ms => distinctKeys v && distinctKeysMembers ms

end

mutual

/-- Whether some string or key of the value holds a lone surrogate. -/
def hasSurrogate : Json F → Bool
  | .str s => s.any CodePoint.isSurrogate
  | .arr items => hasSurrogateItems items
  | .obj members => hasSurrogateMembers members
  | _ => false

def hasSurrogateItems : List (Json F) → Bool
  | [] => false
  | x :: xs => hasSurrogate x || hasSurrogateItems xs

def hasSurrogateMembers : List (Str × Json F) → Bool
  | [] => false
  | (k, v) :: ms => k.any CodePoint.isSurrogate || hasSurrogate v || hasSurrogateMembers ms

end

mutual

/-- Whether some key of some object of the value satisfies a predicate. -/
def anyKey (p : Str → Bool) : Json F → Bool
  | .arr items => anyKeyItems p items
  | .obj members => anyKeyMembers p members
  | _ => false

def anyKeyItems (p : Str → Bool) : List (Json F) → Bool
  | [] => false
  | x :: xs => anyKey p x || anyKeyItems p xs

def anyKeyMembers (p : Str → Bool) : List (Str × Json F) → Bool
  | [] => false
  | (k, v) :: ms => p k || anyKey p v || anyKeyMembers p ms

end

mutual

/-- How many levels of values there are. -/
def depth : Json F → Nat
  | .arr items => depthItems items + 1
  | .obj members => depthMembers members + 1
  | _ => 1

def depthItems : List (Json F) → Nat
  | [] => 0
  | x :: xs => max (depth x) (depthItems xs)

def depthMembers : List (Str × Json F) → Nat
  | [] => 0
  | (_, v) :: ms => max (depth v) (depthMembers ms)

end

mutual

/-- Whether some float of the value satisfies a predicate. -/
def anyFloat (p : F → Bool) : Json F → Bool
  | .float f => p f
  | .arr items => anyFloatItems p items
  | .obj members => anyFloatMembers p members
  | _ => false

def anyFloatItems (p : F → Bool) : List (Json F) → Bool
  | [] => false
  | x :: xs => anyFloat p x || anyFloatItems p xs

def anyFloatMembers (p : F → Bool) : List (Str × Json F) → Bool
  | [] => false
  | (_, v) :: ms => anyFloat p v || anyFloatMembers p ms

end

mutual

/-- The value with `null` for the floats that satisfy a predicate. -/
def nullFloats (p : F → Bool) : Json F → Json F
  | .float f => if p f then .null else .float f
  | .arr items => .arr (nullFloatsItems p items)
  | .obj members => .obj (nullFloatsMembers p members)
  | j => j

def nullFloatsItems (p : F → Bool) : List (Json F) → List (Json F)
  | [] => []
  | x :: xs => nullFloats p x :: nullFloatsItems p xs

def nullFloatsMembers (p : F → Bool) : List (Str × Json F) → List (Str × Json F)
  | [] => []
  | (k, v) :: ms => (k, nullFloats p v) :: nullFloatsMembers p ms

end

theorem distinctKeysItems_eq (items : List (Json F)) :
    distinctKeysItems items = items.all distinctKeys := by
  induction items with
  | nil => rfl
  | cons x xs ih => rw [distinctKeysItems, ih, List.all_cons]

theorem distinctKeysMembers_eq (members : List (Str × Json F)) :
    distinctKeysMembers members = members.all fun m => distinctKeys m.2 := by
  induction members with
  | nil => rfl
  | cons m ms ih => rw [distinctKeysMembers, ih, List.all_cons]

theorem hasSurrogateItems_eq (items : List (Json F)) :
    hasSurrogateItems items = items.any hasSurrogate := by
  induction items with
  | nil => rfl
  | cons x xs ih => rw [hasSurrogateItems, ih, List.any_cons]

theorem hasSurrogateMembers_eq (members : List (Str × Json F)) :
    hasSurrogateMembers members =
      members.any fun m => m.1.any CodePoint.isSurrogate || hasSurrogate m.2 := by
  induction members with
  | nil => rfl
  | cons m ms ih => rw [hasSurrogateMembers, ih, List.any_cons]

theorem anyKeyItems_eq (p : Str → Bool) (items : List (Json F)) :
    anyKeyItems p items = items.any (anyKey p) := by
  induction items with
  | nil => rfl
  | cons x xs ih => rw [anyKeyItems, ih, List.any_cons]

theorem anyKeyMembers_eq (p : Str → Bool) (members : List (Str × Json F)) :
    anyKeyMembers p members = members.any fun m => p m.1 || anyKey p m.2 := by
  induction members with
  | nil => rfl
  | cons m ms ih => rw [anyKeyMembers, ih, List.any_cons]

theorem anyFloatItems_eq (p : F → Bool) (items : List (Json F)) :
    anyFloatItems p items = items.any (anyFloat p) := by
  induction items with
  | nil => rfl
  | cons x xs ih => rw [anyFloatItems, ih, List.any_cons]

theorem anyFloatMembers_eq (p : F → Bool) (members : List (Str × Json F)) :
    anyFloatMembers p members = members.any fun m => anyFloat p m.2 := by
  induction members with
  | nil => rfl
  | cons m ms ih => rw [anyFloatMembers, ih, List.any_cons]

theorem nullFloatsItems_eq (p : F → Bool) (items : List (Json F)) :
    nullFloatsItems p items = items.map (nullFloats p) := by
  induction items with
  | nil => rfl
  | cons x xs ih => rw [nullFloatsItems, ih, List.map_cons]

theorem nullFloatsMembers_eq (p : F → Bool) (members : List (Str × Json F)) :
    nullFloatsMembers p members = members.map fun m => (m.1, nullFloats p m.2) := by
  induction members with
  | nil => rfl
  | cons m ms ih => rw [nullFloatsMembers, ih, List.map_cons]

@[simp] theorem distinctKeys_arr (items : List (Json F)) :
    distinctKeys (.arr items) = true ↔ ∀ x ∈ items, distinctKeys x = true := by
  rw [distinctKeys, distinctKeysItems_eq, List.all_eq_true]

@[simp] theorem distinctKeys_obj (members : List (Str × Json F)) :
    distinctKeys (.obj members) = true ↔
      (members.map Prod.fst).Nodup ∧ ∀ m ∈ members, distinctKeys m.2 = true := by
  rw [distinctKeys, distinctKeysMembers_eq, Bool.and_eq_true, decide_eq_true_iff, List.all_eq_true]

theorem distinctKeys_nullFloats (p : F → Bool) {j : Json F} (h : j.distinctKeys = true) :
    (j.nullFloats p).distinctKeys = true := by
  induction j using ind with
  | null | bool | int | str => exact h
  | float f =>
    rw [nullFloats]
    split <;> rfl
  | arr items ih =>
    rw [distinctKeys_arr] at h
    rw [nullFloats, nullFloatsItems_eq, distinctKeys_arr, List.forall_mem_map]
    exact fun x hx => ih x hx (h x hx)
  | obj members ih =>
    rw [distinctKeys_obj] at h
    rw [nullFloats, nullFloatsMembers_eq, distinctKeys_obj, List.map_map, List.forall_mem_map]
    exact ⟨h.1, fun m hm => ih m hm (h.2 m hm)⟩

theorem anyKey_nullFloats (p : Str → Bool) (q : F → Bool) (j : Json F) :
    (j.nullFloats q).anyKey p = j.anyKey p := by
  induction j using ind with
  | null | bool | int | str => rfl
  | float f =>
    rw [nullFloats]
    split <;> rfl
  | arr items ih =>
    rw [nullFloats, nullFloatsItems_eq, anyKey, anyKey, anyKeyItems_eq, anyKeyItems_eq,
      List.any_map]
    rw [Bool.eq_iff_iff, List.any_eq_true, List.any_eq_true]
    exact exists_congr fun x => and_congr_right fun hx => by rw [Function.comp_apply, ih x hx]
  | obj members ih =>
    rw [nullFloats, nullFloatsMembers_eq, anyKey, anyKey, anyKeyMembers_eq, anyKeyMembers_eq,
      List.any_map]
    rw [Bool.eq_iff_iff, List.any_eq_true, List.any_eq_true]
    exact exists_congr fun m => and_congr_right fun hm => by rw [Function.comp_apply, ih m hm]

theorem depthItems_map {f : Json F → Json F} {items : List (Json F)}
    (h : ∀ x ∈ items, (f x).depth = x.depth) : depthItems (items.map f) = depthItems items := by
  induction items with
  | nil => rfl
  | cons x xs ih =>
    rw [List.forall_mem_cons] at h
    rw [List.map_cons, depthItems, depthItems, h.1, ih h.2]

theorem depthMembers_map {f : Json F → Json F} {members : List (Str × Json F)}
    (h : ∀ m ∈ members, (f m.2).depth = m.2.depth) :
    depthMembers (members.map fun m => (m.1, f m.2)) = depthMembers members := by
  induction members with
  | nil => rfl
  | cons m ms ih =>
    rw [List.forall_mem_cons] at h
    rw [List.map_cons, depthMembers, depthMembers, h.1, ih h.2]

theorem depth_nullFloats (p : F → Bool) (j : Json F) : (j.nullFloats p).depth = j.depth := by
  induction j using ind with
  | null | bool | int | str => rfl
  | float f =>
    rw [nullFloats]
    split <;> rfl
  | arr items ih => rw [nullFloats, nullFloatsItems_eq, depth, depth, depthItems_map ih]
  | obj members ih => rw [nullFloats, nullFloatsMembers_eq, depth, depth, depthMembers_map ih]

theorem anyFloat_nullFloats (p : F → Bool) (j : Json F) : (j.nullFloats p).anyFloat p = false := by
  induction j using ind with
  | null | bool | int | str => rfl
  | float f =>
    rw [nullFloats]
    split
    · rfl
    · rename_i hp
      exact Bool.eq_false_iff.mpr hp
  | arr items ih =>
    rw [nullFloats, nullFloatsItems_eq, anyFloat, anyFloatItems_eq, List.any_map, List.any_eq_false]
    exact fun x hx => Bool.eq_false_iff.mp (ih x hx)
  | obj members ih =>
    rw [nullFloats, nullFloatsMembers_eq, anyFloat, anyFloatMembers_eq, List.any_map,
      List.any_eq_false]
    exact fun m hm => Bool.eq_false_iff.mp (ih m hm)

/-- A value without such floats stays as it is. -/
theorem nullFloats_of_not_any {p : F → Bool} {j : Json F} (h : j.anyFloat p = false) :
    j.nullFloats p = j := by
  induction j using ind with
  | null | bool | int | str => rfl
  | float f => exact if_neg (Bool.eq_false_iff.mp h)
  | arr items ih =>
    rw [anyFloat, anyFloatItems_eq, List.any_eq_false] at h
    rw [nullFloats, nullFloatsItems_eq]
    refine congrArg Json.arr ((List.map_congr_left fun x hx => ?_).trans (List.map_id items))
    exact ih x hx (Bool.eq_false_iff.mpr (h x hx))
  | obj members ih =>
    rw [anyFloat, anyFloatMembers_eq, List.any_eq_false] at h
    rw [nullFloats, nullFloatsMembers_eq]
    refine congrArg Json.obj ((List.map_congr_left fun m hm => ?_).trans (List.map_id members))
    rw [ih m hm (Bool.eq_false_iff.mpr (h m hm))]
    rfl

/-- `Reorder p q`: `q` is `p` with the keys of its objects reordered, at any depth. -/
inductive Reorder : Json F → Json F → Prop where
  | refl (p : Json F) : Reorder p p
  | trans {p q r : Json F} : Reorder p q → Reorder q r → Reorder p r
  | members {ms ns : List (Str × Json F)} : ms.Perm ns → Reorder (.obj ms) (.obj ns)
  | item (before after : List (Json F)) {x y : Json F} :
      Reorder x y → Reorder (.arr (before ++ x :: after)) (.arr (before ++ y :: after))
  | value (before after : List (Str × Json F)) (k : Str) {v w : Json F} : Reorder v w →
      Reorder (.obj (before ++ (k, v) :: after)) (.obj (before ++ (k, w) :: after))

namespace Reorder

theorem symm {p q : Json F} (h : Reorder p q) : Reorder q p := by
  induction h with
  | refl p => exact refl p
  | trans _ _ ih₁ ih₂ => exact trans ih₂ ih₁
  | members h => exact members h.symm
  | item before after _ ih => exact item before after ih
  | value before after k _ ih => exact value before after k ih

theorem distinctKeys {p q : Json F} (h : Reorder p q) (hp : p.distinctKeys = true) :
    q.distinctKeys = true := by
  induction h with
  | refl => exact hp
  | trans _ _ ih₁ ih₂ => exact ih₂ (ih₁ hp)
  | members h =>
    rw [distinctKeys_obj] at hp ⊢
    exact ⟨(h.map Prod.fst).nodup_iff.mp hp.1, fun m hm => hp.2 m (h.mem_iff.mpr hm)⟩
  | item before after _ ih =>
    rw [distinctKeys_arr, List.forall_mem_append, List.forall_mem_cons] at hp ⊢
    exact ⟨hp.1, ih hp.2.1, hp.2.2⟩
  | value before after k _ ih =>
    rw [distinctKeys_obj, List.forall_mem_append, List.forall_mem_cons] at hp ⊢
    refine ⟨?_, hp.2.1, ih hp.2.2.1, hp.2.2.2⟩
    simpa using hp.1

theorem arr_of_forall₂ {xs ys : List (Json F)} (h : List.Forall₂ Reorder xs ys)
    (before : List (Json F)) : Reorder (.arr (before ++ xs)) (.arr (before ++ ys)) := by
  induction h generalizing before with
  | nil => exact refl _
  | @cons x y xs ys hxy _ ih =>
    refine trans (item before xs hxy) ?_
    simpa only [List.append_assoc, List.singleton_append] using ih (before ++ [y])

/-- Objects with the same keys in the same places whose values are reordered are reordered. -/
theorem obj_of_forall₂ {ms ns : List (Str × Json F)}
    (h : List.Forall₂ (fun m n => m.1 = n.1 ∧ Reorder m.2 n.2) ms ns)
    (before : List (Str × Json F)) : Reorder (.obj (before ++ ms)) (.obj (before ++ ns)) := by
  induction h generalizing before with
  | nil => exact refl _
  | @cons m n ms ns hmn _ ih =>
    obtain ⟨k, v⟩ := m
    obtain ⟨k', w⟩ := n
    obtain ⟨rfl, hvw⟩ := hmn
    refine trans (value before ms k hvw) ?_
    simpa only [List.append_assoc, List.singleton_append] using ih (before ++ [(k, w)])

end Reorder

end Json
