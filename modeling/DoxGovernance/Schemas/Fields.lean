import Mathlib.Data.List.DropRight
import DoxGovernance.Lib.Text
import DoxGovernance.Schemas.Events

/-!
# Validation of strings and dictionaries

A string is refused when it holds a surrogate; it is stripped, and then its length counts.
The keys of a dictionary are strings too. Two keys may be equal once they are stripped: the
first place is kept and the last value.
-/

set_option autoImplicit false

namespace Dox

def isSpacePoint (c : CodePoint) : Bool := isSpace (Char.ofNat c.val)

def strip (s : Str) : Str := (s.dropWhile isSpacePoint).rdropWhile isSpacePoint

/-- A string that validates to a text, with its length within the bounds. -/
def textField (low high : Nat) (s : Str) : Option {text : String // fits low high text = true} :=
  let text := Str.toText (strip s)
  if h : s.any CodePoint.isSurrogate = false ∧ fits low high text = true then some ⟨text, h.2⟩
  else none

section Strip

theorem head?_strip (s : Str) : (strip s).head?.all (fun c => !isSpacePoint c) = true := by
  rw [Option.all_eq_true]
  intro c hc
  have hprefix : strip s <+: s.dropWhile isSpacePoint := List.rdropWhile_prefix _ _
  have hhead : (s.dropWhile isSpacePoint).head? = some c := by
    obtain ⟨t, ht⟩ := hprefix
    rw [← ht, List.head?_append, hc]
    rfl
  have hnot := List.head?_dropWhile_not isSpacePoint s
  rw [hhead] at hnot
  simpa using hnot

theorem getLast?_strip (s : Str) : (strip s).getLast?.all (fun c => !isSpacePoint c) = true := by
  rw [Option.all_eq_true]
  intro c hc
  have hne : strip s ≠ [] := by
    intro hnil
    rw [hnil] at hc
    cases hc
  have hlast := List.rdropWhile_last_not isSpacePoint (s.dropWhile isSpacePoint) hne
  have hc' : ((s.dropWhile isSpacePoint).rdropWhile isSpacePoint).getLast hne = c :=
    Option.some.inj ((List.getLast?_eq_some_getLast hne).symm.trans hc)
  rw [hc'] at hlast
  simpa using hlast

/-- What stripping leaves is stripped. -/
theorem isStripped_strip (s : Str) : isStripped (Str.toText (strip s)) = true := by
  rw [isStripped, Str.toText, String.toList_ofList, List.head?_map, List.getLast?_map,
    Bool.and_eq_true, Option.all_map, Option.all_map]
  exact ⟨head?_strip s, getLast?_strip s⟩

end Strip

/-- A member of an enumeration, by its string. -/
def enumField {α : Type} (ofValue? : String → Option α) (s : Str) : Option α :=
  if s.any CodePoint.isSurrogate then none else ofValue? (Str.toText s)

/-! ### Dictionaries -/

/-- `d[key] = value`. -/
def setItem (members : List (Str × Value)) (item : Str × Value) : List (Str × Value) :=
  if item.1 ∈ members.map Prod.fst then
    members.map fun m => if m.1 = item.1 then (m.1, item.2) else m
  else members ++ [item]

def stripKeys (members : List (Str × Value)) : List (Str × Value) :=
  members.foldl (fun out m => setItem out (strip m.1, m.2)) []

section Keys
variable {members : List (Str × Value)} {item : Str × Value}

theorem distinctKeys_setItem (h : (Json.obj members).distinctKeys = true)
    (hvalue : item.2.distinctKeys = true) :
    (Json.obj (setItem members item)).distinctKeys = true := by
  obtain ⟨hkeys, hvalues⟩ := (Json.distinctKeys_obj members).mp h
  rw [Json.distinctKeys_obj]
  unfold setItem
  split
  · have hsame : (members.map fun m => if m.1 = item.1 then (m.1, item.2) else m).map Prod.fst =
        members.map Prod.fst := by
      rw [List.map_map]
      apply List.map_congr_left
      intro m _
      simp only [Function.comp_apply]
      split <;> rfl
    refine ⟨hsame ▸ hkeys, fun m hm => ?_⟩
    obtain ⟨n, hn, rfl⟩ := List.mem_map.mp hm
    split
    · exact hvalue
    · exact hvalues n hn
  · rename_i hnew
    refine ⟨?_, fun m hm => ?_⟩
    · rw [List.map_append, List.map_singleton, ← List.concat_eq_append]
      exact hkeys.concat hnew
    · rcases List.mem_append.mp hm with hold | hlast
      · exact hvalues m hold
      · rw [List.mem_singleton.mp hlast]
        exact hvalue

theorem distinctKeys_stripKeys (h : ∀ m ∈ members, m.2.distinctKeys = true) :
    (Json.obj (stripKeys members)).distinctKeys = true := by
  suffices hfold : ∀ out : List (Str × Value), (Json.obj out).distinctKeys = true →
      (Json.obj (members.foldl (fun out m => setItem out (strip m.1, m.2)) out)).distinctKeys =
        true from hfold [] rfl
  induction members with
  | nil => exact fun out hout => hout
  | cons m ms ih =>
    intro out hout
    rw [List.forall_mem_cons] at h
    exact ih h.2 _ (distinctKeys_setItem hout h.1)

end Keys

theorem Payload.distinctKeys_of_mem (payload : Payload) {m : Str × Value}
    (hm : m ∈ payload.members) : m.2.distinctKeys = true :=
  ((Json.distinctKeys_obj payload.members).mp payload.distinct).2 m hm

/-- `dict[str, Any]`: the keys are validated as strings, the values are taken as they are. -/
def dictField (payload : Payload) : Option Payload :=
  if payload.members.any fun m => m.1.any CodePoint.isSurrogate then none
  else some {
    members := stripKeys payload.members
    distinct := distinctKeys_stripKeys fun _ hm => payload.distinctKeys_of_mem hm }

theorem dictField_isSome (payload : Payload) : (dictField payload).isSome =
    !payload.members.any fun m => m.1.any CodePoint.isSurrogate := by
  unfold dictField
  split
  · rename_i h
    rw [h]
    rfl
  · rename_i h
    rw [Bool.not_eq_true] at h
    rw [h]
    rfl

theorem not_isSurrogate_ofText (s : String) : (Str.ofText s).any CodePoint.isSurrogate = false := by
  rw [Str.ofText, List.any_map, List.any_eq_false]
  intro c _
  have hvalid : c.toNat.isValidChar := c.valid
  unfold Nat.isValidChar at hvalid
  have hval : (Fin.ofNat 1114112 c.toNat).val = c.toNat := Nat.mod_eq_of_lt (by omega)
  simp only [Function.comp_apply, CodePoint.isSurrogate, hval, Bool.and_eq_true, decide_eq_true_iff]
  omega

/-! ### The texts of identifiers -/

theorem isSpace_hexDigit {d : Nat} (h : d < 16) : isSpace (Text.hexDigit d) = false := by
  have hall : ∀ d < 16, isSpace (Text.hexDigit d) = false := by decide
  exact hall d h

theorem isSpace_of_mem_uuid {n : Nat} {c : Char} (h : c ∈ (Text.uuid n).toList) :
    isSpace c = false := by
  have hdigit : ∀ c ∈ Text.hexDigits n, isSpace c = false := by
    intro c hc
    obtain ⟨i, _, rfl⟩ := List.mem_map.mp hc
    exact isSpace_hexDigit (Nat.mod_lt _ (by decide))
  simp only [Text.uuid, String.toList_ofList, List.mem_append, List.mem_cons] at h
  rcases h with ((((h | rfl | h) | rfl | h) | rfl | h) | rfl | h)
  · exact hdigit c (List.mem_of_mem_take h)
  · rfl
  · exact hdigit c (List.mem_of_mem_drop (List.mem_of_mem_take h))
  · rfl
  · exact hdigit c (List.mem_of_mem_drop (List.mem_of_mem_take h))
  · rfl
  · exact hdigit c (List.mem_of_mem_drop (List.mem_of_mem_take h))
  · rfl
  · exact hdigit c (List.mem_of_mem_drop h)

theorem isStripped_of_forall {s : String} (h : ∀ c ∈ s.toList, isSpace c = false) :
    isStripped s = true := by
  rw [isStripped, Bool.and_eq_true, Option.all_eq_true, Option.all_eq_true]
  constructor
  · intro c hc
    rw [h c (List.mem_of_mem_head? hc), Bool.not_false]
  · intro c hc
    rw [h c (List.mem_of_mem_getLast? hc), Bool.not_false]

theorem fits_uuid (n : Nat) : fits 1 255 (Text.uuid n) = true := by
  rw [fits, isStripped_of_forall fun _ hc => isSpace_of_mem_uuid hc, Text.length_uuid]
  rfl

end Dox
