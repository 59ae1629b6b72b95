import Mathlib.Data.List.Nodup

/-!
# Codecs and records

A codec writes the values of a type as documents and reads some documents as values. It need not
read what it writes; but a value that has been read from one document is read again from the
document that is written of it. Records are lists of members without repeated keys. Their fields
are read one by one, required or with a default, and a record that is written with what was read
gives every field again.
-/

set_option autoImplicit false

universe u v w

structure Codec (V : Type u) (α : Type v) where
  write : α → V
  read : V → Option α
  stable : ∀ {d a}, read d = some a → read (write a) = some a

namespace Codec
variable {V : Type u} {α : Type v} {β : Type w}

def Readable (c : Codec V α) (a : α) : Prop := c.read (c.write a) = some a

/-- Either nothing, written as `null`, or a value, which is never written as `null`. -/
def nullable (null : V) (isNull : V → Bool) (hnull : isNull null = true) (c : Codec V α)
    (hwrite : ∀ a, isNull (c.write a) = false) : Codec V (Option α) where
  write
    | none => null
    | some a => c.write a
  read d := if isNull d then some none else (c.read d).map some
  stable := by
    intro d o h
    cases o with
    | none => exact if_pos hnull
    | some a =>
      rw [if_neg (by rw [hwrite a]; exact Bool.false_ne_true)]
      split at h
      · cases h
      · obtain ⟨b, hread, hb⟩ := Option.map_eq_some_iff.mp h
        cases hb
        rw [c.stable hread]
        rfl

/-- A value with the proof that it passes a check. -/
structure Checked (p : α → Bool) where
  val : α
  property : p val = true

/-- The values of a codec that pass a check. -/
def checked (c : Codec V α) (p : α → Bool) : Codec V (Checked p) where
  write a := c.write a.val
  read d := (c.read d).bind fun a => if h : p a = true then some ⟨a, h⟩ else none
  stable := by
    intro d a h
    obtain ⟨b, hread, hb⟩ := Option.bind_eq_some_iff.mp h
    split at hb
    · rename_i hp
      cases hb
      rw [c.stable hread, Option.bind_some, dif_pos hp]
    · cases hb

theorem readable_nullable {null : V} {isNull : V → Bool} {hnull : isNull null = true}
    {c : Codec V α} {hwrite : ∀ a, isNull (c.write a) = false} {o : Option α}
    (h : ∀ a, o = some a → c.Readable a) : (nullable null isNull hnull c hwrite).Readable o := by
  cases o with
  | none => exact if_pos hnull
  | some a =>
    show (if isNull (c.write a) then some none else (c.read (c.write a)).map some) = some (some a)
    rw [hwrite a, h a rfl]
    rfl

theorem readable_of_nullable {null : V} {isNull : V → Bool} {hnull : isNull null = true}
    {c : Codec V α} {hwrite : ∀ a, isNull (c.write a) = false} {a : α}
    (h : (nullable null isNull hnull c hwrite).Readable (some a)) : c.Readable a := by
  have hread : (if isNull (c.write a) then some none else (c.read (c.write a)).map some) =
      some (some a) := h
  rw [hwrite a, if_neg Bool.false_ne_true] at hread
  obtain ⟨b, hb, hsame⟩ := Option.map_eq_some_iff.mp hread
  cases hsame
  exact hb

theorem readable_checked {c : Codec V α} {p : α → Bool} {a : Checked p}
    (h : c.Readable a.val) : (c.checked p).Readable a := by
  unfold Readable checked
  dsimp only
  rw [h, Option.bind_some, dif_pos a.property]

end Codec

/-! ### Records -/

namespace Record
variable {K : Type u} {V : Type v} {α : Type w} [DecidableEq K]

def get? (key : K) (members : List (K × V)) : Option V :=
  (members.find? fun m => m.1 = key).map Prod.snd

theorem get?_of_mem {members : List (K × V)} {key : K} {v : V}
    (hkeys : (members.map Prod.fst).Nodup) (h : (key, v) ∈ members) :
    get? key members = some v := by
  have hsome : (members.find? fun m => m.1 = key).isSome :=
    List.find?_isSome.mpr ⟨(key, v), h, by simp⟩
  obtain ⟨m, hm⟩ := Option.isSome_iff_exists.mp hsome
  have hkey : m.1 = key := by simpa using List.find?_some hm
  have hsame : m = (key, v) :=
    List.inj_on_of_nodup_map hkeys (List.mem_of_find?_eq_some hm) h hkey
  rw [get?, hm, hsame]
  rfl

/-- `record[key] = value`. -/
def set (members : List (K × V)) (m : K × V) : List (K × V) :=
  if m.1 ∈ members.map Prod.fst then
    members.map fun old => if old.1 = m.1 then (old.1, m.2) else old
  else members ++ [m]

/-- The record of members that may repeat a key: the first place counts and the last value. -/
def ofList (members : List (K × V)) : List (K × V) := members.foldl set []

theorem nodup_set {members : List (K × V)} (h : (members.map Prod.fst).Nodup) (m : K × V) :
    ((set members m).map Prod.fst).Nodup := by
  unfold set
  split
  · have hsame : (members.map fun old => if old.1 = m.1 then (old.1, m.2) else old).map Prod.fst =
        members.map Prod.fst := by
      rw [List.map_map]
      apply List.map_congr_left
      intro old _
      simp only [Function.comp_apply]
      split <;> rfl
    rwa [hsame]
  · rename_i hnew
    rw [List.map_append, List.map_singleton, ← List.concat_eq_append]
    exact h.concat hnew

theorem mem_set {members : List (K × V)} {m n : K × V} (h : n ∈ set members m) :
    n ∈ members ∨ n = m := by
  unfold set at h
  split at h
  · obtain ⟨old, hold, rfl⟩ := List.mem_map.mp h
    split
    · rename_i hkey
      exact Or.inr (by rw [hkey])
    · exact Or.inl hold
  · rcases List.mem_append.mp h with hold | hlast
    · exact Or.inl hold
    · exact Or.inr (List.mem_singleton.mp hlast)

theorem nodup_ofList (members : List (K × V)) : ((ofList members).map Prod.fst).Nodup := by
  suffices hfold : ∀ out : List (K × V), (out.map Prod.fst).Nodup →
      ((members.foldl set out).map Prod.fst).Nodup from hfold [] List.nodup_nil
  induction members with
  | nil => exact fun out hout => hout
  | cons m ms ih => exact fun out hout => ih _ (nodup_set hout m)

theorem mem_ofList {members : List (K × V)} {m : K × V} (h : m ∈ ofList members) :
    m ∈ members := by
  suffices hfold : ∀ out : List (K × V), m ∈ members.foldl set out → m ∈ out ∨ m ∈ members from
    (hfold [] h).resolve_left List.not_mem_nil
  clear h
  induction members with
  | nil => exact fun out hout => Or.inl hout
  | cons n ns ih =>
    intro out hout
    rcases ih _ hout with hset | hrest
    · rcases mem_set hset with hold | rfl
      · exact Or.inl hold
      · exact Or.inr List.mem_cons_self
    · exact Or.inr (List.mem_cons_of_mem n hrest)

/-- Without repeated keys the members are the record. -/
theorem ofList_of_nodup {members : List (K × V)} (h : (members.map Prod.fst).Nodup) :
    ofList members = members := by
  suffices hfold : ∀ out : List (K × V), ((out ++ members).map Prod.fst).Nodup →
      members.foldl set out = out ++ members from hfold [] h
  clear h
  induction members with
  | nil => exact fun out _ => (List.append_nil out).symm
  | cons m ms ih =>
    intro out hout
    have hnew : m.1 ∉ out.map Prod.fst := by
      rw [List.map_append, List.nodup_append] at hout
      exact fun hmem => hout.2.2 _ hmem _ List.mem_cons_self rfl
    have hstep : set out m = out ++ [m] := if_neg hnew
    rw [List.foldl_cons, hstep, ih (out ++ [m]) (by rwa [List.append_assoc]), List.append_assoc]
    rfl

section Fields
variable (c : Codec V α)

/-- A field without a default. -/
def required (key : K) (members : List (K × V)) : Option α := (get? key members).bind c.read

/-- A field with a default. -/
def defaulted (default : α) (key : K) (members : List (K × V)) : Option α :=
  match get? key members with
  | none => some default
  | some d => c.read d

variable {c} {key : K} {members written : List (K × V)} {a default : α}

theorem readable_of_required (h : required c key members = some a) : c.Readable a := by
  obtain ⟨d, -, hread⟩ := Option.bind_eq_some_iff.mp h
  exact c.stable hread

theorem readable_of_defaulted (hdefault : c.Readable default)
    (h : defaulted c default key members = some a) : c.Readable a := by
  unfold defaulted at h
  split at h
  · cases h
    exact hdefault
  · exact c.stable h

variable (hkeys : (written.map Prod.fst).Nodup) (hwritten : (key, c.write a) ∈ written)
include hkeys hwritten

theorem required_of_written (h : c.Readable a) : required c key written = some a := by
  rw [required, get?_of_mem hkeys hwritten]
  exact h

theorem defaulted_of_written (h : c.Readable a) : defaulted c default key written = some a := by
  rw [defaulted, get?_of_mem hkeys hwritten]
  exact h

end Fields

end Record
