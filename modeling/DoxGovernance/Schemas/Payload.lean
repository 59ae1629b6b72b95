import DoxGovernance.Lib.JsonText
import DoxGovernance.Lib.Utf8

/-!
# Payloads

A float is known by its `repr`, which is injective and never the text of an integer; a
payload is a JSON object without repeated keys, at any depth.
-/

set_option autoImplicit false

namespace Dox
open JsonText

/-- A character that the `repr` of a float holds and the text of an integer does not. -/
def isFloatMark (c : CodePoint) : Bool := c != 45 && !(48 ≤ c.val && c.val ≤ 57)

/-- A float, as its `repr`. -/
structure PyFloat where
  repr : Str
  alphabet : repr.all floatAlphabet.contains = true
  marked : repr.any isFloatMark = true
deriving DecidableEq

def pyFloat : FloatRepr PyFloat where
  repr := PyFloat.repr
  injective := by
    intro f g h
    cases f
    cases g
    cases h
    rfl
  ne_int := by
    intro f z h
    obtain ⟨c, hc, hmark⟩ := List.any_eq_true.mp f.marked
    rw [h] at hc
    simp only [isFloatMark, Bool.and_eq_true, bne_iff_ne, Bool.not_eq_true', Bool.and_eq_false_iff,
      decide_eq_false_iff_not] at hmark
    rcases mem_intText hc with hminus | hdigit
    · exact hmark.1 hminus
    · omega
  ne_nil := by
    intro f h
    have hmark := f.marked
    rw [h] at hmark
    cases hmark
  alphabet := fun f c hc => by simpa using List.all_eq_true.mp f.alphabet c hc

/-- The digits after the point of `n` ten-thousandths; only the first of them may end in zero. -/
def fractionDigits (n : Nat) : Str :=
  let rest := [n / 100 % 10, n / 10 % 10, n % 10]
  ((n / 1000 % 10) :: (rest.reverse.dropWhile (· = 0)).reverse).map fun d => Fin.ofNat _ (48 + d)

theorem mem_fractionDigits {n : Nat} {c : CodePoint} (h : c ∈ fractionDigits n) :
    48 ≤ c.val ∧ c.val ≤ 57 := by
  obtain ⟨d, hd, rfl⟩ := List.mem_map.mp h
  have hlt : d < 10 := by
    rcases List.mem_cons.mp hd with rfl | hrest
    · exact Nat.mod_lt _ (by decide)
    · have hmem := (List.dropWhile_sublist _).subset (List.mem_reverse.mp hrest)
      simp only [List.reverse_cons, List.reverse_nil, List.nil_append, List.cons_append,
        List.mem_cons, List.not_mem_nil, or_false] at hmem
      omega
  have hval : (Fin.ofNat 1114112 (48 + d)).val = 48 + d := Nat.mod_eq_of_lt (by omega)
  omega

theorem floatAlphabet_of_digit {c : CodePoint} (h : 48 ≤ c.val ∧ c.val ≤ 57) :
    floatAlphabet.contains c = true := by
  have hmem : c.val ∈ (floatAlphabet.take 10).map Fin.val := by
    have hvals : (floatAlphabet.take 10).map Fin.val = [48, 49, 50, 51, 52, 53, 54, 55, 56, 57] := rfl
    simp only [hvals, List.mem_cons, List.not_mem_nil, or_false]
    omega
  obtain ⟨d, hd, hval⟩ := List.mem_map.mp hmem
  rw [← Fin.ext hval]
  exact List.contains_iff_mem.mpr (List.mem_of_mem_take hd)

/-- The float that stands for `n` ten-thousandths. -/
def PyFloat.ofTenThousandths (n : Nat) : PyFloat where
  repr := digits (n / 10000) ++ 46 :: fractionDigits n
  alphabet := by
    rw [List.all_eq_true]
    intro c hc
    rcases List.mem_append.mp hc with hwhole | hrest
    · exact floatAlphabet_of_digit (mem_digits hwhole)
    · rcases List.mem_cons.mp hrest with rfl | hfraction
      · rfl
      · exact floatAlphabet_of_digit (mem_fractionDigits hfraction)
  marked := by
    rw [List.any_append, List.any_cons, Bool.or_eq_true]
    exact Or.inr rfl

example : (PyFloat.ofTenThousandths 4120).repr = Str.ofText "0.412" := by decide

/-- Whether a float is `NaN` or infinite. -/
def PyFloat.nonFinite (f : PyFloat) : Bool :=
  [Str.ofText "NaN", Str.ofText "Infinity", Str.ofText "-Infinity"].contains f.repr

abbrev Value := Json PyFloat

structure Payload where
  members : List (Str × Value)
  distinct : (Json.obj members).distinctKeys = true := by decide

def Payload.json (p : Payload) : Value := .obj p.members

theorem Payload.distinctKeys (p : Payload) : p.json.distinctKeys = true := p.distinct

/-! ### Payloads in `model_dump(mode="json")` -/

/-- The limit of the guard by which the serializer takes a nesting for a cycle. -/
def recursionLimit : Nat := 255

namespace Payload

def hasNonFinite (p : Payload) : Bool := p.json.anyFloat PyFloat.nonFinite

/-- Whether some key below the first level has no UTF-8 text; in the others, validation lets no
surrogate through. -/
def hasSurrogateKey (p : Payload) : Bool :=
  p.members.any fun m => m.2.anyKey fun key => key.any CodePoint.isSurrogate

/-- Whether the values of the payload are nested deeper than the serializer goes. -/
def isTooDeep (p : Payload) : Bool := recursionLimit ≤ Json.depthMembers p.members

/-- The payload as it is written: `NaN` and the infinities are `null`. -/
def dumped (p : Payload) : Payload where
  members := Json.nullFloatsMembers PyFloat.nonFinite p.members
  distinct := Json.distinctKeys_nullFloats PyFloat.nonFinite p.distinct

theorem members_dumped (p : Payload) :
    p.dumped.members = p.members.map fun m => (m.1, m.2.nullFloats PyFloat.nonFinite) :=
  Json.nullFloatsMembers_eq PyFloat.nonFinite p.members

theorem dumped_of_finite {p : Payload} (h : p.hasNonFinite = false) : p.dumped = p := by
  have hmembers : p.dumped.members = p.members := Json.obj.inj (Json.nullFloats_of_not_any h)
  cases p
  exact (Payload.mk.injEq _ _ _ _).mpr hmembers

theorem hasNonFinite_dumped (p : Payload) : p.dumped.hasNonFinite = false :=
  Json.anyFloat_nullFloats PyFloat.nonFinite p.json

theorem dumped_dumped (p : Payload) : p.dumped.dumped = p.dumped :=
  dumped_of_finite p.hasNonFinite_dumped

theorem hasSurrogateKey_dumped (p : Payload) : p.dumped.hasSurrogateKey = p.hasSurrogateKey := by
  rw [hasSurrogateKey, members_dumped, List.any_map]
  simp only [Function.comp_def, Json.anyKey_nullFloats, hasSurrogateKey]

theorem isTooDeep_dumped (p : Payload) : p.dumped.isTooDeep = p.isTooDeep := by
  rw [isTooDeep, isTooDeep, members_dumped, Json.depthMembers_map]
  exact fun m _ => Json.depth_nullFloats PyFloat.nonFinite m.2

end Payload

instance : EmptyCollection Payload := ⟨⟨[], rfl⟩⟩

/-- A member of an object, its key written as a literal. -/
def member (key : String) (value : Value) : Str × Value := (Str.ofText key, value)

def textValue (s : String) : Value := .str (Str.ofText s)

def loneSurrogate : Payload where
  members := [member "a" (.str [55296])]

inductive Scalar where
  | null
  | bool (b : Bool)
  | int (z : Int)
  | float (f : PyFloat)
  | text (s : String)

def Scalar.value : Scalar → Value
  | null => .null
  | bool b => .bool b
  | int z => .int z
  | float f => .float f
  | text s => textValue s

/-- A text that may be `None`. -/
def Scalar.ofText? : Option String → Scalar
  | none => .null
  | some s => .text s

def Payload.ofScalars (keys : List String) (scalars : List Scalar)
    (hkeys : (keys.map Str.ofText).Nodup := by decide)
    (hlength : keys.length = scalars.length := by rfl) : Payload where
  members := (keys.map Str.ofText).zip (scalars.map Scalar.value)
  distinct := by
    rw [Json.distinctKeys_obj, List.map_fst_zip (by simp [hlength])]
    refine ⟨hkeys, fun m hm => ?_⟩
    obtain ⟨scalar, _, hvalue⟩ := List.mem_map.mp (List.of_mem_zip hm).2
    rw [← hvalue]
    cases scalar <;> rfl

end Dox
