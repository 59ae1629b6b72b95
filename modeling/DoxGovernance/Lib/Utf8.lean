import DoxGovernance.Lib.Json

/-!
# UTF-8 of code point strings

A string of code points has a UTF-8 encoding exactly when it holds no surrogate, and the
encoding determines the string.
-/

set_option autoImplicit false

namespace CodePoint

theorem isValidChar {c : CodePoint} (h : c.isSurrogate = false) : c.val.isValidChar := by
  have hlt := c.isLt
  simp only [isSurrogate, Bool.and_eq_false_iff, decide_eq_false_iff_not] at h
  unfold Nat.isValidChar
  omega

theorem toNat_ofNat {n : Nat} (h : n.isValidChar) : (Char.ofNat n).toNat = n := by
  rw [Char.ofNat, dif_pos h]
  rfl

end CodePoint

namespace Str

def toText (s : Str) : String := String.ofList (s.map fun c => Char.ofNat c.val)

def ofText (s : String) : Str := s.toList.map fun c => Fin.ofNat _ c.toNat

/-- The bytes of a string, or none where it holds a surrogate. -/
def encodeUtf8 (s : Str) : Option ByteArray :=
  if s.any CodePoint.isSurrogate then none else some (toText s).toUTF8

theorem encodeUtf8_of_not_any {s : Str} (h : s.any CodePoint.isSurrogate = false) :
    encodeUtf8 s = some (toText s).toUTF8 := by
  rw [encodeUtf8, if_neg (by simp [h])]

theorem encodeUtf8_eq_none_iff {s : Str} :
    encodeUtf8 s = none ↔ s.any CodePoint.isSurrogate = true := by
  unfold encodeUtf8
  split <;> simp_all

theorem toText_injOn {s t : Str} (hs : s.any CodePoint.isSurrogate = false)
    (ht : t.any CodePoint.isSurrogate = false) (h : toText s = toText t) : s = t := by
  have hchars := String.ofList_injective h
  clear h
  induction s generalizing t with
  | nil =>
    cases t with
    | nil => rfl
    | cons d t => cases hchars
  | cons c s ih =>
    cases t with
    | nil => cases hchars
    | cons d t =>
      rw [List.any_cons, Bool.or_eq_false_iff] at hs ht
      obtain ⟨hcd, hrest⟩ := List.cons.inj hchars
      have hval := congrArg Char.toNat hcd
      rw [CodePoint.toNat_ofNat (CodePoint.isValidChar hs.1),
        CodePoint.toNat_ofNat (CodePoint.isValidChar ht.1)] at hval
      rw [Fin.ext hval, ih hs.2 ht.2 hrest]

/-- Two strings that both have an encoding share it only when they are equal. -/
theorem encodeUtf8_injective {s t : Str} {bytes : ByteArray} (hs : encodeUtf8 s = some bytes)
    (ht : encodeUtf8 t = some bytes) : s = t := by
  cases hs' : s.any CodePoint.isSurrogate with
  | true => rw [encodeUtf8_eq_none_iff.mpr hs'] at hs; cases hs
  | false =>
    cases ht' : t.any CodePoint.isSurrogate with
    | true => rw [encodeUtf8_eq_none_iff.mpr ht'] at ht; cases ht
    | false =>
      rw [encodeUtf8_of_not_any hs'] at hs
      rw [encodeUtf8_of_not_any ht'] at ht
      exact toText_injOn hs' ht' (String.toByteArray_inj.mp (Option.some.inj (hs.trans ht.symm)))

end Str
