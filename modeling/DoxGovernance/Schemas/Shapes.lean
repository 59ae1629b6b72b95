import DoxGovernance.Schemas.Validators

/-!
# What the field validators accept

A validator accepts the strings of the shape its docstring names, and beyond them those
followed by one newline, since `$` also matches before it. A schema version may besides be
written in the decimal digits of any script.
-/

set_option autoImplicit false

namespace Dox
open Pattern

/-! ### The shapes -/

def Hex (n : Nat) (s : Str) : Prop := s.length = n ∧ ∀ c ∈ s, isLowerHex c = true

def IsTraceparent (s : Str) : Prop :=
  ∃ trace parent flags, Hex 32 trace ∧ Hex 16 parent ∧ Hex 2 flags ∧
    s = Str.ofText "00-" ++ trace ++ Str.ofText "-" ++ parent ++ Str.ofText "-" ++ flags

/-- Two numbers with a dot between them, in digits of the given class. -/
def IsVersion (digit : CodePoint → Bool) (s : Str) : Prop :=
  ∃ major minor, major ≠ [] ∧ minor ≠ [] ∧ (∀ c ∈ major, digit c = true) ∧
    (∀ c ∈ minor, digit c = true) ∧ s = major ++ Str.ofText "." ++ minor

def isAsciiDigit (c : CodePoint) : Bool := 48 ≤ c.val && c.val ≤ 57

section Shapes
variable {n : Nat} {ps : List Piece} {s : Str}

theorem matches_hex : Matches (.times n isLowerHex :: ps) s ↔
    ∃ t u, Hex n t ∧ s = t ++ u ∧ Matches ps u := by
  constructor
  · rintro ⟨t, u, rfl, hlength, hall, hu⟩
    exact ⟨t, u, ⟨hlength, hall⟩, rfl, hu⟩
  · rintro ⟨t, u, ⟨hlength, hall⟩, rfl, hu⟩
    exact ⟨t, u, rfl, hlength, hall, hu⟩

theorem matches_sha256Re : Matches sha256Re s ↔ Hex 64 s := by
  rw [sha256Re, matches_hex]
  constructor
  · rintro ⟨t, u, ht, rfl, rfl⟩
    rw [List.append_nil]
    exact ht
  · exact fun h => ⟨s, [], h, (List.append_nil s).symm, rfl⟩

theorem matches_traceparentRe : Matches traceparentRe s ↔ IsTraceparent s := by
  have hre : traceparentRe = literal "00-" ++ (.times 32 isLowerHex :: (literal "-" ++
      (.times 16 isLowerHex :: (literal "-" ++ [.times 2 isLowerHex])))) := rfl
  simp only [hre, literal, matches_literal, matches_hex]
  constructor
  · rintro ⟨_, rfl, trace, _, htrace, rfl, _, rfl, parent, _, hparent, rfl, _, rfl,
      flags, _, hflags, rfl, rfl⟩
    refine ⟨trace, parent, flags, htrace, hparent, hflags, ?_⟩
    simp only [List.append_assoc, List.append_nil]
  · rintro ⟨trace, parent, flags, htrace, hparent, hflags, rfl⟩
    refine ⟨_, ?_, trace, _, htrace, rfl, _, rfl, parent, _, hparent, rfl, _, rfl, flags, [],
      hflags, rfl, rfl⟩
    simp only [List.append_assoc, List.append_nil]

theorem matches_schemaVersionRe : Matches schemaVersionRe s ↔ IsVersion isDigit s := by
  have hre : schemaVersionRe = .many isDigit :: (literal "." ++ [.many isDigit]) := rfl
  simp only [hre, literal, Matches, matches_literal]
  constructor
  · rintro ⟨major, _, rfl, hmajor, hall, _, rfl, minor, _, rfl, hminor, hall', rfl⟩
    refine ⟨major, minor, hmajor, hminor, hall, hall', ?_⟩
    rw [List.append_nil, List.append_assoc]
  · rintro ⟨major, minor, hmajor, hminor, hall, hall', rfl⟩
    refine ⟨major, _, List.append_assoc _ _ _, hmajor, hall, minor, rfl, minor, [], ?_, hminor,
      hall', rfl⟩
    exact (List.append_nil minor).symm

/-- The only decimal digits in ASCII are `0` to `9`. -/
theorem isDigit_ascii {c : CodePoint} (hc : c.val < 128) :
    isDigit c = true ↔ isAsciiDigit c = true := by
  have hzeros : ∀ z ∈ decimalZeros, z = 48 ∨ 1632 ≤ z := by decide
  rw [isDigit, isAsciiDigit, List.any_eq_true, Bool.and_eq_true, decide_eq_true_iff,
    decide_eq_true_iff]
  constructor
  · rintro ⟨z, hz, hrange⟩
    rw [Bool.and_eq_true, decide_eq_true_iff, decide_eq_true_iff] at hrange
    have := hzeros z hz
    omega
  · intro h
    refine ⟨48, List.mem_cons_self, ?_⟩
    rw [Bool.and_eq_true, decide_eq_true_iff, decide_eq_true_iff]
    omega

theorem IsVersion.of_ascii (h : IsVersion isAsciiDigit s) : IsVersion isDigit s := by
  have hdigit : ∀ c : CodePoint, isAsciiDigit c = true → isDigit c = true := by
    intro c hc
    refine (isDigit_ascii ?_).mpr hc
    rw [isAsciiDigit, Bool.and_eq_true, decide_eq_true_iff, decide_eq_true_iff] at hc
    omega
  obtain ⟨major, minor, hmajor, hminor, hall, hall', hs⟩ := h
  exact ⟨major, minor, hmajor, hminor, fun c hc => hdigit c (hall c hc),
    fun c hc => hdigit c (hall' c hc), hs⟩

/-- A version is one in ASCII digits unless some character of it lies outside ASCII. -/
theorem IsVersion.ascii_iff (h : IsVersion isDigit s) :
    IsVersion isAsciiDigit s ↔ ∀ c ∈ s, c.val < 128 := by
  constructor
  · rintro ⟨major, minor, -, -, hall, hall', rfl⟩ c hc
    have hascii : ∀ d : CodePoint, isAsciiDigit d = true → d.val < 128 := by
      intro d hd
      rw [isAsciiDigit, Bool.and_eq_true, decide_eq_true_iff, decide_eq_true_iff] at hd
      omega
    rw [List.mem_append, List.mem_append] at hc
    rcases hc with (hc | hc) | hc
    · exact hascii c (hall c hc)
    · have hdot : c = 46 := List.mem_singleton.mp hc
      rw [hdot]
      exact by decide
    · exact hascii c (hall' c hc)
  · intro hascii
    obtain ⟨major, minor, hmajor, hminor, hall, hall', rfl⟩ := h
    refine ⟨major, minor, hmajor, hminor, fun c hc => ?_, fun c hc => ?_, rfl⟩
    · refine (isDigit_ascii (hascii c ?_)).mp (hall c hc)
      exact List.mem_append_left _ (List.mem_append_left _ hc)
    · exact (isDigit_ascii (hascii c (List.mem_append_right _ hc))).mp (hall' c hc)

theorem isOk_ite {E A : Type} {e : E} {a : A} (b : Bool) :
    (if b = true then .ok a else .error e : Except E A).isOk = b := by
  cases b <;> rfl

/-- `BeforeNewline` looks at the strings of a shape only. -/
theorem beforeNewline_congr {P Q : Str → Prop} (h : ∀ t, P t ↔ Q t) :
    BeforeNewline P s ↔ BeforeNewline Q s :=
  exists_congr fun t => and_congr_left fun _ => h t

end Shapes

/-- The two validators of hexadecimal fields accept exactly the shapes they name, except that they
accept one newline after them; the validator of versions moreover takes the digits of any
script. So each decides its shape just where none of this occurs. -/
theorem validators_exact_iff (s : Str) :
    (((validateSha256Hash (some s)).isOk = true ↔ Hex 64 s) ↔ ¬BeforeNewline (Hex 64) s) ∧
    (((validateTraceparent (some s)).isOk = true ↔ IsTraceparent s) ↔
      ¬BeforeNewline IsTraceparent s) ∧
    (((validateSchemaVersion s).isOk = true ↔ IsVersion isAsciiDigit s) ↔
      ¬BeforeNewline (IsVersion isDigit) s ∧ ¬(IsVersion isDigit s ∧ ∃ c ∈ s, 128 ≤ c.val)) := by
  refine ⟨?_, ?_, ?_⟩
  · have hok : (validateSha256Hash (some s)).isOk = fullMatch sha256Re s := isOk_ite _
    rw [hok, fullMatch_exact_iff matches_sha256Re.mpr (by decide),
      beforeNewline_congr fun t => matches_sha256Re, matches_sha256Re]
    exact and_iff_left fun h => h.2 h.1
  · have hok : (validateTraceparent (some s)).isOk = fullMatch traceparentRe s := isOk_ite _
    rw [hok, fullMatch_exact_iff matches_traceparentRe.mpr (by decide),
      beforeNewline_congr fun t => matches_traceparentRe, matches_traceparentRe]
    exact and_iff_left fun h => h.2 h.1
  · have hok : (validateSchemaVersion s).isOk = fullMatch schemaVersionRe s := isOk_ite _
    have hversion : IsVersion isAsciiDigit s → Matches schemaVersionRe s :=
      fun h => matches_schemaVersionRe.mpr h.of_ascii
    rw [hok, fullMatch_exact_iff hversion (by decide),
      beforeNewline_congr fun t => matches_schemaVersionRe, matches_schemaVersionRe]
    refine and_congr_right fun _ => not_congr (and_congr_right fun h => ?_)
    rw [h.ascii_iff]
    push Not
    exact Iff.rfl

/-- Each validator accepts one newline too many, and the last one other digits. -/
theorem validators_loose :
    let digest := List.replicate 64 97
    let trace := Str.ofText "00-" ++ List.replicate 32 97 ++ Str.ofText "-" ++
      List.replicate 16 97 ++ Str.ofText "-01"
    ((validateSha256Hash (some (digest ++ [10]))).isOk = true ∧ ¬Hex 64 (digest ++ [10])) ∧
    ((validateTraceparent (some (trace ++ [10]))).isOk = true ∧ ¬IsTraceparent (trace ++ [10])) ∧
    ((validateSchemaVersion [49, 46, 48, 10]).isOk = true ∧
      ¬IsVersion isAsciiDigit [49, 46, 48, 10]) ∧
    ((validateSchemaVersion [1633, 46, 1632]).isOk = true ∧
      ¬IsVersion isAsciiDigit [1633, 46, 1632]) := by
  refine ⟨⟨by decide, ?_⟩, ⟨by decide, ?_⟩, ⟨by decide, ?_⟩, by decide, ?_⟩
  · exact fun h => absurd h.1 (by decide)
  · intro h
    exact not_mem_of_matches (c := 10) (by decide) (matches_traceparentRe.mpr h) (by decide)
  · intro h
    exact not_mem_of_matches (c := 10) (by decide) (matches_schemaVersionRe.mpr h.of_ascii)
      (by decide)
  · intro h
    exact absurd (h.of_ascii.ascii_iff.mp h 1633 (by decide)) (by decide)

end Dox
