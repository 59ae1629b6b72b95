import DoxGovernance.Lib.Pattern
import DoxGovernance.Schemas.Payload
import DoxGovernance.Exceptions

/-!
# Field validators and the payload hash

The three pattern checks of the event schema with the texts of their errors, and
`computePayloadHash`, the digest of the UTF-8 bytes of the canonical JSON text. The
hash function SHA-256 is a parameter, from bytes to the hexadecimal digest.
-/

set_option autoImplicit false
set_option maxRecDepth 4096

namespace Dox

/-- The code points of the digits zero of the decimal scripts, in the Unicode data of the
interpreter that the project pins (15.0); each is followed by the other nine digits. -/
def decimalZeros : List Nat :=
  [48, 1632, 1776, 1984, 2406, 2534, 2662, 2790, 2918, 3046, 3174, 3302, 3430, 3558, 3664, 3792,
    3872, 4160, 4240, 6112, 6160, 6470, 6608, 6784, 6800, 6992, 7088, 7232, 7248, 42528, 43216,
    43264, 43472, 43504, 43600, 44016, 65296, 66720, 68912, 69734, 69872, 69942, 70096, 70384,
    70736, 70864, 71248, 71360, 71472, 71904, 72016, 72784, 73040, 73120, 73552, 92768, 92864,
    93008, 120782, 120792, 120802, 120812, 120822, 123200, 123632, 124144, 125264, 130032]

/-- `\d` on strings: every decimal digit of Unicode. -/
def isDigit (c : CodePoint) : Bool := decimalZeros.any fun z => z ≤ c.val && c.val < z + 10

/-- `[a-f0-9]`. -/
def isLowerHex (c : CodePoint) : Bool :=
  (97 ≤ c.val && c.val ≤ 102) || (48 ≤ c.val && c.val ≤ 57)

def sha256Re : List Piece := [.times 64 isLowerHex]

def traceparentRe : List Piece :=
  Pattern.literal "00-" ++ .times 32 isLowerHex :: Pattern.literal "-" ++
    .times 16 isLowerHex :: Pattern.literal "-" ++ [.times 2 isLowerHex]

def schemaVersionRe : List Piece := .many isDigit :: Pattern.literal "." ++ [.many isDigit]

def validateSha256Hash : Option Str → Except Str (Option Str)
  | none => .ok none
  | some value =>
    if Pattern.fullMatch sha256Re value then .ok (some value)
    else .error (Str.ofText
      s!"must be a 64-character lowercase hexadecimal string, got {value.length} chars")

def validateTraceparent : Option Str → Except Str (Option Str)
  | none => .ok none
  | some value =>
    if Pattern.fullMatch traceparentRe value then .ok (some value)
    else .error (Str.ofText ("must be a valid W3C traceparent header in format " ++
      "00-\x7b32hex\x7d-\x7b16hex\x7d-\x7b2hex\x7d"))

def validateSchemaVersion (value : Str) : Except Str Str :=
  if Pattern.fullMatch schemaVersionRe value then .ok value
  else .error (Str.ofText "schema_version must be in MAJOR.MINOR format (e.g. '1.0'), got '" ++
    value ++ Str.ofText "'")

section PayloadHash
variable {F : Type} (float : JsonText.FloatRepr F) (sha256 : ByteArray → String)

def computePayloadHash (payload : Json F) : Except Exc String :=
  let serialised := JsonText.text float payload
  match Str.encodeUtf8 serialised with
  | none => .error .unicodeEncodeError
  | some bytes => .ok (sha256 bytes)

theorem computePayloadHash_ok {p : Json F} (hp : p.hasSurrogate = false) :
    ∃ bytes, Str.encodeUtf8 (JsonText.text float p) = some bytes ∧
      computePayloadHash float sha256 p = .ok (sha256 bytes) := by
  have hplain : (JsonText.text float p).any CodePoint.isSurrogate = false := by
    rw [JsonText.text_surrogate, hp]
  refine ⟨_, Str.encodeUtf8_of_not_any hplain, ?_⟩
  simp only [computePayloadHash, Str.encodeUtf8_of_not_any hplain]

theorem computePayloadHash_raises {p : Json F} (hp : p.hasSurrogate = true) :
    computePayloadHash float sha256 p = .error .unicodeEncodeError := by
  have hnone : Str.encodeUtf8 (JsonText.text float p) = none := by
    rw [Str.encodeUtf8_eq_none_iff, JsonText.text_surrogate, hp]
  simp only [computePayloadHash, hnone]

variable {float sha256}

/-- Two payloads have one digest exactly when they differ in the order of keys only. -/
theorem hash_eq_iff_reorder (hsha : Function.Injective sha256) {p q : Json F}
    (hp : p.distinctKeys = true) (hps : p.hasSurrogate = false) (hqs : q.hasSurrogate = false) :
    computePayloadHash float sha256 p = computePayloadHash float sha256 q ↔ Json.Reorder p q := by
  obtain ⟨b, hb, hpb⟩ := computePayloadHash_ok float sha256 hps
  obtain ⟨c, hc, hqc⟩ := computePayloadHash_ok float sha256 hqs
  rw [hpb, hqc, ← JsonText.text_eq_iff float hp, Except.ok.injEq]
  constructor
  · intro h
    have hbc : b = c := hsha h
    subst hbc
    exact Str.encodeUtf8_injective hb hc
  · intro h
    rw [h] at hb
    rw [Option.some.inj (hb.symm.trans hc)]

end PayloadHash

/-- Equal digests mean payloads that are equal up to the order of object keys. -/
theorem computePayloadHash_eq_iff {F : Type} (float : JsonText.FloatRepr F)
    {sha256 : ByteArray → String} (hsha : Function.Injective sha256) (p q : Json F)
    (hp : p.distinctKeys = true) (hps : p.hasSurrogate = false) (hqs : q.hasSurrogate = false) :
    (∃ digest, computePayloadHash float sha256 p = .ok digest ∧
      computePayloadHash float sha256 q = .ok digest) ↔ Json.Reorder p q := by
  rw [← hash_eq_iff_reorder hsha hp hps hqs]
  constructor
  · rintro ⟨digest, hpd, hqd⟩
    rw [hpd, hqd]
  · intro h
    obtain ⟨bytes, _, hpd⟩ := computePayloadHash_ok float sha256 hps
    exact ⟨sha256 bytes, hpd, h ▸ hpd⟩

def sampleObject : Value := .obj [member "a" (.int 1), member "b" (.int 2)]

def sampleReordered : Value := .obj [member "b" (.int 2), member "a" (.int 1)]

/-- The digest that SHA-256 gives to the text of `sampleObject`. -/
def sampleDigest : String := "43258cff783fe7036d8a43033f830adfc60ec037382473548ac742b888292777"

/-- A hash without collisions that agrees with SHA-256 on the text of `sampleObject`. -/
def sampleSha256 (bytes : ByteArray) : String :=
  if bytes.data = "\x7b\"a\":1,\"b\":2\x7d".toUTF8.data then sampleDigest
  else String.ofList ('#' :: bytes.data.toList.map fun b => Char.ofNat b.toNat)

theorem sampleSha256_injective : Function.Injective sampleSha256 := by
  have hmark : ∀ t : List Char, sampleDigest ≠ String.ofList ('#' :: t) := by
    intro t h
    have hchars := congrArg String.toList h
    rw [String.toList_ofList] at hchars
    have hhead : sampleDigest.toList.head? = some '#' := congrArg List.head? hchars
    exact absurd hhead (by decide)
  intro b c h
  unfold sampleSha256 at h
  split at h <;> split at h
  · rename_i hb hc
    exact ByteArray.ext (hb.trans hc.symm)
  · exact (hmark _ h).elim
  · exact (hmark _ h.symm).elim
  · have hchars := (List.cons.inj (String.ofList_injective h)).2
    apply ByteArray.ext
    apply Array.toList_inj.mp
    refine List.map_injective_iff.mpr ?_ hchars
    intro x y hxy
    have hx : x.toNat.isValidChar := Or.inl (by have := x.toNat_lt; omega)
    have hy : y.toNat.isValidChar := Or.inl (by have := y.toNat_lt; omega)
    have hval := congrArg Char.toNat hxy
    rw [CodePoint.toNat_ofNat hx, CodePoint.toNat_ofNat hy] at hval
    exact UInt8.toNat_inj.mp hval

theorem computePayloadHash_eq_iff_sample :
    (∃ digest, computePayloadHash pyFloat sampleSha256 sampleObject = .ok digest ∧
      computePayloadHash pyFloat sampleSha256 sampleReordered = .ok digest) ↔
    Json.Reorder sampleObject sampleReordered :=
  computePayloadHash_eq_iff pyFloat sampleSha256_injective sampleObject sampleReordered
    (by decide) (by decide) (by decide)

example : computePayloadHash pyFloat sampleSha256 sampleReordered = .ok sampleDigest := by rfl

end Dox
