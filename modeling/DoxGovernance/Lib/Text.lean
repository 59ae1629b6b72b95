import DoxGovernance.Lib.Calendar

/-!
# Formatted texts

Numbers with thousands separators, the quoted form of a string, identifiers and instants,
as they appear in messages. Characters outside ASCII are taken to be printable.
-/

set_option autoImplicit false

namespace Text

def groupDigits : Nat → List Char → List Char
  | 0, cs => cs
  | fuel + 1, cs =>
    if cs.length ≤ 3 then cs
    else groupDigits fuel (cs.take (cs.length - 3)) ++ ',' :: cs.drop (cs.length - 3)

/-- `f"{n:,}"`. -/
def thousands (n : Nat) : String :=
  let digits := Nat.toDigits 10 n
  String.ofList (groupDigits digits.length digits)

def hexDigit (n : Nat) : Char := Char.ofNat (if n < 10 then 48 + n else 87 + n)

def reprChar (quote c : Char) : List Char :=
  if c = quote ∨ c = '\\' then ['\\', c]
  else if c = '\n' then ['\\', 'n']
  else if c = '\r' then ['\\', 'r']
  else if c = '\t' then ['\\', 't']
  else if c.toNat < 32 ∨ c.toNat = 127 then
    ['\\', 'x', hexDigit (c.toNat / 16), hexDigit (c.toNat % 16)]
  else [c]

/-- `repr(s)`: double quotes where the string holds single quotes only. -/
def repr (s : String) : String :=
  let quote := if s.toList.contains '\'' && !s.toList.contains '"' then '"' else '\''
  String.ofList (quote :: s.toList.flatMap (reprChar quote) ++ [quote])

/-- The 32 hexadecimal digits of a number below 2^128, the most significant first. -/
def hexDigits (n : Nat) : List Char :=
  (List.range 32).map fun i => hexDigit ((n >>> (4 * (31 - i))) % 16)

/-- `str(uuid)`. -/
def uuid (n : Nat) : String :=
  let ds := hexDigits n
  String.ofList (ds.take 8 ++ '-' :: (ds.drop 8).take 4 ++ '-' :: (ds.drop 12).take 4 ++
    '-' :: (ds.drop 16).take 4 ++ '-' :: ds.drop 20)

theorem length_hexDigits (n : Nat) : (hexDigits n).length = 32 := by
  rw [hexDigits, List.length_map, List.length_range]

theorem length_uuid (n : Nat) : (uuid n).length = 36 := by
  simp only [uuid, String.length_ofList, List.length_append, List.length_cons, List.length_take,
    List.length_drop, length_hexDigits]
  rfl

theorem uuid_ne_empty (n : Nat) : uuid n ≠ "" := by
  intro h
  have hlength := length_uuid n
  rw [h] at hlength
  cases hlength

theorem append_ne_empty {s : String} (h : s ≠ "") (t : String) : s ++ t ≠ "" :=
  fun happend => h (String.append_eq_empty_iff.mp happend).1

/-- A number with at least `width` digits. -/
def padded (width n : Nat) : String :=
  let digits := Nat.toDigits 10 n
  String.ofList (List.replicate (width - digits.length) '0' ++ digits)

/-- `t.isoformat()` of an instant in UTC. -/
def isoformat (t : Datetime) : String :=
  let seconds := t.micros / 1000000
  let fraction := t.micros % 1000000
  padded 4 t.date.year ++ "-" ++ padded 2 t.date.month ++ "-" ++ padded 2 t.date.day ++ "T" ++
    padded 2 (seconds / 3600) ++ ":" ++ padded 2 (seconds / 60 % 60) ++ ":" ++
    padded 2 (seconds % 60) ++ (if fraction = 0 then "" else "." ++ padded 6 fraction) ++ "+00:00"

example : uuid 255 = "00000000-0000-0000-0000-0000000000ff" := by decide

example : thousands 20000 = "20,000" := by decide

example : isoformat ⟨{year := 2023, month := 12, day := 31}, 43200000250, by decide⟩ =
    "2023-12-31T12:00:00.000250+00:00" := by decide

end Text
