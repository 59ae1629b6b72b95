import DoxGovernance.Lib.JsonText

/-!
# Spaced JSON text in ASCII

The text that a value has when it is written with sorted keys, with a blank after every
comma and colon, and with every character outside printable ASCII escaped.
-/

set_option autoImplicit false

universe u

namespace JsonDumps
open JsonText

def blank : CodePoint := 32

/-- `\uXXXX`. -/
def unicodeEscape (n : Nat) : Str :=
  [backslash, 117, hexDigit (n / 4096 % 16), hexDigit (n / 256 % 16), hexDigit (n / 16 % 16),
    hexDigit (n % 16)]

/-- One character of a string literal; above 16 bits it is written as two surrogates. -/
def escapeChar (c : CodePoint) : Str :=
  if c.val < 127 then JsonText.escapeChar c
  else if c.val < 65536 then unicodeEscape c.val
  else unicodeEscape (55296 + (c.val - 65536) / 1024) ++ unicodeEscape (56320 + c.val % 1024)

def quote (s : Str) : Str := quoteMark :: (s.flatMap escapeChar ++ [quoteMark])

def joinSpaced : List Str → Str
  | [] => []
  | [t] => t
  | t :: ts => t ++ comma :: blank :: joinSpaced ts

section Dumps
variable {F : Type u} (float : FloatRepr F)

def memberText (m : Str × Str) : Str := quote m.1 ++ colon :: blank :: m.2

mutual

/-- `json.dumps(value, sort_keys=True)`. -/
def dumps : Json F → Str
  | .null => [110, 117, 108, 108]
  | .bool true => [116, 114, 117, 101]
  | .bool false => [102, 97, 108, 115, 101]
  | .int z => intText z
  | .float f => float.repr f
  | .str s => quote s
  | .arr items => openBracket :: (joinSpaced (dumpsItems items) ++ [closeBracket])
  | .obj members =>
    openBrace :: (joinSpaced ((sortByKey (dumpsMembers members)).map memberText) ++ [closeBrace])

def dumpsItems : List (Json F) → List Str
  | [] => []
  | x :: xs => dumps x :: dumpsItems xs

def dumpsMembers : List (Str × Json F) → List (Str × Str)
  | [] => []
  | (k, v) :: ms => (k, dumps v) :: dumpsMembers ms

end

end Dumps

example : escapeChar 233 = [92, 117, 48, 48, 101, 57] := by decide

/-- Code point 1F600 is written as the surrogates D83D and DE00. -/
example : escapeChar 128512 = unicodeEscape 55357 ++ unicodeEscape 56832 := by decide

end JsonDumps
