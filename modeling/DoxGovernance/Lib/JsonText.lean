import DoxGovernance.Lib.Json
import Mathlib.Data.Nat.Digits.Defs

/-!
# Canonical JSON text

`text` writes a value as compact JSON with the keys of every object sorted and with no
escapes beyond the mandatory ones. The text determines the value up to the order of keys:
a written value can be cancelled from the front of a longer text as long as what follows
cannot extend a number, and a value and its reorderings have the same text.
-/

set_option autoImplicit false
set_option maxRecDepth 4096

universe u v

namespace JsonText

def quoteMark : CodePoint := 34
def comma : CodePoint := 44
def colon : CodePoint := 58
def openBracket : CodePoint := 91
def backslash : CodePoint := 92
def closeBracket : CodePoint := 93
def openBrace : CodePoint := 123
def closeBrace : CodePoint := 125

def hexDigit (n : Nat) : CodePoint := if n < 10 then Fin.ofNat _ (48 + n) else Fin.ofNat _ (87 + n)

/-- One character of a string literal; non-ASCII characters stand for themselves. -/
def escapeChar (c : CodePoint) : Str :=
  if c = quoteMark then [backslash, quoteMark]
  else if c = backslash then [backslash, backslash]
  else if c = 10 then [backslash, 110]
  else if c = 13 then [backslash, 114]
  else if c = 9 then [backslash, 116]
  else if c = 12 then [backslash, 102]
  else if c = 8 then [backslash, 98]
  else if c.val < 32 then
    [backslash, 117, 48, 48, hexDigit (c.val / 16), hexDigit (c.val % 16)]
  else [c]

def quote (s : Str) : Str := quoteMark :: (s.flatMap escapeChar ++ [quoteMark])

def digits (n : Nat) : Str := (Nat.toDigits 10 n).map fun c => Fin.ofNat _ c.toNat

def intText (z : Int) : Str := if z < 0 then 45 :: digits z.natAbs else digits z.natAbs

/-- The characters of a written float: digits, signs, the point, the exponent mark and the
letters of `NaN` and `Infinity`. -/
def floatAlphabet : List CodePoint :=
  [48, 49, 50, 51, 52, 53, 54, 55, 56, 57, 43, 45, 46, 101, 78, 97, 73, 110, 102, 105, 116, 121]

/-- A way of writing floats that is injective and never writes an integer. -/
structure FloatRepr (F : Type u) where
  repr : F → Str
  injective : Function.Injective repr
  ne_int : ∀ f z, repr f ≠ intText z
  ne_nil : ∀ f, repr f ≠ []
  alphabet : ∀ f, ∀ c ∈ repr f, c ∈ floatAlphabet

def joinComma : List Str → Str
  | [] => []
  | [t] => t
  | t :: ts => t ++ comma :: joinComma ts

def sortByKey {α : Type u} (ms : List (Str × α)) : List (Str × α) :=
  ms.insertionSort fun m n => m.1 ≤ n.1

section Text
variable {F : Type u} (float : FloatRepr F)

def memberText (m : Str × Str) : Str := quote m.1 ++ colon :: m.2

mutual

/-- The compact text of a value, with sorted keys. -/
def text : Json F → Str
  | .null => [110, 117, 108, 108]
  | .bool true => [116, 114, 117, 101]
  | .bool false => [102, 97, 108, 115, 101]
  | .int z => intText z
  | .float f => float.repr f
  | .str s => quote s
  | .arr items => openBracket :: (joinComma (textItems items) ++ [closeBracket])
  | .obj members =>
    openBrace :: (joinComma ((sortByKey (textMembers members)).map memberText) ++ [closeBrace])

def textItems : List (Json F) → List Str
  | [] => []
  | x :: xs => text x :: textItems xs

def textMembers : List (Str × Json F) → List (Str × Str)
  | [] => []
  | (k, v) :: ms => (k, text v) :: textMembers ms

end

theorem textItems_eq (items : List (Json F)) : textItems float items = items.map (text float) := by
  induction items with
  | nil => rfl
  | cons x xs ih => rw [textItems, ih, List.map_cons]

theorem textMembers_eq (members : List (Str × Json F)) :
    textMembers float members = members.map fun m => (m.1, text float m.2) := by
  induction members with
  | nil => rfl
  | cons m ms ih => rw [textMembers, ih, List.map_cons]

end Text

/-! ### Escapes and string literals -/

/-- A code in which no code word extends another one. -/
def PrefixFree {α β : Type u} (f : α → List β) : Prop := ∀ a b, f a <+: f b → a = b

theorem PrefixFree.cancel {α β : Type u} {f : α → List β} (hf : PrefixFree f) {a b : α}
    {x y : List β} (h : f a ++ x = f b ++ y) : a = b ∧ x = y := by
  have hab : a = b := by
    rcases List.prefix_or_prefix_of_prefix (List.prefix_append (f a) x)
      (h ▸ List.prefix_append (f b) y) with hp | hp
    · exact hf a b hp
    · exact (hf b a hp).symm
  subst hab
  exact ⟨rfl, List.append_cancel_left h⟩

def isEscaped (c : CodePoint) : Bool := c = quoteMark || c = backslash || c.val < 32

/-- The characters that do not stand for themselves in a string literal. -/
def escapedChars : List CodePoint :=
  quoteMark :: backslash :: (List.range 32).map (Fin.ofNat 1114112)

theorem escapeChar_plain {c : CodePoint} (h : isEscaped c = false) : escapeChar c = [c] := by
  simp only [isEscaped, Bool.or_eq_false_iff, decide_eq_false_iff_not] at h
  obtain ⟨⟨hquote, hslash⟩, hlow⟩ := h
  have hne : ∀ n : CodePoint, n.val < 32 → c ≠ n := fun n hn hc => hlow (hc ▸ hn)
  simp only [escapeChar, if_neg hquote, if_neg hslash, if_neg (hne 10 (by decide)),
    if_neg (hne 13 (by decide)), if_neg (hne 9 (by decide)), if_neg (hne 12 (by decide)),
    if_neg (hne 8 (by decide)), if_neg hlow]

theorem escaped_mem {c : CodePoint} (h : isEscaped c = true) :
    c ∈ escapedChars := by
  simp only [isEscaped, Bool.or_eq_true, decide_eq_true_eq] at h
  rcases h with (rfl | rfl) | hlow
  · exact List.mem_cons_self
  · exact List.mem_cons_of_mem _ List.mem_cons_self
  · refine List.mem_cons_of_mem _ (List.mem_cons_of_mem _ (List.mem_map.mpr ?_))
    exact ⟨c.val, List.mem_range.mpr hlow, Fin.ext (Nat.mod_eq_of_lt c.isLt)⟩

theorem escapeChar_escaped {c : CodePoint} (h : isEscaped c = true) :
    ∃ d t, escapeChar c = backslash :: d :: t := by
  have hall : (escapedChars.all fun c =>
      (escapeChar c).head? = some backslash && 2 ≤ (escapeChar c).length) = true := by decide
  have hc := List.all_eq_true.mp hall c (escaped_mem h)
  simp only [Bool.and_eq_true, decide_eq_true_eq] at hc
  match ht : escapeChar c, hc with
  | d :: e :: t, hc => exact ⟨e, t, by rw [show d = backslash from Option.some.inj hc.1]⟩

theorem escaped_prefixFree {c d : CodePoint} (hc : isEscaped c = true) (hd : isEscaped d = true)
    (h : escapeChar c <+: escapeChar d) : c = d := by
  have hall : (escapedChars.all fun c => escapedChars.all fun d =>
      !(escapeChar c).isPrefixOf (escapeChar d) || c = d) = true := by decide +kernel
  have hcd := List.all_eq_true.mp (List.all_eq_true.mp hall c (escaped_mem hc)) d (escaped_mem hd)
  simpa [List.isPrefixOf_iff_prefix.mpr h] using hcd

theorem escapeChar_prefixFree : PrefixFree escapeChar := by
  intro c d h
  cases hc : isEscaped c with
  | true =>
    cases hd : isEscaped d with
    | true => exact escaped_prefixFree hc hd h
    | false =>
      obtain ⟨e, t, ht⟩ := escapeChar_escaped hc
      rw [ht, escapeChar_plain hd] at h
      exact absurd h.length_le (by simp)
  | false =>
    rw [escapeChar_plain hc] at h
    cases hd : isEscaped d with
    | true =>
      obtain ⟨e, t, ht⟩ := escapeChar_escaped hd
      rw [ht, List.cons_prefix_cons] at h
      rw [h.1] at hc
      exact absurd hc (by decide)
    | false =>
      rw [escapeChar_plain hd, List.cons_prefix_cons] at h
      exact h.1

theorem escapeChar_ne_quoteMark (c : CodePoint) (x y : Str) :
    escapeChar c ++ x ≠ quoteMark :: y := by
  intro h
  cases hc : isEscaped c with
  | true =>
    obtain ⟨d, t, ht⟩ := escapeChar_escaped hc
    rw [ht] at h
    exact absurd (List.cons.inj h).1 (by decide)
  | false =>
    rw [escapeChar_plain hc] at h
    rw [show c = quoteMark from (List.cons.inj h).1] at hc
    exact absurd hc (by decide)

theorem quote_cancel {s t x y : Str} (h : quote s ++ x = quote t ++ y) : s = t ∧ x = y := by
  simp only [quote, List.cons_append, List.append_assoc, List.cons.injEq, true_and,
    List.nil_append] at h
  induction s generalizing t with
  | nil =>
    cases t with
    | nil => exact ⟨rfl, (List.cons.inj h).2⟩
    | cons d t =>
      rw [List.flatMap_cons, List.append_assoc] at h
      exact absurd h.symm (escapeChar_ne_quoteMark d _ _)
  | cons c s ih =>
    rw [List.flatMap_cons, List.append_assoc] at h
    cases t with
    | nil => exact absurd h (escapeChar_ne_quoteMark c _ _)
    | cons d t =>
      rw [List.flatMap_cons, List.append_assoc] at h
      obtain ⟨rfl, hrest⟩ := escapeChar_prefixFree.cancel h
      obtain ⟨rfl, hxy⟩ := ih hrest
      exact ⟨rfl, hxy⟩

/-! ### Bare tokens -/

/-- The characters that a literal or a number may consist of, delimiters excluded. -/
def isBare (c : CodePoint) : Bool :=
  !([quoteMark, comma, colon, openBracket, closeBracket, openBrace, closeBrace].contains c)

/-- A text that cannot extend a bare token: it is empty or starts with a delimiter. -/
def Stops (r : Str) : Prop := ∀ c t, r = c :: t → isBare c = false

theorem stops_nil : Stops [] := fun _ _ h => nomatch h

theorem stops_cons {c : CodePoint} {t : Str} (h : isBare c = false) : Stops (c :: t) :=
  fun _ _ heq => (List.cons.inj heq).1 ▸ h

theorem token_cancel {x y r r' : Str} (hx : x.all isBare = true) (hy : y.all isBare = true)
    (hr : Stops r) (hr' : Stops r') (h : x ++ r = y ++ r') : x = y ∧ r = r' := by
  induction x generalizing y with
  | nil =>
    cases y with
    | nil => exact ⟨rfl, h⟩
    | cons d y =>
      have hbare := hr d (y ++ r') h
      rw [List.all_cons, hbare] at hy
      cases hy
  | cons c x ih =>
    cases y with
    | nil =>
      have hbare := hr' c (x ++ r) h.symm
      rw [List.all_cons, hbare] at hx
      cases hx
    | cons d y =>
      rw [List.all_cons, Bool.and_eq_true] at hx hy
      obtain ⟨rfl, hrest⟩ := List.cons.inj h
      obtain ⟨rfl, hrr⟩ := ih hx.2 hy.2 hrest
      exact ⟨rfl, hrr⟩

theorem mem_digits {n : Nat} {c : CodePoint} (h : c ∈ digits n) : 48 ≤ c.val ∧ c.val ≤ 57 := by
  obtain ⟨d, hd, rfl⟩ := List.mem_map.mp h
  have hdigit := Nat.isDigit_of_mem_toDigits (by decide) (by decide) hd
  simp only [Char.isDigit, ge_iff_le, Bool.and_eq_true, decide_eq_true_eq] at hdigit
  have hlow : 48 ≤ d.toNat := hdigit.1
  have hhigh : d.toNat ≤ 57 := hdigit.2
  have hval : (Fin.ofNat 1114112 d.toNat).val = d.toNat := Nat.mod_eq_of_lt (by omega)
  omega

theorem digits_ne_nil (n : Nat) : digits n ≠ [] := by
  simp [digits]

theorem toNat_lt (c : Char) : c.toNat < 1114112 := by
  rcases c.valid with h | h
  · exact Nat.lt_trans h (by decide)
  · exact h.2

theorem digits_injective : Function.Injective digits := by
  intro m n h
  have hchars : Nat.toDigits 10 m = Nat.toDigits 10 n := by
    refine List.map_injective_iff.mpr ?_ h
    intro c d hcd
    have hc := toNat_lt c
    have hd := toNat_lt d
    have hval := congrArg Fin.val hcd
    simp only [Fin.ofNat, Nat.mod_eq_of_lt hc, Nat.mod_eq_of_lt hd] at hval
    exact Char.toNat_inj.mp hval
  have hparsed := congrArg (fun ds => Nat.ofDigitChars 10 ds 0) hchars
  simpa using hparsed

theorem mem_intText {z : Int} {c : CodePoint} (h : c ∈ intText z) :
    c = 45 ∨ 48 ≤ c.val ∧ c.val ≤ 57 := by
  unfold intText at h
  split at h
  · rcases List.mem_cons.mp h with rfl | hmem
    · exact Or.inl rfl
    · exact Or.inr (mem_digits hmem)
  · exact Or.inr (mem_digits h)

theorem intText_ne_nil (z : Int) : intText z ≠ [] := by
  unfold intText
  split
  · exact List.cons_ne_nil _ _
  · exact digits_ne_nil _

theorem intText_injective : Function.Injective intText := by
  have hminus : ∀ (m n : Nat) (t : Str), digits m = 45 :: t → False := by
    intro m n t h
    have := mem_digits (h ▸ List.mem_cons_self : (45 : CodePoint) ∈ digits m)
    exact absurd this.1 (by decide)
  intro y z h
  unfold intText at h
  split at h <;> split at h
  · have := digits_injective (List.cons.inj h).2
    omega
  · exact (hminus _ 0 _ h.symm).elim
  · exact (hminus _ 0 _ h).elim
  · have := digits_injective h
    omega

section Cancel
variable {F : Type u} (float : FloatRepr F)

def bareText : Json F → Option Str
  | .null => some [110, 117, 108, 108]
  | .bool true => some [116, 114, 117, 101]
  | .bool false => some [102, 97, 108, 115, 101]
  | .int z => some (intText z)
  | .float f => some (float.repr f)
  | _ => none

theorem text_of_bareText {p : Json F} {t : Str} (h : bareText float p = some t) :
    text float p = t := by
  cases p with
  | bool b => cases b <;> exact Option.some.inj h
  | null | int | float => exact Option.some.inj h
  | str | arr | obj => cases h

theorem mem_int_ne {z : Int} {c : CodePoint} (hc : 57 < c.val) : c ∉ intText z := by
  intro h
  rcases mem_intText h with rfl | hd
  · exact absurd hc (by decide)
  · omega

theorem bareText_all {p : Json F} {t : Str} (h : bareText float p = some t) :
    t.all isBare = true ∧ t ≠ [] := by
  cases p with
  | bool b => cases b <;> (rw [← Option.some.inj h]; decide)
  | null => rw [← Option.some.inj h]; decide
  | int z =>
    rw [← Option.some.inj h]
    refine ⟨List.all_eq_true.mpr fun c hc => ?_, intText_ne_nil z⟩
    have hne : ∀ d : CodePoint, d.val ≠ 45 → (d.val < 48 ∨ 57 < d.val) → c ≠ d := by
      rintro d hd hrange rfl
      rcases mem_intText hc with rfl | hdigit
      · exact hd rfl
      · omega
    simp only [isBare, List.contains_eq_mem, Bool.not_eq_true', decide_eq_false_iff_not,
      List.mem_cons, List.not_mem_nil, not_or]
    exact ⟨hne _ (by decide) (by decide), hne _ (by decide) (by decide),
      hne _ (by decide) (by decide), hne _ (by decide) (by decide), hne _ (by decide) (by decide),
      hne _ (by decide) (by decide), hne _ (by decide) (by decide), not_false⟩
  | float f =>
    rw [← Option.some.inj h]
    have hall : floatAlphabet.all isBare = true := by decide
    exact ⟨List.all_eq_true.mpr fun c hc => List.all_eq_true.mp hall c (float.alphabet f c hc),
      float.ne_nil f⟩
  | str | arr | obj => cases h

theorem float_ne {f : F} {t : Str} {c : CodePoint} (hc : c ∈ t) (hout : c ∉ floatAlphabet) :
    float.repr f ≠ t := fun h => hout (float.alphabet f c (h ▸ hc))

theorem int_ne {z : Int} {t : Str} {c : CodePoint} (hc : c ∈ t) (hout : 57 < c.val) :
    intText z ≠ t := fun h => mem_int_ne hout (h ▸ hc)

theorem bareText_injective {p q : Json F} {t : Str} (hp : bareText float p = some t)
    (hq : bareText float q = some t) : p = q := by
  have hfloat (f : F) : float.repr f ≠ [110, 117, 108, 108] ∧
      float.repr f ≠ [116, 114, 117, 101] ∧ float.repr f ≠ [102, 97, 108, 115, 101] :=
    ⟨float_ne float (c := 117) (by decide) (by decide),
      float_ne float (c := 117) (by decide) (by decide),
      float_ne float (c := 108) (by decide) (by decide)⟩
  have hint (z : Int) : intText z ≠ [110, 117, 108, 108] ∧ intText z ≠ [116, 114, 117, 101] ∧
      intText z ≠ [102, 97, 108, 115, 101] :=
    ⟨int_ne (c := 117) (by decide) (by decide), int_ne (c := 117) (by decide) (by decide),
      int_ne (c := 108) (by decide) (by decide)⟩
  have h : bareText float p = bareText float q := hp.trans hq.symm
  have hsome : bareText float q ≠ none := by simp [hq]
  clear hp hq
  rcases p with _ | (_ | _) | y | f | s | xs | ms <;>
    rcases q with _ | (_ | _) | z | g | s' | ys | ns <;>
    simp_all [bareText, float.ne_int, fun z g => (float.ne_int g z).symm,
      intText_injective.eq_iff, float.injective.eq_iff, fun z => (hint z).1.symm,
      fun z => (hint z).2.1.symm, fun z => (hint z).2.2.symm, fun f => (hfloat f).1.symm,
      fun f => (hfloat f).2.1.symm, fun f => (hfloat f).2.2.symm]

/-- The first character of a text tells a bare token from the other three shapes. -/
theorem text_shape (p : Json F) :
    (∃ t, bareText float p = some t) ∨ (∃ s, p = .str s) ∨ (∃ xs, p = .arr xs) ∨
      ∃ ms, p = .obj ms := by
  cases p with
  | bool b => cases b <;> exact Or.inl ⟨_, rfl⟩
  | null | int | float => exact Or.inl ⟨_, rfl⟩
  | str s => exact Or.inr (Or.inl ⟨s, rfl⟩)
  | arr xs => exact Or.inr (Or.inr (Or.inl ⟨xs, rfl⟩))
  | obj ms => exact Or.inr (Or.inr (Or.inr ⟨ms, rfl⟩))

theorem bareText_cons {p : Json F} {t : Str} (h : bareText float p = some t) :
    ∃ c u, text float p = c :: u ∧ isBare c = true := by
  obtain ⟨hall, hne⟩ := bareText_all float h
  obtain ⟨c, u, rfl⟩ := List.exists_cons_of_ne_nil hne
  rw [List.all_cons, Bool.and_eq_true] at hall
  exact ⟨c, u, text_of_bareText float h, hall.1⟩

theorem text_cons (p : Json F) :
    ∃ c u, text float p = c :: u ∧ (isBare c = true ∨ c = quoteMark ∨ c = openBracket ∨
      c = openBrace) := by
  rcases text_shape float p with ⟨t, h⟩ | ⟨s, rfl⟩ | ⟨xs, rfl⟩ | ⟨ms, rfl⟩
  · obtain ⟨c, u, hcu, hc⟩ := bareText_cons float h
    exact ⟨c, u, hcu, Or.inl hc⟩
  · exact ⟨_, _, by rw [text, quote], Or.inr (Or.inl rfl)⟩
  · exact ⟨_, _, by rw [text], Or.inr (Or.inr (Or.inl rfl))⟩
  · exact ⟨_, _, by rw [text], Or.inr (Or.inr (Or.inr rfl))⟩

theorem joinComma_cons_append (t : Str) (ts : List Str) (d : CodePoint) (r : Str) :
    joinComma (t :: ts) ++ d :: r =
      t ++ match ts with
        | [] => d :: r
        | u :: us => comma :: (joinComma (u :: us) ++ d :: r) := by
  cases ts with
  | nil => rfl
  | cons u us => simp only [joinComma, List.append_assoc, List.cons_append]

/-- A list written with commas and a closing delimiter is cancelled element by element. -/
theorem join_cancel {α : Type u} {enc : α → Str} {R : α → α → Prop} {close : CodePoint}
    (hclose : isBare close = false) (hcomma : close ≠ comma)
    (hopen : ∀ a r s, enc a ++ r ≠ close :: s) {xs ys : List α}
    (hcancel : ∀ x ∈ xs, ∀ y r r', Stops r → Stops r' → enc x ++ r = enc y ++ r' → R x y ∧ r = r')
    {r r' : Str} (h : joinComma (xs.map enc) ++ close :: r = joinComma (ys.map enc) ++ close :: r') :
    List.Forall₂ R xs ys ∧ r = r' := by
  have hstop : ∀ (us : List Str) (s : Str), Stops (match us with
      | [] => close :: s
      | v :: vs => comma :: (joinComma (v :: vs) ++ close :: s)) := by
    intro us s
    cases us with
    | nil => exact stops_cons hclose
    | cons v vs => exact stops_cons (by decide)
  induction xs generalizing ys with
  | nil =>
    cases ys with
    | nil => exact ⟨.nil, (List.cons.inj h).2⟩
    | cons y ys =>
      rw [List.map_cons, joinComma_cons_append] at h
      exact absurd h.symm (hopen y _ _)
  | cons x xs ih =>
    rw [List.map_cons, joinComma_cons_append] at h
    cases ys with
    | nil => exact absurd h (hopen x _ _)
    | cons y ys =>
      rw [List.map_cons, joinComma_cons_append] at h
      obtain ⟨hxy, hrest⟩ := hcancel x List.mem_cons_self y _ _ (hstop _ r) (hstop _ r') h
      cases xs with
      | nil =>
        cases ys with
        | nil => exact ⟨.cons hxy .nil, (List.cons.inj hrest).2⟩
        | cons z zs => exact absurd (List.cons.inj hrest).1 hcomma
      | cons w ws =>
        cases ys with
        | nil => exact absurd (List.cons.inj hrest).1.symm hcomma
        | cons z zs =>
          have hjoin : joinComma ((w :: ws).map enc) ++ close :: r =
              joinComma ((z :: zs).map enc) ++ close :: r' := (List.cons.inj hrest).2
          obtain ⟨htail, hr⟩ := ih (fun a ha => hcancel a (List.mem_cons_of_mem x ha)) hjoin
          exact ⟨.cons hxy htail, hr⟩

theorem perm_sortByKey {α : Type u} (ms : List (Str × α)) : (sortByKey ms).Perm ms :=
  List.perm_insertionSort _ ms

theorem pairwise_sortByKey {α : Type u} (ms : List (Str × α)) :
    (sortByKey ms).Pairwise fun m n => m.1 ≤ n.1 := by
  have : Std.Total fun m n : Str × α => m.1 ≤ n.1 := ⟨fun m n => le_total m.1 n.1⟩
  have : IsTrans (Str × α) fun m n => m.1 ≤ n.1 := ⟨fun _ _ _ => le_trans⟩
  exact List.pairwise_insertionSort _ ms

theorem map_sortByKey {α : Type u} {β : Type v} (f : α → β) (ms : List (Str × α)) :
    (sortByKey ms).map (fun m => (m.1, f m.2)) = sortByKey (ms.map fun m => (m.1, f m.2)) := by
  unfold sortByKey
  rw [List.map_insertionSort (fun m n : Str × α => m.1 ≤ n.1) (fun m n : Str × β => m.1 ≤ n.1)]
  exact fun _ _ _ _ => Iff.rfl

/-- Sorting by key forgets the order of members whose keys are distinct. -/
theorem sortByKey_of_perm {α : Type u} {ms ns : List (Str × α)} (h : ms.Perm ns)
    (hdistinct : (ms.map Prod.fst).Nodup) : sortByKey ms = sortByKey ns := by
  have hperm : (sortByKey ms).Perm (sortByKey ns) :=
    (perm_sortByKey ms).trans (h.trans (perm_sortByKey ns).symm)
  refine hperm.eq_of_pairwise ?_ (pairwise_sortByKey ms) (pairwise_sortByKey ns)
  intro a b ha hb hab hba
  have ha' : a ∈ ms := (perm_sortByKey ms).mem_iff.mp ha
  have hb' : b ∈ ms := h.mem_iff.mpr ((perm_sortByKey ns).mem_iff.mp hb)
  exact List.inj_on_of_nodup_map hdistinct ha' hb' (le_antisymm hab hba)

theorem text_arr (items : List (Json F)) :
    text float (.arr items) =
      openBracket :: (joinComma (items.map (text float)) ++ [closeBracket]) := by
  rw [text, textItems_eq]

theorem text_obj (members : List (Str × Json F)) :
    text float (.obj members) = openBrace ::
      (joinComma ((sortByKey members).map fun m => memberText (m.1, text float m.2)) ++
        [closeBrace]) := by
  rw [text, textMembers_eq, ← map_sortByKey (text float), List.map_map]
  rfl

theorem text_ne_closeBracket (p : Json F) (r s : Str) : text float p ++ r ≠ closeBracket :: s := by
  intro h
  obtain ⟨c, u, hcu, hc⟩ := text_cons float p
  rw [hcu] at h
  rw [(List.cons.inj h).1] at hc
  revert hc
  decide

theorem memberText_ne_closeBrace (m : Str × Json F) (r s : Str) :
    memberText (m.1, text float m.2) ++ r ≠ closeBrace :: s := by
  intro h
  rw [memberText, quote] at h
  exact absurd (List.cons.inj h).1 (by decide)

end Cancel

section Canonical
variable {F : Type} (float : FloatRepr F)

/-- A value written as one token is cancelled from the front of a longer text. -/
theorem bareText_cancel {p : Json F} {t : Str} (hp : bareText float p = some t) (q : Json F)
    {r r' : Str} (hr : Stops r) (hr' : Stops r') (h : text float p ++ r = text float q ++ r') :
    Json.Reorder p q ∧ r = r' := by
  obtain ⟨c, u, hcu, hc⟩ := bareText_cons float hp
  rcases text_shape float q with ⟨t', hq⟩ | ⟨s, rfl⟩ | ⟨ys, rfl⟩ | ⟨ns, rfl⟩
  · rw [text_of_bareText float hp, text_of_bareText float hq] at h
    obtain ⟨rfl, hrr⟩ := token_cancel (bareText_all float hp).1 (bareText_all float hq).1 hr hr' h
    exact ⟨bareText_injective float hp hq ▸ .refl p, hrr⟩
  -- no token begins with a quote or a bracket
  · rw [hcu, text, quote] at h
    rw [(List.cons.inj h).1] at hc
    cases hc
  · rw [hcu, text] at h
    rw [(List.cons.inj h).1] at hc
    cases hc
  · rw [hcu, text] at h
    rw [(List.cons.inj h).1] at hc
    cases hc

/-- A written value is cancelled from the front of a longer text, up to the order of keys. -/
def Cancels (p : Json F) : Prop := ∀ (q : Json F) (r r' : Str), Stops r → Stops r' →
  text float p ++ r = text float q ++ r' → Json.Reorder p q ∧ r = r'

variable {float} in
theorem arr_cancel {xs ys : List (Json F)} (ih : ∀ x ∈ xs, Cancels float x) {r r' : Str}
    (h : text float (.arr xs) ++ r = text float (.arr ys) ++ r') :
    Json.Reorder (.arr xs) (.arr ys) ∧ r = r' := by
  rw [text_arr, text_arr] at h
  simp only [List.cons_append, List.append_assoc, List.nil_append, List.cons.injEq, true_and] at h
  obtain ⟨hxs, hrr⟩ := join_cancel (R := Json.Reorder) (by decide) (by decide)
    (text_ne_closeBracket float) (fun x hx y s s' hs hs' he => ih x hx y s s' hs hs' he) h
  exact ⟨Json.Reorder.arr_of_forall₂ hxs [], hrr⟩

variable {float} in
theorem member_cancel {m n : Str × Json F} (ih : Cancels float m.2) {r r' : Str} (hr : Stops r)
    (hr' : Stops r')
    (h : memberText (m.1, text float m.2) ++ r = memberText (n.1, text float n.2) ++ r') :
    (m.1 = n.1 ∧ Json.Reorder m.2 n.2) ∧ r = r' := by
  simp only [memberText, List.append_assoc, List.cons_append] at h
  obtain ⟨hkey, hrest⟩ := quote_cancel h
  obtain ⟨hvalue, hrr⟩ := ih n.2 r r' hr hr' (List.cons.inj hrest).2
  exact ⟨⟨hkey, hvalue⟩, hrr⟩

variable {float} in
theorem obj_cancel {ms ns : List (Str × Json F)} (ih : ∀ m ∈ ms, Cancels float m.2) {r r' : Str}
    (h : text float (.obj ms) ++ r = text float (.obj ns) ++ r') :
    Json.Reorder (.obj ms) (.obj ns) ∧ r = r' := by
  rw [text_obj, text_obj] at h
  simp only [List.cons_append, List.append_assoc, List.nil_append, List.cons.injEq, true_and] at h
  obtain ⟨hms, hrr⟩ := join_cancel
    (R := fun m n : Str × Json F => m.1 = n.1 ∧ Json.Reorder m.2 n.2) (by decide) (by decide)
    (memberText_ne_closeBrace float) (fun m hm n s s' hs hs' he =>
      member_cancel (ih m ((perm_sortByKey ms).mem_iff.mp hm)) hs hs' he) h
  refine ⟨.trans (.members (perm_sortByKey ms).symm) ?_, hrr⟩
  exact .trans (Json.Reorder.obj_of_forall₂ hms []) (.members (perm_sortByKey ns))

/-- The first character tells strings, arrays, objects and tokens apart. -/
theorem text_cancel (p : Json F) : Cancels float p := by
  have hswap : ∀ (p q : Json F) (t : Str) (r r' : Str), bareText float q = some t → Stops r →
      Stops r' → text float p ++ r = text float q ++ r' → Json.Reorder p q ∧ r = r' := by
    intro p q t r r' hq hr hr' h
    obtain ⟨hqp, hrr⟩ := bareText_cancel float hq p hr' hr h.symm
    exact ⟨hqp.symm, hrr.symm⟩
  induction p using Json.ind with
  | null | int | float => exact fun q r r' => bareText_cancel float rfl q
  | bool b => cases b <;> exact fun q r r' => bareText_cancel float rfl q
  | str s =>
    intro q r r' hr hr' h
    rcases text_shape float q with ⟨t, hq⟩ | ⟨s', rfl⟩ | ⟨ys, rfl⟩ | ⟨ns, rfl⟩
    · exact hswap _ q t r r' hq hr hr' h
    · rw [text, text] at h
      obtain ⟨rfl, hrr⟩ := quote_cancel h
      exact ⟨.refl _, hrr⟩
    · rw [text, quote, text_arr] at h
      exact absurd (List.cons.inj h).1 (by decide)
    · rw [text, quote, text_obj] at h
      exact absurd (List.cons.inj h).1 (by decide)
  | arr xs ih =>
    intro q r r' hr hr' h
    rcases text_shape float q with ⟨t, hq⟩ | ⟨s', rfl⟩ | ⟨ys, rfl⟩ | ⟨ns, rfl⟩
    · exact hswap _ q t r r' hq hr hr' h
    · rw [text_arr, text, quote] at h
      exact absurd (List.cons.inj h).1 (by decide)
    · exact arr_cancel ih h
    · rw [text_arr, text_obj] at h
      exact absurd (List.cons.inj h).1 (by decide)
  | obj ms ih =>
    intro q r r' hr hr' h
    rcases text_shape float q with ⟨t, hq⟩ | ⟨s', rfl⟩ | ⟨ys, rfl⟩ | ⟨ns, rfl⟩
    · exact hswap _ q t r r' hq hr hr' h
    · rw [text_obj, text, quote] at h
      exact absurd (List.cons.inj h).1 (by decide)
    · rw [text_obj, text_arr] at h
      exact absurd (List.cons.inj h).1 (by decide)
    · exact obj_cancel ih h

/-- A value and its reorderings have the same text. -/
theorem text_of_reorder {p q : Json F} (h : Json.Reorder p q) (hp : p.distinctKeys = true) :
    text float p = text float q := by
  induction h with
  | refl => rfl
  | trans h₁ _ ih₁ ih₂ => exact (ih₁ hp).trans (ih₂ (h₁.distinctKeys hp))
  | members h =>
    rw [Json.distinctKeys_obj] at hp
    rw [text_obj, text_obj, sortByKey_of_perm h hp.1]
  | item before after _ ih =>
    rw [Json.distinctKeys_arr, List.forall_mem_append, List.forall_mem_cons] at hp
    rw [text_arr, text_arr]
    simp only [List.map_append, List.map_cons, ih hp.2.1]
  | value before after k _ ih =>
    rw [Json.distinctKeys_obj, List.forall_mem_append, List.forall_mem_cons] at hp
    rw [text, text, textMembers_eq, textMembers_eq]
    simp only [List.map_append, List.map_cons, ih hp.2.2.1]

/-- The canonical text identifies a value exactly up to the order of its keys. -/
theorem text_eq_iff {p q : Json F} (hp : p.distinctKeys = true) :
    text float p = text float q ↔ Json.Reorder p q := by
  constructor
  · intro h
    have happ : text float p ++ [] = text float q ++ [] := by rw [h]
    exact (text_cancel float p q [] [] stops_nil stops_nil happ).1
  · exact fun h => text_of_reorder float h hp

/-! ### Surrogates -/

theorem quote_surrogate (s : Str) :
    (quote s).any CodePoint.isSurrogate = s.any CodePoint.isSurrogate := by
  have hchar (c : CodePoint) : (escapeChar c).any CodePoint.isSurrogate = c.isSurrogate := by
    cases hc : isEscaped c with
    | true =>
      have hall : (escapedChars.all fun c =>
          (escapeChar c).any CodePoint.isSurrogate == c.isSurrogate) = true := by decide
      exact eq_of_beq (List.all_eq_true.mp hall c (escaped_mem hc))
    | false => rw [escapeChar_plain hc, List.any_cons, List.any_nil, Bool.or_false]
  have hquote : quoteMark.isSurrogate = false := by decide
  simp only [quote, List.any_cons, List.any_append, List.any_flatMap, hchar, hquote,
    List.any_nil, Bool.false_or, Bool.or_false]

theorem joinComma_surrogate (ts : List Str) :
    (joinComma ts).any CodePoint.isSurrogate = ts.any fun t => t.any CodePoint.isSurrogate := by
  have hcomma : comma.isSurrogate = false := by decide
  induction ts with
  | nil => rfl
  | cons t ts ih =>
    cases ts with
    | nil => simp only [joinComma, List.any_cons, List.any_nil, Bool.or_false]
    | cons u us => simp only [joinComma, List.any_append, List.any_cons, hcomma, ih, Bool.false_or]

theorem any_of_perm {α : Type} {xs ys : List α} (h : xs.Perm ys) {P Q : α → Bool}
    (hPQ : ∀ x ∈ ys, P x = Q x) : xs.any P = ys.any Q := by
  rw [Bool.eq_iff_iff, List.any_eq_true, List.any_eq_true]
  refine exists_congr fun x => ?_
  rw [h.mem_iff]
  exact and_congr_right fun hx => by rw [hPQ x hx]

theorem not_surrogate_of_lt {t : Str} (h : ∀ c ∈ t, c.val < 128) :
    t.any CodePoint.isSurrogate = false := by
  rw [List.any_eq_false]
  intro c hc hsur
  have hlt := h c hc
  simp only [CodePoint.isSurrogate, Bool.and_eq_true, decide_eq_true_eq] at hsur
  omega

theorem bareText_not_surrogate {p : Json F} {t : Str} (h : bareText float p = some t) :
    (text float p).any CodePoint.isSurrogate = false := by
  rw [text_of_bareText float h]
  cases p with
  | null => rw [← Option.some.inj h]; decide
  | bool b => cases b <;> (rw [← Option.some.inj h]; decide)
  | int z =>
    rw [← Option.some.inj h]
    refine not_surrogate_of_lt fun c hc => ?_
    rcases mem_intText hc with rfl | hdigit
    · decide
    · omega
  | float f =>
    rw [← Option.some.inj h]
    have hall : (floatAlphabet.all fun c => c.val < 128) = true := by decide
    exact not_surrogate_of_lt fun c hc =>
      of_decide_eq_true (List.all_eq_true.mp hall c (float.alphabet f c hc))
  | str | arr | obj => cases h

/-- The text holds a surrogate exactly when a string or a key of the value does. -/
theorem text_surrogate (p : Json F) :
    (text float p).any CodePoint.isSurrogate = p.hasSurrogate := by
  have hdelimiters : openBracket.isSurrogate = false ∧ closeBracket.isSurrogate = false ∧
      openBrace.isSurrogate = false ∧ closeBrace.isSurrogate = false ∧
      colon.isSurrogate = false := by decide
  obtain ⟨hopen, hclose, hbrace, hend, hcolon⟩ := hdelimiters
  induction p using Json.ind with
  | null | int | float => exact bareText_not_surrogate float rfl
  | bool b => cases b <;> exact bareText_not_surrogate float rfl
  | str s => rw [text, quote_surrogate, Json.hasSurrogate]
  | arr xs ih =>
    rw [text_arr, List.any_cons, List.any_append, joinComma_surrogate, List.any_map,
      Json.hasSurrogate, Json.hasSurrogateItems_eq]
    simp only [List.any_cons, List.any_nil, hopen, hclose, Bool.false_or, Bool.or_false]
    exact any_of_perm (.refl xs) ih
  | obj ms ih =>
    rw [text_obj, List.any_cons, List.any_append, joinComma_surrogate, List.any_map,
      Json.hasSurrogate, Json.hasSurrogateMembers_eq]
    simp only [List.any_cons, List.any_nil, hbrace, hend, Bool.false_or, Bool.or_false]
    refine any_of_perm (perm_sortByKey ms) fun m hm => ?_
    simp only [Function.comp_apply, memberText, List.any_append, List.any_cons, quote_surrogate,
      hcolon, Bool.false_or, ih m hm]

end Canonical

end JsonText
