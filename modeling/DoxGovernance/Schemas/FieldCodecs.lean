import DoxGovernance.Lib.Codec
import DoxGovernance.Schemas.Fields

/-!
# The fields of an event as JSON values

A codec for each type of field: how `model_dump(mode="json")` writes it, and what validation reads
as one. What the validation library makes of identifiers, instants and integers is given; strings,
enumerations and dictionaries are read as the schema says.
-/

set_option autoImplicit false
set_option maxRecDepth 4096

namespace Dox

/-! ### Texts -/

theorem Str.toText_ofText (t : String) : Str.toText (Str.ofText t) = t := by
  have hchar : ∀ c : Char, Char.ofNat (Fin.ofNat 1114112 c.toNat).val = c := by
    intro c
    have hvalid : c.toNat.isValidChar := c.valid
    have hlt : c.toNat < 1114112 := by
      unfold Nat.isValidChar at hvalid
      omega
    have hval : (Fin.ofNat 1114112 c.toNat).val = c.toNat := Nat.mod_eq_of_lt hlt
    rw [hval]
    exact Char.ofNat_toNat c
  rw [Str.toText, Str.ofText, List.map_map]
  have hsame : (fun c => Char.ofNat (Fin.ofNat 1114112 c.toNat).val) = id := funext hchar
  exact (congrArg String.ofList ((congrArg (fun f => t.toList.map f) hsame).trans
    (List.map_id _))).trans String.ofList_toList

theorem isSpacePoint_ofNat (c : Char) : isSpacePoint (Fin.ofNat 1114112 c.toNat) = isSpace c := by
  have h := Str.toText_ofText (String.ofList [c])
  rw [Str.toText, Str.ofText, String.toList_ofList] at h
  have hchars := String.ofList_injective h
  exact congrArg isSpace (List.cons.inj hchars).1

theorem strip_of_ends {s : Str} (hhead : s.head?.all (fun c => !isSpacePoint c) = true)
    (hlast : s.getLast?.all (fun c => !isSpacePoint c) = true) : strip s = s := by
  rw [Option.all_eq_true] at hhead hlast
  have hfirst : s.dropWhile isSpacePoint = s := by
    rw [List.dropWhile_eq_self_iff]
    intro hpos
    simpa using hhead s[0] (List.head?_eq_getElem? ▸ List.getElem?_eq_getElem hpos)
  rw [strip, hfirst, List.rdropWhile_eq_self_iff]
  intro hne
  simpa using hlast _ (List.getLast?_eq_some_getLast hne)

theorem strip_strip (s : Str) : strip (strip s) = strip s :=
  strip_of_ends (head?_strip s) (getLast?_strip s)

/-- A stripped text is not stripped any further. -/
theorem strip_ofText {t : String} (h : isStripped t = true) :
    strip (Str.ofText t) = Str.ofText t := by
  obtain ⟨hhead, hlast⟩ := (Bool.and_eq_true _ _).mp h
  apply strip_of_ends
  · simpa only [Str.ofText, List.head?_map, Option.all_map, Function.comp_def,
      isSpacePoint_ofNat] using hhead
  · simpa only [Str.ofText, List.getLast?_map, Option.all_map, Function.comp_def,
      isSpacePoint_ofNat] using hlast

theorem subset_strip (s : Str) : strip s ⊆ s := fun _ hc =>
  (List.dropWhile_sublist _).subset ((List.rdropWhile_prefix _ _).subset hc)

/-! ### The fields of an event -/

/-- What the validation library makes of JSON values for the types that are its own, how it writes
an instant, and what it reports of an object that is refused. -/
structure Pydantic where
  uuid : Value → Option Uuid
  datetime : Value → Option Datetime
  datetimeText : Datetime → String
  int : Value → Option Int
  errors : Payload → Value
  uuid_stable : ∀ {d u}, uuid d = some u → uuid (textValue (Text.uuid u)) = some u
  datetime_stable : ∀ {d t}, datetime d = some t → datetime (textValue (datetimeText t)) = some t
  int_int : ∀ z, int (.int z) = some z

def isNull : Value → Bool
  | .null => true
  | _ => false

namespace Wire
open Codec

def uuid (py : Pydantic) : Codec Value Uuid :=
  ⟨fun u => textValue (Text.uuid u), py.uuid, py.uuid_stable⟩

theorem uuid_readable {py : Pydantic} {u : Uuid} :
    (uuid py).Readable u ↔ py.uuid (textValue (Text.uuid u)) = some u := Iff.rfl

def datetime (py : Pydantic) : Codec Value Datetime :=
  ⟨fun t => textValue (py.datetimeText t), py.datetime, py.datetime_stable⟩

def orNone {α : Type} (c : Codec Value α) (hwrite : ∀ a, isNull (c.write a) = false) :
    Codec Value (Option α) := c.nullable .null isNull rfl hwrite

/-- `int` with `ge=0`. -/
def natural (py : Pydantic) : Codec Value Nat where
  write n := .int n
  read d := (py.int d).bind fun z => if 0 ≤ z then some z.toNat else none
  stable := by
    intro d n h
    obtain ⟨z, -, hz⟩ := Option.bind_eq_some_iff.mp h
    split at hz
    · rename_i hpos
      cases hz
      rw [Int.toNat_of_nonneg hpos, py.int_int, Option.bind_some, if_pos hpos]
    · cases hz

theorem natural_readable (py : Pydantic) (n : Nat) : (natural py).Readable n := by
  show (py.int (.int n)).bind _ = some n
  rw [py.int_int, Option.bind_some, if_pos (Int.natCast_nonneg n), Int.toNat_natCast]

/-- A string without surrogates, stripped. -/
def plain (s : Str) : Option String :=
  if s.any CodePoint.isSurrogate then none else some (Str.toText (strip s))

theorem plain_ofText {t : String} (h : isStripped t = true) : plain (Str.ofText t) = some t := by
  rw [plain, not_isSurrogate_ofText, if_neg Bool.false_ne_true, strip_ofText h, Str.toText_ofText]

theorem isStripped_of_plain {s : Str} {t : String} (h : plain s = some t) :
    isStripped t = true := by
  unfold plain at h
  split at h
  · cases h
  · cases h
    exact isStripped_strip s

def readText : Value → Option String
  | .str s => plain s
  | _ => none

/-- `str`. -/
def str : Codec Value String where
  write := textValue
  read := readText
  stable := by
    intro d t h
    cases d with
    | str s => exact plain_ofText (isStripped_of_plain h)
    | null | bool b | int z | float f | arr items | obj members => cases h

/-- `str` with a check. -/
def text (p : String → Bool) : Codec Value (Checked p) := str.checked p

def optionalText (p : String → Bool) : Codec Value (Checked (Option.all p)) :=
  (orNone str fun _ => rfl).checked (Option.all p)

theorem str_readable {t : String} (h : isStripped t = true) : str.Readable t := plain_ofText h

section Enumerations
variable {α : Type} {all : List α} {value : α → String}

theorem enumField_value (hall : ∀ a, a ∈ all) (hdistinct : (all.map value).Nodup) (a : α) :
    enumField (ofValue? all value) (Str.ofText (value a)) = some a := by
  rw [enumField, not_isSurrogate_ofText, if_neg Bool.false_ne_true, Str.toText_ofText]
  exact ofValue?_value hall hdistinct a

/-- A member of an enumeration, by its string. -/
def enumeration (hall : ∀ a, a ∈ all) (hdistinct : (all.map value).Nodup) : Codec Value α where
  write a := textValue (value a)
  read
    | .str s => enumField (ofValue? all value) s
    | _ => none
  stable := fun {_ a} _ => enumField_value hall hdistinct a

theorem enumeration_readable {hall : ∀ a, a ∈ all} {hdistinct : (all.map value).Nodup} (a : α) :
    (enumeration hall hdistinct).Readable a := enumField_value hall hdistinct a

end Enumerations
/-! ### Dictionaries -/

def asObject : Value → Option Payload
  | .obj members => if h : (Json.obj members).distinctKeys = true then some ⟨members, h⟩ else none
  | _ => none

@[simp] theorem asObject_json (p : Payload) : asObject p.json = some p := dif_pos p.distinct

theorem setItem_eq (members : List (Str × Value)) (m : Str × Value) :
    setItem members m = Record.set members m := by
  unfold setItem Record.set
  congr

theorem stripKeys_eq (members : List (Str × Value)) :
    stripKeys members = Record.ofList (members.map fun m => (strip m.1, m.2)) := by
  rw [Record.ofList, List.foldl_map]
  simp only [stripKeys, setItem_eq]

/-- The keys of a validated dictionary are stripped and hold no surrogates. -/
theorem key_of_stripKeys {members : List (Str × Value)} {m : Str × Value}
    (h : m ∈ stripKeys members) : strip m.1 = m.1 ∧ ∃ n ∈ members, m.1 ⊆ n.1 := by
  rw [stripKeys_eq] at h
  obtain ⟨n, hn, rfl⟩ := List.mem_map.mp (Record.mem_ofList h)
  exact ⟨strip_strip n.1, n, hn, subset_strip n.1⟩

/-- A key that validation leaves as it is. -/
def IsKey (key : Str) : Prop := strip key = key ∧ key.any CodePoint.isSurrogate = false

theorem isKey_of_dictField {p q : Payload} (h : dictField p = some q) :
    ∀ m ∈ q.members, IsKey m.1 := by
  have hsome := dictField_isSome p
  rw [h, Option.isSome_some] at hsome
  have hclean : ∀ n ∈ p.members, n.1.any CodePoint.isSurrogate = false := by
    simpa using hsome.symm
  have hq : q.members = stripKeys p.members := by
    unfold dictField at h
    split at h
    · cases h
    · cases h
      rfl
  intro m hm
  rw [hq] at hm
  obtain ⟨hstrip, n, hn, hsubset⟩ := key_of_stripKeys hm
  have hnone := List.any_eq_false.mp (hclean n hn)
  exact ⟨hstrip, List.any_eq_false.mpr fun c hc => hnone c (hsubset hc)⟩

theorem dictField_self {q : Payload} (h : ∀ m ∈ q.members, IsKey m.1) : dictField q = some q := by
  have hkeys : (q.members.any fun m => m.1.any CodePoint.isSurrogate) = false :=
    List.any_eq_false.mpr fun m hm => Bool.eq_false_iff.mp (h m hm).2
  have hstrip : stripKeys q.members = q.members := by
    have hsame : q.members.map (fun m => (strip m.1, m.2)) = q.members :=
      (List.map_congr_left fun m hm => by rw [(h m hm).1, id]).trans (List.map_id _)
    rw [stripKeys_eq, hsame]
    exact Record.ofList_of_nodup ((Json.distinctKeys_obj _).mp q.distinct).1
  rw [dictField, if_neg (by rw [hkeys]; exact Bool.false_ne_true)]
  cases q
  simp only [hstrip]

theorem dictField_again {p q : Payload} (h : dictField p = some q) : dictField q = some q :=
  dictField_self (isKey_of_dictField h)

/-- Writing a payload changes none of its keys. -/
theorem dictField_dumped {p q : Payload} (h : dictField p = some q) :
    dictField q.dumped = some q.dumped := by
  apply dictField_self
  intro m hm
  rw [Payload.members_dumped] at hm
  obtain ⟨n, hn, rfl⟩ := List.mem_map.mp hm
  exact isKey_of_dictField h n hn

/-- `dict[str, Any]`. -/
def dict : Codec Value Payload where
  write := Payload.json
  read d := (asObject d).bind dictField
  stable := by
    intro d q h
    obtain ⟨p, -, hp⟩ := Option.bind_eq_some_iff.mp h
    rw [asObject_json, Option.bind_some, dictField_again hp]

theorem dict_readable_iff {q : Payload} : dict.Readable q ↔ dictField q = some q := by
  show (asObject q.json).bind dictField = some q ↔ _
  rw [asObject_json, Option.bind_some]

theorem dict_readable {p q : Payload} (h : dictField p = some q) : dict.Readable q :=
  dict_readable_iff.mpr (dictField_again h)

theorem dict_readable_dumped {q : Payload} (h : dict.Readable q) : dict.Readable q.dumped :=
  dict_readable_iff.mpr (dictField_dumped (dict_readable_iff.mp h))

def readTag (m : Str × Value) : Option (String × String) := do
  return (← plain m.1, ← readText m.2)

def readTags : Value → Option (List (String × String))
  | .obj members => (members.mapM readTag).map Record.ofList
  | _ => none

def tagsJson (tags : List (String × String)) : Value :=
  .obj (tags.map fun tag => (Str.ofText tag.1, textValue tag.2))

theorem isStripped_of_readText {d : Value} {t : String} (h : readText d = some t) :
    isStripped t = true := by
  cases d with
  | str s => exact isStripped_of_plain h
  | null | bool b | int z | float f | arr items | obj members => cases h

theorem isStripped_of_readTags {members : List (Str × Value)} {tags : List (String × String)}
    (h : members.mapM readTag = some tags) :
    ∀ tag ∈ tags, isStripped tag.1 = true ∧ isStripped tag.2 = true := by
  induction members generalizing tags with
  | nil =>
    cases h
    exact fun _ htag => absurd htag List.not_mem_nil
  | cons m ms ih =>
    rw [List.mapM_cons] at h
    obtain ⟨tag, htag, hrest⟩ := Option.bind_eq_some_iff.mp h
    obtain ⟨rest, hms, hcons⟩ := Option.bind_eq_some_iff.mp hrest
    cases hcons
    obtain ⟨key, hkey, hvalue⟩ := Option.bind_eq_some_iff.mp htag
    obtain ⟨value, hread, hpair⟩ := Option.bind_eq_some_iff.mp hvalue
    cases hpair
    exact List.forall_mem_cons.mpr ⟨⟨isStripped_of_plain hkey, isStripped_of_readText hread⟩,
      ih hms⟩

theorem readTags_json {tags : List (String × String)} (hkeys : (tags.map Prod.fst).Nodup)
    (hstripped : ∀ tag ∈ tags, isStripped tag.1 = true ∧ isStripped tag.2 = true) :
    readTags (tagsJson tags) = some tags := by
  have hread : (tags.map fun tag => (Str.ofText tag.1, textValue tag.2)).mapM readTag =
      some tags := by
    clear hkeys
    induction tags with
    | nil => rfl
    | cons tag rest ih =>
      rw [List.forall_mem_cons] at hstripped
      have htag : readTag (Str.ofText tag.1, textValue tag.2) = some tag := by
        show (plain (Str.ofText tag.1)).bind (fun key =>
          (plain (Str.ofText tag.2)).bind fun value => some (key, value)) = some tag
        rw [plain_ofText hstripped.1.1, plain_ofText hstripped.1.2]
        rfl
      rw [List.map_cons, List.mapM_cons, htag, ih hstripped.2]
      rfl
  show ((tags.map fun tag => (Str.ofText tag.1, textValue tag.2)).mapM readTag).map
    Record.ofList = some tags
  rw [hread, Option.map_some, Record.ofList_of_nodup hkeys]

/-- `dict[str, str]`. -/
def strings : Codec Value (List (String × String)) where
  write := tagsJson
  read := readTags
  stable := by
    intro d tags h
    cases d with
    | obj members =>
      obtain ⟨pairs, hpairs, rfl⟩ := Option.map_eq_some_iff.mp h
      exact readTags_json (Record.nodup_ofList pairs) fun tag htag =>
        isStripped_of_readTags hpairs tag (Record.mem_ofList htag)
    | null | bool b | int z | float f | str s | arr items => cases h

def tagDict : Codec Value (Checked checkTags) := strings.checked checkTags

theorem tagDict_readable (tags : Checked checkTags) : tagDict.Readable tags := by
  apply readable_checked
  obtain ⟨hsizes, hfits⟩ := (Bool.and_eq_true _ _).mp tags.property
  obtain ⟨hkeys, -⟩ := (Bool.and_eq_true _ _).mp hsizes
  refine readTags_json (of_decide_eq_true hkeys) fun tag htag => ?_
  have hbounds := List.all_eq_true.mp hfits tag htag
  simp only [fits, Bool.and_eq_true] at hbounds
  exact ⟨hbounds.1.1.1, hbounds.2.1.1⟩

end Wire
end Dox
