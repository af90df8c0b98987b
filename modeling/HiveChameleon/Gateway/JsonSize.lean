import HiveChameleon.Gateway.CanonicalJson

/-!
# Gateway.JsonSize — how long a canonical text is

A bound of the bytes of a canonical text that does not depend on the order of keys.  A character that
is not escaped and not outside ASCII takes one byte; any other takes at most six for each UTF-16 unit.
-/

namespace HiveChameleon.Gateway

open Lib

/-! ### Bytes of characters -/

/-- The UTF-8 bytes of the characters. -/
def byteLength (cs : List Char) : ℕ := (cs.map Char.utf8Size).sum

theorem byteLength_cons (c : Char) (cs : List Char) :
    byteLength (c :: cs) = c.utf8Size + byteLength cs := by
  rw [byteLength, List.map_cons, List.sum_cons, byteLength]

theorem byteLength_append (cs ds : List Char) :
    byteLength (cs ++ ds) = byteLength cs + byteLength ds := by
  rw [byteLength, List.map_append, List.sum_append, byteLength, byteLength]

theorem utf8ByteSize_ofList (cs : List Char) : (String.ofList cs).utf8ByteSize = byteLength cs := by
  induction cs with
  | nil => rfl
  | cons c cs ih =>
    have hsplit : String.ofList (c :: cs) = String.singleton c ++ String.ofList cs := by
      rw [String.singleton_eq_ofList, ← String.ofList_append, List.singleton_append]
    rw [hsplit, String.utf8ByteSize_append, ih, byteLength_cons, String.utf8ByteSize_singleton]

/-- The bytes of a string in quotes. -/
def textBytes (s : String) : ℕ := byteLength (jsonString s)

theorem textBytes_eq (s : String) : textBytes s = byteLength (s.toList.flatMap jsonEscape) + 2 := by
  have hquote : byteLength ['"'] = 1 := rfl
  rw [textBytes, jsonString, byteLength_cons, byteLength_append, hquote]
  have : '"'.utf8Size = 1 := rfl
  omega

/-- A character of ASCII that stands for itself in a JSON string. -/
def isPlainChar (c : Char) : Bool := 32 ≤ c.toNat && c.toNat < 127 && c != '"' && c != '\\'

theorem byteLength_jsonEscape_plain {c : Char} (h : isPlainChar c = true) :
    byteLength (jsonEscape c) = 1 := by
  simp only [isPlainChar, Bool.and_eq_true, decide_eq_true_eq, bne_iff_ne, ne_eq] at h
  obtain ⟨⟨⟨hlow, hhigh⟩, hquote⟩, hslash⟩ := h
  have hescape : jsonEscape c = [c] := by
    rw [jsonEscape, if_neg hquote, if_neg hslash, if_neg (by omega), if_neg (by omega),
      if_neg (by omega), if_neg (by omega), if_neg (by omega), if_neg (by omega)]
  have hsize : c.utf8Size = 1 := by
    rw [Char.utf8Size_eq_one_iff, UInt32.le_iff_toNat_le]
    show c.toNat ≤ 127
    omega
  rw [hescape, byteLength_cons, hsize]
  rfl

theorem utf8Size_hexDigit {n : ℕ} (h : n < 16) : (hexDigit n).utf8Size = 1 := by
  have hall : ∀ n < 16, (hexDigit n).utf8Size = 1 := by decide
  exact hall n h

theorem byteLength_jsonEscape_le (c : Char) :
    byteLength (jsonEscape c) ≤ 6 * if c.toNat < 65536 then 1 else 2 := by
  have hunit : 1 ≤ if c.toNat < 65536 then 1 else 2 := by
    by_cases hlow : c.toNat < 65536
    · rw [if_pos hlow]
    · rw [if_neg hlow]
      omega
  have hsix {cs : List Char} (hcs : byteLength cs ≤ 6) :
      byteLength cs ≤ 6 * if c.toNat < 65536 then 1 else 2 := by omega
  rw [jsonEscape]
  by_cases hquote : c = '"'
  · rw [if_pos hquote]
    exact hsix (by decide)
  by_cases hslash : c = '\\'
  · rw [if_neg hquote, if_pos hslash]
    exact hsix (by decide)
  rw [if_neg hquote, if_neg hslash]
  by_cases h8 : c.toNat = 8
  · rw [if_pos h8]
    exact hsix (by decide)
  by_cases h9 : c.toNat = 9
  · rw [if_neg h8, if_pos h9]
    exact hsix (by decide)
  by_cases h10 : c.toNat = 10
  · rw [if_neg h8, if_neg h9, if_pos h10]
    exact hsix (by decide)
  by_cases h12 : c.toNat = 12
  · rw [if_neg h8, if_neg h9, if_neg h10, if_pos h12]
    exact hsix (by decide)
  by_cases h13 : c.toNat = 13
  · rw [if_neg h8, if_neg h9, if_neg h10, if_neg h12, if_pos h13]
    exact hsix (by decide)
  rw [if_neg h8, if_neg h9, if_neg h10, if_neg h12, if_neg h13]
  by_cases hcontrol : c.toNat < 32
  · rw [if_pos hcontrol]
    have hhigh := utf8Size_hexDigit (n := c.toNat / 16) (by omega)
    have hlow := utf8Size_hexDigit (n := c.toNat % 16) (by omega)
    refine hsix ?_
    have hdigits : byteLength [hexDigit (c.toNat / 16), hexDigit (c.toNat % 16)] = 2 := by
      rw [byteLength_cons, byteLength_cons, hhigh, hlow]
      rfl
    have hsplit : ['\\', 'u', '0', '0', hexDigit (c.toNat / 16), hexDigit (c.toNat % 16)] =
        ['\\', 'u', '0', '0'] ++ [hexDigit (c.toNat / 16), hexDigit (c.toNat % 16)] := rfl
    rw [hsplit, byteLength_append, hdigits]
    decide
  · rw [if_neg hcontrol]
    refine hsix ?_
    have hsize := Char.utf8Size_le_four c
    rw [byteLength_cons]
    have : byteLength [] = 0 := rfl
    omega

theorem textBytes_plain {s : String} (h : ∀ c ∈ s.toList, isPlainChar c = true) :
    textBytes s = s.length + 2 := by
  rw [textBytes_eq, ← String.length_toList]
  have hbody : ∀ cs : List Char, (∀ c ∈ cs, isPlainChar c = true) →
      byteLength (cs.flatMap jsonEscape) = cs.length := by
    intro cs hcs
    induction cs with
    | nil => rfl
    | cons c cs ih =>
      rw [List.flatMap_cons, byteLength_append, byteLength_jsonEscape_plain (hcs c (List.mem_cons_self ..)),
        ih fun d hd => hcs d (List.mem_cons_of_mem _ hd), List.length_cons, Nat.add_comm]
  rw [hbody s.toList h]

theorem textBytes_le (s : String) : textBytes s ≤ 6 * utf16Length s + 2 := by
  rw [textBytes_eq, utf16Length]
  have hbody : ∀ cs : List Char, byteLength (cs.flatMap jsonEscape) ≤
      6 * (cs.map fun c => if c.toNat < 65536 then 1 else 2).sum := by
    intro cs
    induction cs with
    | nil => exact Nat.le_refl 0
    | cons c cs ih =>
      have hfirst := byteLength_jsonEscape_le c
      rw [List.flatMap_cons, byteLength_append, List.map_cons, List.sum_cons]
      omega
  have := hbody s.toList
  omega

/-! ### Bytes of values -/

mutual

/-- The bytes of the text of a value, a separator after every item and field. -/
def Json.weight : Json → ℕ
  | .null => 4
  | .bool _ => 5
  | .number text => text.utf8ByteSize
  | .string text => textBytes text
  | .array items => weightItems items + 2
  | .object fields => weightFields fields + 2

def weightItems : List Json → ℕ
  | [] => 0
  | item :: items => item.weight + 1 + weightItems items

def weightFields : List (String × Json) → ℕ
  | [] => 0
  | (key, value) :: fields => textBytes key + value.weight + 2 + weightFields fields

end

theorem weightItems_le {items : List Json} {bound : ℕ} (h : ∀ item ∈ items, item.weight ≤ bound) :
    weightItems items ≤ items.length * (bound + 1) := by
  induction items with
  | nil => exact Nat.zero_le _
  | cons item items ih =>
    have hitem := h item (List.mem_cons_self ..)
    have hrest := ih fun other hother => h other (List.mem_cons_of_mem _ hother)
    rw [weightItems, List.length_cons, Nat.add_mul, Nat.one_mul]
    omega

theorem weightFields_insertField_le (key : String) (value : Json) (fields : List (String × Json)) :
    weightFields (insertField key value fields) ≤
      textBytes key + value.weight + 2 + weightFields fields := by
  induction fields with
  | nil => exact Nat.le_refl _
  | cons field fields ih =>
    obtain ⟨key', value'⟩ := field
    rw [insertField]
    by_cases hkey : key = key'
    · rw [if_pos hkey, weightFields, weightFields]
      omega
    by_cases hlt : key < key'
    · rw [if_neg hkey, if_pos hlt]
      exact Nat.le_refl _
    · rw [if_neg hkey, if_neg hlt, weightFields, weightFields]
      omega

mutual

theorem Json.weight_normal_le : ∀ v : Json, v.normal.weight ≤ v.weight
  | .null => Nat.le_refl _
  | .bool _ => Nat.le_refl _
  | .number _ => Nat.le_refl _
  | .string _ => Nat.le_refl _
  | .array items => by
    rw [Json.normal, Json.weight, Json.weight]
    have := weightItems_normal_le items
    omega
  | .object fields => by
    rw [Json.normal, Json.weight, Json.weight]
    have := weightFields_normal_le fields
    omega

theorem weightItems_normal_le : ∀ items : List Json, weightItems (normalItems items) ≤ weightItems items
  | [] => Nat.le_refl _
  | item :: items => by
    rw [normalItems, weightItems, weightItems]
    have hitem := item.weight_normal_le
    have hrest := weightItems_normal_le items
    omega

theorem weightFields_normal_le : ∀ fields : List (String × Json),
    weightFields (normalFields fields) ≤ weightFields fields
  | [] => Nat.le_refl _
  | (key, value) :: fields => by
    rw [normalFields, weightFields]
    have hvalue := value.weight_normal_le
    have hrest := weightFields_normal_le fields
    have hinsert := weightFields_insertField_le key value.normal (normalFields fields)
    omega

end

mutual

theorem Json.byteLength_render_le : ∀ v : Json, byteLength v.render ≤ v.weight
  | .null => by decide
  | .bool true => by decide
  | .bool false => by decide
  | .number text => by
    rw [Json.render, Json.weight, ← utf8ByteSize_ofList, String.ofList_toList]
  | .string text => Nat.le_refl _
  | .array items => by
    rw [Json.render, Json.weight, byteLength_cons]
    have hbracket : '['.utf8Size = 1 := rfl
    have := byteLength_renderItems_le items
    omega
  | .object fields => by
    rw [Json.render, Json.weight, byteLength_cons]
    have hbrace : '\x7b'.utf8Size = 1 := rfl
    have := byteLength_renderFields_le fields
    omega

theorem byteLength_renderItems_le : ∀ items : List Json,
    byteLength (renderItems items) ≤ weightItems items + 1
  | [] => by decide
  | [item] => by
    have hclose : byteLength [']'] = 1 := rfl
    have hitem := item.byteLength_render_le
    rw [renderItems, byteLength_append, hclose, weightItems, weightItems]
    omega
  | item :: next :: items => by
    have hcomma : ','.utf8Size = 1 := rfl
    have hitem := item.byteLength_render_le
    have hrest := byteLength_renderItems_le (next :: items)
    rw [renderItems, byteLength_append, byteLength_cons, hcomma, weightItems]
    · omega
    · exact List.cons_ne_nil _ _

theorem byteLength_renderFields_le : ∀ fields : List (String × Json),
    byteLength (renderFields fields) ≤ weightFields fields + 1
  | [] => by decide
  | [(key, value)] => by
    have hclose : byteLength ['\x7d'] = 1 := rfl
    have hcolon : ':'.utf8Size = 1 := rfl
    have hvalue := value.byteLength_render_le
    have hkey : byteLength (jsonString key) = textBytes key := rfl
    rw [renderFields, byteLength_append, byteLength_cons, byteLength_append, hclose, hcolon, hkey,
      weightFields, weightFields]
    omega
  | (key, value) :: next :: fields => by
    have hcomma : ','.utf8Size = 1 := rfl
    have hcolon : ':'.utf8Size = 1 := rfl
    have hvalue := value.byteLength_render_le
    have hkey : byteLength (jsonString key) = textBytes key := rfl
    have hrest := byteLength_renderFields_le (next :: fields)
    rw [renderFields, byteLength_append, byteLength_cons, byteLength_append, byteLength_cons, hcolon,
      hcomma, hkey, weightFields]
    · omega
    · exact List.cons_ne_nil _ _

end

/-- **The canonical text of a value is no longer than its weight.** -/
theorem utf8ByteSize_canonicalJson_le (v : Json) : (canonicalJson v).utf8ByteSize ≤ v.weight := by
  rw [canonicalJson, utf8ByteSize_ofList]
  exact v.normal.byteLength_render_le.trans v.weight_normal_le

end HiveChameleon.Gateway
