import HiveChameleon.Gateway.WaxChain
import Mathlib.Data.String.Basic

/-!
# Gateway.CanonicalJson — `canonical/json.ts`

JSON values up to the order of the keys of their objects: the normal form, in which the keys of every
object are sorted, and the canonical text, which is that of the normal form.  For keys of the basic
plane the order of the code points is the order of RFC 8785.
-/

namespace HiveChameleon.Gateway

open Lib

/-! ### Objects -/

/-- Puts a field into a sorted object, in the place of one with the same key. -/
def insertField (key : String) (value : Json) : List (String × Json) → List (String × Json)
  | [] => [(key, value)]
  | (key', value') :: fields =>
    if key = key' then (key, value) :: fields
    else if key < key' then (key, value) :: (key', value') :: fields
    else (key', value') :: insertField key value fields

/-- The keys are in increasing order. -/
def SortedKeys (fields : List (String × Json)) : Prop := fields.Pairwise fun a b => a.1 < b.1

section

variable {key k : String} {value v : Json} {fields fields' : List (String × Json)}

theorem lookup_insertField :
    (insertField key value fields).lookup k = if k = key then some value else fields.lookup k := by
  induction fields with
  | nil =>
    rw [insertField, List.lookup_cons, List.lookup_nil]
    by_cases hk : k = key
    · rw [if_pos hk, hk, beq_self_eq_true]
    · rw [if_neg hk, beq_eq_false_iff_ne.mpr hk]
  | cons field fields ih =>
    obtain ⟨key', value'⟩ := field
    rw [insertField]
    by_cases hsame : key = key'
    · rw [if_pos hsame, List.lookup_cons, List.lookup_cons, hsame]
      by_cases hk : k = key'
      · rw [if_pos hk, hk, beq_self_eq_true]
      · rw [if_neg hk, beq_eq_false_iff_ne.mpr hk]
    rw [if_neg hsame]
    by_cases hlt : key < key'
    · rw [if_pos hlt, List.lookup_cons]
      by_cases hk : k = key
      · rw [if_pos hk, hk, beq_self_eq_true]
      · rw [if_neg hk, beq_eq_false_iff_ne.mpr hk]
    · rw [if_neg hlt, List.lookup_cons, List.lookup_cons, ih]
      by_cases hk' : k = key'
      · rw [hk', beq_self_eq_true, if_neg (Ne.symm hsame), if_neg (Ne.symm hsame)]
      · rw [beq_eq_false_iff_ne.mpr hk']

theorem lt_of_mem_insertField {bound : String} (hkey : bound < key)
    (hfields : ∀ field ∈ fields, bound < field.1) :
    ∀ field ∈ insertField key value fields, bound < field.1 := by
  induction fields with
  | nil =>
    intro field hfield
    rw [List.mem_singleton.mp hfield]
    exact hkey
  | cons first fields ih =>
    obtain ⟨key', value'⟩ := first
    obtain ⟨hfirst, hrest⟩ := List.forall_mem_cons.mp hfields
    rw [insertField]
    by_cases hsame : key = key'
    · rw [if_pos hsame]
      exact List.forall_mem_cons.mpr ⟨hkey, hrest⟩
    rw [if_neg hsame]
    by_cases hlt : key < key'
    · rw [if_pos hlt]
      exact List.forall_mem_cons.mpr ⟨hkey, hfields⟩
    · rw [if_neg hlt]
      exact List.forall_mem_cons.mpr ⟨hfirst, ih hrest⟩

theorem sortedKeys_insertField (h : SortedKeys fields) : SortedKeys (insertField key value fields) := by
  induction fields with
  | nil => exact List.pairwise_singleton _ _
  | cons first fields ih =>
    obtain ⟨key', value'⟩ := first
    obtain ⟨hfirst, hrest⟩ := List.pairwise_cons.mp h
    rw [insertField]
    by_cases hsame : key = key'
    · rw [if_pos hsame]
      refine List.pairwise_cons.mpr ⟨?_, hrest⟩
      rw [hsame]
      exact hfirst
    rw [if_neg hsame]
    by_cases hlt : key < key'
    · rw [if_pos hlt]
      refine List.pairwise_cons.mpr ⟨List.forall_mem_cons.mpr ⟨hlt, fun field hfield => ?_⟩, h⟩
      exact hlt.trans (hfirst field hfield)
    · rw [if_neg hlt]
      have hgt : key' < key := lt_of_le_of_ne (not_lt.mp hlt) (Ne.symm hsame)
      exact List.pairwise_cons.mpr ⟨lt_of_mem_insertField hgt hfirst, ih hrest⟩

theorem lookup_eq_none_of_lt (h : ∀ field ∈ fields, k < field.1) : fields.lookup k = none := by
  induction fields with
  | nil => rfl
  | cons first fields ih =>
    obtain ⟨hfirst, hrest⟩ := List.forall_mem_cons.mp h
    rw [List.lookup_cons, beq_eq_false_iff_ne.mpr hfirst.ne]
    exact ih hrest

theorem sortedKeys_ext : ∀ {fields fields' : List (String × Json)}, SortedKeys fields →
    SortedKeys fields' → (∀ k, fields.lookup k = fields'.lookup k) → fields = fields'
  | [], [], _, _, _ => rfl
  | [], (key, value) :: _, _, _, h => by
    have hkey := h key
    rw [List.lookup_nil, List.lookup_cons, beq_self_eq_true] at hkey
    cases hkey
  | (key, value) :: _, [], _, _, h => by
    have hkey := h key
    rw [List.lookup_nil, List.lookup_cons, beq_self_eq_true] at hkey
    cases hkey
  | (key, value) :: fields, (key', value') :: fields', hs, hs', h => by
    obtain ⟨hfirst, hrest⟩ := List.pairwise_cons.mp hs
    obtain ⟨hfirst', hrest'⟩ := List.pairwise_cons.mp hs'
    -- the smaller of the two first keys would be missing on the other side
    have hkeys : key = key' := by
      rcases lt_trichotomy key key' with hlt | heq | hgt
      · have hmissing : ((key', value') :: fields').lookup key = none :=
          lookup_eq_none_of_lt (List.forall_mem_cons.mpr
            ⟨hlt, fun field hfield => hlt.trans (hfirst' field hfield)⟩)
        have hkey := h key
        rw [hmissing, List.lookup_cons, beq_self_eq_true] at hkey
        cases hkey
      · exact heq
      · have hmissing : ((key, value) :: fields).lookup key' = none :=
          lookup_eq_none_of_lt (List.forall_mem_cons.mpr
            ⟨hgt, fun field hfield => hgt.trans (hfirst field hfield)⟩)
        have hkey := h key'
        rw [hmissing, List.lookup_cons, beq_self_eq_true] at hkey
        cases hkey
    subst hkeys
    have hvalue := h key
    rw [List.lookup_cons, List.lookup_cons, beq_self_eq_true] at hvalue
    obtain rfl := Option.some.inj hvalue
    rw [sortedKeys_ext hrest hrest' fun k => ?_]
    by_cases hk : k = key
    · rw [hk, lookup_eq_none_of_lt hfirst, lookup_eq_none_of_lt hfirst']
    · have hlookup := h k
      rwa [List.lookup_cons, List.lookup_cons, beq_eq_false_iff_ne.mpr hk] at hlookup

end

/-! ### The normal form -/

mutual

/-- The value with the keys of its objects sorted; of two fields with one key the first counts. -/
def Json.normal : Json → Json
  | .null => .null
  | .bool value => .bool value
  | .number value => .number value
  | .string value => .string value
  | .array items => .array (normalItems items)
  | .object fields => .object (normalFields fields)

def normalItems : List Json → List Json
  | [] => []
  | item :: items => item.normal :: normalItems items

def normalFields : List (String × Json) → List (String × Json)
  | [] => []
  | (key, value) :: fields => insertField key value.normal (normalFields fields)

end

/-- The same value, whatever the order of keys. -/
def Json.Same (v w : Json) : Prop := v.normal = w.normal

/-- The property `key` of an object. -/
def Json.get (v : Json) (key : String) : Option Json :=
  match v with
  | .object fields => fields.lookup key
  | _ => none

theorem normalItems_eq_map (items : List Json) : normalItems items = items.map Json.normal := by
  induction items with
  | nil => rfl
  | cons item items ih => rw [normalItems, ih, List.map_cons]

theorem sortedKeys_normalFields (fields : List (String × Json)) : SortedKeys (normalFields fields) := by
  induction fields with
  | nil => exact List.Pairwise.nil
  | cons field fields ih => exact sortedKeys_insertField ih

theorem lookup_normalFields (fields : List (String × Json)) (key : String) :
    (normalFields fields).lookup key = (fields.lookup key).map Json.normal := by
  induction fields with
  | nil => rfl
  | cons field fields ih =>
    obtain ⟨key', value'⟩ := field
    rw [normalFields, lookup_insertField, ih, List.lookup_cons]
    by_cases hk : key = key'
    · rw [if_pos hk, hk, beq_self_eq_true]
      rfl
    · rw [if_neg hk, beq_eq_false_iff_ne.mpr hk]

theorem normalFields_congr {fields fields' : List (String × Json)}
    (h : ∀ key, (fields.lookup key).map Json.normal = (fields'.lookup key).map Json.normal) :
    normalFields fields = normalFields fields' := by
  refine sortedKeys_ext (sortedKeys_normalFields fields) (sortedKeys_normalFields fields') fun key => ?_
  rw [lookup_normalFields, lookup_normalFields]
  exact h key

theorem normalFields_insertField (key : String) (value : Json) (fields : List (String × Json)) :
    normalFields (insertField key value fields) = insertField key value.normal (normalFields fields) := by
  refine sortedKeys_ext (sortedKeys_normalFields _)
    (sortedKeys_insertField (sortedKeys_normalFields fields)) fun k => ?_
  rw [lookup_normalFields, lookup_insertField, lookup_insertField, lookup_normalFields]
  by_cases hk : k = key
  · rw [if_pos hk, if_pos hk]
    rfl
  · rw [if_neg hk, if_neg hk]

mutual

theorem Json.normal_normal : ∀ v : Json, v.normal.normal = v.normal
  | .null => rfl
  | .bool _ => rfl
  | .number _ => rfl
  | .string _ => rfl
  | .array items => by rw [Json.normal, Json.normal, normalItems_normalItems items]
  | .object fields => by rw [Json.normal, Json.normal, normalFields_normalFields fields]

theorem normalItems_normalItems : ∀ items : List Json,
    normalItems (normalItems items) = normalItems items
  | [] => rfl
  | item :: items => by
    rw [normalItems, normalItems, item.normal_normal, normalItems_normalItems items]

theorem normalFields_normalFields : ∀ fields : List (String × Json),
    normalFields (normalFields fields) = normalFields fields
  | [] => rfl
  | (key, value) :: fields => by
    rw [normalFields, normalFields_insertField, value.normal_normal, normalFields_normalFields fields]

end

namespace Json.Same

variable {u v w : Json} {key : String}

theorem refl (v : Json) : v.Same v := rfl

theorem symm (h : v.Same w) : w.Same v := Eq.symm h

theorem trans (h : u.Same v) (h' : v.Same w) : u.Same w := Eq.trans h h'

theorem normal (v : Json) : v.normal.Same v := v.normal_normal

end Json.Same

theorem Json.get_normal (v : Json) (key : String) : v.normal.get key = (v.get key).map Json.normal := by
  cases v with
  | object fields => exact lookup_normalFields fields key
  | _ => rfl

/-! ### The canonical text -/

mutual

/-- The text of a value without white space, keys in the order they have. -/
def Json.render : Json → List Char
  | .null => "null".toList
  | .bool true => "true".toList
  | .bool false => "false".toList
  | .number value => value.toList
  | .string value => jsonString value
  | .array items => '[' :: renderItems items
  | .object fields => '\x7b' :: renderFields fields

/-- The items and the closing bracket. -/
def renderItems : List Json → List Char
  | [] => [']']
  | [item] => item.render ++ [']']
  | item :: items => item.render ++ ',' :: renderItems items

def renderFields : List (String × Json) → List Char
  | [] => ['\x7d']
  | [(key, value)] => jsonString key ++ ':' :: (value.render ++ ['\x7d'])
  | (key, value) :: fields => jsonString key ++ ':' :: (value.render ++ ',' :: renderFields fields)

end

/-- `canonicalJson`: the JSON canonicalization of RFC 8785. -/
def canonicalJson (v : Json) : String := String.ofList v.normal.render

theorem canonicalJson_congr {v w : Json} (h : v.Same w) : canonicalJson v = canonicalJson w := by
  rw [canonicalJson, canonicalJson, show v.normal = w.normal from h]

end HiveChameleon.Gateway
