import HiveChameleon.Gateway.JsonParse

/-!
# Gateway.Zod — schemas of JSON values

The combinators of the schema library, as far as the protocol uses them.  A schema reads a value, and
what it hands on is a copy whose objects have the keys in the order of the schema.  Every schema carries
the proofs that the order of keys in its input is without effect, that it accepts what it hands on as it
is, and that the canonical text of this can be parsed.
-/

namespace HiveChameleon.Gateway

open Lib

structure Schema where
  parse : Json → Option Json
  respects : ∀ v w, v.Same w → (parse v).map Json.normal = (parse w).map Json.normal
  stable : ∀ v d, parse v = some d → (parse d).map Json.normal = some d.normal
  tidy : ∀ v d, parse v = some d → d.normal.Tidy

/-! ### Values of one kind -/

section

variable {v w : Json} {text : String} {items : List Json} {fields : List (String × Json)}

theorem Json.Same.string (h : (Json.string text).Same w) : w = .string text := by
  cases w <;> cases h
  rfl

theorem Json.Same.number (h : (Json.number text).Same w) : w = .number text := by
  cases w <;> cases h
  rfl

theorem Json.Same.array (h : (Json.array items).Same w) :
    ∃ items', w = .array items' ∧ items.map Json.normal = items'.map Json.normal := by
  cases w with
  | array items' =>
    have heq : normalItems items = normalItems items' := Json.array.inj h
    rw [normalItems_eq_map, normalItems_eq_map] at heq
    exact ⟨items', rfl, heq⟩
  | _ => cases h

theorem Json.Same.object (h : (Json.object fields).Same w) :
    ∃ fields', w = .object fields' ∧ normalFields fields = normalFields fields' := by
  cases w with
  | object fields' => exact ⟨fields', rfl, Json.object.inj h⟩
  | _ => cases h

theorem Json.Same.get (h : v.Same w) (key : String) :
    (v.get key).map Json.normal = (w.get key).map Json.normal := by
  rw [← Json.get_normal, ← Json.get_normal, show v.normal = w.normal from h]

end

namespace Schema

/-- A string that `read` hands on, or refuses. -/
def string (read : String → Option String) (hread : ∀ s t, read s = some t → read t = some t) :
    Schema where
  parse v :=
    match v with
    | .string s => (read s).map Json.string
    | _ => none
  respects v w h := by
    by_cases hv : ∃ s, v = .string s
    · obtain ⟨s, rfl⟩ := hv
      rw [h.string]
    by_cases hw : ∃ s, w = .string s
    · obtain ⟨s, rfl⟩ := hw
      exact absurd ⟨s, h.symm.string⟩ hv
    cases v with
    | string s => exact absurd ⟨s, rfl⟩ hv
    | _ =>
      cases w with
      | string s => exact absurd ⟨s, rfl⟩ hw
      | _ => rfl
  stable v d h := by
    cases v with
    | string s =>
      obtain ⟨t, ht, rfl⟩ := Option.map_eq_some_iff.mp h
      show ((read t).map Json.string).map Json.normal = _
      rw [hread s t ht]
      rfl
    | _ => cases h
  tidy v d h := by
    cases v with
    | string s =>
      obtain ⟨t, -, rfl⟩ := Option.map_eq_some_iff.mp h
      exact trivial
    | _ => cases h

/-- A string that satisfies `p`. -/
def stringOf (p : String → Bool) : Schema :=
  string (fun s => if p s then some s else none) fun s t h => by
    by_cases hp : p s = true
    · rw [if_pos hp] at h
      obtain rfl := Option.some.inj h
      exact if_pos hp
    · rw [if_neg hp] at h
      cases h

/-- `z.literal` of a string. -/
def literal (text : String) : Schema := stringOf fun s => s == text

/-- `z.enum` -/
def enum (values : List String) : Schema := stringOf fun s => values.contains s

/-- A number whose text satisfies `p`. -/
def numberOf (p : String → Bool) (hp : ∀ s, p s = true → isPlainNumber s.toList = true) : Schema where
  parse v :=
    match v with
    | .number s => if p s then some (.number s) else none
    | _ => none
  respects v w h := by
    by_cases hv : ∃ s, v = .number s
    · obtain ⟨s, rfl⟩ := hv
      rw [h.number]
    by_cases hw : ∃ s, w = .number s
    · obtain ⟨s, rfl⟩ := hw
      exact absurd ⟨s, h.symm.number⟩ hv
    cases v with
    | number s => exact absurd ⟨s, rfl⟩ hv
    | _ =>
      cases w with
      | number s => exact absurd ⟨s, rfl⟩ hw
      | _ => rfl
  stable v d h := by
    cases v with
    | number s =>
      by_cases hs : p s = true
      · simp only [if_pos hs] at h
        obtain rfl := Option.some.inj h
        simp only [if_pos hs]
        rfl
      · simp only [if_neg hs] at h
        cases h
    | _ => cases h
  tidy v d h := by
    cases v with
    | number s =>
      by_cases hs : p s = true
      · simp only [if_pos hs] at h
        obtain rfl := Option.some.inj h
        exact hp s hs
      · simp only [if_neg hs] at h
        cases h
    | _ => cases h

/-- `z.number().int().min(min).max(max)`, for bounds of two digits. -/
def integer (min max : ℕ) : Schema :=
  numberOf (fun s => isPlainNumber s.toList &&
    (List.range (max + 1)).any fun n => min ≤ n && s == toString n) fun s h => by
    rw [Bool.and_eq_true] at h
    exact h.1

/-! ### Arrays -/

def readItems (read : Json → Option Json) : List Json → Option (List Json)
  | [] => some []
  | item :: items =>
    match read item with
    | none => none
    | some item =>
      match readItems read items with
      | none => none
      | some items => some (item :: items)

section

variable {read : Json → Option Json} {items items' out : List Json} {item d : Json}

theorem readItems_cons_eq_some : readItems read (item :: items) = some out ↔
    ∃ d rest, read item = some d ∧ readItems read items = some rest ∧ out = d :: rest := by
  rw [readItems]
  cases read item with
  | none => simp
  | some d =>
    cases readItems read items with
    | none => simp
    | some rest => simp [eq_comm]

theorem length_readItems (h : readItems read items = some out) : out.length = items.length := by
  induction items generalizing out with
  | nil => rw [← Option.some.inj h]
  | cons item items ih =>
    obtain ⟨d, rest, -, hrest, rfl⟩ := readItems_cons_eq_some.mp h
    rw [List.length_cons, List.length_cons, ih hrest]

theorem mem_readItems (h : readItems read items = some out) (hd : d ∈ out) :
    ∃ item ∈ items, read item = some d := by
  induction items generalizing out with
  | nil =>
    rw [← Option.some.inj h] at hd
    cases hd
  | cons item items ih =>
    obtain ⟨first, rest, hfirst, hrest, rfl⟩ := readItems_cons_eq_some.mp h
    rcases List.mem_cons.mp hd with rfl | hd
    · exact ⟨item, List.mem_cons_self .., hfirst⟩
    · obtain ⟨found, hmem, hread⟩ := ih hrest hd
      exact ⟨found, List.mem_cons_of_mem _ hmem, hread⟩

theorem readItems_respects
    (hread : ∀ v w, v.Same w → (read v).map Json.normal = (read w).map Json.normal) :
    ∀ {items items' : List Json}, items.map Json.normal = items'.map Json.normal →
      (readItems read items).map normalItems = (readItems read items').map normalItems
  | [], [], _ => rfl
  | item :: items, item' :: items', h => by
    obtain ⟨hitem, hitems⟩ := List.cons.inj h
    have hfirst := hread item item' hitem
    have hrest := readItems_respects hread hitems
    rw [readItems, readItems]
    cases hd : read item with
    | none =>
      rw [hd, Option.map_none, eq_comm, Option.map_eq_none_iff] at hfirst
      rw [hfirst]
    | some d =>
      rw [hd, Option.map_some, eq_comm, Option.map_eq_some_iff] at hfirst
      obtain ⟨d', hd', hsame⟩ := hfirst
      rw [hd']
      cases hout : readItems read items with
      | none =>
        rw [hout, Option.map_none, eq_comm, Option.map_eq_none_iff] at hrest
        simp only [hrest]
      | some out =>
        rw [hout, Option.map_some, eq_comm, Option.map_eq_some_iff] at hrest
        obtain ⟨out', hout', hall⟩ := hrest
        simp only [hout', Option.map_some, normalItems, hsame, hall]

theorem readItems_stable
    (hread : ∀ v d, read v = some d → (read d).map Json.normal = some d.normal) :
    ∀ {items out : List Json}, readItems read items = some out →
      (readItems read out).map normalItems = some (normalItems out)
  | [], out, h => by
    obtain rfl := Option.some.inj h
    rfl
  | item :: items, out, h => by
    obtain ⟨d, rest, hd, hrest, rfl⟩ := readItems_cons_eq_some.mp h
    obtain ⟨d', hd', hsame⟩ := Option.map_eq_some_iff.mp (hread item d hd)
    obtain ⟨rest', hrest', hall⟩ := Option.map_eq_some_iff.mp (readItems_stable hread hrest)
    rw [readItems_cons_eq_some.mpr ⟨d', rest', hd', hrest', rfl⟩, Option.map_some, normalItems,
      normalItems, hsame, hall]

end

/-- `z.array(item).min(min).max(max)` -/
def array (min max : ℕ) (item : Schema) : Schema where
  parse v :=
    match v with
    | .array items =>
      if min ≤ items.length ∧ items.length ≤ max then (readItems item.parse items).map Json.array
      else none
    | _ => none
  respects v w h := by
    by_cases hv : ∃ items, v = .array items
    · obtain ⟨items, rfl⟩ := hv
      obtain ⟨items', rfl, hitems⟩ := h.array
      have hlength : items.length = items'.length := by
        rw [← List.length_map Json.normal, hitems, List.length_map]
      have hread := readItems_respects item.respects hitems
      simp only [hlength]
      by_cases hbounds : min ≤ items'.length ∧ items'.length ≤ max
      · rw [if_pos hbounds, if_pos hbounds, Option.map_map, Option.map_map]
        have hnormal : Json.normal ∘ Json.array = Json.array ∘ normalItems := rfl
        rw [hnormal, ← Option.map_map, ← Option.map_map, hread]
      · rw [if_neg hbounds, if_neg hbounds]
    by_cases hw : ∃ items, w = .array items
    · obtain ⟨items, rfl⟩ := hw
      obtain ⟨items', hitems', -⟩ := h.symm.array
      exact absurd ⟨items', hitems'⟩ hv
    cases v with
    | array items => exact absurd ⟨items, rfl⟩ hv
    | _ =>
      cases w with
      | array items => exact absurd ⟨items, rfl⟩ hw
      | _ => rfl
  stable v d h := by
    cases v with
    | array items =>
      by_cases hbounds : min ≤ items.length ∧ items.length ≤ max
      · simp only [if_pos hbounds] at h
        obtain ⟨out, hout, rfl⟩ := Option.map_eq_some_iff.mp h
        have hlength := length_readItems hout
        obtain ⟨out', hout', hall⟩ :=
          Option.map_eq_some_iff.mp (readItems_stable item.stable hout)
        simp only [hlength, if_pos hbounds, hout', Option.map_some, Json.normal, hall]
      · simp only [if_neg hbounds] at h
        cases h
    | _ => cases h
  tidy v d h := by
    cases v with
    | array items =>
      by_cases hbounds : min ≤ items.length ∧ items.length ≤ max
      · simp only [if_pos hbounds] at h
        obtain ⟨out, hout, rfl⟩ := Option.map_eq_some_iff.mp h
        refine tidy_array fun d hd => ?_
        obtain ⟨v, -, hv⟩ := mem_readItems hout hd
        exact item.tidy v d hv
      · simp only [if_neg hbounds] at h
        cases h
    | _ => cases h

/-! ### Objects -/

/-- A key of an object, `.optional()` or not. -/
structure Field where
  schema : Schema
  optional : Bool

def required (schema : Schema) : Field := ⟨schema, false⟩

def optional (schema : Schema) : Field := ⟨schema, true⟩

/-- The fields that a shape names, in its order. -/
def readFields (fields : List (String × Json)) :
    List (String × Field) → Option (List (String × Json))
  | [] => some []
  | (key, field) :: shape =>
    match fields.lookup key with
    | none => if field.optional then readFields fields shape else none
    | some value =>
      match field.schema.parse value with
      | none => none
      | some value =>
        match readFields fields shape with
        | none => none
        | some rest => some ((key, value) :: rest)

section

variable {fields fields' out : List (String × Json)} {shape : List (String × Field)} {key : String}
  {field : Field}

/-- One field of the shape: it is missing and may be, or it is read. -/
theorem readFields_cons_eq_some : readFields fields ((key, field) :: shape) = some out ↔
    (fields.lookup key = none ∧ field.optional = true ∧ readFields fields shape = some out) ∨
      ∃ value d rest, fields.lookup key = some value ∧ field.schema.parse value = some d ∧
        readFields fields shape = some rest ∧ out = (key, d) :: rest := by
  rw [readFields]
  cases hvalue : fields.lookup key with
  | none =>
    by_cases hoptional : field.optional = true
    · simp [hoptional]
    · simp [hoptional]
  | some value =>
    cases hd : field.schema.parse value with
    | none => simp [hd]
    | some d =>
      cases hrest : readFields fields shape with
      | none => simp [hd]
      | some rest =>
        simp only [hd]
        constructor
        · intro h
          exact .inr ⟨value, d, rest, rfl, hd, rfl, (Option.some.inj h).symm⟩
        · rintro (⟨hnone, -, -⟩ | ⟨value', d', rest', hvalue', hd', hrest', rfl⟩)
          · cases hnone
          · obtain rfl := Option.some.inj hvalue'
            obtain rfl := Option.some.inj (hd.symm.trans hd')
            rw [Option.some.inj hrest']

theorem mem_keys_of_readFields : ∀ {shape : List (String × Field)} {out : List (String × Json)},
    readFields fields shape = some out → ∀ entry ∈ out, entry.1 ∈ shape.map Prod.fst
  | [], out, h, entry, hentry => by
    rw [← Option.some.inj h] at hentry
    cases hentry
  | (key, field) :: shape, out, h, entry, hentry => by
    rcases readFields_cons_eq_some.mp h with ⟨-, -, hrest⟩ | ⟨value, d, rest, -, -, hrest, rfl⟩
    · exact List.mem_cons_of_mem _ (mem_keys_of_readFields hrest entry hentry)
    · rcases List.mem_cons.mp hentry with rfl | hentry
      · exact List.mem_cons_self ..
      · exact List.mem_cons_of_mem _ (mem_keys_of_readFields hrest entry hentry)

theorem lookup_eq_none_of_readFields (h : readFields fields shape = some out)
    (hkey : key ∉ shape.map Prod.fst) : out.lookup key = none := by
  refine List.lookup_eq_none_iff.mpr fun entry hentry => bne_iff_ne.mpr ?_
  rintro rfl
  exact hkey (mem_keys_of_readFields h entry hentry)

theorem lookup_readFields : ∀ {shape : List (String × Field)} {out : List (String × Json)},
    (shape.map Prod.fst).Nodup → readFields fields shape = some out →
      ∀ {key field}, (key, field) ∈ shape →
        out.lookup key = (fields.lookup key).bind field.schema.parse ∧
          (out.lookup key = none → field.optional = true)
  | (key', field') :: shape, out, hnodup, h, key, field, hfield => by
    obtain ⟨hfresh, hnodup⟩ := List.nodup_cons.mp hnodup
    rcases List.mem_cons.mp hfield with heq | htail
    · obtain ⟨rfl, rfl⟩ := Prod.mk.inj heq
      rcases readFields_cons_eq_some.mp h with ⟨hnone, hoptional, hrest⟩ |
        ⟨value, d, rest, hvalue, hd, hrest, rfl⟩
      · rw [hnone, lookup_eq_none_of_readFields hrest hfresh]
        exact ⟨rfl, fun _ => hoptional⟩
      · rw [List.lookup_cons, beq_self_eq_true, hvalue, Option.bind_some, hd]
        exact ⟨rfl, fun hnone => by cases hnone⟩
    · have hne : key ≠ key' := by
        rintro rfl
        exact hfresh (List.mem_map.mpr ⟨_, htail, rfl⟩)
      rcases readFields_cons_eq_some.mp h with ⟨-, -, hrest⟩ | ⟨value, d, rest, -, -, hrest, rfl⟩
      · exact lookup_readFields hnodup hrest htail
      · rw [List.lookup_cons, beq_eq_false_iff_ne.mpr hne]
        exact lookup_readFields hnodup hrest htail

theorem readFields_respects
    (hfields : ∀ key, (fields.lookup key).map Json.normal = (fields'.lookup key).map Json.normal) :
    ∀ shape, (readFields fields shape).map normalFields = (readFields fields' shape).map normalFields
  | [] => rfl
  | (key, field) :: shape => by
    have hrest := readFields_respects hfields shape
    have hvalue := hfields key
    rw [readFields, readFields]
    cases hv : fields.lookup key with
    | none =>
      rw [hv, Option.map_none, eq_comm, Option.map_eq_none_iff] at hvalue
      rw [hvalue]
      by_cases hoptional : field.optional = true
      · simp only [hoptional, if_true]
        exact hrest
      · simp only [hoptional]
        rfl
    | some v =>
      rw [hv, Option.map_some, eq_comm, Option.map_eq_some_iff] at hvalue
      obtain ⟨v', hv', hsame⟩ := hvalue
      have hparse := field.schema.respects v' v hsame
      rw [hv']
      cases hd : field.schema.parse v with
      | none =>
        rw [hd, Option.map_none, Option.map_eq_none_iff] at hparse
        simp only [hd, hparse]
      | some d =>
        rw [hd, Option.map_some, Option.map_eq_some_iff] at hparse
        obtain ⟨d', hd', hread⟩ := hparse
        cases hout : readFields fields shape with
        | none =>
          rw [hout, Option.map_none, eq_comm, Option.map_eq_none_iff] at hrest
          simp only [hd, hd', hrest]
        | some out =>
          rw [hout, Option.map_some, eq_comm, Option.map_eq_some_iff] at hrest
          obtain ⟨out', hout', hall⟩ := hrest
          simp only [hd, hd', hout', Option.map_some, normalFields, hread, hall]

/-- What was read is read again, also among other fields. -/
theorem readFields_stable {all : List (String × Json)} :
    ∀ {shape : List (String × Field)} {out : List (String × Json)}, (shape.map Prod.fst).Nodup →
      readFields fields shape = some out →
      (∀ key ∈ shape.map Prod.fst, all.lookup key = out.lookup key) →
      (readFields all shape).map normalFields = some (normalFields out)
  | [], out, _, h, _ => by
    obtain rfl := Option.some.inj h
    rfl
  | (key, field) :: shape, out, hnodup, h, hall => by
    obtain ⟨hfresh, hnodup⟩ := List.nodup_cons.mp hnodup
    have hkey := hall key (List.mem_cons_self ..)
    rcases readFields_cons_eq_some.mp h with ⟨-, hoptional, hrest⟩ |
      ⟨value, d, rest, -, hd, hrest, rfl⟩
    · rw [lookup_eq_none_of_readFields hrest hfresh] at hkey
      have hagain := readFields_stable hnodup hrest fun key hkey => hall key (List.mem_cons_of_mem _ hkey)
      rw [readFields, hkey]
      simp only [hoptional, if_true]
      exact hagain
    · rw [List.lookup_cons, beq_self_eq_true] at hkey
      have hagain : (readFields all shape).map normalFields = some (normalFields rest) := by
        refine readFields_stable hnodup hrest fun key' hkey' => ?_
        have hne : key' ≠ key := fun heq => hfresh (heq ▸ hkey')
        have hlookup := hall key' (List.mem_cons_of_mem _ hkey')
        rwa [List.lookup_cons, beq_eq_false_iff_ne.mpr hne] at hlookup
      obtain ⟨d', hd', hsame⟩ := Option.map_eq_some_iff.mp (field.schema.stable value d hd)
      obtain ⟨rest', hrest', hsames⟩ := Option.map_eq_some_iff.mp hagain
      rw [readFields_cons_eq_some.mpr (.inr ⟨d, d', rest', hkey, hd', hrest', rfl⟩), Option.map_some,
        normalFields, normalFields, hsame, hsames]

theorem tidy_readFields : ∀ {shape : List (String × Field)} {out : List (String × Json)},
    readFields fields shape = some out → ∀ entry ∈ out, entry.2.normal.Tidy
  | [], out, h, entry, hentry => by
    rw [← Option.some.inj h] at hentry
    cases hentry
  | (key, field) :: shape, out, h, entry, hentry => by
    rcases readFields_cons_eq_some.mp h with ⟨-, -, hrest⟩ | ⟨value, d, rest, -, hd, hrest, rfl⟩
    · exact tidy_readFields hrest entry hentry
    · rcases List.mem_cons.mp hentry with rfl | hentry
      · exact field.schema.tidy value d hd
      · exact tidy_readFields hrest entry hentry

/-- Every key of the object is one of the shape. -/
def Known (shape : List (String × Field)) (fields : List (String × Json)) : Prop :=
  ∀ entry ∈ fields, entry.1 ∈ shape.map Prod.fst

instance : Decidable (Known shape fields) := inferInstanceAs (Decidable (∀ entry ∈ fields, _))

theorem known_iff : Known shape fields ↔
    ∀ key, fields.lookup key ≠ none → key ∈ shape.map Prod.fst := by
  constructor
  · intro h key hkey
    obtain ⟨value, hvalue⟩ := Option.ne_none_iff_exists'.mp hkey
    obtain ⟨before, after, rfl, -⟩ := List.lookup_eq_some_iff.mp hvalue
    exact h (key, value) (List.mem_append_right _ (List.mem_cons_self ..))
  · intro h entry hentry
    refine h entry.1 fun hnone => ?_
    have hne := List.lookup_eq_none_iff.mp hnone entry hentry
    rw [bne_self_eq_false] at hne
    cases hne

theorem known_congr
    (hfields : ∀ key, (fields.lookup key).map Json.normal = (fields'.lookup key).map Json.normal) :
    Known shape fields ↔ Known shape fields' := by
  rw [known_iff, known_iff]
  refine forall_congr' fun key => ?_
  have hnone : fields.lookup key = none ↔ fields'.lookup key = none := by
    rw [← Option.map_eq_none_iff (f := Json.normal), hfields, Option.map_eq_none_iff]
  rw [ne_eq, ne_eq, hnone]

end

/-- `z.strictObject(shape)` -/
def strictObject (shape : List (String × Field)) (hnodup : (shape.map Prod.fst).Nodup) : Schema where
  parse v :=
    match v with
    | .object fields => if Known shape fields then (readFields fields shape).map Json.object else none
    | _ => none
  respects v w h := by
    by_cases hv : ∃ fields, v = .object fields
    · obtain ⟨fields, rfl⟩ := hv
      obtain ⟨fields', rfl, hfields⟩ := h.object
      have hlookup : ∀ key,
          (fields.lookup key).map Json.normal = (fields'.lookup key).map Json.normal := fun key => by
        rw [← lookup_normalFields, ← lookup_normalFields, hfields]
      have hread := readFields_respects hlookup shape
      simp only [known_congr hlookup]
      by_cases hknown : Known shape fields'
      · rw [if_pos hknown, if_pos hknown, Option.map_map, Option.map_map]
        have hnormal : Json.normal ∘ Json.object = Json.object ∘ normalFields := rfl
        rw [hnormal, ← Option.map_map, ← Option.map_map, hread]
      · rw [if_neg hknown, if_neg hknown]
    by_cases hw : ∃ fields, w = .object fields
    · obtain ⟨fields, rfl⟩ := hw
      obtain ⟨fields', hfields', -⟩ := h.symm.object
      exact absurd ⟨fields', hfields'⟩ hv
    cases v with
    | object fields => exact absurd ⟨fields, rfl⟩ hv
    | _ =>
      cases w with
      | object fields => exact absurd ⟨fields, rfl⟩ hw
      | _ => rfl
  stable v d h := by
    cases v with
    | object fields =>
      by_cases hknown : Known shape fields
      · simp only [if_pos hknown] at h
        obtain ⟨out, hout, rfl⟩ := Option.map_eq_some_iff.mp h
        have hknown' : Known shape out := mem_keys_of_readFields hout
        obtain ⟨out', hout', hall⟩ :=
          Option.map_eq_some_iff.mp (readFields_stable hnodup hout fun _ _ => rfl)
        simp only [if_pos hknown', hout', Option.map_some, Json.normal, hall]
      · simp only [if_neg hknown] at h
        cases h
    | _ => cases h
  tidy v d h := by
    cases v with
    | object fields =>
      by_cases hknown : Known shape fields
      · simp only [if_pos hknown] at h
        obtain ⟨out, hout, rfl⟩ := Option.map_eq_some_iff.mp h
        exact tidy_object (tidy_readFields hout)
      · simp only [if_neg hknown] at h
        cases h
    | _ => cases h

/-- **What a strict object hands on of one of its keys.** -/
theorem get_strictObject {shape : List (String × Field)} {hnodup : (shape.map Prod.fst).Nodup}
    {v d : Json} (h : (strictObject shape hnodup).parse v = some d) {key : String} {field : Field}
    (hfield : (key, field) ∈ shape) : d.get key = (v.get key).bind field.schema.parse ∧
      (d.get key = none → field.optional = true) := by
  cases v with
  | object fields =>
    simp only [strictObject] at h
    by_cases hknown : Known shape fields
    · rw [if_pos hknown] at h
      obtain ⟨out, hout, rfl⟩ := Option.map_eq_some_iff.mp h
      exact lookup_readFields hnodup hout hfield
    · rw [if_neg hknown] at h
      cases h
  | _ => cases h

/-! ### Refinements and unions -/

/-- `.refine` and `.superRefine`: a check of the value that `schema` hands on. -/
def refine (schema : Schema) (p : Json → Bool) (hp : ∀ v w, v.Same w → p v = p w) : Schema where
  parse v :=
    match schema.parse v with
    | some d => if p d then some d else none
    | none => none
  respects v w h := by
    have hparse := schema.respects v w h
    cases hd : schema.parse v with
    | none =>
      rw [hd, Option.map_none, eq_comm, Option.map_eq_none_iff] at hparse
      simp only [hparse]
    | some d =>
      rw [hd, Option.map_some, eq_comm, Option.map_eq_some_iff] at hparse
      obtain ⟨d', hd', hsame⟩ := hparse
      simp only [hd', hp d' d hsame]
      by_cases hcheck : p d = true
      · simp only [hcheck, if_true, Option.map_some, hsame]
      · simp only [hcheck]
        rfl
  stable v d h := by
    cases hd : schema.parse v with
    | none => simp only [hd] at h; cases h
    | some d' =>
      simp only [hd] at h
      by_cases hcheck : p d' = true
      · rw [if_pos hcheck] at h
        obtain rfl := Option.some.inj h
        obtain ⟨again, hagain, hsame⟩ := Option.map_eq_some_iff.mp (schema.stable v d' hd)
        simp only [hagain, hp again d' hsame, if_pos hcheck, Option.map_some, hsame]
      · rw [if_neg hcheck] at h
        cases h
  tidy v d h := by
    cases hd : schema.parse v with
    | none => simp only [hd] at h; cases h
    | some d' =>
      simp only [hd] at h
      by_cases hcheck : p d' = true
      · rw [if_pos hcheck] at h
        obtain rfl := Option.some.inj h
        exact schema.tidy v d' hd
      · rw [if_neg hcheck] at h
        cases h

theorem refine_eq_some {schema : Schema} {p : Json → Bool} {hp : ∀ v w, v.Same w → p v = p w}
    {v d : Json} : (schema.refine p hp).parse v = some d ↔ schema.parse v = some d ∧ p d = true := by
  simp only [refine]
  cases schema.parse v with
  | none => simp
  | some d' =>
    by_cases hcheck : p d' = true
    · simp only [if_pos hcheck, Option.some.injEq]
      exact ⟨fun heq => ⟨heq, heq ▸ hcheck⟩, fun heq => heq.1⟩
    · simp only [if_neg hcheck, Option.some.injEq]
      refine ⟨fun hnone => (by cases hnone), fun heq => ?_⟩
      obtain ⟨rfl, hd⟩ := heq
      exact absurd hd hcheck

/-- What the schema hands on has this string at the key. -/
def Tagged (schema : Schema) (key tag : String) : Prop :=
  ∀ v d, schema.parse v = some d → d.get key = some (.string tag)

theorem parse_literal {text : String} {v d : Json} (h : (literal text).parse v = some d) :
    d = .string text := by
  cases v with
  | string s =>
    obtain ⟨t, ht, rfl⟩ := Option.map_eq_some_iff.mp h
    change (if (s == text) = true then some s else none) = some t at ht
    by_cases hs : s = text
    · rw [if_pos (beq_iff_eq.mpr hs)] at ht
      rw [← Option.some.inj ht, hs]
    · rw [if_neg (fun heq => hs (beq_iff_eq.mp heq))] at ht
      cases ht
  | _ => cases h

theorem tagged_strictObject {shape : List (String × Field)} {hnodup : (shape.map Prod.fst).Nodup}
    {key tag : String} (hfield : (key, required (literal tag)) ∈ shape) :
    (strictObject shape hnodup).Tagged key tag := by
  intro v d h
  obtain ⟨hget, hpresent⟩ := get_strictObject h hfield
  cases hd : d.get key with
  | none => exact absurd (hpresent hd) Bool.false_ne_true
  | some value =>
    rw [hd] at hget
    obtain ⟨read, -, hparse⟩ := Option.bind_eq_some_iff.mp hget.symm
    rw [parse_literal hparse]

theorem Tagged.refine {schema : Schema} {p : Json → Bool} {hp : ∀ v w, v.Same w → p v = p w}
    {key tag : String} (h : schema.Tagged key tag) : (schema.refine p hp).Tagged key tag :=
  fun v d hd => h v d (refine_eq_some.mp hd).1

/-- The option that the tag of a value selects. -/
def select (key : String) (options : List (String × Schema)) (v : Json) : Option Schema :=
  match v.get key with
  | some (.string tag) => options.lookup tag
  | _ => none

theorem select_congr {key : String} {options : List (String × Schema)} {v w : Json}
    (h : v.Same w) : select key options v = select key options w := by
  have hget := h.get key
  rw [select, select]
  cases hv : v.get key with
  | none =>
    rw [hv, Option.map_none, eq_comm, Option.map_eq_none_iff] at hget
    rw [hget]
  | some x =>
    rw [hv, Option.map_some, eq_comm, Option.map_eq_some_iff] at hget
    obtain ⟨y, hy, hsame⟩ := hget
    rw [hy]
    by_cases hx : ∃ s, x = .string s
    · obtain ⟨s, rfl⟩ := hx
      rw [Json.Same.string (w := y) (Eq.symm hsame)]
    by_cases hy' : ∃ s, y = .string s
    · obtain ⟨s, rfl⟩ := hy'
      exact absurd ⟨s, Json.Same.string hsame⟩ hx
    cases x with
    | string s => exact absurd ⟨s, rfl⟩ hx
    | _ =>
      cases y with
      | string s => exact absurd ⟨s, rfl⟩ hy'
      | _ => rfl

/-- `z.discriminatedUnion(key, options)` -/
def discriminatedUnion (key : String) (options : List (String × Schema))
    (htags : ∀ tag schema, options.lookup tag = some schema → schema.Tagged key tag) : Schema where
  parse v :=
    match select key options v with
    | some schema => schema.parse v
    | none => none
  respects v w h := by
    rw [select_congr h]
    cases select key options w with
    | none => rfl
    | some schema => exact schema.respects v w h
  stable v d h := by
    cases hselect : select key options v with
    | none => simp only [hselect] at h; cases h
    | some schema =>
      simp only [hselect] at h
      have hagain : select key options d = some schema := by
        rw [select] at hselect
        split at hselect
        · rename_i tag _
          rw [select, htags tag schema hselect v d h]
          exact hselect
        · cases hselect
      simp only [hagain]
      exact schema.stable v d h
  tidy v d h := by
    cases hselect : select key options v with
    | none => simp only [hselect] at h; cases h
    | some schema =>
      simp only [hselect] at h
      exact schema.tidy v d h

theorem tagged_of_mem {key : String} {options : List (String × Schema)}
    (h : ∀ option ∈ options, option.2.Tagged key option.1) (tag : String) (schema : Schema)
    (hlookup : options.lookup tag = some schema) : schema.Tagged key tag := by
  obtain ⟨before, after, rfl, -⟩ := List.lookup_eq_some_iff.mp hlookup
  exact h (tag, schema) (List.mem_append_right _ (List.mem_cons_self ..))

end Schema

/-! ### Reading values for a refinement -/

namespace Json

/-- The text of a property that is a string. -/
def text (v : Json) (key : String) : Option String := (v.get key).bind asString

/-- The items of a property that is an array. -/
def items (v : Json) (key : String) : List Json := ((v.get key).bind asArray).getD []

/-- The texts of an array of strings. -/
def texts (v : Json) (key : String) : List (Option String) := (v.items key).map asString

/-- The text of a number. -/
def asNumber : Json → Option String
  | number value => some value
  | _ => none

theorem asNumber_normal (v : Json) : v.normal.asNumber = v.asNumber := by
  cases v <;> rfl

theorem asString_normal (v : Json) : v.normal.asString = v.asString := by
  cases v <;> rfl

theorem asArray_normal (v : Json) : v.normal.asArray = v.asArray.map (List.map normal) := by
  cases v with
  | array items =>
    show some (normalItems items) = some (items.map normal)
    rw [normalItems_eq_map]
  | _ => rfl

theorem text_normal (v : Json) (key : String) : v.normal.text key = v.text key := by
  rw [text, text, get_normal, Option.bind_map]
  exact congrArg (Option.bind _) (funext asString_normal)

theorem items_normal (v : Json) (key : String) : v.normal.items key = (v.items key).map normal := by
  rw [items, items, get_normal, Option.bind_map]
  have hitems : asArray ∘ normal = fun v => v.asArray.map (List.map normal) := funext asArray_normal
  rw [hitems]
  cases v.get key with
  | none => rfl
  | some w =>
    rw [Option.bind_some, Option.bind_some]
    cases w.asArray <;> rfl

theorem texts_normal (v : Json) (key : String) : v.normal.texts key = v.texts key := by
  rw [texts, texts, items_normal, List.map_map]
  exact congrArg (fun f => List.map f _) (funext asString_normal)

theorem isSome_get_normal (v : Json) (key : String) :
    (v.normal.get key).isSome = (v.get key).isSome := by
  rw [get_normal, Option.isSome_map]

theorem respects_of_normal {α : Type} {f : Json → α} (hf : ∀ v, f v.normal = f v) (v w : Json)
    (h : v.Same w) : f v = f w := by
  rw [← hf v, ← hf w, show v.normal = w.normal from h]

end Json

/-! ### What schemas hand on -/

namespace Schema

section

variable {shape : List (String × Field)} {hnodup : (shape.map Prod.fst).Nodup} {v d : Json}
  {p : String → Bool}

theorem parse_string {read : String → Option String}
    {hread : ∀ s t, read s = some t → read t = some t} (h : (string read hread).parse v = some d) :
    ∃ s t, v = .string s ∧ read s = some t ∧ d = .string t := by
  cases v with
  | string s =>
    obtain ⟨t, ht, rfl⟩ := Option.map_eq_some_iff.mp h
    exact ⟨s, t, rfl, ht, rfl⟩
  | _ => cases h

theorem parse_stringOf (h : (stringOf p).parse v = some d) :
    ∃ s, v = .string s ∧ p s = true ∧ d = .string s := by
  obtain ⟨s, t, rfl, ht, rfl⟩ := parse_string h
  by_cases hp : p s = true
  · rw [if_pos hp] at ht
    obtain rfl := Option.some.inj ht
    exact ⟨s, rfl, hp, rfl⟩
  · rw [if_neg hp] at ht
    cases ht

theorem parse_array {min max : ℕ} {item : Schema} (h : (array min max item).parse v = some d) :
    ∃ out, d = .array out ∧ min ≤ out.length ∧ out.length ≤ max ∧
      ∀ d ∈ out, ∃ v, item.parse v = some d := by
  cases v with
  | array items =>
    simp only [array] at h
    by_cases hbounds : min ≤ items.length ∧ items.length ≤ max
    · rw [if_pos hbounds] at h
      obtain ⟨out, hout, rfl⟩ := Option.map_eq_some_iff.mp h
      rw [← length_readItems hout] at hbounds
      refine ⟨out, rfl, hbounds.1, hbounds.2, fun d hd => ?_⟩
      obtain ⟨v, -, hv⟩ := mem_readItems hout hd
      exact ⟨v, hv⟩
    · rw [if_neg hbounds] at h
      cases h
  | _ => cases h

/-- A required key is there, and its schema handed its value on. -/
theorem get_required (h : (strictObject shape hnodup).parse v = some d) (key : String)
    (schema : Schema) (hfield : (key, required schema) ∈ shape) :
    ∃ value x, schema.parse value = some x ∧ d.get key = some x := by
  obtain ⟨hget, hpresent⟩ := get_strictObject h hfield
  cases hd : d.get key with
  | none => exact absurd (hpresent hd) Bool.false_ne_true
  | some x =>
    rw [hd] at hget
    obtain ⟨value, -, hparse⟩ := Option.bind_eq_some_iff.mp hget.symm
    exact ⟨value, x, hparse, rfl⟩

theorem text_required (h : (strictObject shape hnodup).parse v = some d) (key : String)
    (hfield : (key, required (stringOf p)) ∈ shape) : ∃ s, d.text key = some s ∧ p s = true := by
  obtain ⟨value, x, hparse, hget⟩ := get_required h key _ hfield
  obtain ⟨s, -, hp, rfl⟩ := parse_stringOf hparse
  refine ⟨s, ?_, hp⟩
  rw [Json.text, hget]
  rfl

end

theorem parse_discriminatedUnion {key : String} {options : List (String × Schema)}
    {htags : ∀ tag schema, options.lookup tag = some schema → schema.Tagged key tag} {v d : Json}
    (h : (discriminatedUnion key options htags).parse v = some d) :
    ∃ option ∈ options, option.2.parse v = some d := by
  simp only [discriminatedUnion] at h
  rw [select] at h
  split at h
  · rename_i schema hselect
    split at hselect
    · obtain ⟨before, after, rfl, -⟩ := List.lookup_eq_some_iff.mp hselect
      exact ⟨_, List.mem_append_right _ (List.mem_cons_self ..), h⟩
    · cases hselect
  · cases h

end Schema

end HiveChameleon.Gateway
