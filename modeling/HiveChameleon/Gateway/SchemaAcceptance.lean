import HiveChameleon.Gateway.EventSchemas

/-!
# Gateway.SchemaAcceptance — what the schemas accept

For each combinator the values that it accepts, and that what it hands on is the value it was given.
A schema with a URL in it does not keep its value and has no place here.
-/

namespace HiveChameleon.Gateway

open Lib

namespace Schema

def Accepts (schema : Schema) (v : Json) : Prop := ∃ d, schema.parse v = some d

/-- What is handed on is the value that was read. -/
def Verbatim (schema : Schema) : Prop := ∀ v d, schema.parse v = some d → d.Same v

/-- A field accepts what an object has at its key. -/
def Field.Accepts (field : Field) : Option Json → Prop
  | none => field.optional = true
  | some value => field.schema.Accepts value

section

variable {schema item : Schema} {p : String → Bool} {v d : Json} {min max : ℕ} {items : List Json}
  {shape : List (String × Field)} {hnodup : (shape.map Prod.fst).Nodup} {fields : List (String × Json)}

/-! ### Strings and numbers -/

theorem accepts_stringOf {s : String} : (stringOf p).Accepts (.string s) ↔ p s = true := by
  constructor
  · rintro ⟨d, hd⟩
    obtain ⟨s', hs, hp, -⟩ := parse_stringOf hd
    rwa [Json.string.inj hs]
  · intro hp
    refine ⟨.string s, ?_⟩
    show (if p s = true then some s else none).map Json.string = _
    rw [if_pos hp]
    rfl

theorem verbatim_stringOf : (stringOf p).Verbatim := by
  intro v d h
  obtain ⟨s, rfl, -, rfl⟩ := parse_stringOf h
  exact Json.Same.refl _

theorem accepts_integer {n : ℕ} (hplain : isPlainNumber (toString n).toList = true) (hmin : min ≤ n)
    (hmax : n ≤ max) : (integer min max).Accepts (.number (toString n)) := by
  refine ⟨.number (toString n), ?_⟩
  show (if _ then some (Json.number (toString n)) else none) = _
  refine if_pos ?_
  rw [Bool.and_eq_true, List.any_eq_true]
  refine ⟨hplain, n, List.mem_range.mpr (by omega), ?_⟩
  rw [Bool.and_eq_true, decide_eq_true_eq, beq_iff_eq]
  exact ⟨hmin, rfl⟩

theorem verbatim_integer : (integer min max).Verbatim := by
  intro v d h
  cases v with
  | number s =>
    change (if _ then some (Json.number s) else none) = some d at h
    by_cases hs : (isPlainNumber s.toList &&
        (List.range (max + 1)).any fun n => min ≤ n && s == toString n) = true
    · rw [if_pos hs] at h
      rw [← Option.some.inj h]
      exact Json.Same.refl _
    · rw [if_neg hs] at h
      cases h
  | _ => cases h

/-! ### Arrays -/

theorem accepts_readItems : (∃ out, readItems item.parse items = some out) ↔
    ∀ v ∈ items, item.Accepts v := by
  induction items with
  | nil => exact ⟨fun _ v hv => (by cases hv), fun _ => ⟨[], rfl⟩⟩
  | cons v items ih =>
    rw [List.forall_mem_cons, ← ih]
    constructor
    · rintro ⟨out, hout⟩
      obtain ⟨d, rest, hd, hrest, -⟩ := readItems_cons_eq_some.mp hout
      exact ⟨⟨d, hd⟩, rest, hrest⟩
    · rintro ⟨⟨d, hd⟩, rest, hrest⟩
      exact ⟨d :: rest, readItems_cons_eq_some.mpr ⟨d, rest, hd, hrest, rfl⟩⟩

theorem accepts_array : (array min max item).Accepts (.array items) ↔
    (min ≤ items.length ∧ items.length ≤ max) ∧ ∀ v ∈ items, item.Accepts v := by
  rw [← accepts_readItems]
  constructor
  · rintro ⟨d, hd⟩
    simp only [array] at hd
    by_cases hbounds : min ≤ items.length ∧ items.length ≤ max
    · rw [if_pos hbounds] at hd
      obtain ⟨out, hout, -⟩ := Option.map_eq_some_iff.mp hd
      exact ⟨hbounds, out, hout⟩
    · rw [if_neg hbounds] at hd
      cases hd
  · rintro ⟨hbounds, out, hout⟩
    refine ⟨.array out, ?_⟩
    simp only [array]
    rw [if_pos hbounds, hout]
    rfl

theorem readItems_verbatim (hitem : item.Verbatim) : ∀ {items out : List Json},
    readItems item.parse items = some out → normalItems out = normalItems items
  | [], out, h => by rw [← Option.some.inj h]
  | v :: items, out, h => by
    obtain ⟨d, rest, hd, hrest, rfl⟩ := readItems_cons_eq_some.mp h
    have hsame : d.normal = v.normal := hitem v d hd
    rw [normalItems, normalItems, hsame, readItems_verbatim hitem hrest]

theorem verbatim_array (hitem : item.Verbatim) : (array min max item).Verbatim := by
  intro v d h
  cases v with
  | array items =>
    simp only [array] at h
    by_cases hbounds : min ≤ items.length ∧ items.length ≤ max
    · rw [if_pos hbounds] at h
      obtain ⟨out, hout, rfl⟩ := Option.map_eq_some_iff.mp h
      exact congrArg Json.array (readItems_verbatim hitem hout)
    · rw [if_neg hbounds] at h
      cases h
  | _ => cases h

/-! ### Objects -/

theorem accepts_readFields : (∃ out, readFields fields shape = some out) ↔
    ∀ entry ∈ shape, entry.2.Accepts (fields.lookup entry.1) := by
  induction shape with
  | nil => exact ⟨fun _ entry hentry => (by cases hentry), fun _ => ⟨[], rfl⟩⟩
  | cons entry shape ih =>
    obtain ⟨key, field⟩ := entry
    rw [List.forall_mem_cons, ← ih]
    constructor
    · rintro ⟨out, hout⟩
      rcases readFields_cons_eq_some.mp hout with ⟨hnone, hoptional, hrest⟩ |
        ⟨value, d, rest, hvalue, hd, hrest, -⟩
      · rw [hnone]
        exact ⟨hoptional, out, hrest⟩
      · rw [hvalue]
        exact ⟨⟨d, hd⟩, rest, hrest⟩
    · rintro ⟨hfield, rest, hrest⟩
      cases hvalue : fields.lookup key with
      | none =>
        rw [hvalue] at hfield
        exact ⟨rest, readFields_cons_eq_some.mpr (.inl ⟨hvalue, hfield, hrest⟩)⟩
      | some value =>
        rw [hvalue] at hfield
        obtain ⟨d, hd⟩ := hfield
        exact ⟨_, readFields_cons_eq_some.mpr (.inr ⟨value, d, rest, hvalue, hd, hrest, rfl⟩)⟩

theorem accepts_strictObject : (strictObject shape hnodup).Accepts (.object fields) ↔
    Known shape fields ∧ ∀ entry ∈ shape, entry.2.Accepts (fields.lookup entry.1) := by
  rw [← accepts_readFields]
  constructor
  · rintro ⟨d, hd⟩
    simp only [strictObject] at hd
    by_cases hknown : Known shape fields
    · rw [if_pos hknown] at hd
      obtain ⟨out, hout, -⟩ := Option.map_eq_some_iff.mp hd
      exact ⟨hknown, out, hout⟩
    · rw [if_neg hknown] at hd
      cases hd
  · rintro ⟨hknown, out, hout⟩
    refine ⟨.object out, ?_⟩
    simp only [strictObject]
    rw [if_pos hknown, hout]
    rfl

theorem verbatim_strictObject (hshape : ∀ entry ∈ shape, entry.2.schema.Verbatim) :
    (strictObject shape hnodup).Verbatim := by
  intro v d h
  cases v with
  | object fields =>
    simp only [strictObject] at h
    by_cases hknown : Known shape fields
    · rw [if_pos hknown] at h
      obtain ⟨out, hout, rfl⟩ := Option.map_eq_some_iff.mp h
      refine congrArg Json.object (normalFields_congr fun key => ?_)
      by_cases hkey : key ∈ shape.map Prod.fst
      · obtain ⟨⟨key, field⟩, hfield, rfl⟩ := List.mem_map.mp hkey
        obtain ⟨hlookup, -⟩ := lookup_readFields hnodup hout hfield
        rw [hlookup]
        cases hvalue : fields.lookup key with
        | none => rfl
        | some value =>
          cases hd : field.schema.parse value with
          | none =>
            obtain ⟨_, hread⟩ : ∃ d, field.schema.parse value = some d := by
              have haccepts := accepts_readFields.mp ⟨out, hout⟩ (key, field) hfield
              rwa [hvalue] at haccepts
            rw [hd] at hread
            cases hread
          | some d =>
            rw [Option.bind_some, hd]
            exact congrArg some (hshape (key, field) hfield value d hd)
      · have hnone : fields.lookup key = none := by
          by_contra hne
          exact hkey (known_iff.mp hknown key hne)
        rw [lookup_eq_none_of_readFields hout hkey, hnone]
    · rw [if_neg hknown] at h
      cases h
  | _ => cases h

/-! ### Refinements -/

theorem accepts_refine {q : Json → Bool} {hq : ∀ v w, v.Same w → q v = q w}
    (hschema : schema.Verbatim) : (schema.refine q hq).Accepts v ↔ schema.Accepts v ∧ q v = true := by
  constructor
  · rintro ⟨d, hd⟩
    obtain ⟨hparse, hcheck⟩ := refine_eq_some.mp hd
    refine ⟨⟨d, hparse⟩, ?_⟩
    rw [← hq d v (hschema v d hparse), hcheck]
  · rintro ⟨⟨d, hparse⟩, hcheck⟩
    refine ⟨d, refine_eq_some.mpr ⟨hparse, ?_⟩⟩
    rw [hq d v (hschema v d hparse), hcheck]

theorem verbatim_refine {q : Json → Bool} {hq : ∀ v w, v.Same w → q v = q w}
    (hschema : schema.Verbatim) : (schema.refine q hq).Verbatim :=
  fun v d h => hschema v d (refine_eq_some.mp h).1

end

end Schema

/-! ### Match results -/

namespace EventSchema

open Schema

theorem verbatim_matchParticipantSchema : matchParticipantSchema.Verbatim :=
  verbatim_strictObject (by
    simp only [List.forall_mem_cons]
    exact ⟨verbatim_stringOf, verbatim_stringOf, verbatim_stringOf, verbatim_stringOf,
      verbatim_stringOf, fun _ h => (by cases h)⟩)

theorem verbatim_discoverySchema : discoverySchema.Verbatim :=
  verbatim_strictObject (by
    simp only [List.forall_mem_cons]
    exact ⟨verbatim_stringOf, verbatim_stringOf, fun _ h => (by cases h)⟩)

theorem verbatim_likeAggregateSchema : likeAggregateSchema.Verbatim :=
  verbatim_strictObject (by
    simp only [List.forall_mem_cons]
    exact ⟨verbatim_stringOf, verbatim_integer, fun _ h => (by cases h)⟩)

theorem verbatim_resultMapSchema : resultMapSchema.Verbatim :=
  verbatim_strictObject (by
    simp only [List.forall_mem_cons]
    exact ⟨verbatim_stringOf, verbatim_stringOf, verbatim_stringOf, verbatim_stringOf,
      fun _ h => (by cases h)⟩)

theorem verbatim_resultServerSchema : resultServerSchema.Verbatim :=
  verbatim_strictObject (by
    simp only [List.forall_mem_cons]
    exact ⟨verbatim_stringOf, verbatim_stringOf, fun _ h => (by cases h)⟩)

theorem verbatim_matchResultShape (J : JsRuntime) : (matchResultShape J).Verbatim :=
  verbatim_strictObject (by
    simp only [List.forall_mem_cons]
    exact ⟨verbatim_stringOf, verbatim_stringOf, verbatim_stringOf, verbatim_stringOf,
      verbatim_stringOf, verbatim_stringOf, verbatim_stringOf, verbatim_resultMapSchema,
      verbatim_resultServerSchema, verbatim_stringOf, verbatim_array verbatim_stringOf,
      verbatim_array verbatim_matchParticipantSchema, verbatim_array verbatim_discoverySchema,
      verbatim_array verbatim_stringOf, verbatim_array verbatim_likeAggregateSchema,
      verbatim_stringOf, fun _ h => (by cases h)⟩)

theorem accepts_matchResultSchema {J : JsRuntime} {v : Json} :
    (matchResultSchema J).Accepts v ↔ (matchResultShape J).Accepts v ∧ MatchResultRules v := by
  rw [matchResultSchema, accepts_refine (verbatim_matchResultShape J), decide_eq_true_eq]

theorem verbatim_matchResultSchema (J : JsRuntime) : (matchResultSchema J).Verbatim :=
  verbatim_refine (verbatim_matchResultShape J)

end EventSchema

end HiveChameleon.Gateway
