import HiveChameleon.Gateway.CanonicalJson

/-!
# Gateway.JsonParse — `JSON.parse`

The parser of the JavaScript runtime, and that it reads a canonical text as the value it is the text
of.  A string with a lone surrogate, which no `Char` is, is not read.
-/

namespace HiveChameleon.Gateway

open Lib

/-! ### Strings and numbers -/

def isJsonSpace (c : Char) : Bool := c == ' ' || c == '\t' || c == '\n' || c == '\r'

def skipSpace (text : List Char) : List Char := text.dropWhile isJsonSpace

def hexDigitValue (c : Char) : Option ℕ :=
  if isDigit c then some (c.toNat - 48)
  else if 'a' ≤ c && c ≤ 'f' then some (c.toNat - 87)
  else if 'A' ≤ c && c ≤ 'F' then some (c.toNat - 55)
  else none

/-- The four digits of `\u`. -/
def readHex4 : List Char → Option (ℕ × List Char)
  | a :: b :: c :: d :: r => do
    let a ← hexDigitValue a
    let b ← hexDigitValue b
    let c ← hexDigitValue c
    let d ← hexDigitValue d
    some (16 * (16 * (16 * a + b) + c) + d, r)
  | _ => none

/-- What follows `\u`: a code unit, or the two surrogates of a character. -/
def readUnicode (text : List Char) : Option (Char × List Char) := do
  let (high, r) ← readHex4 text
  if high < 0xD800 ∨ 0xE000 ≤ high then some (Char.ofNat high, r)
  else
    match r with
    | '\\' :: 'u' :: r => do
      let (low, r) ← readHex4 r
      if high < 0xDC00 ∧ 0xDC00 ≤ low ∧ low < 0xE000 then
        some (Char.ofNat (0x10000 + 0x400 * (high - 0xD800) + (low - 0xDC00)), r)
      else none
    | _ => none

def unescape (c : Char) : Option Char :=
  if c = '"' ∨ c = '\\' ∨ c = '/' then some c
  else if c = 'b' then some (Char.ofNat 8)
  else if c = 't' then some (Char.ofNat 9)
  else if c = 'n' then some (Char.ofNat 10)
  else if c = 'f' then some (Char.ofNat 12)
  else if c = 'r' then some (Char.ofNat 13)
  else none

/-- One character inside a string. -/
def readChar : List Char → Option (Char × List Char)
  | [] => none
  | '\\' :: [] => none
  | '\\' :: c :: r => if c = 'u' then readUnicode r else (unescape c).map fun c => (c, r)
  | c :: r => if c.toNat < 32 then none else some (c, r)

/-- The characters up to the closing quote. -/
def readString : ℕ → List Char → Option (List Char × List Char)
  | 0, _ => none
  | _ + 1, [] => none
  | fuel + 1, c :: r =>
    if c = '"' then some ([], r)
    else do
      let (c, r) ← readChar (c :: r)
      let (cs, r) ← readString fuel r
      some (c :: cs, r)

def isNumberChar (c : Char) : Bool :=
  isDigit c || c == '-' || c == '+' || c == '.' || c == 'e' || c == 'E'

/-- A natural number without superfluous zeros, small enough for a double to hold it. -/
def isPlainNumber (text : List Char) : Bool :=
  (text == ['0'] || text.head?.any fun c => isDigit c && c ≠ '0') && text.all isDigit &&
    text.length ≤ 15

/-- `(e|E)(+|-)?[0-9]+` or nothing. -/
def isExponent (text : List Char) : Bool :=
  match text with
  | [] => true
  | e :: r =>
    let digits := match r with
      | '+' :: r => r
      | '-' :: r => r
      | r => r
    (e == 'e' || e == 'E') && !digits.isEmpty && digits.all isDigit

/-- `-?(0|[1-9][0-9]*)(.[0-9]+)?` and an exponent. -/
def isJsonNumber (text : List Char) : Bool :=
  let text := match text with
    | '-' :: r => r
    | r => r
  let whole := text.takeWhile isDigit
  (whole == ['0'] || whole.head?.any fun c => c ≠ '0') &&
    match text.dropWhile isDigit with
    | '.' :: r => !(r.takeWhile isDigit).isEmpty && isExponent (r.dropWhile isDigit)
    | r => isExponent r

/-- Of two fields with one key the last counts. -/
def lastFields : List (String × Json) → List (String × Json)
  | [] => []
  | (key, value) :: fields =>
    if key ∈ fields.map Prod.fst then lastFields fields else (key, value) :: lastFields fields

section

-- `Number::toString` of the double that a numeral of JSON denotes, where it is no plain number.
variable (numberText : String → String)

def readNumber (text : List Char) : Option (Json × List Char) :=
  let number := text.takeWhile isNumberChar
  let r := text.dropWhile isNumberChar
  if isPlainNumber number then some (.number (String.ofList number), r)
  else if isJsonNumber number then some (.number (numberText (String.ofList number)), r)
  else none

/-- The rest of a keyword. -/
def readKeyword (rest : List Char) (value : Json) (text : List Char) : Option (Json × List Char) :=
  if rest.isPrefixOf text then some (value, text.drop rest.length) else none

mutual

def parseValue : ℕ → List Char → Option (Json × List Char)
  | 0, _ => none
  | fuel + 1, text =>
    match skipSpace text with
    | [] => none
    | c :: r =>
      if c = '\x7b' then
        if (skipSpace r).head? = some '\x7d' then some (.object [], (skipSpace r).tail)
        else (parseFields fuel r).map fun p => (.object (lastFields p.1), p.2)
      else if c = '[' then
        if (skipSpace r).head? = some ']' then some (.array [], (skipSpace r).tail)
        else (parseItems fuel r).map fun p => (.array p.1, p.2)
      else if c = '"' then
        (readString (r.length + 1) r).map fun p => (.string (String.ofList p.1), p.2)
      else if c = 'n' then readKeyword "ull".toList .null r
      else if c = 't' then readKeyword "rue".toList (.bool true) r
      else if c = 'f' then readKeyword "alse".toList (.bool false) r
      else readNumber numberText (c :: r)

/-- The items up to the closing bracket. -/
def parseItems : ℕ → List Char → Option (List Json × List Char)
  | 0, _ => none
  | fuel + 1, text => do
    let (item, r) ← parseValue fuel text
    match skipSpace r with
    | [] => none
    | c :: r =>
      if c = ']' then some ([item], r)
      else if c = ',' then (parseItems fuel r).map fun p => (item :: p.1, p.2)
      else none

def parseFields : ℕ → List Char → Option (List (String × Json) × List Char)
  | 0, _ => none
  | fuel + 1, text =>
    match skipSpace text with
    | [] => none
    | quote :: r =>
      if quote = '"' then do
        let (key, r) ← readString (r.length + 1) r
        match skipSpace r with
        | [] => none
        | colon :: r =>
          if colon = ':' then do
            let (value, r) ← parseValue fuel r
            match skipSpace r with
            | [] => none
            | c :: r =>
              if c = '\x7d' then some ([(String.ofList key, value)], r)
              else if c = ',' then
                (parseFields fuel r).map fun p => ((String.ofList key, value) :: p.1, p.2)
              else none
          else none
      else none

end

/-- `JSON.parse`, `none` where it throws.  Every step of the parser reads at least half a character. -/
def jsonParse (text : String) : Option Json :=
  match parseValue numberText (2 * text.toList.length + 1) text.toList with
  | none => none
  | some (value, r) => if skipSpace r = [] then some value else none

/-! ### Canonical texts -/

mutual

/-- Numbers are plain and keys are distinct, all the way down. -/
def Json.Tidy : Json → Prop
  | .number value => isPlainNumber value.toList = true
  | .array items => tidyItems items
  | .object fields => (fields.map Prod.fst).Nodup ∧ tidyFields fields
  | _ => True

def tidyItems : List Json → Prop
  | [] => True
  | item :: items => item.Tidy ∧ tidyItems items

def tidyFields : List (String × Json) → Prop
  | [] => True
  | (_, value) :: fields => value.Tidy ∧ tidyFields fields

end

/-- No number goes on here. -/
def Stops (r : List Char) : Prop := ∀ c ∈ r.head?, isNumberChar c = false

theorem lastFields_of_nodup {fields : List (String × Json)} (h : (fields.map Prod.fst).Nodup) :
    lastFields fields = fields := by
  induction fields with
  | nil => rfl
  | cons field fields ih =>
    obtain ⟨key, value⟩ := field
    rw [List.map_cons, List.nodup_cons] at h
    rw [lastFields, if_neg h.1, ih h.2]

theorem skipSpace_cons {c : Char} {r : List Char} (h : isJsonSpace c = false) :
    skipSpace (c :: r) = c :: r := by
  rw [skipSpace, List.dropWhile_cons_of_neg]
  rw [h]
  decide

theorem hexDigitValue_hexDigit : ∀ n < 16, hexDigitValue (hexDigit n) = some n := by decide

theorem readUnicode_control {n : ℕ} {r : List Char} (hn : n < 32) :
    readUnicode ('0' :: '0' :: hexDigit (n / 16) :: hexDigit (n % 16) :: r) =
      some (Char.ofNat n, r) := by
  have hzero : hexDigitValue '0' = some 0 := rfl
  have hhigh := hexDigitValue_hexDigit (n / 16) (by omega)
  have hlow := hexDigitValue_hexDigit (n % 16) (by omega)
  have hvalue : 16 * (16 * (16 * 0 + 0) + n / 16) + n % 16 = n := by omega
  have hread : readHex4 ('0' :: '0' :: hexDigit (n / 16) :: hexDigit (n % 16) :: r) = some (n, r) := by
    simp only [readHex4, hzero, hhigh, hlow, Option.bind_eq_bind, Option.bind_some, hvalue]
  simp only [readUnicode, hread, Option.bind_eq_bind, Option.bind_some]
  rw [if_pos (.inl (by omega))]

theorem readChar_jsonEscape (c : Char) (r : List Char) :
    readChar (jsonEscape c ++ r) = some (c, r) := by
  have hofNat : ∀ n, c.toNat = n → Char.ofNat n = c := fun n hn => by rw [← hn, Char.ofNat_toNat]
  unfold jsonEscape
  by_cases hquote : c = '"'
  · rw [if_pos hquote, hquote]
    rfl
  rw [if_neg hquote]
  by_cases hslash : c = '\\'
  · rw [if_pos hslash, hslash]
    rfl
  rw [if_neg hslash]
  by_cases h8 : c.toNat = 8
  · rw [if_pos h8, ← hofNat 8 h8]
    rfl
  rw [if_neg h8]
  by_cases h9 : c.toNat = 9
  · rw [if_pos h9, ← hofNat 9 h9]
    rfl
  rw [if_neg h9]
  by_cases h10 : c.toNat = 10
  · rw [if_pos h10, ← hofNat 10 h10]
    rfl
  rw [if_neg h10]
  by_cases h12 : c.toNat = 12
  · rw [if_pos h12, ← hofNat 12 h12]
    rfl
  rw [if_neg h12]
  by_cases h13 : c.toNat = 13
  · rw [if_pos h13, ← hofNat 13 h13]
    rfl
  rw [if_neg h13]
  by_cases hcontrol : c.toNat < 32
  · rw [if_pos hcontrol]
    show readUnicode ('0' :: '0' :: hexDigit (c.toNat / 16) :: hexDigit (c.toNat % 16) :: r) = _
    rw [readUnicode_control hcontrol, Char.ofNat_toNat]
  · rw [if_neg hcontrol, List.singleton_append]
    have hread : readChar (c :: r) = if c.toNat < 32 then none else some (c, r) := by
      unfold readChar
      split <;> simp_all
    rw [hread, if_neg hcontrol]

theorem length_le_flatMap_jsonEscape (cs : List Char) :
    cs.length ≤ (cs.flatMap jsonEscape).length := by
  induction cs with
  | nil => exact Nat.le_refl 0
  | cons c cs ih =>
    obtain ⟨d, t, hd, -⟩ := jsonEscape_head c
    rw [List.flatMap_cons, hd, List.length_append, List.length_cons, List.length_cons]
    omega

theorem readString_flatMap (r : List Char) : ∀ (cs : List Char) (fuel : ℕ), cs.length < fuel →
    readString fuel (cs.flatMap jsonEscape ++ '"' :: r) = some (cs, r)
  | [], fuel + 1, _ => by
    rw [List.flatMap_nil, List.nil_append, readString, if_pos rfl]
  | c :: cs, fuel + 1, h => by
    obtain ⟨d, t, hd, hquote⟩ := jsonEscape_head c
    have hread : readChar (d :: (t ++ (cs.flatMap jsonEscape ++ '"' :: r))) =
        some (c, cs.flatMap jsonEscape ++ '"' :: r) := by
      rw [← List.cons_append, ← hd]
      exact readChar_jsonEscape c _
    have hrest := readString_flatMap r cs fuel (Nat.lt_of_succ_lt_succ h)
    rw [List.flatMap_cons, hd, List.append_assoc, List.cons_append, readString, if_neg hquote]
    simp only [hread, hrest, Option.bind_eq_bind, Option.bind_some]

theorem readString_jsonString (s : String) (r : List Char) :
    ∃ t, jsonString s ++ r = '"' :: t ∧ readString (t.length + 1) t = some (s.toList, r) := by
  refine ⟨s.toList.flatMap jsonEscape ++ '"' :: r, ?_, readString_flatMap r _ _ ?_⟩
  · rw [jsonString, List.cons_append, List.append_assoc, List.singleton_append]
  · have hlength := length_le_flatMap_jsonEscape s.toList
    rw [List.length_append]
    omega

theorem isNumberChar_of_isDigit {c : Char} (h : isDigit c = true) : isNumberChar c = true := by
  rw [isNumberChar, h]
  rfl

theorem all_isDigit_of_plain {text : List Char} (h : isPlainNumber text = true) :
    ∀ c ∈ text, isDigit c = true := by
  rw [isPlainNumber, Bool.and_eq_true, Bool.and_eq_true] at h
  exact List.all_eq_true.mp h.1.2

theorem readNumber_plain {value : String} {r : List Char} (h : isPlainNumber value.toList = true)
    (hstop : Stops r) : readNumber numberText (value.toList ++ r) = some (.number value, r) := by
  have hall : ∀ c ∈ value.toList, isNumberChar c = true := fun c hc =>
    isNumberChar_of_isDigit (all_isDigit_of_plain h c hc)
  have htake : r.takeWhile isNumberChar = [] ∧ r.dropWhile isNumberChar = r := by
    cases r with
    | nil => exact ⟨rfl, rfl⟩
    | cons c r =>
      have hc : ¬ isNumberChar c = true := by
        rw [hstop c rfl]
        decide
      exact ⟨List.takeWhile_cons_of_neg hc, List.dropWhile_cons_of_neg hc⟩
  rw [readNumber, List.takeWhile_append_of_pos hall, List.dropWhile_append_of_pos hall, htake.1,
    htake.2, List.append_nil, if_pos h, String.ofList_toList]

/-- A text of JSON starts with no space and no closing bracket. -/
def Opens (text : List Char) : Prop :=
  ∃ c t, text = c :: t ∧ isJsonSpace c = false ∧ c ≠ ']' ∧ c ≠ '\x7d'

theorem opens_plain {text : List Char} (h : isPlainNumber text = true) :
    ∃ c t, text = c :: t ∧ isDigit c = true := by
  cases text with
  | nil => exact absurd h (by decide)
  | cons c t => exact ⟨c, t, rfl, all_isDigit_of_plain h c (List.mem_cons_self ..)⟩

theorem ne_of_isDigit {c d : Char} (h : isDigit c = true) (hd : isDigit d = false) : c ≠ d := by
  rintro rfl
  rw [h] at hd
  cases hd

theorem space_of_isDigit {c : Char} (h : isDigit c = true) : isJsonSpace c = false := by
  simp only [isJsonSpace, Bool.or_eq_false_iff, beq_eq_false_iff_ne]
  exact ⟨⟨⟨ne_of_isDigit h rfl, ne_of_isDigit h rfl⟩, ne_of_isDigit h rfl⟩, ne_of_isDigit h rfl⟩

theorem opens_jsonString (s : String) : Opens (jsonString s) :=
  ⟨'"', _, rfl, rfl, by decide, by decide⟩

theorem opens_render {v : Json} (h : v.Tidy) : Opens v.render := by
  cases v with
  | null => exact ⟨_, _, rfl, rfl, by decide, by decide⟩
  | bool value =>
    cases value with
    | false => exact ⟨_, _, rfl, rfl, by decide, by decide⟩
    | true => exact ⟨_, _, rfl, rfl, by decide, by decide⟩
  | number value =>
    obtain ⟨c, t, htext, hdigit⟩ := opens_plain h
    exact ⟨c, t, htext, space_of_isDigit hdigit, ne_of_isDigit hdigit rfl, ne_of_isDigit hdigit rfl⟩
  | string value => exact opens_jsonString value
  | array items => exact ⟨_, _, rfl, rfl, by decide, by decide⟩
  | object fields => exact ⟨_, _, rfl, rfl, by decide, by decide⟩

theorem Opens.head {text r : List Char} (h : Opens text) :
    (skipSpace (text ++ r)).head? ≠ some ']' ∧ (skipSpace (text ++ r)).head? ≠ some '\x7d' := by
  obtain ⟨c, t, rfl, hspace, hbracket, hbrace⟩ := h
  rw [List.cons_append, skipSpace_cons hspace]
  exact ⟨fun h => hbracket (Option.some.inj h), fun h => hbrace (Option.some.inj h)⟩

theorem renderItems_cons (item next : Json) (items : List Json) :
    renderItems (item :: next :: items) = item.render ++ ',' :: renderItems (next :: items) := rfl

theorem renderFields_cons (key : String) (value : Json) (next : String × Json)
    (fields : List (String × Json)) : renderFields ((key, value) :: next :: fields) =
      jsonString key ++ ':' :: (value.render ++ ',' :: renderFields (next :: fields)) := rfl

theorem stops_of_cons {c : Char} (h : isNumberChar c = false) (r : List Char) : Stops (c :: r) := by
  intro d hd
  rw [← Option.some.inj hd]
  exact h

mutual

/-- **Reading back**: the text of a tidy value is read as that value. -/
theorem parseValue_render (r : List Char) : ∀ (v : Json) (fuel : ℕ), v.Tidy → Stops r →
    2 * v.render.length < fuel → parseValue numberText fuel (v.render ++ r) = some (v, r)
  | .null, fuel + 1, _, _, _ => rfl
  | .bool false, fuel + 1, _, _, _ => rfl
  | .bool true, fuel + 1, _, _, _ => rfl
  | .number value, fuel + 1, htidy, hstop, _ => by
    obtain ⟨c, t, htext, hdigit⟩ := opens_plain htidy
    have hread := readNumber_plain numberText htidy hstop
    rw [Json.render, htext, List.cons_append] at *
    rw [parseValue, skipSpace_cons (space_of_isDigit hdigit)]
    simp only
    rw [if_neg (ne_of_isDigit hdigit rfl), if_neg (ne_of_isDigit hdigit rfl),
      if_neg (ne_of_isDigit hdigit rfl), if_neg (ne_of_isDigit hdigit rfl),
      if_neg (ne_of_isDigit hdigit rfl), if_neg (ne_of_isDigit hdigit rfl)]
    exact hread
  | .string value, fuel + 1, _, _, _ => by
    obtain ⟨t, htext, hread⟩ := readString_jsonString value r
    rw [Json.render, htext, parseValue, skipSpace_cons rfl]
    simp only
    rw [if_neg (by decide), if_neg (by decide), if_pos trivial, hread, Option.map_some,
      String.ofList_toList]
  | .array [], fuel + 1, _, _, _ => rfl
  | .array (item :: items), fuel + 1, htidy, _, hfuel => by
    have hlength : (Json.array (item :: items)).render.length =
        (renderItems (item :: items)).length + 1 := rfl
    have hopens : (skipSpace (renderItems (item :: items) ++ r)).head? ≠ some ']' := by
      cases items with
      | nil =>
        rw [renderItems, List.append_assoc]
        exact (opens_render htidy.1).head.1
      | cons next items =>
        rw [renderItems_cons, List.append_assoc]
        exact (opens_render htidy.1).head.1
    have hread := parseItems_render r item items fuel htidy (by omega)
    rw [Json.render, List.cons_append, parseValue, skipSpace_cons rfl]
    simp only
    rw [if_neg (by decide), if_pos trivial, if_neg hopens, hread, Option.map_some]
  | .object [], fuel + 1, _, _, _ => rfl
  | .object ((key, value) :: fields), fuel + 1, htidy, _, hfuel => by
    have hlength : (Json.object ((key, value) :: fields)).render.length =
        (renderFields ((key, value) :: fields)).length + 1 := rfl
    have hopens : (skipSpace (renderFields ((key, value) :: fields) ++ r)).head? ≠ some '\x7d' := by
      cases fields with
      | nil =>
        rw [renderFields, List.append_assoc]
        exact (opens_jsonString key).head.2
      | cons next fields =>
        rw [renderFields_cons, List.append_assoc]
        exact (opens_jsonString key).head.2
    have hread := parseFields_render r key value fields fuel htidy.2 (by omega)
    rw [Json.render, List.cons_append, parseValue, skipSpace_cons rfl]
    simp only
    rw [if_pos trivial, if_neg hopens, hread, Option.map_some, lastFields_of_nodup htidy.1]
termination_by _ fuel => fuel

theorem parseItems_render (r : List Char) : ∀ (item : Json) (items : List Json) (fuel : ℕ),
    tidyItems (item :: items) → 2 * (renderItems (item :: items)).length ≤ fuel →
    parseItems numberText fuel (renderItems (item :: items) ++ r) = some (item :: items, r)
  | item, [], fuel, htidy, hfuel => by
    rw [renderItems, List.length_append, List.length_singleton] at hfuel
    obtain ⟨fuel, rfl⟩ : ∃ n, fuel = n + 1 := ⟨fuel - 1, by omega⟩
    have hread := parseValue_render (']' :: r) item fuel htidy.1 (stops_of_cons rfl r) (by omega)
    rw [renderItems, List.append_assoc, List.singleton_append, parseItems, hread]
    rfl
  | item, next :: items, fuel, htidy, hfuel => by
    rw [renderItems_cons, List.length_append, List.length_cons] at hfuel
    obtain ⟨fuel, rfl⟩ : ∃ n, fuel = n + 1 := ⟨fuel - 1, by omega⟩
    have hread := parseValue_render (',' :: (renderItems (next :: items) ++ r)) item fuel htidy.1
      (stops_of_cons rfl _) (by omega)
    have hrest := parseItems_render r next items fuel htidy.2 (by omega)
    rw [renderItems_cons, List.append_assoc, List.cons_append, parseItems, hread]
    simp only [Option.bind_eq_bind, Option.bind_some]
    rw [skipSpace_cons rfl]
    simp only
    rw [if_neg (by decide), if_pos trivial, hrest, Option.map_some]
termination_by _ _ fuel => fuel

theorem parseFields_render (r : List Char) : ∀ (key : String) (value : Json)
    (fields : List (String × Json)) (fuel : ℕ), tidyFields ((key, value) :: fields) →
    2 * (renderFields ((key, value) :: fields)).length ≤ fuel →
    parseFields numberText fuel (renderFields ((key, value) :: fields) ++ r) =
      some ((key, value) :: fields, r)
  | key, value, [], fuel, htidy, hfuel => by
    rw [renderFields, List.length_append, List.length_cons, List.length_append] at hfuel
    obtain ⟨fuel, rfl⟩ : ∃ n, fuel = n + 1 := ⟨fuel - 1, by omega⟩
    have hread := parseValue_render ('\x7d' :: r) value fuel htidy.1 (stops_of_cons rfl r) (by omega)
    obtain ⟨t, htext, hkey⟩ := readString_jsonString key (':' :: (value.render ++ '\x7d' :: r))
    rw [renderFields, List.append_assoc, List.cons_append, List.append_assoc, List.singleton_append,
      htext, parseFields, skipSpace_cons rfl]
    simp only
    rw [if_pos trivial, hkey]
    simp only [Option.bind_eq_bind, Option.bind_some]
    rw [skipSpace_cons rfl]
    simp only
    rw [if_pos trivial, hread]
    simp only [Option.bind_some]
    rw [skipSpace_cons rfl]
    simp only
    rw [if_pos trivial, String.ofList_toList]
  | key, value, (key', value') :: fields, fuel, htidy, hfuel => by
    rw [renderFields_cons, List.length_append, List.length_cons, List.length_append,
      List.length_cons] at hfuel
    obtain ⟨fuel, rfl⟩ : ∃ n, fuel = n + 1 := ⟨fuel - 1, by omega⟩
    have hread := parseValue_render (',' :: (renderFields ((key', value') :: fields) ++ r)) value fuel
      htidy.1 (stops_of_cons rfl _) (by omega)
    have hrest := parseFields_render r key' value' fields fuel htidy.2 (by omega)
    obtain ⟨t, htext, hkey⟩ := readString_jsonString key
      (':' :: (value.render ++ ',' :: (renderFields ((key', value') :: fields) ++ r)))
    rw [renderFields_cons, List.append_assoc, List.cons_append, List.append_assoc, List.cons_append,
      htext, parseFields, skipSpace_cons rfl]
    simp only
    rw [if_pos trivial, hkey]
    simp only [Option.bind_eq_bind, Option.bind_some]
    rw [skipSpace_cons rfl]
    simp only
    rw [if_pos trivial, hread]
    simp only [Option.bind_some]
    rw [skipSpace_cons rfl]
    simp only
    rw [if_neg (by decide), if_pos trivial, hrest, Option.map_some, String.ofList_toList]
termination_by _ _ _ fuel => fuel

end

/-- **A canonical text is parsed as the value it is the text of.** -/
theorem jsonParse_canonicalJson {v : Json} (h : v.normal.Tidy) :
    jsonParse numberText (canonicalJson v) = some v.normal := by
  have hread := parseValue_render numberText [] v.normal (2 * v.normal.render.length + 1) h
    (fun c hc => by cases hc) (by omega)
  rw [List.append_nil] at hread
  rw [jsonParse, canonicalJson, String.toList_ofList, hread]
  rfl

end

/-! ### Tidy normal forms -/

theorem tidyItems_iff {items : List Json} : tidyItems items ↔ ∀ item ∈ items, item.Tidy := by
  induction items with
  | nil => simp [tidyItems]
  | cons item items ih => rw [tidyItems, ih, List.forall_mem_cons]

theorem tidyFields_iff {fields : List (String × Json)} :
    tidyFields fields ↔ ∀ field ∈ fields, field.2.Tidy := by
  induction fields with
  | nil => simp [tidyFields]
  | cons field fields ih => rw [tidyFields, ih, List.forall_mem_cons]

theorem mem_insertField {key : String} {value : Json} {fields : List (String × Json)}
    {field : String × Json} (h : field ∈ insertField key value fields) :
    field = (key, value) ∨ field ∈ fields := by
  induction fields with
  | nil => exact .inl (List.mem_singleton.mp h)
  | cons first fields ih =>
    obtain ⟨key', value'⟩ := first
    rw [insertField] at h
    by_cases hsame : key = key'
    · rw [if_pos hsame] at h
      exact (List.mem_cons.mp h).imp id (List.mem_cons_of_mem _)
    rw [if_neg hsame] at h
    by_cases hlt : key < key'
    · rw [if_pos hlt] at h
      exact List.mem_cons.mp h
    · rw [if_neg hlt] at h
      rcases List.mem_cons.mp h with hfirst | hrest
      · exact .inr (hfirst ▸ List.mem_cons_self ..)
      · exact (ih hrest).imp id (List.mem_cons_of_mem _)

theorem mem_normalFields {fields : List (String × Json)} {field : String × Json}
    (h : field ∈ normalFields fields) : ∃ value, (field.1, value) ∈ fields ∧ field.2 = value.normal := by
  induction fields with
  | nil => cases h
  | cons first fields ih =>
    obtain ⟨key, value⟩ := first
    rcases mem_insertField h with rfl | hrest
    · exact ⟨value, List.mem_cons_self .., rfl⟩
    · obtain ⟨value, hvalue, heq⟩ := ih hrest
      exact ⟨value, List.mem_cons_of_mem _ hvalue, heq⟩

theorem tidy_array {items : List Json} (h : ∀ item ∈ items, item.normal.Tidy) :
    (Json.array items).normal.Tidy := by
  show tidyItems (normalItems items)
  rw [normalItems_eq_map, tidyItems_iff]
  intro item hitem
  obtain ⟨v, hv, rfl⟩ := List.mem_map.mp hitem
  exact h v hv

theorem tidy_object {fields : List (String × Json)} (h : ∀ field ∈ fields, field.2.normal.Tidy) :
    (Json.object fields).normal.Tidy := by
  refine ⟨?_, tidyFields_iff.mpr fun field hfield => ?_⟩
  · have hsorted := sortedKeys_normalFields fields
    exact List.pairwise_map.mpr (hsorted.imp fun hlt => hlt.ne)
  · obtain ⟨value, hvalue, heq⟩ := mem_normalFields hfield
    rw [heq]
    exact h _ hvalue

end HiveChameleon.Gateway
