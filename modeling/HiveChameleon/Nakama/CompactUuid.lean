import HiveChameleon.Lib.Base64Url
import HiveChameleon.Lib.Digits
import HiveChameleon.Nakama.SessionBridge
import HiveChameleon.Publisher.RecordedTexts

/-!
# Nakama.CompactUuid — a UUIDv7 and its compact spelling

`compactUUIDV7ToCanonical` and `canonicalUUIDV7ToCompact` read sixteen bytes from one text and write the
other.  Both decoders forgive some spellings and both functions refuse them again, so each byte list has
one text on either side, and the functions are inverse to each other.
-/

namespace HiveChameleon.Nakama

open Lib

/-! ### The functions -/

/-- `strings.ToLower`, for the capitals whose small letter is an ASCII one; the callers refuse a text
with any other letter whatever becomes of that letter. -/
def toLower (text : String) : String :=
  String.ofList (text.toList.map fun c =>
    if c = '\u0130' then 'i' else if c = '\u212a' then 'k' else c.toLower)

/-- `hex.DecodeString` -/
def hexDecode : List Char → Option (List UInt8)
  | [] => some []
  | [_] => none
  | a :: b :: rest => do
    let high ← digitBelow 16 a
    let low ← digitBelow 16 b
    let after ← hexDecode rest
    some (UInt8.ofNat (high * 16 + low) :: after)

/-- `base64.RawURLEncoding` -/
def rawUrlEncode (bytes : List UInt8) : String := String.ofList (Base64Url.encode bytes)

def rawUrlDecode (text : String) : Option (List UInt8) := Base64Url.decode text.toList

/-- `strconv.ParseInt(text, 36, 64)` -/
def parseInt36 (text : String) : Option ℤ := do
  let signed := text.toList.head? = some '-' ∨ text.toList.head? = some '+'
  let n ← parseNumeral 36 (if signed then text.toList.tail else text.toList)
  if text.toList.head? = some '-' then
    guard (n ≤ 2 ^ 63)
    some (-n)
  else
    guard (n < 2 ^ 63)
    some n

/-- The verifier with a key; the keyed hash has 32 bytes. -/
def bridgeVerifierWith (hmac : List UInt8 → String → Vector UInt8 32) (key : List UInt8) : BridgeVerifier where
  rawUrlDecode := rawUrlDecode
  rawUrlEncode := rawUrlEncode
  parseInt36 := parseInt36
  hmacSha256 := fun payload => (hmac key payload).toList

/-- The dashes of a UUID among its 32 digits. -/
def dashed (value : List Char) : List Char :=
  value.take 8 ++ '-' :: (value.drop 8).take 4 ++ '-' :: (value.drop 12).take 4 ++
    '-' :: (value.drop 16).take 4 ++ '-' :: value.drop 20

def canonicalUUIDV7ToCompact (value : String) : Option String := do
  let chars := value.toList
  guard (value.utf8ByteSize = 36 ∧ chars[8]? = some '-' ∧ chars[13]? = some '-' ∧ chars[18]? = some '-' ∧
    chars[23]? = some '-' ∧ value = toLower value)
  let decoded ← hexDecode (chars.filter fun c => c ≠ '-')
  guard (decoded.length = 16)
  let version ← decoded[6]?
  let variant ← decoded[8]?
  guard (version.toNat / 16 = 7 ∧ variant.toNat / 64 = 2)
  some (rawUrlEncode decoded)

/-- `newUUIDV7` at a Unix time in milliseconds, with the ten bytes that `rand.Read` fills in. -/
def newUUIDV7 (milliseconds : ℤ) (random : Except String (Vector UInt8 10)) : Except String String := do
  require (0 ≤ milliseconds ∧ milliseconds ≤ 0x0000ffffffffffff) "UUIDv7 timestamp is out of range"
  match random with
  | .error e => .error ("generate UUIDv7 randomness: " ++ e)
  | .ok bytes =>
    let value := bigEndian 6 milliseconds.toNat ++ bytes.toList
    let value := value.modify 6 fun b => b &&& 0x0f ||| 0x70
    let value := value.modify 8 fun b => b &&& 0x3f ||| 0x80
    .ok (String.ofList (dashed (hexEncode value)))

/-! ### Sixteen bytes -/

/-- **The bytes of a UUIDv7**: sixteen, with the version and the variant of the standard. -/
structure UuidV7 where
  bytes : List UInt8
  length : bytes.length = 16
  version : ∃ b ∈ bytes[6]?, b.toNat / 16 = 7
  variant : ∃ b ∈ bytes[8]?, b.toNat / 64 = 2

def UuidV7.canonicalText (u : UuidV7) : String := String.ofList (dashed (hexEncode u.bytes))

def UuidV7.compactText (u : UuidV7) : String := rawUrlEncode u.bytes

/-! ### Hexadecimal texts -/

theorem hexDigit_eq (n : ℕ) : hexDigit n = digitChar n := rfl

theorem hexEncode_cons (b : UInt8) (bytes : List UInt8) :
    hexEncode (b :: bytes) = hexDigit (b.toNat / 16) :: hexDigit (b.toNat % 16) :: hexEncode bytes := rfl

theorem hexEncode_append (bytes rest : List UInt8) :
    hexEncode (bytes ++ rest) = hexEncode bytes ++ hexEncode rest := List.flatMap_append

@[simp] theorem length_hexEncode (bytes : List UInt8) : (hexEncode bytes).length = 2 * bytes.length := by
  induction bytes with
  | nil => rfl
  | cons b bytes ih =>
    rw [hexEncode_cons, List.length_cons, List.length_cons, ih, List.length_cons]
    omega

theorem hexEncode_take (bytes : List UInt8) (n : ℕ) :
    (hexEncode bytes).take (2 * n) = hexEncode (bytes.take n) := by
  induction n generalizing bytes with
  | zero => rfl
  | succ n ih =>
    cases bytes with
    | nil => rfl
    | cons b bytes =>
      rw [hexEncode_cons, Nat.mul_succ, List.take_succ_cons, List.take_succ_cons, ih, List.take_succ_cons,
        hexEncode_cons]

theorem hexEncode_drop (bytes : List UInt8) (n : ℕ) :
    (hexEncode bytes).drop (2 * n) = hexEncode (bytes.drop n) := by
  induction n generalizing bytes with
  | zero => rfl
  | succ n ih =>
    cases bytes with
    | nil => rfl
    | cons b bytes =>
      rw [hexEncode_cons, Nat.mul_succ, List.drop_succ_cons, List.drop_succ_cons, ih, List.drop_succ_cons]

theorem hexEncode_getElem? {bytes : List UInt8} {i : ℕ} {b : UInt8} (h : bytes[i]? = some b) :
    (hexEncode bytes)[2 * i]? = some (hexDigit (b.toNat / 16)) := by
  obtain ⟨hi, rfl⟩ := List.getElem?_eq_some_iff.mp h
  have hfirst : (hexEncode bytes)[2 * i]? = ((hexEncode bytes).drop (2 * i))[0]? := by
    rw [List.getElem?_drop, Nat.add_zero]
  rw [hfirst, hexEncode_drop, List.drop_eq_getElem_cons hi]
  rfl

theorem hexDecode_hexEncode (bytes : List UInt8) : hexDecode (hexEncode bytes) = some bytes := by
  induction bytes with
  | nil => rfl
  | cons b bytes ih =>
    have hb := b.toNat_lt
    rw [hexEncode_cons, hexDecode, hexDigit_eq, hexDigit_eq, digitBelow_digitChar (by decide) (by omega),
      digitBelow_digitChar (by decide) (by omega), ih]
    have hbyte : UInt8.ofNat (b.toNat / 16 * 16 + b.toNat % 16) = b := Base64Url.ofNat_eq (by omega)
    simp only [Option.bind_eq_bind, Option.bind_some, hbyte]

theorem digitChar_of_below {base n : ℕ} {c : Char} (h : digitBelow base c = some n)
    (hsmall : ¬ (65 ≤ c.toNat ∧ c.toNat ≤ 90)) : digitChar n = c ∧ n < base := by
  obtain ⟨hvalue, hbelow⟩ := Option.filter_eq_some_iff.mp h
  exact ⟨digitChar_of_value hvalue hsmall, of_decide_eq_true hbelow⟩

/-- A text without capitals is the encoding of what it decodes to. -/
theorem hexEncode_of_hexDecode {text : List Char} {bytes : List UInt8} (h : hexDecode text = some bytes)
    (hsmall : ∀ c ∈ text, ¬ (65 ≤ c.toNat ∧ c.toNat ≤ 90)) : hexEncode bytes = text := by
  induction text using hexDecode.induct generalizing bytes with
  | case1 =>
    rw [hexDecode] at h
    rw [← Option.some.inj h]
    rfl
  | case2 c => cases h
  | case3 a b rest ih =>
    rw [List.forall_mem_cons, List.forall_mem_cons] at hsmall
    obtain ⟨ha, hb, hrest⟩ := hsmall
    rw [hexDecode] at h
    simp only [Option.bind_eq_bind, Option.bind_eq_some_iff] at h
    obtain ⟨high, hhigh, low, hlow, after, hafter, hbytes⟩ := h
    obtain ⟨rfl, hhigh16⟩ := digitChar_of_below hhigh ha
    obtain ⟨rfl, hlow16⟩ := digitChar_of_below hlow hb
    have hvalue : (UInt8.ofNat (high * 16 + low)).toNat = high * 16 + low := by
      rw [UInt8.toNat_ofNat']
      omega
    rw [← Option.some.inj hbytes, hexEncode_cons, hvalue, ih hafter hrest, hexDigit_eq, hexDigit_eq,
      show (high * 16 + low) / 16 = high by omega, show (high * 16 + low) % 16 = low by omega]

/-! ### The texts of a UUIDv7 -/

def uuidTemplate : List Char := "xxxxxxxx-xxxx-7xxx-yxxx-xxxxxxxxxxxx".toList

theorem isUuidV7_iff {text : String} :
    Gateway.isUuidV7 text = true ↔ Gateway.MatchesTemplate uuidTemplate text.toList := by
  rw [Gateway.isUuidV7, Bool.and_eq_true, beq_iff_eq]
  exact Iff.rfl

theorem isHexDigit_hexDigit {n : ℕ} (h : n < 16) : Gateway.isHexDigit (hexDigit n) = true := by
  have hall : ∀ m < 16, Gateway.isHexDigit (hexDigit m) = true := by decide
  exact hall n h

theorem isHexDigit_of_mem_hexEncode {bytes : List UInt8} {c : Char} (h : c ∈ hexEncode bytes) :
    Gateway.isHexDigit c = true := by
  obtain ⟨b, -, hc⟩ := List.mem_flatMap.mp h
  have hb := b.toNat_lt
  rw [List.mem_cons, List.mem_singleton] at hc
  rcases hc with rfl | rfl
  · exact isHexDigit_hexDigit (by omega)
  · exact isHexDigit_hexDigit (by omega)

theorem matches_hexEncode (bytes : List UInt8) {n : ℕ} (h : 2 * bytes.length = n) :
    Gateway.MatchesTemplate (List.replicate n 'x') (hexEncode bytes) := by
  have hmatch := Publisher.matchesTemplate_hex fun c (hc : c ∈ hexEncode bytes) =>
    isHexDigit_of_mem_hexEncode hc
  rwa [length_hexEncode, h] at hmatch

theorem dashed_hexEncode (bytes : List UInt8) :
    dashed (hexEncode bytes) = hexEncode (bytes.take 4) ++ '-' :: (hexEncode ((bytes.drop 4).take 2) ++
      '-' :: (hexEncode ((bytes.drop 6).take 2) ++ '-' :: (hexEncode ((bytes.drop 8).take 2) ++
      '-' :: hexEncode (bytes.drop 10)))) := by
  have h8 := hexEncode_take bytes 4
  have h12 := hexEncode_drop bytes 4
  have h16 := hexEncode_drop bytes 6
  have h20 := hexEncode_drop bytes 8
  have h24 := hexEncode_drop bytes 10
  have hcut (rest : List UInt8) := hexEncode_take rest 2
  simp only [Nat.reduceMul] at h8 h12 h16 h20 h24 hcut
  rw [dashed, h8, h12, h16, h20, h24, hcut, hcut, hcut]
  simp only [List.append_assoc, List.cons_append]

theorem take_two {bytes : List UInt8} {i : ℕ} {b : UInt8} (h : bytes[i]? = some b)
    (hlength : i + 2 ≤ bytes.length) : ∃ next, (bytes.drop i).take 2 = [b, next] := by
  obtain ⟨hi, rfl⟩ := List.getElem?_eq_some_iff.mp h
  refine ⟨bytes[i + 1], ?_⟩
  rw [List.drop_eq_getElem_cons hi, List.drop_eq_getElem_cons (show i + 1 < bytes.length by omega)]
  rfl

namespace UuidV7

variable (u : UuidV7)

theorem matches_version :
    Gateway.MatchesTemplate ('7' :: List.replicate 3 'x') (hexEncode ((u.bytes.drop 6).take 2)) := by
  obtain ⟨b, hb, hseven⟩ := u.version
  have hlength := u.length
  obtain ⟨next, hgroup⟩ := take_two hb (by omega)
  have hrest : Gateway.MatchesTemplate (List.replicate 4 'x') (hexEncode [b, next]) :=
    matches_hexEncode [b, next] rfl
  rw [hexEncode_cons, List.replicate_succ, Gateway.matchesTemplate_cons] at hrest
  rw [hgroup, hexEncode_cons, Gateway.matchesTemplate_cons, hseven]
  exact ⟨rfl, hrest.2⟩

/-- The group of the variant opens with one of four digits. -/
theorem matches_variant :
    Gateway.MatchesTemplate ('y' :: List.replicate 3 'x') (hexEncode ((u.bytes.drop 8).take 2)) := by
  obtain ⟨b, hb, htwo⟩ := u.variant
  have hlength := u.length
  obtain ⟨next, hgroup⟩ := take_two hb (by omega)
  have hrest : Gateway.MatchesTemplate (List.replicate 4 'x') (hexEncode [b, next]) :=
    matches_hexEncode [b, next] rfl
  have hdigits : ∀ n < 16, n / 4 = 2 → Gateway.matchesUuid 'y' (hexDigit n) = true := by decide
  rw [hexEncode_cons, List.replicate_succ, Gateway.matchesTemplate_cons] at hrest
  rw [hgroup, hexEncode_cons, Gateway.matchesTemplate_cons]
  have hbyte := b.toNat_lt
  exact ⟨hdigits _ (by omega) (by omega), hrest.2⟩

theorem isUuidV7_canonicalText : Gateway.isUuidV7 u.canonicalText = true := by
  have hlength := u.length
  have hfirst : Gateway.MatchesTemplate (List.replicate 8 'x') (hexEncode (u.bytes.take 4)) := by
    refine matches_hexEncode _ ?_
    rw [List.length_take]
    omega
  have hsecond : Gateway.MatchesTemplate (List.replicate 4 'x') (hexEncode ((u.bytes.drop 4).take 2)) := by
    refine matches_hexEncode _ ?_
    rw [List.length_take, List.length_drop]
    omega
  have hlast : Gateway.MatchesTemplate (List.replicate 12 'x') (hexEncode (u.bytes.drop 10)) := by
    refine matches_hexEncode _ ?_
    rw [List.length_drop]
    omega
  have hfourth := Publisher.matchesTemplate_append u.matches_variant (Publisher.matchesTemplate_dash hlast)
  have hthird := Publisher.matchesTemplate_append u.matches_version (Publisher.matchesTemplate_dash hfourth)
  have hrest := Publisher.matchesTemplate_append hsecond (Publisher.matchesTemplate_dash hthird)
  have hall := Publisher.matchesTemplate_append hfirst (Publisher.matchesTemplate_dash hrest)
  rw [isUuidV7_iff, canonicalText, String.toList_ofList, dashed_hexEncode]
  exact hall

theorem filter_canonicalText :
    u.canonicalText.toList.filter (fun c => c ≠ '-') = hexEncode u.bytes := by
  have hdigits (bytes : List UInt8) : (hexEncode bytes).filter (fun c => c ≠ '-') = hexEncode bytes := by
    rw [List.filter_eq_self]
    intro c hc
    have hhex := isHexDigit_of_mem_hexEncode hc
    rw [decide_eq_true_eq]
    rintro rfl
    cases hhex
  have hdash (cs : List Char) : ('-' :: cs).filter (fun c => c ≠ '-') = cs.filter fun c => c ≠ '-' := by
    rw [List.filter_cons_of_neg (by simp)]
  rw [canonicalText, String.toList_ofList, dashed_hexEncode]
  simp only [List.filter_append, hdash, hdigits]
  rw [← hexEncode_append, ← hexEncode_append, ← hexEncode_append, ← hexEncode_append]
  congr 1
  have h8 := List.take_append_drop 2 (u.bytes.drop 8)
  have h6 := List.take_append_drop 2 (u.bytes.drop 6)
  have h4 := List.take_append_drop 2 (u.bytes.drop 4)
  rw [List.drop_drop] at h8 h6 h4
  rw [h8, h6, h4, List.take_append_drop]

end UuidV7

/-! ### What the regular expression accepts -/

section Accepted

variable {text : String} (h : Gateway.isUuidV7 text = true)

include h

/-- A letter of the text is a dash or a digit in small letters. -/
theorem isHexDigit_of_isUuidV7 {c : Char} (hc : c ∈ text.toList) (hdash : c ≠ '-') :
    Gateway.isHexDigit c = true := by
  obtain ⟨-, hdigits⟩ := Gateway.digits_of_matches Gateway.isTemplate_uuidV7 (isUuidV7_iff.mp h)
  exact hdigits c (List.mem_filter.mpr ⟨hc, decide_eq_true hdash⟩)

theorem length_of_isUuidV7 : text.toList.length = 36 := (isUuidV7_iff.mp h).1

theorem dash_of_isUuidV7 {i : ℕ} (hi : uuidTemplate[i]? = some '-') : text.toList[i]? = some '-' := by
  obtain ⟨hlength, hmatches⟩ := isUuidV7_iff.mp h
  obtain ⟨hlow, hdash⟩ := List.getElem?_eq_some_iff.mp hi
  have hhigh : i < text.toList.length := by omega
  have hmem : ('-', text.toList[i]) ∈ uuidTemplate.zip text.toList := by
    rw [← hdash, ← List.getElem_zip (h := by rw [List.length_zip]; omega)]
    exact List.getElem_mem _
  have hchecked := List.all_eq_true.mp hmatches _ hmem
  have hsame : text.toList[i] = '-' := eq_of_beq hchecked
  rw [List.getElem?_eq_getElem hhigh, hsame]

end Accepted

theorem exists_hexDigit {c : Char} (h : Gateway.isHexDigit c = true) : ∃ n < 16, hexDigit n = c := by
  simp only [Gateway.isHexDigit, Gateway.isDigit, Bool.or_eq_true, Bool.and_eq_true, decide_eq_true_eq] at h
  rcases h with ⟨hlow, hhigh⟩ | ⟨hlow, hhigh⟩
  · have hlow' : 48 ≤ c.toNat := hlow
    have hhigh' : c.toNat ≤ 57 := hhigh
    refine ⟨c.toNat - 48, by omega, ?_⟩
    rw [hexDigit, if_pos (by omega), show 48 + (c.toNat - 48) = c.toNat by omega, Char.ofNat_toNat]
  · have hlow' : 97 ≤ c.toNat := hlow
    have hhigh' : c.toNat ≤ 102 := hhigh
    refine ⟨c.toNat - 87, by omega, ?_⟩
    rw [hexDigit, if_neg (by omega), show 87 + (c.toNat - 87) = c.toNat by omega, Char.ofNat_toNat]

theorem matches_cons_inv {t : Char} {ts cs : List Char} (h : Gateway.MatchesTemplate (t :: ts) cs) :
    ∃ c rest, cs = c :: rest ∧ Gateway.matchesUuid t c = true ∧ Gateway.MatchesTemplate ts rest := by
  cases cs with
  | nil => cases h.1
  | cons c rest => exact ⟨c, rest, rfl, Gateway.matchesTemplate_cons.mp h⟩

theorem matches_append_inv {ts us cs : List Char} (h : Gateway.MatchesTemplate (ts ++ us) cs) :
    ∃ front rest, cs = front ++ rest ∧ Gateway.MatchesTemplate ts front ∧ Gateway.MatchesTemplate us rest := by
  induction ts generalizing cs with
  | nil => exact ⟨[], cs, rfl, ⟨rfl, rfl⟩, h⟩
  | cons t ts ih =>
    obtain ⟨c, after, rfl, hc, hafter⟩ := matches_cons_inv h
    obtain ⟨front, rest, rfl, hfront, hrest⟩ := ih hafter
    exact ⟨c :: front, rest, rfl, Gateway.matchesTemplate_cons.mpr ⟨hc, hfront⟩, hrest⟩

theorem matches_dash_inv {ts us cs : List Char} (h : Gateway.MatchesTemplate (ts ++ '-' :: us) cs) :
    ∃ front rest, cs = front ++ '-' :: rest ∧ Gateway.MatchesTemplate ts front ∧
      Gateway.MatchesTemplate us rest := by
  obtain ⟨front, after, rfl, hfront, hafter⟩ := matches_append_inv h
  obtain ⟨c, rest, rfl, hdash, hrest⟩ := matches_cons_inv hafter
  have hc : c = '-' := eq_of_beq hdash
  exact ⟨front, rest, by rw [hc], hfront, hrest⟩

theorem exists_bytes {n : ℕ} {cs : List Char}
    (h : Gateway.MatchesTemplate (List.replicate (2 * n) 'x') cs) :
    ∃ bytes, bytes.length = n ∧ hexEncode bytes = cs := by
  induction n generalizing cs with
  | zero =>
    refine ⟨[], rfl, ?_⟩
    rw [List.length_eq_zero_iff.mp h.1]
    rfl
  | succ n ih =>
    rw [Nat.mul_succ, List.replicate_succ, List.replicate_succ] at h
    obtain ⟨a, after, rfl, ha, hafter⟩ := matches_cons_inv h
    obtain ⟨b, rest, rfl, hb, hrest⟩ := matches_cons_inv hafter
    obtain ⟨high, hhigh, rfl⟩ := exists_hexDigit ha
    obtain ⟨low, hlow, rfl⟩ := exists_hexDigit hb
    obtain ⟨bytes, hlength, rfl⟩ := ih hrest
    have hvalue : (UInt8.ofNat (high * 16 + low)).toNat = high * 16 + low := by
      rw [UInt8.toNat_ofNat']
      omega
    refine ⟨UInt8.ofNat (high * 16 + low) :: bytes, by rw [List.length_cons, hlength], ?_⟩
    rw [hexEncode_cons, hvalue, show (high * 16 + low) / 16 = high by omega,
      show (high * 16 + low) % 16 = low by omega]

/-- A group of four digits is two bytes, and the first digit is the first half of the first byte. -/
theorem exists_group {t : Char} {cs : List Char} (h : Gateway.MatchesTemplate (t :: List.replicate 3 'x') cs)
    (ht : ∀ c, Gateway.matchesUuid t c = true → Gateway.isHexDigit c = true) :
    ∃ b next, hexEncode [b, next] = cs ∧ Gateway.matchesUuid t (hexDigit (b.toNat / 16)) = true := by
  obtain ⟨c, rest, rfl, hc, hrest⟩ := matches_cons_inv h
  have hall : Gateway.MatchesTemplate (List.replicate (2 * 2) 'x') (c :: rest) :=
    Gateway.matchesTemplate_cons.mpr ⟨ht c hc, hrest⟩
  obtain ⟨bytes, hlength, hbytes⟩ := exists_bytes hall
  obtain ⟨b, next, rfl⟩ := List.length_eq_two.mp hlength
  refine ⟨b, next, hbytes, ?_⟩
  rw [hexEncode_cons] at hbytes
  rw [(List.cons.inj hbytes).1]
  exact hc

theorem isHexDigit_variant {c : Char} (h : Gateway.matchesUuid 'y' c = true) :
    Gateway.isHexDigit c = true := by
  have hcases : ((c = '8' ∨ c = '9') ∨ c = 'a') ∨ c = 'b' := by simpa [Gateway.matchesUuid] using h
  rcases hcases with ((rfl | rfl) | rfl) | rfl <;> rfl

/-- **What the regular expression accepts** is the text of some sixteen bytes. -/
theorem exists_uuidV7 {text : String} (h : Gateway.isUuidV7 text = true) :
    ∃ u : UuidV7, text = u.canonicalText := by
  have htemplate : uuidTemplate = List.replicate (2 * 4) 'x' ++ '-' :: (List.replicate (2 * 2) 'x' ++
      '-' :: (('7' :: List.replicate 3 'x') ++ '-' :: (('y' :: List.replicate 3 'x') ++
      '-' :: List.replicate (2 * 6) 'x'))) := rfl
  have hmatches := isUuidV7_iff.mp h
  rw [htemplate] at hmatches
  obtain ⟨first, rest₁, htext, hfirst, hrest₁⟩ := matches_dash_inv hmatches
  obtain ⟨second, rest₂, rfl, hsecond, hrest₂⟩ := matches_dash_inv hrest₁
  obtain ⟨third, rest₃, rfl, hthird, hrest₃⟩ := matches_dash_inv hrest₂
  obtain ⟨fourth, fifth, rfl, hfourth, hfifth⟩ := matches_dash_inv hrest₃
  obtain ⟨as, has, rfl⟩ := exists_bytes hfirst
  obtain ⟨bs, hbs, rfl⟩ := exists_bytes hsecond
  have hseven (c : Char) (hc : Gateway.matchesUuid '7' c = true) : Gateway.isHexDigit c = true := by
    have hsame : c = '7' := eq_of_beq hc
    rw [hsame]
    rfl
  obtain ⟨v, v', rfl, hversion⟩ := exists_group hthird hseven
  obtain ⟨w, w', rfl, hvariant⟩ := exists_group hfourth fun c => isHexDigit_variant
  obtain ⟨es, hes, rfl⟩ := exists_bytes hfifth
  have hv := v.toNat_lt
  have hw := w.toNat_lt
  have hversions : ∀ n < 16, Gateway.matchesUuid '7' (hexDigit n) = true → n = 7 := by decide
  have hvariants : ∀ n < 16, Gateway.matchesUuid 'y' (hexDigit n) = true → n / 4 = 2 := by decide
  have hv7 := hversions _ (by omega) hversion
  have hw2 := hvariants _ (by omega) hvariant
  obtain ⟨a₁, a₂, a₃, a₄, rfl⟩ := List.length_eq_four.mp has
  obtain ⟨b₁, b₂, rfl⟩ := List.length_eq_two.mp hbs
  have hlength : ([a₁, a₂, a₃, a₄, b₁, b₂, v, v', w, w'] ++ es).length = 16 := by
    rw [List.length_append, hes]
    rfl
  refine ⟨⟨[a₁, a₂, a₃, a₄, b₁, b₂, v, v', w, w'] ++ es, hlength, ⟨v, rfl, hv7⟩, ⟨w, rfl, by omega⟩⟩, ?_⟩
  rw [UuidV7.canonicalText, dashed_hexEncode, ← String.ofList_toList (s := text), htext]
  rfl

/-! ### Small letters -/

theorem utf8ByteSize_ascii {cs : List Char} (h : ∀ c ∈ cs, c.toNat < 128) :
    (String.ofList cs).utf8ByteSize = cs.length := by
  rw [Gateway.utf8ByteSize_ofList]
  induction cs with
  | nil => rfl
  | cons c cs ih =>
    rw [List.forall_mem_cons] at h
    have hc : c.toNat ≤ 127 := Nat.le_of_lt_succ h.1
    have hsize : c.utf8Size = 1 := by
      rw [Char.utf8Size_eq_one_iff, UInt32.le_iff_toNat_le]
      exact hc
    rw [Gateway.byteLength_cons, hsize, ih h.2, List.length_cons, Nat.add_comm]

theorem toLower_of_small {c : Char} (hascii : c.toNat < 128) (hsmall : ¬ (65 ≤ c.toNat ∧ c.toNat ≤ 90)) :
    c.toLower = c := by
  have hall : ∀ n < 128, ¬ (65 ≤ n ∧ n ≤ 90) → (Char.ofNat n).toLower = Char.ofNat n := by decide
  have hlower := hall c.toNat hascii hsmall
  rwa [Char.ofNat_toNat] at hlower

theorem toLower_small {c : Char} (hascii : c.toNat < 128) (hsmall : ¬ (65 ≤ c.toNat ∧ c.toNat ≤ 90)) :
    (if c = '\u0130' then 'i' else if c = '\u212a' then 'k' else c.toLower) = c := by
  have hdotted : c ≠ '\u0130' := by
    rintro rfl
    exact absurd hascii (by decide)
  have hkelvin : c ≠ '\u212a' := by
    rintro rfl
    exact absurd hascii (by decide)
  rw [if_neg hdotted, if_neg hkelvin, toLower_of_small hascii hsmall]

theorem toLower_eq_self {text : String}
    (h : ∀ c ∈ text.toList, c.toNat < 128 ∧ ¬ (65 ≤ c.toNat ∧ c.toNat ≤ 90)) : text = toLower text := by
  have hmap : text.toList.map (fun c => if c = '\u0130' then 'i' else if c = '\u212a' then 'k' else
      c.toLower) = text.toList := by
    conv_rhs => rw [← List.map_id text.toList]
    rw [List.map_inj_left]
    intro c hc
    exact toLower_small (h c hc).1 (h c hc).2
  rw [toLower, hmap, String.ofList_toList]

/-- A text that is its own lowering has no capital. -/
theorem small_of_toLower {text : String} (h : text = toLower text) {c : Char} (hc : c ∈ text.toList) :
    ¬ (65 ≤ c.toNat ∧ c.toNat ≤ 90) := by
  have hlist : text.toList.map id = text.toList.map (fun c => if c = '\u0130' then 'i' else
      if c = '\u212a' then 'k' else c.toLower) := by
    rw [List.map_id]
    conv_lhs => rw [h, toLower, String.toList_ofList]
  have hsame := List.map_inj_left.mp hlist c hc
  rintro ⟨hlow, hhigh⟩
  have hall : ∀ n < 91, 65 ≤ n → (if Char.ofNat n = '\u0130' then 'i' else if Char.ofNat n = '\u212a' then 'k'
      else (Char.ofNat n).toLower) ≠ Char.ofNat n := by decide
  have hne := hall c.toNat (by omega) hlow
  rw [Char.ofNat_toNat] at hne
  exact hne hsame.symm

theorem small_of_isHexDigit {c : Char} (h : Gateway.isHexDigit c = true) :
    c.toNat < 128 ∧ ¬ (65 ≤ c.toNat ∧ c.toNat ≤ 90) := by
  obtain ⟨n, hn, rfl⟩ := exists_hexDigit h
  have hall : ∀ m < 16, (hexDigit m).toNat < 128 ∧ ¬ (65 ≤ (hexDigit m).toNat ∧ (hexDigit m).toNat ≤ 90) := by
    decide
  exact hall n hn

theorem small_of_isUuidV7 {text : String} (h : Gateway.isUuidV7 text = true) {c : Char}
    (hc : c ∈ text.toList) : c.toNat < 128 ∧ ¬ (65 ≤ c.toNat ∧ c.toNat ≤ 90) := by
  by_cases hdash : c = '-'
  · rw [hdash]
    decide
  · exact small_of_isHexDigit (isHexDigit_of_isUuidV7 h hc hdash)

/-! ### The two functions -/

section Functions

variable {hmac : List UInt8 → String → Vector UInt8 32} {key : List UInt8} {s t : String}

/-- **Canonical base64url**: a text stands for the bytes that it is the encoding of. -/
theorem decodeCanonical_eq_some {bytes : List UInt8} :
    (bridgeVerifierWith hmac key).decodeCanonical t = some bytes ↔ t = rawUrlEncode bytes := by
  have hencoded (bs : List UInt8) : rawUrlDecode (rawUrlEncode bs) = some bs := by
    rw [rawUrlDecode, rawUrlEncode, String.toList_ofList, Base64Url.decode_encode]
  rw [BridgeVerifier.decodeCanonical]
  constructor
  · intro h
    cases hdecoded : rawUrlDecode t with
    | none =>
      have hnone : (bridgeVerifierWith hmac key).rawUrlDecode t = none := hdecoded
      rw [hnone] at h
      cases h
    | some bs =>
      have hsome : (bridgeVerifierWith hmac key).rawUrlDecode t = some bs := hdecoded
      rw [hsome] at h
      have h : (if rawUrlEncode bs = t then some bs else none) = some bytes := h
      split_ifs at h with hsame
      rw [← Option.some.inj h, hsame]
  · rintro rfl
    have hsome : (bridgeVerifierWith hmac key).rawUrlDecode (rawUrlEncode bytes) = some bytes := hencoded bytes
    rw [hsome]
    exact if_pos rfl

theorem compactUUIDV7ToCanonical_eq_some :
    (bridgeVerifierWith hmac key).compactUUIDV7ToCanonical t = some s ↔
      ∃ u : UuidV7, t = u.compactText ∧ s = u.canonicalText := by
  rw [BridgeVerifier.compactUUIDV7ToCanonical]
  simp only [Option.bind_eq_bind, Option.bind_eq_some_iff, Option.guard_eq_some', exists_const,
    decodeCanonical_eq_some, Option.some.injEq]
  constructor
  · rintro ⟨bytes, rfl, hlength, version, hversion, variant, hvariant, ⟨hseven, htwo⟩, rfl⟩
    exact ⟨⟨bytes, hlength, ⟨version, hversion, hseven⟩, ⟨variant, hvariant, htwo⟩⟩, rfl, rfl⟩
  · rintro ⟨u, rfl, rfl⟩
    obtain ⟨version, hversion, hseven⟩ := u.version
    obtain ⟨variant, hvariant, htwo⟩ := u.variant
    exact ⟨u.bytes, rfl, u.length, version, hversion, variant, hvariant, ⟨hseven, htwo⟩, rfl⟩

/-- What `canonicalUUIDV7ToCompact` checks, before it encodes. -/
theorem canonicalUUIDV7_of_compact (h : canonicalUUIDV7ToCompact s = some t) :
    canonicalUUIDV7 s = true ∧
      ∃ u : UuidV7, t = u.compactText ∧ s.toList.filter (fun c => c ≠ '-') = hexEncode u.bytes := by
  simp only [canonicalUUIDV7ToCompact, Option.bind_eq_bind, Option.bind_eq_some_iff, Option.guard_eq_some',
    exists_const, Option.some.injEq] at h
  obtain ⟨⟨hsize, h8, h13, h18, h23, hlower⟩, bytes, hdecoded, hlength, version, hversion, variant, hvariant,
    ⟨hseven, htwo⟩, rfl⟩ := h
  have hdigits : hexEncode bytes = s.toList.filter fun c => c ≠ '-' := by
    refine hexEncode_of_hexDecode hdecoded fun c hc => ?_
    exact small_of_toLower hlower (List.mem_filter.mp hc).1
  have hletters : ∀ c ∈ s.toList, c.toNat < 128 ∧ c.toLower = c := by
    intro c hc
    have hascii : c.toNat < 128 := by
      by_cases hdash : c = '-'
      · rw [hdash]
        decide
      · have hmem : c ∈ hexEncode bytes := by
          rw [hdigits]
          exact List.mem_filter.mpr ⟨hc, decide_eq_true hdash⟩
        exact (small_of_isHexDigit (isHexDigit_of_mem_hexEncode hmem)).1
    exact ⟨hascii, toLower_of_small hascii (small_of_toLower hlower hc)⟩
  have hcount : s.toList.length = 36 := by
    rw [← utf8ByteSize_ascii fun c hc => (hletters c hc).1, String.ofList_toList, hsize]
  have hmap : s.toList.map Char.toLower = s.toList := by
    conv_rhs => rw [← List.map_id s.toList]
    rw [List.map_inj_left]
    exact fun c hc => (hletters c hc).2
  have hfilter : (s.toList.filter fun c => c != '-') = hexEncode bytes := by
    rw [hdigits]
    refine List.filter_congr fun c _ => ?_
    rw [bne, decide_not, beq_eq_decide]
  have hhex : (hexEncode bytes).all isHexDigit = true := by
    rw [List.all_eq_true]
    intro c hc
    have hsmall := isHexDigit_of_mem_hexEncode hc
    rw [Gateway.isHexDigit, Bool.or_eq_true] at hsmall
    rw [isHexDigit, Bool.or_eq_true, Bool.or_eq_true]
    exact .inl hsmall
  have h12 := hexEncode_getElem? hversion
  have h16 := hexEncode_getElem? hvariant
  rw [hseven] at h12
  have hvariants : ∀ n < 16, n / 4 = 2 →
      (hexDigit n == '8' || hexDigit n == '9' || hexDigit n == 'a' || hexDigit n == 'b') = true := by decide
  have hbyte := variant.toNat_lt
  refine ⟨?_, ⟨bytes, hlength, ⟨version, hversion, hseven⟩, ⟨variant, hvariant, htwo⟩⟩, rfl, hdigits.symm⟩
  simp only [canonicalUUIDV7, hcount, h8, h13, h18, h23, hmap, hfilter, hhex, length_hexEncode, hlength, h12,
    h16, Option.any_some, beq_self_eq_true, hvariants _ (show variant.toNat / 16 < 16 by omega) (by omega)]
  rfl

theorem canonicalUUIDV7ToCompact_eq_some :
    canonicalUUIDV7ToCompact s = some t ↔ ∃ u : UuidV7, s = u.canonicalText ∧ t = u.compactText := by
  constructor
  · intro h
    obtain ⟨hcanonical, u, hcompact, hdigits⟩ := canonicalUUIDV7_of_compact h
    obtain ⟨w, rfl⟩ := exists_uuidV7 (Publisher.isUuidV7_of_canonical hcanonical)
    rw [UuidV7.filter_canonicalText] at hdigits
    have hsame : w.bytes = u.bytes := by
      have hdecoded := hexDecode_hexEncode w.bytes
      rw [hdigits, hexDecode_hexEncode] at hdecoded
      exact (Option.some.inj hdecoded).symm
    exact ⟨w, rfl, by rw [hcompact, UuidV7.compactText, UuidV7.compactText, hsame]⟩
  · rintro ⟨u, rfl, rfl⟩
    have huuid := u.isUuidV7_canonicalText
    have hsize : u.canonicalText.utf8ByteSize = 36 := by
      rw [← length_of_isUuidV7 huuid, ← utf8ByteSize_ascii fun c hc => (small_of_isUuidV7 huuid hc).1,
        String.ofList_toList]
    have hlower := toLower_eq_self fun c hc => small_of_isUuidV7 huuid hc
    obtain ⟨version, hversion, hseven⟩ := u.version
    obtain ⟨variant, hvariant, htwo⟩ := u.variant
    simp only [canonicalUUIDV7ToCompact, Option.bind_eq_bind, Option.bind_eq_some_iff, Option.guard_eq_some',
      exists_const, Option.some.injEq]
    refine ⟨⟨hsize, dash_of_isUuidV7 huuid rfl, dash_of_isUuidV7 huuid rfl, dash_of_isUuidV7 huuid rfl,
      dash_of_isUuidV7 huuid rfl, hlower⟩, u.bytes, ?_, u.length, version, hversion, variant, hvariant,
      ⟨hseven, htwo⟩, rfl⟩
    rw [u.filter_canonicalText, hexDecode_hexEncode]

end Functions

/-! ### New identifiers -/

section New

variable {milliseconds milliseconds' : ℤ} {random random' : Except String (Vector UInt8 10)} {s t : String}

/-- Setting the version and the variant makes sixteen bytes those of a UUIDv7. -/
theorem exists_stamped {value : List UInt8} (hlength : value.length = 16) :
    ∃ u : UuidV7,
      u.bytes = (value.modify 6 fun b => b &&& 0x0f ||| 0x70).modify 8 fun b => b &&& 0x3f ||| 0x80 := by
  have hsevens : ∀ n < 256, (n &&& 15 ||| 112) / 16 = 7 := by decide +kernel
  have htwos : ∀ n < 256, (n &&& 63 ||| 128) / 64 = 2 := by decide +kernel
  have hsix : (((value.modify 6 fun b => b &&& 0x0f ||| 0x70).modify 8 fun b => b &&& 0x3f ||| 0x80))[6]? =
      (value[6]?).map fun b => b &&& 0x0f ||| 0x70 := by
    rw [List.getElem?_modify_ne _ _ (by decide), List.getElem?_modify_eq]
    rfl
  have height : (((value.modify 6 fun b => b &&& 0x0f ||| 0x70).modify 8 fun b => b &&& 0x3f ||| 0x80))[8]? =
      (value[8]?).map fun b => b &&& 0x3f ||| 0x80 := by
    rw [List.getElem?_modify_eq, List.getElem?_modify_ne _ _ (by decide)]
    rfl
  have h6 : value[6]? = some value[6] := List.getElem?_eq_getElem (by omega)
  have h8 : value[8]? = some value[8] := List.getElem?_eq_getElem (by omega)
  rw [h6, Option.map_some] at hsix
  rw [h8, Option.map_some] at height
  refine ⟨⟨_, ?_, ⟨_, hsix, ?_⟩, ⟨_, height, ?_⟩⟩, rfl⟩
  · rw [List.length_modify, List.length_modify, hlength]
  · rw [UInt8.toNat_or, UInt8.toNat_and]
    exact hsevens _ (UInt8.toNat_lt _)
  · rw [UInt8.toNat_or, UInt8.toNat_and]
    exact htwos _ (UInt8.toNat_lt _)

/-- **A new identifier** is the text of a UUIDv7 that opens with the bytes of its time. -/
theorem newUUIDV7_eq_ok (h : newUUIDV7 milliseconds random = .ok s) :
    (0 ≤ milliseconds ∧ milliseconds < 256 ^ 6) ∧
      ∃ u : UuidV7, s = u.canonicalText ∧ u.bytes.take 6 = bigEndian 6 milliseconds.toNat := by
  unfold newUUIDV7 at h
  simp only [bind_eq_ok, exists_unit, require_eq_ok] at h
  obtain ⟨hrange, h⟩ := h
  cases hrandom : random with
  | error e =>
    rw [hrandom] at h
    cases h
  | ok bytes =>
    rw [hrandom] at h
    have hlength : (bigEndian 6 milliseconds.toNat ++ bytes.toList).length = 16 := by
      rw [List.length_append, length_bigEndian, Vector.length_toList]
    obtain ⟨u, hu⟩ := exists_stamped hlength
    refine ⟨⟨hrange.1, by omega⟩, u, ?_, ?_⟩
    · rw [UuidV7.canonicalText, hu]
      exact (Except.ok.inj h).symm
    · have hfront : (bigEndian 6 milliseconds.toNat ++ bytes.toList).take 6 =
          bigEndian 6 milliseconds.toNat := List.take_left' (length_bigEndian 6 _)
      rw [hu, List.take_modify, List.take_modify, hfront, List.modify_eq_self, List.modify_eq_self]
      · rw [length_bigEndian]
      · rw [List.length_modify, length_bigEndian]
        decide

theorem hexEncode_lt {as bs : List UInt8} (h : as < bs) : hexEncode as < hexEncode bs := by
  induction as generalizing bs with
  | nil =>
    cases bs with
    | nil => exact absurd h (List.not_lt_nil _)
    | cons b bs => exact List.nil_lt_cons _ _
  | cons a as ih =>
    cases bs with
    | nil => exact absurd h (List.not_lt_nil _)
    | cons b bs =>
      have ha := a.toNat_lt
      have hb := b.toNat_lt
      rw [List.cons_lt_cons_iff] at h
      rw [hexEncode_cons, hexEncode_cons, List.cons_lt_cons_iff, List.cons_lt_cons_iff]
      rcases h with h | ⟨rfl, h⟩
      · rw [UInt8.lt_iff_toNat_lt] at h
        by_cases hsame : a.toNat / 16 = b.toNat / 16
        · exact .inr ⟨by rw [hsame], .inl (digitChar_lt (by omega) (by omega))⟩
        · exact .inl (digitChar_lt (by omega) (by omega))
      · exact .inr ⟨rfl, .inr ⟨rfl, ih h⟩⟩

/-- The texts are ordered as their first six bytes are. -/
theorem canonicalText_lt {u w : UuidV7} (h : u.bytes.take 6 < w.bytes.take 6) :
    u.canonicalText < w.canonicalText := by
  have hu := u.length
  have hw := w.length
  have hcut := lt_of_cut 4 (by rw [List.length_take, List.length_take, hu, hw]) h
  rw [List.take_take, List.take_take, List.drop_take, List.drop_take] at hcut
  rw [String.lt_iff_toList_lt, UuidV7.canonicalText, UuidV7.canonicalText, String.toList_ofList,
    String.toList_ofList, dashed_hexEncode, dashed_hexEncode]
  rcases hcut with hfirst | ⟨hsame, hsecond⟩
  · refine append_lt_append_of_lt ?_ (hexEncode_lt hfirst)
    rw [length_hexEncode, length_hexEncode, List.length_take, List.length_take, hu, hw]
  · have hsame : u.bytes.take 4 = w.bytes.take 4 := hsame
    rw [hsame]
    refine List.append_left_lt ?_
    rw [List.cons_lt_cons_iff]
    right
    refine ⟨rfl, append_lt_append_of_lt ?_ (hexEncode_lt hsecond)⟩
    rw [length_hexEncode, length_hexEncode, List.length_take, List.length_take, List.length_drop,
      List.length_drop, hu, hw]

/-- **Later identifiers are greater**, whatever their randomness. -/
theorem newUUIDV7_lt (hs : newUUIDV7 milliseconds random = .ok s)
    (ht : newUUIDV7 milliseconds' random' = .ok t) (h : milliseconds < milliseconds') : s < t := by
  obtain ⟨⟨hlow, -⟩, u, rfl, hu⟩ := newUUIDV7_eq_ok hs
  obtain ⟨⟨-, hhigh⟩, w, rfl, hw⟩ := newUUIDV7_eq_ok ht
  refine canonicalText_lt ?_
  rw [hu, hw]
  exact bigEndian_lt (by omega) (by omega)

theorem exists_newUUIDV7 (bytes : Vector UInt8 10)
    (h : 0 ≤ milliseconds ∧ milliseconds ≤ 0x0000ffffffffffff) :
    ∃ s, newUUIDV7 milliseconds (.ok bytes) = .ok s := by
  unfold newUUIDV7
  rw [require, if_pos h]
  exact ⟨_, rfl⟩

end New

/-! ### The spellings of a UUIDv7 -/

/-- **One identity, one spelling**: the two functions are inverse to each other, the one defined on the
canonical texts and the other on the base64url texts of sixteen bytes with the version and the variant,
and on nothing else; a new identifier is a canonical text, and later ones are greater. -/
theorem spellings_biject (hmac : List UInt8 → String → Vector UInt8 32) (key : List UInt8) :
    (∀ s t, canonicalUUIDV7ToCompact s = some t ↔
      (bridgeVerifierWith hmac key).compactUUIDV7ToCanonical t = some s) ∧
    (∀ s, (∃ t, canonicalUUIDV7ToCompact s = some t) ↔ Gateway.isUuidV7 s = true) ∧
    (∀ t, (∃ s, (bridgeVerifierWith hmac key).compactUUIDV7ToCanonical t = some s) ↔
      ∃ u : UuidV7, t = rawUrlEncode u.bytes) ∧
    (∀ milliseconds bytes, (0 ≤ milliseconds ∧ milliseconds ≤ 0x0000ffffffffffff) →
      ∃ s, newUUIDV7 milliseconds (.ok bytes) = .ok s) ∧
    (∀ milliseconds random s, newUUIDV7 milliseconds random = .ok s →
      Gateway.isUuidV7 s = true ∧ ∃ t, canonicalUUIDV7ToCompact s = some t) ∧
    ∀ milliseconds milliseconds' random random' s t, newUUIDV7 milliseconds random = .ok s →
      newUUIDV7 milliseconds' random' = .ok t → milliseconds < milliseconds' → s < t := by
  refine ⟨fun s t => ?_, fun s => ⟨?_, ?_⟩, fun t => ⟨?_, ?_⟩, ?_, ?_, ?_⟩
  · rw [canonicalUUIDV7ToCompact_eq_some, compactUUIDV7ToCanonical_eq_some]
    exact exists_congr fun u => and_comm
  · rintro ⟨t, ht⟩
    obtain ⟨u, rfl, -⟩ := canonicalUUIDV7ToCompact_eq_some.mp ht
    exact u.isUuidV7_canonicalText
  · intro h
    obtain ⟨u, hu⟩ := exists_uuidV7 h
    exact ⟨u.compactText, canonicalUUIDV7ToCompact_eq_some.mpr ⟨u, hu, rfl⟩⟩
  · rintro ⟨s, hs⟩
    obtain ⟨u, hu, -⟩ := compactUUIDV7ToCanonical_eq_some.mp hs
    exact ⟨u, hu⟩
  · rintro ⟨u, hu⟩
    exact ⟨u.canonicalText, compactUUIDV7ToCanonical_eq_some.mpr ⟨u, hu, rfl⟩⟩
  · intro milliseconds bytes h
    exact exists_newUUIDV7 bytes h
  · intro milliseconds random s h
    obtain ⟨-, u, rfl, -⟩ := newUUIDV7_eq_ok h
    exact ⟨u.isUuidV7_canonicalText, u.compactText, canonicalUUIDV7ToCompact_eq_some.mpr ⟨u, rfl, rfl⟩⟩
  · intro milliseconds milliseconds' random random' s t hs ht h
    exact newUUIDV7_lt hs ht h

theorem spellings_biject_epoch : "00000000-0000-7000-8000-000000000000" < "00000000-0001-7000-8000-000000000000" :=
  (spellings_biject (fun _ _ => Vector.replicate 32 0) []).2.2.2.2.2 0 1 (.ok (Vector.replicate 10 0))
    (.ok (Vector.replicate 10 0)) _ _ (by decide) (by decide) (by decide)

end HiveChameleon.Nakama
