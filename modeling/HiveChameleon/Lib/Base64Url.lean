import Mathlib.Data.List.Basic
import Mathlib.Data.Nat.Notation

/-!
# Lib.Base64Url — unpadded base64url, and the decoder that forgives

The encoder writes the six-bit groups of a byte list over an alphabet of 64 letters.  The decoder skips
line ends and ignores the bits that a last group has too many of, so several texts decode to the same
bytes; a text is canonical when encoding what it decodes to gives it back.
-/

namespace HiveChameleon.Lib.Base64Url

/-! ### The alphabet -/

def symbol (n : ℕ) : Char :=
  if n < 26 then Char.ofNat (65 + n)
  else if n < 52 then Char.ofNat (71 + n)
  else if n < 62 then Char.ofNat (n - 4)
  else if n = 62 then '-' else '_'

def sextet (c : Char) : Option ℕ :=
  if 65 ≤ c.toNat ∧ c.toNat ≤ 90 then some (c.toNat - 65)
  else if 97 ≤ c.toNat ∧ c.toNat ≤ 122 then some (c.toNat - 71)
  else if 48 ≤ c.toNat ∧ c.toNat ≤ 57 then some (c.toNat + 4)
  else if c = '-' then some 62
  else if c = '_' then some 63
  else none

theorem sextet_symbol {n : ℕ} (h : n < 64) : sextet (symbol n) = some n := by
  have hall : ∀ m < 64, sextet (symbol m) = some m := by decide
  exact hall n h

/-- Letters that the decoder skips. -/
def isLineEnd (c : Char) : Bool := c = '\r' || c = '\n'

theorem not_isLineEnd_of_sextet {c : Char} (h : sextet c ≠ none) : isLineEnd c = false := by
  by_cases hend : isLineEnd c = true
  · rw [isLineEnd, Bool.or_eq_true, decide_eq_true_eq, decide_eq_true_eq] at hend
    rcases hend with rfl | rfl
    · exact absurd rfl h
    · exact absurd rfl h
  · exact Bool.not_eq_true _ ▸ hend

/-! ### Bytes and six-bit groups -/

/-- The six-bit groups of a byte list; the last group is filled up with zeros. -/
def sextets : List UInt8 → List ℕ
  | [] => []
  | [a] => [a.toNat / 4, a.toNat % 4 * 16]
  | [a, b] => [a.toNat / 4, a.toNat % 4 * 16 + b.toNat / 16, b.toNat % 16 * 4]
  | a :: b :: c :: rest =>
    a.toNat / 4 :: (a.toNat % 4 * 16 + b.toNat / 16) :: (b.toNat % 16 * 4 + c.toNat / 64) ::
      c.toNat % 64 :: sextets rest

/-- The bytes of six-bit groups; a single last group is refused. -/
def bytes : List ℕ → Option (List UInt8)
  | [] => some []
  | [_] => none
  | [a, b] => some [UInt8.ofNat (a * 4 + b / 16)]
  | [a, b, c] => some [UInt8.ofNat (a * 4 + b / 16), UInt8.ofNat (b % 16 * 16 + c / 4)]
  | a :: b :: c :: d :: rest => do
    let after ← bytes rest
    some (UInt8.ofNat (a * 4 + b / 16) :: UInt8.ofNat (b % 16 * 16 + c / 4) ::
      UInt8.ofNat (c % 4 * 64 + d) :: after)

def encode (bs : List UInt8) : List Char := (sextets bs).map symbol

/-- The decoder: line ends are skipped, and the bits that are left over ignored. -/
def decode (text : List Char) : Option (List UInt8) :=
  ((text.filter fun c => !isLineEnd c).mapM sextet).bind bytes

theorem ofNat_eq {b : UInt8} {n : ℕ} (h : n = b.toNat) : UInt8.ofNat n = b := by
  rw [h, UInt8.ofNat_toNat]

theorem sextets_lt (bs : List UInt8) : ∀ n ∈ sextets bs, n < 64 := by
  induction bs using sextets.induct with
  | case1 => simp [sextets]
  | case2 a =>
    have ha := a.toNat_lt
    simp only [sextets, List.forall_mem_cons, List.not_mem_nil, false_imp_iff, implies_true, and_true]
    omega
  | case3 a b =>
    have ha := a.toNat_lt
    have hb := b.toNat_lt
    simp only [sextets, List.forall_mem_cons, List.not_mem_nil, false_imp_iff, implies_true, and_true]
    omega
  | case4 a b c rest ih =>
    have ha := a.toNat_lt
    have hb := b.toNat_lt
    have hc := c.toNat_lt
    simp only [sextets, List.forall_mem_cons]
    exact ⟨by omega, by omega, by omega, by omega, ih⟩

theorem bytes_sextets (bs : List UInt8) : bytes (sextets bs) = some bs := by
  induction bs using sextets.induct with
  | case1 => rfl
  | case2 a =>
    rw [sextets, bytes, ofNat_eq (b := a) (by omega)]
  | case3 a b =>
    have hb := b.toNat_lt
    rw [sextets, bytes, ofNat_eq (b := a) (by omega), ofNat_eq (b := b) (by omega)]
  | case4 a b c rest ih =>
    have hb := b.toNat_lt
    have hc := c.toNat_lt
    rw [sextets, bytes, ih, ofNat_eq (b := a) (by omega), ofNat_eq (b := b) (by omega),
      ofNat_eq (b := c) (by omega)]
    rfl

theorem length_encode (bs : List UInt8) : (encode bs).length = (4 * bs.length + 2) / 3 := by
  rw [encode, List.length_map]
  induction bs using sextets.induct with
  | case1 => rfl
  | case2 a => simp [sextets]
  | case3 a b => simp [sextets]
  | case4 a b c rest ih =>
    simp only [sextets, List.length_cons, ih]
    omega

theorem sextet_of_mem_encode {bs : List UInt8} {c : Char} (h : c ∈ encode bs) : sextet c ≠ none := by
  obtain ⟨n, hn, rfl⟩ := List.mem_map.mp h
  rw [sextet_symbol (sextets_lt bs n hn)]
  exact Option.some_ne_none n

theorem mapM_sextet (ns : List ℕ) (h : ∀ n ∈ ns, n < 64) : (ns.map symbol).mapM sextet = some ns := by
  induction ns with
  | nil => rfl
  | cons n ns ih =>
    rw [List.forall_mem_cons] at h
    rw [List.map_cons, List.mapM_cons, sextet_symbol h.1, ih h.2]
    rfl

/-- **The round trip.** -/
theorem decode_encode (bs : List UInt8) : decode (encode bs) = some bs := by
  have hkept : (encode bs).filter (fun c => !isLineEnd c) = encode bs := by
    rw [List.filter_eq_self]
    intro c hc
    rw [not_isLineEnd_of_sextet (sextet_of_mem_encode hc)]
    rfl
  rw [decode, hkept, encode, mapM_sextet _ (sextets_lt bs)]
  exact bytes_sextets bs

theorem encode_injective : Function.Injective encode := by
  intro bs bs' h
  have hdecoded := decode_encode bs
  rw [h, decode_encode] at hdecoded
  exact (Option.some.inj hdecoded).symm

end HiveChameleon.Lib.Base64Url
