import Mathlib.Data.Nat.Digits.Lemmas

/-!
# Lib.Digits — digits, big-endian bytes, and the order of their texts

Digits up to 36 with their letters; the text of a number in a base and the number of a text; a number as
big-endian bytes.  Among lists of one length the order is that of the first difference, so a number's
bytes are ordered as the number is.
-/

namespace HiveChameleon.Lib

/-! ### Digits -/

/-- `0` to `9`, and the small letters from ten on. -/
def digitChar (n : ℕ) : Char := if n < 10 then Char.ofNat (48 + n) else Char.ofNat (87 + n)

/-- The value of a digit; a letter counts the same in both cases. -/
def digitValue (c : Char) : Option ℕ :=
  if 48 ≤ c.toNat ∧ c.toNat ≤ 57 then some (c.toNat - 48)
  else if 97 ≤ c.toNat ∧ c.toNat ≤ 122 then some (c.toNat - 87)
  else if 65 ≤ c.toNat ∧ c.toNat ≤ 90 then some (c.toNat - 55)
  else none

/-- The value of a digit of a base. -/
def digitBelow (base : ℕ) (c : Char) : Option ℕ := (digitValue c).filter fun n => n < base

theorem digitValue_digitChar {n : ℕ} (h : n < 36) : digitValue (digitChar n) = some n := by
  have hall : ∀ m < 36, digitValue (digitChar m) = some m := by decide
  exact hall n h

theorem digitBelow_digitChar {base n : ℕ} (hbase : base ≤ 36) (h : n < base) :
    digitBelow base (digitChar n) = some n := by
  rw [digitBelow, digitValue_digitChar (by omega), Option.filter_some, decide_eq_true h]
  rfl

theorem digitChar_of_value {c : Char} {n : ℕ} (h : digitValue c = some n)
    (hsmall : ¬ (65 ≤ c.toNat ∧ c.toNat ≤ 90)) : digitChar n = c := by
  rw [digitValue] at h
  split_ifs at h with hdigit hletter
  · have hn : 48 + n = c.toNat := by
      have := Option.some.inj h
      omega
    rw [digitChar, if_pos (by omega), hn, Char.ofNat_toNat]
  · have hn : 87 + n = c.toNat := by
      have := Option.some.inj h
      omega
    rw [digitChar, if_neg (by omega), hn, Char.ofNat_toNat]

theorem digitChar_lt {m n : ℕ} (hn : n < 36) (h : m < n) : digitChar m < digitChar n := by
  have hall : ∀ b < 36, ∀ a < b, digitChar a < digitChar b := by decide
  exact hall n hn m h

/-! ### Numbers in a base -/

/-- The digits of a number, the highest first. -/
def numeral (base n : ℕ) : List Char :=
  if n = 0 then ['0'] else (base.digits n).reverse.map digitChar

/-- The number of a text of digits. -/
def parseNumeral (base : ℕ) (text : List Char) : Option ℕ :=
  if text = [] then none
  else (text.mapM (digitBelow base)).map fun digits => Nat.ofDigits base digits.reverse

theorem mapM_digitBelow {base : ℕ} (hbase : base ≤ 36) (digits : List ℕ) (h : ∀ d ∈ digits, d < base) :
    (digits.map digitChar).mapM (digitBelow base) = some digits := by
  induction digits with
  | nil => rfl
  | cons d digits ih =>
    rw [List.forall_mem_cons] at h
    rw [List.map_cons, List.mapM_cons, digitBelow_digitChar hbase h.1, ih h.2]
    rfl

theorem numeral_ne_nil {base n : ℕ} : numeral base n ≠ [] := by
  rw [numeral]
  split_ifs with hzero
  · exact List.cons_ne_nil _ _
  · intro hnil
    have hdigits : (base.digits n).reverse = [] := List.map_eq_nil_iff.mp hnil
    rw [List.reverse_eq_nil_iff, Nat.digits_eq_nil_iff_eq_zero] at hdigits
    exact hzero hdigits

/-- **The round trip.** -/
theorem parseNumeral_numeral {base n : ℕ} (hlow : 2 ≤ base) (hhigh : base ≤ 36) :
    parseNumeral base (numeral base n) = some n := by
  rw [parseNumeral, if_neg numeral_ne_nil, numeral]
  split_ifs with hzero
  · have hdigit : digitBelow base '0' = some 0 := digitBelow_digitChar hhigh (n := 0) (by omega)
    rw [List.mapM_cons, hdigit, hzero]
    rfl
  · have hbelow : ∀ d ∈ (base.digits n).reverse, d < base := by
      intro d hd
      exact Nat.digits_lt_base (by omega) (List.mem_reverse.mp hd)
    rw [mapM_digitBelow hhigh _ hbelow, Option.map_some, List.reverse_reverse, Nat.ofDigits_digits]

theorem length_numeral_le {base n k : ℕ} (hbase : 2 ≤ base) (hk : 0 < k) (h : n < base ^ k) :
    (numeral base n).length ≤ k := by
  rw [numeral]
  split_ifs with hzero
  · exact hk
  · rw [List.length_map, List.length_reverse]
    exact (Nat.digits_length_le_iff (by omega) n).mpr h

theorem exists_digit_of_mem_numeral {base n : ℕ} {c : Char} (hbase : 2 ≤ base) (h : c ∈ numeral base n) :
    ∃ d < base, c = digitChar d := by
  rw [numeral] at h
  split_ifs at h with hzero
  · exact ⟨0, by omega, List.mem_singleton.mp h⟩
  · obtain ⟨d, hd, rfl⟩ := List.mem_map.mp h
    exact ⟨d, Nat.digits_lt_base (by omega) (List.mem_reverse.mp hd), rfl⟩

/-! ### Big-endian bytes -/

/-- The last `count` bytes of a number, the highest first. -/
def bigEndian : ℕ → ℕ → List UInt8
  | 0, _ => []
  | count + 1, n => bigEndian count (n / 256) ++ [UInt8.ofNat (n % 256)]

@[simp] theorem length_bigEndian (count n : ℕ) : (bigEndian count n).length = count := by
  induction count generalizing n with
  | zero => rfl
  | succ count ih => rw [bigEndian, List.length_append, ih, List.length_singleton]

theorem append_lt_append_of_lt {α : Type*} [LT α] {as bs cs ds : List α} (hlength : as.length = bs.length)
    (h : as < bs) : as ++ cs < bs ++ ds := by
  induction as generalizing bs with
  | nil =>
    rw [List.length_nil] at hlength
    rw [List.length_eq_zero_iff.mp hlength.symm] at h
    exact absurd h (List.not_lt_nil _)
  | cons a as ih =>
    cases bs with
    | nil => cases hlength
    | cons b bs =>
      rw [List.cons_lt_cons_iff] at h
      rw [List.cons_append, List.cons_append, List.cons_lt_cons_iff]
      rcases h with h | ⟨rfl, h⟩
      · exact .inl h
      · exact .inr ⟨rfl, ih (Nat.succ.inj hlength) h⟩

theorem lt_of_cut {α : Type*} [LT α] {as bs : List α} (n : ℕ) (hlength : as.length = bs.length)
    (h : as < bs) : as.take n < bs.take n ∨ as.take n = bs.take n ∧ as.drop n < bs.drop n := by
  induction n generalizing as bs with
  | zero => exact .inr ⟨rfl, h⟩
  | succ n ih =>
    cases bs with
    | nil => exact absurd h (List.not_lt_nil _)
    | cons b bs =>
      cases as with
      | nil => cases hlength
      | cons a as =>
        rw [List.cons_lt_cons_iff] at h
        rw [List.take_succ_cons, List.take_succ_cons, List.drop_succ_cons, List.drop_succ_cons,
          List.cons_lt_cons_iff]
        rcases h with h | ⟨rfl, h⟩
        · exact .inl (.inl h)
        · rcases ih (Nat.succ.inj hlength) h with hfront | ⟨hsame, hback⟩
          · exact .inl (.inr ⟨rfl, hfront⟩)
          · exact .inr ⟨by rw [hsame], hback⟩

/-- **The order of the bytes** is the order of the numbers that fit. -/
theorem bigEndian_lt {count m n : ℕ} (hn : n < 256 ^ count) (h : m < n) :
    bigEndian count m < bigEndian count n := by
  induction count generalizing m n with
  | zero =>
    rw [pow_zero] at hn
    omega
  | succ count ih =>
    have hhigh : n / 256 < 256 ^ count := by
      rw [Nat.div_lt_iff_lt_mul (by decide), ← pow_succ]
      exact hn
    rw [bigEndian, bigEndian]
    by_cases hsame : m / 256 = n / 256
    · rw [hsame]
      refine List.append_left_lt ?_
      rw [List.cons_lt_cons_iff]
      left
      rw [UInt8.lt_iff_toNat_lt, UInt8.toNat_ofNat', UInt8.toNat_ofNat']
      omega
    · refine append_lt_append_of_lt ?_ (ih hhigh (by omega))
      rw [length_bigEndian, length_bigEndian]

end HiveChameleon.Lib
