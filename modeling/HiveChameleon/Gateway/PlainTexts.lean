import HiveChameleon.Gateway.EventReading
import HiveChameleon.Gateway.JsonSize

/-!
# Gateway.PlainTexts — the bytes of the texts of the protocol

UUIDs, hashes, account names and controlled codes are plain ASCII, so each takes its length and two
quotes.
-/

namespace HiveChameleon.Gateway

open Lib

/-- A printable range without the quote and the backslash is plain. -/
theorem isPlainChar_of_range {low high : ℕ} {c : Char} (hlow : low ≤ c.toNat) (hhigh : c.toNat ≤ high)
    (hrange : 34 < low ∧ high < 92 ∨ 92 < low ∧ high < 127) : isPlainChar c = true := by
  have hquote : c ≠ '"' := by
    intro heq
    have hcode : c.toNat = 34 := by rw [heq]; rfl
    omega
  have hslash : c ≠ '\\' := by
    intro heq
    have hcode : c.toNat = 92 := by rw [heq]; rfl
    omega
  simp only [isPlainChar, Bool.and_eq_true, decide_eq_true_eq, bne_iff_ne, ne_eq]
  exact ⟨⟨⟨by omega, by omega⟩, hquote⟩, hslash⟩

theorem isPlainChar_of_isDigit {c : Char} (h : isDigit c = true) : isPlainChar c = true := by
  simp only [isDigit, Bool.and_eq_true, decide_eq_true_eq] at h
  have hlow : 48 ≤ c.toNat := h.1
  have hhigh : c.toNat ≤ 57 := h.2
  exact isPlainChar_of_range hlow hhigh (by omega)

theorem isPlainChar_of_isLowerLetter {c : Char} (h : isLowerLetter c = true) :
    isPlainChar c = true := by
  simp only [isLowerLetter, Bool.and_eq_true, decide_eq_true_eq] at h
  have hlow : 97 ≤ c.toNat := h.1
  have hhigh : c.toNat ≤ 122 := h.2
  exact isPlainChar_of_range hlow hhigh (by omega)

theorem isPlainChar_of_isHexDigit {c : Char} (h : isHexDigit c = true) : isPlainChar c = true := by
  rw [isHexDigit, Bool.or_eq_true] at h
  rcases h with h | h
  · exact isPlainChar_of_isDigit h
  · refine isPlainChar_of_isLowerLetter ?_
    simp only [Bool.and_eq_true, decide_eq_true_eq] at h
    simp only [isLowerLetter, Bool.and_eq_true, decide_eq_true_eq]
    exact ⟨h.1, h.2.trans (by decide)⟩

theorem textBytes_uuid {s : String} (h : isUuidV7 s = true) : textBytes s = 38 := by
  rw [isUuidV7, Bool.and_eq_true, beq_iff_eq] at h
  obtain ⟨-, hdigits⟩ := digits_of_matches isTemplate_uuidV7 ⟨h.1, h.2⟩
  have hplain : ∀ c ∈ s.toList, isPlainChar c = true := by
    intro c hc
    by_cases hdash : c = '-'
    · rw [hdash]
      rfl
    · exact isPlainChar_of_isHexDigit (hdigits c (List.mem_filter.mpr ⟨hc, by simp [hdash]⟩))
  rw [textBytes_plain hplain, ← String.length_toList, h.1]

theorem textBytes_sha256 {s : String} (h : sha256Schema s = true) : textBytes s = 66 := by
  rw [sha256Schema, Bool.and_eq_true, beq_iff_eq, List.all_eq_true] at h
  rw [textBytes_plain fun c hc => isPlainChar_of_isHexDigit (h.2 c hc), h.1]

theorem textBytes_code {s : String} (h : controlledCodeSchema s = true) : textBytes s ≤ 66 := by
  simp only [controlledCodeSchema, Bool.and_eq_true, decide_eq_true_eq, List.all_eq_true,
    Bool.or_eq_true, beq_iff_eq] at h
  have hplain : ∀ c ∈ s.toList, isPlainChar c = true := by
    intro c hc
    rcases h.2 c hc with ((hletter | hdigit) | rfl) | rfl
    · exact isPlainChar_of_isLowerLetter hletter
    · exact isPlainChar_of_isDigit hdigit
    · rfl
    · rfl
  rw [textBytes_plain hplain]
  omega

theorem mem_of_intercalate {separator c : Char} : ∀ {parts : List (List Char)},
    c ∈ [separator].intercalate parts → c = separator ∨ ∃ part ∈ parts, c ∈ part
  | [], h => by simp at h
  | [part], h => by
    rw [List.intercalate_singleton] at h
    exact .inr ⟨part, List.mem_singleton_self _, h⟩
  | part :: next :: parts, h => by
    rw [List.intercalate_cons_cons, List.mem_append, List.mem_append, List.mem_singleton] at h
    rcases h with (h | h) | h
    · exact .inr ⟨part, List.mem_cons_self .., h⟩
    · exact .inl h
    · rcases mem_of_intercalate h with h | ⟨other, hother, hc⟩
      · exact .inl h
      · exact .inr ⟨other, List.mem_cons_of_mem _ hother, hc⟩

/-- A character of a text is one of a part, or the separator. -/
theorem mem_of_splitOn {cs : List Char} (separator : Char) {c : Char} (h : c ∈ cs) :
    c = separator ∨ ∃ part ∈ cs.splitOn separator, c ∈ part := by
  refine mem_of_intercalate ?_
  rw [List.intercalate_splitOn]
  exact h

theorem textBytes_account {s : String} (h : hiveAccountSchema s = true) : textBytes s ≤ 18 := by
  simp only [hiveAccountSchema, Bool.and_eq_true, decide_eq_true_eq, List.all_eq_true] at h
  obtain ⟨⟨⟨-, hlength⟩, -⟩, hsegments⟩ := h
  have hplain : ∀ c ∈ s.toList, isPlainChar c = true := by
    intro c hc
    rcases mem_of_splitOn '.' hc with rfl | ⟨segment, hsegment, hmem⟩
    · rfl
    · have hvalid := hsegments segment hsegment
      simp only [hiveAccountSegment, Bool.and_eq_true, List.all_eq_true, Bool.or_eq_true,
        beq_iff_eq] at hvalid
      rcases hvalid.1.2 c hmem with (hletter | hdigit) | rfl
      · exact isPlainChar_of_isLowerLetter hletter
      · exact isPlainChar_of_isDigit hdigit
      · rfl
  rw [textBytes_plain hplain]
  omega

end HiveChameleon.Gateway
