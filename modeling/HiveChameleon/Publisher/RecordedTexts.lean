import HiveChameleon.Gateway.PlainTexts
import HiveChameleon.Publisher.PublicMatch

/-!
# Publisher.RecordedTexts — the recorder's texts in the protocol

The match server and the protocol check UUIDs and scores with different code: what the first accepts the
second accepts.  The bytes of scores and of timestamps.
-/

namespace HiveChameleon.Publisher

open Gateway Lib

/-! ### UUIDs -/

section

variable {ts us cs ds : List Char}

theorem matchesTemplate_append (h : MatchesTemplate ts cs) (h' : MatchesTemplate us ds) :
    MatchesTemplate (ts ++ us) (cs ++ ds) := by
  refine ⟨by rw [List.length_append, List.length_append, h.1, h'.1], ?_⟩
  rw [List.zip_append h.1.symm, List.all_append, h.2, h'.2]
  rfl

theorem matchesTemplate_hex : ∀ {cs : List Char}, (∀ c ∈ cs, isHexDigit c = true) →
    MatchesTemplate (List.replicate cs.length 'x') cs
  | [], _ => ⟨rfl, rfl⟩
  | c :: cs, h => by
    rw [List.length_cons, List.replicate_succ, matchesTemplate_cons]
    exact ⟨h c (List.mem_cons_self ..),
      matchesTemplate_hex fun c hc => h c (List.mem_cons_of_mem _ hc)⟩

theorem matchesTemplate_dash (h : MatchesTemplate ts cs) : MatchesTemplate ('-' :: ts) ('-' :: cs) :=
  matchesTemplate_cons.mpr ⟨rfl, h⟩

/-- A text cut at one of its characters. -/
theorem exists_cut {i : ℕ} {c : Char} (h : cs[i]? = some c) :
    ∃ before after, cs = before ++ c :: after ∧ before.length = i := by
  obtain ⟨hi, hc⟩ := List.getElem?_eq_some_iff.mp h
  refine ⟨cs.take i, cs.drop (i + 1), ?_, List.length_take_of_le (by omega)⟩
  rw [← hc, ← List.drop_eq_getElem_cons hi, List.take_append_drop]

theorem getElem?_after {c : Char} {after : List Char} (i : ℕ) :
    (cs ++ c :: after)[cs.length + 1 + i]? = after[i]? := by
  rw [List.getElem?_append_right (by omega), show cs.length + 1 + i - cs.length = i + 1 by omega,
    List.getElem?_cons_succ]

end

theorem isHexDigit_of_lower {c : Char} (h : Nakama.isHexDigit c = true) (hlower : c.toLower = c) :
    isHexDigit c = true := by
  simp only [Nakama.isHexDigit, Bool.or_eq_true, Bool.and_eq_true, decide_eq_true_eq] at h
  rw [isHexDigit, Bool.or_eq_true, Bool.and_eq_true, decide_eq_true_eq, decide_eq_true_eq]
  rcases h with (hdigit | hhex) | ⟨hlow, hhigh⟩
  · exact .inl hdigit
  · exact .inr hhex
  · -- an uppercase letter has another lowercase
    have hlow' : 65 ≤ c.toNat := hlow
    have hhigh' : c.toNat ≤ 70 := hhigh
    have hupper : ∀ n < 71, 65 ≤ n → (Char.ofNat n).toLower ≠ Char.ofNat n := by decide
    have hne := hupper c.toNat (by omega) hlow'
    rw [Char.ofNat_toNat] at hne
    exact absurd hlower hne

/-- What `canonicalUUIDV7ToCompact` accepts is a UUID of the protocol. -/
theorem isUuidV7_of_canonical {s : String} (h : Nakama.canonicalUUIDV7 s = true) :
    isUuidV7 s = true := by
  simp only [Nakama.canonicalUUIDV7, Bool.and_eq_true, beq_iff_eq] at h
  obtain ⟨⟨⟨⟨⟨⟨⟨⟨⟨hlength, h8⟩, h13⟩, h18⟩, h23⟩, hlower⟩, hdigits⟩, hhex⟩, hversion⟩, hvariant⟩ := h
  obtain ⟨a, rest₁, hcut₁, ha⟩ := exists_cut h8
  rw [hcut₁, show 13 = a.length + 1 + 4 by omega, getElem?_after] at h13
  obtain ⟨b, rest₂, rfl, hb⟩ := exists_cut h13
  rw [hcut₁, show 18 = a.length + 1 + (b.length + 1 + 4) by omega, getElem?_after,
    getElem?_after] at h18
  obtain ⟨c, rest₃, rfl, hc⟩ := exists_cut h18
  rw [hcut₁, show 23 = a.length + 1 + (b.length + 1 + (c.length + 1 + 4)) by omega, getElem?_after,
    getElem?_after, getElem?_after] at h23
  obtain ⟨d, e, rfl, hd⟩ := exists_cut h23
  have he : e.length = 12 := by
    rw [hcut₁] at hlength
    simp only [List.length_append, List.length_cons] at hlength
    omega
  -- the 32 digits leave no other dash
  have hfilter (cs : List Char) : (cs.filter fun c => c != '-').length ≤ cs.length :=
    List.length_filter_le ..
  have hsum : (a.filter fun c => c != '-').length + (b.filter fun c => c != '-').length +
      (c.filter fun c => c != '-').length + (d.filter fun c => c != '-').length +
      (e.filter fun c => c != '-').length = 32 := by
    rw [hcut₁] at hdigits
    simp only [List.filter_append, List.filter_cons, bne_self_eq_false, Bool.false_eq_true, if_false,
      List.length_append] at hdigits
    omega
  have hself (cs : List Char) (hcs : (cs.filter fun c => c != '-').length = cs.length) :
      (cs.filter fun c => c != '-') = cs :=
    List.filter_sublist.eq_of_length hcs
  have hfa := hfilter a
  have hfb := hfilter b
  have hfc := hfilter c
  have hfd := hfilter d
  have hfe := hfilter e
  have hdigitsEq : (s.toList.filter fun c => c != '-') = a ++ (b ++ (c ++ (d ++ e))) := by
    rw [hcut₁]
    simp only [List.filter_append, List.filter_cons, bne_self_eq_false, Bool.false_eq_true, if_false]
    rw [hself a (by omega), hself b (by omega), hself c (by omega), hself d (by omega),
      hself e (by omega)]
  have hmem : ∀ x ∈ a ++ (b ++ (c ++ (d ++ e))), isHexDigit x = true := by
    intro x hx
    rw [← hdigitsEq] at hx
    have hxs := (List.mem_filter.mp hx).1
    have hxlower : x.toLower = x := by
      obtain ⟨i, hi, rfl⟩ := List.getElem_of_mem hxs
      have := congrArg (fun cs => cs[i]?) hlower
      simp only [List.getElem?_map, List.getElem?_eq_getElem hi, Option.map_some,
        Option.some.injEq] at this
      exact this
    exact isHexDigit_of_lower (List.all_eq_true.mp hhex x hx) hxlower
  have hpart {cs : List Char} (hcs : ∀ x ∈ cs, x ∈ a ++ (b ++ (c ++ (d ++ e)))) :
      ∀ x ∈ cs, isHexDigit x = true := fun x hx => hmem x (hcs x hx)
  have hpartA := hpart fun x (hx : x ∈ a) => List.mem_append_left _ hx
  have hpartB := hpart fun x (hx : x ∈ b) => by simp [hx]
  have hpartC := hpart fun x (hx : x ∈ c) => by simp [hx]
  have hpartD := hpart fun x (hx : x ∈ d) => by simp [hx]
  have hpartE := hpart fun x (hx : x ∈ e) => by simp [hx]
  rw [hdigitsEq] at hversion hvariant
  -- the version opens the third group, the variant the fourth
  rw [List.getElem?_append_right (by omega), List.getElem?_append_right (by omega),
    List.getElem?_append_left (by omega), show 12 - a.length - b.length = 0 by omega] at hversion
  rw [List.getElem?_append_right (by omega), List.getElem?_append_right (by omega),
    List.getElem?_append_right (by omega), List.getElem?_append_left (by omega),
    show 16 - a.length - b.length - c.length = 0 by omega] at hvariant
  obtain ⟨c', rfl⟩ : ∃ c', c = '7' :: c' := by
    cases c with
    | nil => cases hversion
    | cons x c' => exact ⟨c', by rw [Option.some.inj hversion]⟩
  obtain ⟨y, d', rfl, hy⟩ : ∃ y d', d = y :: d' ∧ matchesUuid 'y' y = true := by
    cases d with
    | nil => cases hvariant
    | cons y d' => exact ⟨y, d', rfl, by simpa [matchesUuid, or_assoc] using hvariant⟩
  have hc' : c'.length = 3 := by
    rw [List.length_cons] at hc
    omega
  have hd' : d'.length = 3 := by
    rw [List.length_cons] at hd
    omega
  have hmatchC : MatchesTemplate ('7' :: List.replicate 3 'x') ('7' :: c') :=
    matchesTemplate_cons.mpr ⟨rfl, hc' ▸ matchesTemplate_hex fun x hx =>
      hpartC x (List.mem_cons_of_mem _ hx)⟩
  have hmatchD : MatchesTemplate ('y' :: List.replicate 3 'x') (y :: d') :=
    matchesTemplate_cons.mpr ⟨hy, hd' ▸ matchesTemplate_hex fun x hx =>
      hpartD x (List.mem_cons_of_mem _ hx)⟩
  have hmatch := matchesTemplate_append (matchesTemplate_hex hpartA) (matchesTemplate_dash
    (matchesTemplate_append (matchesTemplate_hex hpartB) (matchesTemplate_dash
    (matchesTemplate_append hmatchC (matchesTemplate_dash
    (matchesTemplate_append hmatchD (matchesTemplate_dash (matchesTemplate_hex hpartE))))))))
  rw [ha, hb, he] at hmatch
  have htemplate : MatchesTemplate "xxxxxxxx-xxxx-7xxx-yxxx-xxxxxxxxxxxx".toList s.toList := by
    rw [hcut₁]
    exact hmatch
  rw [isUuidV7, Bool.and_eq_true, beq_iff_eq]
  exact ⟨htemplate.1, htemplate.2⟩

/-! ### Scores -/

theorem isPlainChar_dot : isPlainChar '.' = true := by decide

/-- A text that is two texts around a dot. -/
theorem toList_of_splitOn {s : String} {whole fraction : List Char}
    (h : s.toList.splitOn '.' = [whole, fraction]) : s.toList = whole ++ '.' :: fraction := by
  have hjoin : List.intercalate ['.'] (s.toList.splitOn '.') = s.toList :=
    List.intercalate_splitOn '.'
  rw [h] at hjoin
  rw [← hjoin]
  simp [List.intercalate]

/-- The parts of a score that the recorder accepts. -/
theorem exists_score {s : String} (h : Nakama.fixedScorePattern s = true) :
    ∃ whole fraction, s.toList = whole ++ '.' :: fraction ∧
      (whole = ['0'] ∨ ∃ c rest, whole = c :: rest ∧ c ≠ '0') ∧
      (∀ c ∈ whole, isDigit c = true) ∧ fraction.length = 4 ∧ ∀ c ∈ fraction, isDigit c = true := by
  rw [Nakama.fixedScorePattern] at h
  match hsplit : s.toList.splitOn '.', h with
  | [whole, fraction], h =>
    simp only [Bool.and_eq_true, Bool.or_eq_true, beq_iff_eq, List.all_eq_true] at h
    obtain ⟨⟨⟨hwhole, hdigits⟩, hlength⟩, hfraction⟩ := h
    refine ⟨whole, fraction, toList_of_splitOn hsplit, hwhole.imp_right fun hhead => ?_, hdigits,
      hlength, hfraction⟩
    cases whole with
    | nil => cases hhead
    | cons c rest =>
      simp only [List.head?_cons, Option.any_some, Bool.and_eq_true, bne_iff_ne, ne_eq] at hhead
      exact ⟨c, rest, rfl, hhead.2⟩
  | [], h => cases h
  | [_], h => cases h
  | _ :: _ :: _ :: _, h => cases h

/-- **A score that the recorder accepts is a score of the protocol.** -/
theorem isFixedScore_of_pattern {s : String} (h : Nakama.fixedScorePattern s = true) :
    isFixedScore s = true := by
  obtain ⟨whole, fraction, hs, hwhole, hdigits, hlength, hfraction⟩ := exists_score h
  have hdot : isDigit '.' = false := by decide
  have htake : s.toList.takeWhile isDigit = whole := by
    rw [hs, List.takeWhile_append_of_pos hdigits, List.takeWhile_cons_of_neg (by simp [hdot]),
      List.append_nil]
  have hdrop : s.toList.dropWhile isDigit = '.' :: fraction := by
    rw [hs, List.dropWhile_append_of_pos hdigits, List.dropWhile_cons_of_neg (by simp [hdot])]
  have hall : fraction.all isDigit = true := List.all_eq_true.mpr hfraction
  rw [isFixedScore]
  simp only [htake, hdrop, hlength, hall, beq_self_eq_true, Bool.and_true, Bool.or_eq_true, beq_iff_eq]
  rcases hwhole with hzero | ⟨c, rest, rfl, hc⟩
  · exact .inl hzero
  · exact .inr (by simpa using hc)

/-- A stored score has at most fourteen digits before its dot. -/
theorem textBytes_score {s : String} (h : Nakama.fixedScorePattern s = true)
    (hnumeric : Nakama.numericDigits s ≤ 14) : textBytes s ≤ 21 := by
  obtain ⟨whole, fraction, hs, -, hdigits, hlength, hfraction⟩ := exists_score h
  have hplain : ∀ c ∈ s.toList, isPlainChar c = true := by
    intro c hc
    rw [hs, List.mem_append, List.mem_cons] at hc
    rcases hc with hc | rfl | hc
    · exact isPlainChar_of_isDigit (hdigits c hc)
    · exact isPlainChar_dot
    · exact isPlainChar_of_isDigit (hfraction c hc)
  have hnodot : ∀ c ∈ whole, decide (c ≠ '.') = true := by
    intro c hc
    refine decide_eq_true fun heq => ?_
    have hdigit := hdigits c hc
    rw [heq] at hdigit
    exact absurd hdigit (by decide)
  have htake : s.toList.takeWhile (fun c => c ≠ '.') = whole := by
    rw [hs, List.takeWhile_append_of_pos hnodot, List.takeWhile_cons_of_neg (by simp),
      List.append_nil]
  rw [Nakama.numericDigits, htake] at hnumeric
  have hcount : s.length = whole.length + 5 := by
    rw [← String.length_toList, hs, List.length_append, List.length_cons, hlength]
  rw [textBytes_plain hplain, hcount]
  omega

/-! ### Timestamps -/

namespace PublicMatch

section

variable {width n : ℕ} {year : ℤ}

theorem length_padDigits (width n : ℕ) : (padDigits width n).length = width := by
  rw [padDigits, List.length_map, List.length_reverse, List.length_range]

theorem isPlainChar_digitChar (h : n < 10) : isPlainChar (Nat.digitChar n) = true := by
  have hall : ∀ n < 10, isPlainChar (Nat.digitChar n) = true := by decide
  exact hall n h

theorem plain_padDigits : ∀ c ∈ padDigits width n, isPlainChar c = true := by
  intro c hc
  obtain ⟨i, -, rfl⟩ := List.mem_map.mp hc
  exact isPlainChar_digitChar (Nat.mod_lt _ (by omega))

theorem length_yearText (year : ℤ) : (yearText year).length ≤ 7 := by
  by_cases hyear : 0 ≤ year ∧ year ≤ 9999
  · rw [yearText, if_pos hyear, length_padDigits]
    omega
  · rw [yearText, if_neg hyear, List.length_cons, length_padDigits]

theorem plain_yearText : ∀ c ∈ yearText year, isPlainChar c = true := by
  intro c hc
  by_cases hyear : 0 ≤ year ∧ year ≤ 9999
  · rw [yearText, if_pos hyear] at hc
    exact plain_padDigits c hc
  · rw [yearText, if_neg hyear, List.mem_cons] at hc
    rcases hc with rfl | hc
    · by_cases hneg : year < 0
      · rw [if_pos hneg]
        decide
      · rw [if_neg hneg]
        decide
    · exact plain_padDigits c hc

theorem textBytes_toISOString (ms : ℤ) : textBytes (toISOString ms) ≤ 29 := by
  have hplain : ∀ c ∈ (toISOString ms).toList, isPlainChar c = true := by
    intro c hc
    simp only [toISOString, String.toList_ofList, List.mem_append, List.mem_cons,
      List.not_mem_nil, or_false] at hc
    rcases hc with ((((((hc | rfl | hc) | rfl | hc) | rfl | hc) | rfl | hc) | rfl | hc) | rfl | hc) |
      rfl
    · exact plain_yearText c hc
    all_goals first | decide | exact plain_padDigits c hc
  have hlength : (toISOString ms).length ≤ 27 := by
    rw [← String.length_toList]
    simp only [toISOString, String.toList_ofList, List.length_append, List.length_cons,
      length_padDigits, List.length_nil]
    have hyear := length_yearText (civilFromDays (ms / millisecondsPerDay)).1
    omega
  rw [textBytes_plain hplain]
  omega

/-- Four digits of the year make a text of 24 characters, more a longer one. -/
theorem length_toISOString (ms : ℤ) :
    (toISOString ms).toList.length = 24 ↔ 0 ≤ isoYear ms ∧ isoYear ms ≤ 9999 := by
  have hlength : (toISOString ms).toList.length = (yearText (isoYear ms)).length + 20 := by
    simp only [toISOString, isoYear, String.toList_ofList, List.length_append, List.length_cons,
      length_padDigits, List.length_nil]
  rw [hlength]
  by_cases hyear : 0 ≤ isoYear ms ∧ isoYear ms ≤ 9999
  · rw [yearText, if_pos hyear, length_padDigits]
    exact iff_of_true rfl hyear
  · rw [yearText, if_neg hyear, List.length_cons, length_padDigits]
    exact iff_of_false (by decide) hyear

end

end PublicMatch

end HiveChameleon.Publisher
