import Mathlib.Data.List.Basic

/-!
# Lib.PrefixCode — texts that determine what they encode

A code whose words can be read off the front of a text: rules for sequencing, fixed texts,
terminated repetitions and bracketed lists, and the quoted strings of JSON as an instance.  A value
encoded by such a code is determined by its text.
-/

namespace HiveChameleon.Lib

universe u v w

variable {α : Type u} {β : Type v} {γ : Type w}

/-- Whatever follows a word, the word and what follows can be told apart. -/
def PrefixCode (encode : α → List γ) : Prop :=
  ∀ a b r s, encode a ++ r = encode b ++ s → a = b ∧ r = s

namespace PrefixCode

variable {f : α → List γ} {g : β → List γ}

theorem of_read {read : List γ → Option (α × List γ)} (h : ∀ a r, read (f a ++ r) = some (a, r)) :
    PrefixCode f := by
  intro a b r s heq
  have hread : some (a, r) = some (b, s) := by rw [← h a r, heq, h b s]
  exact Prod.mk.inj (Option.some.inj hread)

theorem append (hf : PrefixCode f) (hg : PrefixCode g) :
    PrefixCode fun p : α × β => f p.1 ++ g p.2 := by
  intro p q r s h
  simp only [List.append_assoc] at h
  obtain ⟨hfst, h⟩ := hf p.1 q.1 _ _ h
  obtain ⟨hsnd, h⟩ := hg p.2 q.2 r s h
  exact ⟨Prod.ext hfst hsnd, h⟩

theorem after (text : List γ) (hf : PrefixCode f) : PrefixCode fun a => text ++ f a := by
  intro a b r s h
  rw [List.append_assoc, List.append_assoc] at h
  exact hf a b r s (List.append_cancel_left h)

theorem before (hf : PrefixCode f) (text : List γ) : PrefixCode fun a => f a ++ text := by
  intro a b r s h
  rw [List.append_assoc, List.append_assoc] at h
  obtain ⟨hab, h⟩ := hf a b _ _ h
  exact ⟨hab, List.append_cancel_left h⟩

theorem terminated (hf : PrefixCode f) {stop : γ} (hstop : ∀ a, ∃ c t, f a = c :: t ∧ c ≠ stop) :
    PrefixCode fun as : List α => as.flatMap f ++ [stop] := by
  have hhead : ∀ a r s, stop :: r ≠ f a ++ s := by
    intro a r s h
    obtain ⟨c, t, hc, hne⟩ := hstop a
    rw [hc, List.cons_append] at h
    exact hne (List.cons.inj h).1.symm
  intro as
  induction as with
  | nil =>
    intro bs r s h
    cases bs with
    | nil => exact ⟨rfl, (List.cons.inj h).2⟩
    | cons b bs =>
      simp only [List.flatMap_nil, List.nil_append, List.flatMap_cons, List.append_assoc,
        List.singleton_append] at h
      exact absurd h (hhead b _ _)
  | cons a as ih =>
    intro bs r s h
    cases bs with
    | nil =>
      simp only [List.flatMap_nil, List.nil_append, List.flatMap_cons, List.append_assoc,
        List.singleton_append] at h
      exact absurd h.symm (hhead a _ _)
    | cons b bs =>
      simp only [List.flatMap_cons, List.append_assoc] at h
      obtain ⟨hab, h⟩ := hf a b _ _ h
      have hrest : (as.flatMap f ++ [stop]) ++ r = (bs.flatMap f ++ [stop]) ++ s := by
        rw [List.append_assoc, List.append_assoc]; exact h
      obtain ⟨hbs, h⟩ := ih bs r s hrest
      exact ⟨by rw [hab, hbs], h⟩

end PrefixCode

/-! ### The texts of JSON -/

/-- Words in brackets, commas between them. -/
def jsonArray (encode : α → List Char) : List α → List Char
  | [] => ['[', ']']
  | a :: as => '[' :: (encode a ++ (as.flatMap (fun b => ',' :: encode b) ++ [']']))

theorem PrefixCode.jsonArray {f : α → List Char} (hf : PrefixCode f)
    (hstop : ∀ a, ∃ c t, f a = c :: t ∧ c ≠ ']') : PrefixCode (jsonArray f) := by
  have hcomma : PrefixCode fun b => ',' :: f b := hf.after [',']
  have htail : PrefixCode fun as : List α => as.flatMap (fun b => ',' :: f b) ++ [']'] :=
    hcomma.terminated fun a => ⟨',', f a, rfl, by decide⟩
  intro as bs r s h
  cases as with
  | nil =>
    cases bs with
    | nil => exact ⟨rfl, (List.cons.inj (List.cons.inj h).2).2⟩
    | cons b bs =>
      obtain ⟨c, t, hc, hne⟩ := hstop b
      simp only [Lib.jsonArray, hc, List.cons_append, List.nil_append] at h
      exact absurd (List.cons.inj (List.cons.inj h).2).1.symm hne
  | cons a as =>
    cases bs with
    | nil =>
      obtain ⟨c, t, hc, hne⟩ := hstop a
      simp only [Lib.jsonArray, hc, List.cons_append, List.nil_append] at h
      exact absurd (List.cons.inj (List.cons.inj h).2).1 hne
    | cons b bs =>
      simp only [Lib.jsonArray, List.cons_append] at h
      obtain ⟨hpair, h⟩ := (hf.append htail) (a, as) (b, bs) r s (List.cons.inj h).2
      obtain ⟨hab, has⟩ := Prod.mk.inj hpair
      exact ⟨by rw [hab, has], h⟩

def hexDigit (n : ℕ) : Char := if n < 10 then Char.ofNat (48 + n) else Char.ofNat (87 + n)

/-- One character inside a JSON string, as `JSON.stringify` writes it. -/
def jsonEscape (c : Char) : List Char :=
  if c = '"' then ['\\', '"']
  else if c = '\\' then ['\\', '\\']
  else if c.toNat = 8 then ['\\', 'b']
  else if c.toNat = 9 then ['\\', 't']
  else if c.toNat = 10 then ['\\', 'n']
  else if c.toNat = 12 then ['\\', 'f']
  else if c.toNat = 13 then ['\\', 'r']
  else if c.toNat < 32 then
    ['\\', 'u', '0', '0', hexDigit (c.toNat / 16), hexDigit (c.toNat % 16)]
  else [c]

/-- A string in quotes. -/
def jsonString (s : String) : List Char := '"' :: (s.toList.flatMap jsonEscape ++ ['"'])

def hexValue (c : Char) : ℕ := if c.toNat < 58 then c.toNat - 48 else c.toNat - 87

/-- Reads one character of a JSON string. -/
def jsonUnescape : List Char → Option (Char × List Char)
  | '\\' :: 'b' :: r => some (Char.ofNat 8, r)
  | '\\' :: 't' :: r => some (Char.ofNat 9, r)
  | '\\' :: 'n' :: r => some (Char.ofNat 10, r)
  | '\\' :: 'f' :: r => some (Char.ofNat 12, r)
  | '\\' :: 'r' :: r => some (Char.ofNat 13, r)
  | '\\' :: 'u' :: '0' :: '0' :: a :: b :: r => some (Char.ofNat (16 * hexValue a + hexValue b), r)
  | '\\' :: c :: r => some (c, r)
  | c :: r => some (c, r)
  | [] => none

theorem hexValue_hexDigit : ∀ n < 16, hexValue (hexDigit n) = n := by decide

theorem jsonUnescape_jsonEscape (c : Char) (r : List Char) :
    jsonUnescape (jsonEscape c ++ r) = some (c, r) := by
  have hofNat : ∀ n, c.toNat = n → Char.ofNat n = c := fun n hn => by rw [← hn, Char.ofNat_toNat]
  unfold jsonEscape
  by_cases hquote : c = '"'
  · rw [if_pos hquote, hquote]; rfl
  rw [if_neg hquote]
  by_cases hslash : c = '\\'
  · rw [if_pos hslash, hslash]; rfl
  rw [if_neg hslash]
  by_cases h8 : c.toNat = 8
  · rw [if_pos h8, ← hofNat 8 h8]; rfl
  rw [if_neg h8]
  by_cases h9 : c.toNat = 9
  · rw [if_pos h9, ← hofNat 9 h9]; rfl
  rw [if_neg h9]
  by_cases h10 : c.toNat = 10
  · rw [if_pos h10, ← hofNat 10 h10]; rfl
  rw [if_neg h10]
  by_cases h12 : c.toNat = 12
  · rw [if_pos h12, ← hofNat 12 h12]; rfl
  rw [if_neg h12]
  by_cases h13 : c.toNat = 13
  · rw [if_pos h13, ← hofNat 13 h13]; rfl
  rw [if_neg h13]
  by_cases hcontrol : c.toNat < 32
  · -- `\u00` and two digits
    rw [if_pos hcontrol]
    have hvalue : 16 * hexValue (hexDigit (c.toNat / 16)) + hexValue (hexDigit (c.toNat % 16)) =
        c.toNat := by
      rw [hexValue_hexDigit _ (by omega), hexValue_hexDigit _ (by omega)]
      omega
    change some (Char.ofNat (16 * hexValue (hexDigit (c.toNat / 16)) +
      hexValue (hexDigit (c.toNat % 16))), r) = some (c, r)
    rw [hvalue, hofNat _ rfl]
  · rw [if_neg hcontrol, List.singleton_append]
    unfold jsonUnescape
    split <;> simp_all

theorem prefixCode_jsonEscape : PrefixCode jsonEscape := .of_read jsonUnescape_jsonEscape

theorem jsonEscape_head (c : Char) : ∃ d t, jsonEscape c = d :: t ∧ d ≠ '"' := by
  unfold jsonEscape
  by_cases hquote : c = '"'
  · rw [if_pos hquote]; exact ⟨_, _, rfl, by decide⟩
  rw [if_neg hquote]
  split_ifs <;> first | exact ⟨_, _, rfl, by decide⟩ | exact ⟨_, _, rfl, hquote⟩

/-- **Quoted strings are a prefix code.** -/
theorem prefixCode_jsonString : PrefixCode jsonString := by
  have hbody : PrefixCode fun cs : List Char => cs.flatMap jsonEscape ++ ['"'] :=
    prefixCode_jsonEscape.terminated jsonEscape_head
  intro a b r s h
  obtain ⟨hlist, h⟩ := hbody a.toList b.toList r s (List.cons.inj h).2
  exact ⟨String.toList_injective hlist, h⟩

theorem prefixCode_jsonStrings : PrefixCode (jsonArray jsonString) :=
  prefixCode_jsonString.jsonArray fun _ => ⟨'"', _, rfl, by decide⟩

/-! ### Numbers at the end of a text -/

theorem toDigits_injective : Function.Injective (Nat.toDigits 10) := by
  intro m n h
  have hread : Nat.ofDigitChars 10 (Nat.toDigits 10 m) 0 = Nat.ofDigitChars 10 (Nat.toDigits 10 n) 0 := by
    rw [h]
  rwa [Nat.ofDigitChars_toDigits (by decide) (by decide),
    Nat.ofDigitChars_toDigits (by decide) (by decide)] at hread

theorem numbered_injective {stop : Char} (hstop : stop.isDigit = false) {a b : List Char} {m n : ℕ}
    (h : a ++ stop :: Nat.toDigits 10 m = b ++ stop :: Nat.toDigits 10 n) : a = b ∧ m = n := by
  have hreverse := congrArg List.reverse h
  simp only [List.reverse_append, List.reverse_cons, List.append_assoc, List.singleton_append]
    at hreverse
  -- read from the end, the digits are what stands before the sign
  have hread : ∀ k (text : List Char), ((Nat.toDigits 10 k).reverse ++ stop :: text).takeWhile
      Char.isDigit = (Nat.toDigits 10 k).reverse := by
    intro k text
    rw [List.takeWhile_append_of_pos, List.takeWhile_cons_of_neg (by rw [hstop]; decide),
      List.append_nil]
    intro c hc
    exact Nat.isDigit_of_mem_toDigits (by decide) (by decide) (List.mem_reverse.mp hc)
  have hdigits := congrArg (List.takeWhile Char.isDigit) hreverse
  rw [hread, hread] at hdigits
  rw [hdigits] at hreverse
  have htext := (List.cons.inj (List.append_cancel_left hreverse)).2
  exact ⟨List.reverse_inj.mp htext, toDigits_injective (List.reverse_inj.mp hdigits)⟩

end HiveChameleon.Lib
