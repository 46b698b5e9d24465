import Mathlib.Tactic.Lemma
import Workbench.Text.Digit

set_option relaxedAutoImplicit false
set_option autoImplicit false

/-!
# Digits, written and read

The digits that numbers and octets are written with have the values that they are written for, so two
digits of an octet are read as that octet. The digits of a number in decimal can be told from what
follows them.

## Main definitions

* `Workbench.Text.IsHexDigit` — the digits of a value, in either case.

## Main results

* `Workbench.Text.digitValue?_lowerDigit`, `Workbench.Text.digitValue?_upperDigit` — the values of
  written digits.
* `Workbench.Text.digitValue?_eq_some_iff` — the digits that have a value.
* `Workbench.Text.octetOfDigits?_lowerDigit`, `Workbench.Text.octetOfDigits?_upperDigit` — an octet is
  read back from its two digits.
* `Workbench.Text.isHex_of_mem_hexNumber` — a number is written with digits only.
* `Workbench.Text.hexNumber_eq_leftpad` — these are its digits in base sixteen.
* `Workbench.Text.takeWhile_toDigits`, `Workbench.Text.dropWhile_toDigits` — where the digits of a number
  in decimal end.
* `Workbench.Text.head?_toDigits_ne` — they do not start with a superfluous zero.
-/

namespace Workbench.Text

/-! ### Single digits -/

/-- The value of a lower-case digit. -/
lemma digitValue?_lowerDigit {n : Nat} (h : n < 16) : digitValue? 16 (lowerDigit n) = some n :=
  (by decide : ∀ n < 16, digitValue? 16 (lowerDigit n) = some n) n h

/-- The value of an upper-case digit. -/
lemma digitValue?_upperDigit {n : Nat} (h : n < 16) : digitValue? 16 (upperDigit n) = some n :=
  (by decide : ∀ n < 16, digitValue? 16 (upperDigit n) = some n) n h

/-- A lower-case digit is a hexadecimal digit. -/
lemma isHex_lowerDigit {n : Nat} (h : n < 16) : isHex (lowerDigit n) = true := by
  rw [isHex, digitValue?_lowerDigit h]
  rfl

/-- A character is the hexadecimal digit of a value, in either case. -/
def IsHexDigit (c : Char) (d : Nat) : Prop := d < 16 ∧ c.toLower = d.digitChar

/-- The digit of a value has the number of an ASCII character. -/
lemma IsHexDigit.toNat_lt {c : Char} {d : Nat} (h : IsHexDigit c d) : c.toNat < 128 := by
  have hdigit : ∀ d < 16, d.digitChar.toNat < 128 := by decide
  have hlower := hdigit d h.1
  rw [← h.2] at hlower
  refine Nat.lt_of_not_le fun hle => ?_
  -- only ASCII characters have another form in lower case
  have hsame : c.toLower = c :=
    dif_neg fun hupper => absurd (Nat.lt_of_le_of_lt hupper.2 (by decide)) (Nat.not_lt_of_le hle)
  rw [hsame] at hlower
  exact absurd hlower (Nat.not_lt_of_le hle)

/-- The digit of a value is an ASCII character. -/
lemma IsHexDigit.exists_eq_ofNat {c : Char} {d : Nat} (h : IsHexDigit c d) :
    ∃ n < 128, c = Char.ofNat n :=
  ⟨c.toNat, h.toNat_lt, (Char.ofNat_toNat c).symm⟩

/-- The digits in base sixteen that are read are those of the core library, in either case. -/
theorem digitValue?_eq_some_iff {c : Char} {d : Nat} : digitValue? 16 c = some d ↔ IsHexDigit c d := by
  have hascii : ∀ n < 128, ∀ d < 16,
      (digitValue? 16 (Char.ofNat n) = some d ↔ (Char.ofNat n).toLower = d.digitChar) := by
    decide +kernel
  constructor
  · intro h
    obtain ⟨hvalue, hlt⟩ := Option.filter_eq_some_iff.1 h
    have hd : d < 16 := of_decide_eq_true hlt
    have hc : c.toNat < 128 := by
      refine Nat.lt_of_not_le fun hle => ?_
      rw [if_neg (by omega), if_neg (by omega), if_neg (by omega)] at hvalue
      simp at hvalue
    rw [← Char.ofNat_toNat c] at h ⊢
    exact ⟨hd, (hascii c.toNat hc d hd).1 h⟩
  · intro h
    obtain ⟨n, hn, rfl⟩ := h.exists_eq_ofNat
    exact (hascii n hn d h.1).2 h.2

/-- The hexadecimal digits have a value. -/
lemma isHex_iff {c : Char} : isHex c = true ↔ ∃ d, IsHexDigit c d := by
  rw [isHex, Option.isSome_iff_exists]
  exact exists_congr fun d => digitValue?_eq_some_iff

/-- A hexadecimal digit is one of the ASCII characters, which can be gone through by their numbers. -/
lemma exists_eq_ofNat_of_isHex {c : Char} (h : isHex c = true) : ∃ n < 128, c = Char.ofNat n := by
  obtain ⟨d, hd⟩ := isHex_iff.1 h
  exact hd.exists_eq_ofNat

/-- A hexadecimal digit is no control character. -/
lemma le_toNat_of_isHex {c : Char} (h : isHex c = true) : 0x20 ≤ c.toNat := by
  have hascii : ∀ n < 128, isHex (Char.ofNat n) = true → 0x20 ≤ (Char.ofNat n).toNat := by
    decide +kernel
  obtain ⟨n, hn, rfl⟩ := exists_eq_ofNat_of_isHex h
  exact hascii n hn h

/-! ### Octets -/

/-- Two digits with the values of the halves of an octet are read as that octet. -/
lemma octetOfDigits?_eq {high low : Char} {b : UInt8}
    (hhigh : digitValue? 16 high = some (b.toNat / 16))
    (hlow : digitValue? 16 low = some (b.toNat % 16)) : octetOfDigits? high low = some b := by
  have hb : 16 * (b.toNat / 16) + b.toNat % 16 = b.toNat := Nat.div_add_mod b.toNat 16
  rw [octetOfDigits?, hhigh, hlow]
  exact congrArg some ((congrArg UInt8.ofNat hb).trans UInt8.ofNat_toNat)

/-- The halves of an octet are values of digits. -/
lemma halves_lt (b : UInt8) : b.toNat / 16 < 16 ∧ b.toNat % 16 < 16 := by
  have hb := b.toNat_lt
  omega

/-- An octet is read back from its lower-case digits. -/
lemma octetOfDigits?_lowerDigit (b : UInt8) :
    octetOfDigits? (lowerDigit (b.toNat / 16)) (lowerDigit (b.toNat % 16)) = some b :=
  octetOfDigits?_eq (digitValue?_lowerDigit (halves_lt b).1) (digitValue?_lowerDigit (halves_lt b).2)

/-- An octet is read back from its upper-case digits. -/
lemma octetOfDigits?_upperDigit (b : UInt8) :
    octetOfDigits? (upperDigit (b.toNat / 16)) (upperDigit (b.toNat % 16)) = some b :=
  octetOfDigits?_eq (digitValue?_upperDigit (halves_lt b).1) (digitValue?_upperDigit (halves_lt b).2)

/-- An octet is written with digits only. -/
lemma isHex_of_mem_hexOctet {b : UInt8} {c : Char} (h : c ∈ hexOctet b) : isHex c = true := by
  obtain rfl | rfl : c = lowerDigit (b.toNat / 16) ∨ c = lowerDigit (b.toNat % 16) := by
    simpa [hexOctet] using h
  · exact isHex_lowerDigit (halves_lt b).1
  · exact isHex_lowerDigit (halves_lt b).2

/-- The octet of two digits. -/
lemma octetOfDigits?_eq_some_iff {high low : Char} {b : UInt8} :
    octetOfDigits? high low = some b ↔
      ∃ h l, IsHexDigit high h ∧ IsHexDigit low l ∧ b.toNat = 16 * h + l := by
  simp only [octetOfDigits?, Option.bind_eq_bind, Option.bind_eq_some_iff, digitValue?_eq_some_iff,
    Option.pure_def, Option.some.injEq]
  refine exists_congr fun h => ⟨?_, ?_⟩
  · rintro ⟨hhigh, l, hlow, rfl⟩
    have hlt : 16 * h + l < 256 := by
      have hh := hhigh.1
      have hl := hlow.1
      omega
    exact ⟨l, hhigh, hlow, UInt8.toNat_ofNat_of_lt' hlt⟩
  · rintro ⟨l, hhigh, hlow, hb⟩
    exact ⟨hhigh, l, hlow, by rw [← hb, UInt8.ofNat_toNat]⟩

/-- Octets are read back from their digits. -/
lemma octetsOfHex?_flatMap_hexOctet (bs : List UInt8) : octetsOfHex? (bs.flatMap hexOctet) = some bs := by
  induction bs with
  | nil => rfl
  | cons b bs ih =>
    rw [List.flatMap_cons, hexOctet]
    simp only [List.cons_append, List.nil_append, octetsOfHex?]
    rw [octetOfDigits?_lowerDigit, ih]
    rfl

/-! ### Numbers in hexadecimal -/

/-- A number is written with digits only. -/
lemma isHex_of_mem_hexNumber {width n : Nat} {c : Char} (h : c ∈ hexNumber width n) :
    isHex c = true := by
  fun_induction hexNumber width n with
  | case1 width n hn =>
    rcases List.mem_append.1 h with hzero | hdigit
    · obtain rfl := List.eq_of_mem_replicate hzero
      decide
    · obtain rfl := List.mem_singleton.1 hdigit
      exact isHex_lowerDigit hn
  | case2 width n hn ih =>
    rcases List.mem_append.1 h with hfront | hlast
    · exact ih hfront
    · obtain rfl := List.mem_singleton.1 hlast
      exact isHex_lowerDigit (Nat.mod_lt n (by decide))

/-- The lower-case digits are those of the core library. -/
lemma lowerDigit_eq_digitChar {n : Nat} (h : n < 16) : lowerDigit n = n.digitChar :=
  (by decide : ∀ n < 16, lowerDigit n = n.digitChar) n h

/-- **A number is written with its digits in base sixteen**, behind zeros up to the width. -/
theorem hexNumber_eq_leftpad (width n : Nat) :
    hexNumber width n = (Nat.toDigits 16 n).leftpad width '0' := by
  fun_induction hexNumber width n with
  | case1 width n hn =>
    rw [Nat.toDigits_of_lt_base hn, lowerDigit_eq_digitChar hn]
    rfl
  | case2 width n hn ih =>
    rw [ih, Nat.toDigits_of_base_le (by decide) (Nat.le_of_not_lt hn),
      lowerDigit_eq_digitChar (Nat.mod_lt n (by decide))]
    simp only [List.leftpad, List.length_append, List.length_singleton, List.append_assoc]
    rw [Nat.sub_sub, Nat.add_comm 1]

/-- An octet is written with its digits in base sixteen, behind a zero if there is only one. -/
lemma hexOctet_eq_leftpad (b : UInt8) : hexOctet b = (Nat.toDigits 16 b.toNat).leftpad 2 '0' := by
  rw [← hexNumber_eq_leftpad, hexNumber]
  split
  · next hb =>
    have hhigh : b.toNat / 16 = 0 := Nat.div_eq_of_lt hb
    rw [hexOctet, hhigh, Nat.mod_eq_of_lt hb]
    rfl
  · rw [hexNumber, if_pos (halves_lt b).1]
    rfl

/-! ### Numbers in decimal -/

/-- A number is written with decimal digits only. -/
lemma isDigit_of_mem_toDigits {n : Nat} {c : Char} (h : c ∈ Nat.toDigits 10 n) : c.isDigit = true :=
  Nat.isDigit_of_mem_toDigits (by decide) (by decide) h

section Follow

variable (n : Nat) {c : Char} (hc : c.isDigit = false) (rest : List Char)

include hc

/-- The digits in front of a text are those of the number, if no digit follows. -/
lemma takeWhile_toDigits :
    (Nat.toDigits 10 n ++ c :: rest).takeWhile Char.isDigit = Nat.toDigits 10 n := by
  rw [List.takeWhile_append_of_pos fun _ => isDigit_of_mem_toDigits,
    List.takeWhile_cons_of_neg (by simp [hc]), List.append_nil]

/-- What stands behind the digits of a number, if no digit follows. -/
lemma dropWhile_toDigits :
    (Nat.toDigits 10 n ++ c :: rest).dropWhile Char.isDigit = c :: rest := by
  rw [List.dropWhile_append_of_pos fun _ => isDigit_of_mem_toDigits,
    List.dropWhile_cons_of_neg (by simp [hc])]

end Follow

/-- The decimal digits of a positive number start with another digit than zero. -/
lemma head?_toDigits_ne {n : Nat} (h : 0 < n) : (Nat.toDigits 10 n).head? ≠ some '0' := by
  induction n using Nat.strongRecOn with
  | ind n ih =>
    rcases Nat.lt_or_ge n 10 with hn | hn
    · rw [Nat.toDigits_of_lt_base hn]
      have hdigit : ∀ n < 10, 0 < n → [n.digitChar].head? ≠ some '0' := by decide
      exact hdigit n hn h
    · have hq : 0 < n / 10 := Nat.div_pos hn (by decide)
      have hfront := ih (n / 10) (Nat.div_lt_self h (by decide)) hq
      obtain ⟨d, digits, hd⟩ := List.exists_cons_of_ne_nil (Nat.toDigits_ne_nil (n := n / 10) (b := 10))
      rw [Nat.toDigits_of_base_le (by decide) hn, hd, List.cons_append, List.head?_cons]
      rwa [hd, List.head?_cons] at hfront

end Workbench.Text
