import Mathlib.Data.List.Forall2
import Mathlib.Data.List.Induction
import Mathlib.Data.Nat.Digits.Defs
import Mathlib.Tactic.Lemma
import Workbench.Proofs.Text.Digits

set_option relaxedAutoImplicit false
set_option autoImplicit false

/-!
# Numbers in place value notation

A number is read digit by digit, up to a bound, and the first problem ends the reading. What is answered
depends on the longest run of digits only: on its value, and on whether anything follows it. A value
above the bound is noticed before a character that is no digit, because it is noticed inside of the run.

## Main definitions

* `Workbench.Text.IsDigit` — the digits of a radix.
* `Workbench.Text.Numeral` — the digits that a number is written with.
* `Workbench.Text.StartsWithNumber` — the longest run of digits in front of a text.
* `Workbench.Text.WritesNumber` — digits behind an optional plus sign.

## Main results

* `Workbench.Text.exists_startsWithNumber`, `Workbench.Text.StartsWithNumber.eq` — every text starts with
  one number.
* `Workbench.Text.readDigits_eq` — what is read behind digits that have been read.
* `Workbench.Text.readWord_eq` — what is read in a text.
* `Workbench.Text.readWord_eq_ok_iff` — the numbers that are read are those that are written.
-/

namespace Workbench.Text

variable {radix bound : Nat}

/-! ### Digits of a radix -/

/-- A character is the digit of a value in a radix of at most sixteen, in either case. -/
def IsDigit (radix : Nat) (c : Char) (d : Nat) : Prop := d < radix ∧ IsHexDigit c d

instance (c : Char) (d : Nat) : Decidable (IsDigit radix c d) :=
  inferInstanceAs (Decidable (d < radix ∧ d < 16 ∧ c.toLower = d.digitChar))

/-- The digits of a radix that are read. -/
lemma digitValue?_eq_some_iff_isDigit (hradix : radix ≤ 16) {c : Char} {d : Nat} :
    digitValue? radix c = some d ↔ IsDigit radix c d := by
  rw [IsDigit, ← digitValue?_eq_some_iff, digitValue?, digitValue?, Option.filter_eq_some_iff,
    Option.filter_eq_some_iff, decide_eq_true_iff, decide_eq_true_iff]
  constructor
  · rintro ⟨hvalue, hd⟩
    exact ⟨hd, hvalue, Nat.lt_of_lt_of_le hd hradix⟩
  · rintro ⟨hd, hvalue, -⟩
    exact ⟨hvalue, hd⟩

/-- A character that is no digit of a radix has no value in it. -/
lemma digitValue?_eq_none_iff (hradix : radix ≤ 16) {c : Char} :
    digitValue? radix c = none ↔ ∀ d, ¬ IsDigit radix c d := by
  simp only [Option.eq_none_iff_forall_ne_some, Ne, digitValue?_eq_some_iff_isDigit hradix]

/-- A digit has one value. -/
lemma IsDigit.eq (hradix : radix ≤ 16) {c : Char} {d d' : Nat} (h : IsDigit radix c d)
    (h' : IsDigit radix c d') : d = d' := by
  rw [← digitValue?_eq_some_iff_isDigit hradix] at h h'
  exact Option.some.inj (h.symm.trans h')

/-- A plus sign is no digit. -/
lemma not_isDigit_plus (d : Nat) : ¬ IsDigit radix '+' d := by
  rintro ⟨-, h⟩
  exact absurd (isHex_iff.2 ⟨d, h⟩) (by decide)

/-! ### Numerals -/

/-- The digits that a number is written with, the most significant one first. Zeros in front of it have
no influence on the number, and no digits at all stand for zero. -/
def Numeral (radix : Nat) (cs : List Char) (n : Nat) : Prop :=
  ∃ ds, List.Forall₂ (IsDigit radix) cs.reverse ds ∧ Nat.ofDigits radix ds = n

/-- No digits stand for zero, and for nothing else. -/
lemma numeral_nil_iff {n : Nat} : Numeral radix [] n ↔ n = 0 := by
  simp [Numeral, eq_comm]

/-- A numeral with one more digit behind it. -/
lemma numeral_concat_iff {cs : List Char} {c : Char} {n : Nat} :
    Numeral radix (cs ++ [c]) n ↔
      ∃ m d, Numeral radix cs m ∧ IsDigit radix c d ∧ n = m * radix + d := by
  simp only [Numeral, List.reverse_concat, List.forall₂_cons_left_iff]
  constructor
  · rintro ⟨_, ⟨d, ds, hd, hds, rfl⟩, rfl⟩
    refine ⟨_, d, ⟨ds, hds, rfl⟩, hd, ?_⟩
    rw [Nat.ofDigits_cons, Nat.mul_comm, Nat.add_comm]
  · rintro ⟨_, d, ⟨ds, hds, rfl⟩, hd, rfl⟩
    refine ⟨d :: ds, ⟨d, ds, hd, hds, rfl⟩, ?_⟩
    rw [Nat.ofDigits_cons, Nat.mul_comm, Nat.add_comm]

namespace Numeral

variable {cs : List Char} {n : Nat} (h : Numeral radix cs n)

include h

/-- One more digit behind a numeral. -/
lemma concat {c : Char} {d : Nat} (hc : IsDigit radix c d) :
    Numeral radix (cs ++ [c]) (n * radix + d) :=
  numeral_concat_iff.2 ⟨n, d, h, hc, rfl⟩

/-- Digits stand for one number. -/
lemma eq (hradix : radix ≤ 16) {m : Nat} (h' : Numeral radix cs m) : n = m := by
  induction cs using List.reverseRecOn generalizing n m with
  | nil => rw [numeral_nil_iff.1 h, numeral_nil_iff.1 h']
  | append_singleton cs c ih =>
    obtain ⟨n, d, hn, hd, rfl⟩ := numeral_concat_iff.1 h
    obtain ⟨m, d', hm, hd', rfl⟩ := numeral_concat_iff.1 h'
    rw [ih hn hm, IsDigit.eq hradix hd hd']

/-- The digits in front of others stand for a number too, and for no greater one. -/
lemma exists_le_of_append {front more : List Char} (hcs : front ++ more = cs) :
    ∃ m ≤ n, Numeral radix front m := by
  induction more using List.reverseRecOn generalizing cs n with
  | nil => exact ⟨n, le_rfl, by simpa [← hcs] using h⟩
  | append_singleton more c ih =>
    rw [← List.append_assoc] at hcs
    rw [← hcs] at h
    obtain ⟨k, d, hk, hd, rfl⟩ := numeral_concat_iff.1 h
    obtain ⟨m, hm, hfront⟩ := ih hk rfl
    have hpos : 0 < radix := Nat.lt_of_le_of_lt (Nat.zero_le d) hd.1
    refine ⟨m, ?_, hfront⟩
    calc m ≤ k := hm
      _ ≤ k * radix := Nat.le_mul_of_pos_right k hpos
      _ ≤ k * radix + d := Nat.le_add_right _ d

end Numeral

/-! ### The longest run of digits -/

/-- A text starts with the digits of a number, which no other digit follows. -/
structure StartsWithNumber (radix : Nat) (cs run : List Char) (n : Nat) (rest : List Char) : Prop where
  append_eq : run ++ rest = cs
  numeral : Numeral radix run n
  stops : ∀ c ∈ rest.head?, ∀ d, ¬ IsDigit radix c d

/-- Every text starts with a number, though it may have no digits. -/
theorem exists_startsWithNumber (radix : Nat) (cs : List Char) :
    ∃ run n rest, StartsWithNumber radix cs run n rest := by
  -- the digits that have been passed make up the numeral, the others are still to come
  suffices h : ∀ cs front n, Numeral radix front n →
      ∃ run n rest, StartsWithNumber radix (front ++ cs) run n rest from
    h cs [] 0 (numeral_nil_iff.2 rfl)
  intro cs
  induction cs with
  | nil => exact fun front n hn => ⟨front, n, [], ⟨rfl, hn, by simp⟩⟩
  | cons c cs ih =>
    intro front n hn
    by_cases hc : ∃ d, IsDigit radix c d
    · obtain ⟨d, hd⟩ := hc
      obtain ⟨run, m, rest, hstarts⟩ := ih _ _ (hn.concat hd)
      exact ⟨run, m, rest, by simpa using hstarts⟩
    · exact ⟨front, n, c :: cs, ⟨rfl, hn, by simpa using hc⟩⟩

/-- Behind its run of digits a text goes on with no digit. -/
lemma eq_nil_of_stops {run more rest : List Char} {n : Nat} (hrun : Numeral radix (run ++ more) n)
    (hstops : ∀ c ∈ (more ++ rest).head?, ∀ d, ¬ IsDigit radix c d) : more = [] := by
  cases more with
  | nil => rfl
  | cons c more =>
    have hshape : run ++ [c] ++ more = run ++ c :: more := by simp
    obtain ⟨m, -, hm⟩ := hrun.exists_le_of_append hshape
    obtain ⟨k, d, -, hd, -⟩ := numeral_concat_iff.1 hm
    exact absurd hd (hstops c rfl d)

/-- A text starts with one number only. -/
theorem StartsWithNumber.eq (hradix : radix ≤ 16) {cs run run' rest rest' : List Char} {n m : Nat}
    (h : StartsWithNumber radix cs run n rest) (h' : StartsWithNumber radix cs run' m rest') :
    run = run' ∧ n = m ∧ rest = rest' := by
  rcases List.append_eq_append_iff.1 (h.append_eq.trans h'.append_eq.symm) with
    ⟨more, rfl, rfl⟩ | ⟨more, rfl, rfl⟩
  · obtain rfl := eq_nil_of_stops h'.numeral h.stops
    exact ⟨by simp, h.numeral.eq hradix (by simpa using h'.numeral), by simp⟩
  · obtain rfl := eq_nil_of_stops h.numeral h'.stops
    exact ⟨by simp, Numeral.eq (by simpa using h.numeral) hradix h'.numeral, by simp⟩

/-! ### Signs -/

/-- What stands behind the plus sign of a text, or the whole text if it has none. -/
def unsigned : List Char → List Char
  | '+' :: cs => cs
  | cs => cs

/-- A text that a number is written as: at least one digit behind an optional plus sign. -/
def WritesNumber (radix : Nat) (cs : List Char) (n : Nat) : Prop :=
  ∃ sign digits, cs = sign ++ digits ∧ (sign = [] ∨ sign = ['+']) ∧ digits ≠ [] ∧ Numeral radix digits n

/-- A text is made of its optional plus sign and what stands behind it. -/
lemma exists_sign_append (cs : List Char) :
    ∃ sign, (sign = [] ∨ sign = ['+']) ∧ cs = sign ++ unsigned cs := by
  unfold unsigned
  split
  · exact ⟨['+'], .inr rfl, rfl⟩
  · exact ⟨[], .inl rfl, rfl⟩

/-- A text without a plus sign in front is whole. -/
lemma unsigned_eq_self {cs : List Char} (h : ∀ digits, cs ≠ '+' :: digits) : unsigned cs = cs := by
  unfold unsigned
  split
  · next digits => exact absurd rfl (h digits)
  · rfl

/-- Digits begin with no plus sign. -/
lemma unsigned_of_numeral {cs : List Char} {n : Nat} (h : Numeral radix cs n) : unsigned cs = cs := by
  refine unsigned_eq_self ?_
  rintro digits rfl
  obtain ⟨m, -, hm⟩ := h.exists_le_of_append (rfl : ([] ++ ['+']) ++ digits = _)
  obtain ⟨k, d, -, hd, -⟩ := numeral_concat_iff.1 hm
  exact absurd hd (not_isDigit_plus d)

/-! ### Reading -/

/-- **What is read behind digits that have been read.** The value of the whole run decides first, and
only then what follows the run.

**Proof sketch.** Induction on what is left of the run. A digit that takes the value over the bound ends
the reading, and then the value of the run is above the bound too. -/
theorem readDigits_eq (hradix : radix ≤ 16) {front run rest : List Char} {value n : Nat}
    (hfront : Numeral radix front value) (hvalue : value ≤ bound) (hrun : Numeral radix (front ++ run) n)
    (hrest : ∀ c ∈ rest.head?, ∀ d, ¬ IsDigit radix c d) :
    readDigits radix bound (run ++ rest) value =
      if bound < n then .error .tooLarge else if rest = [] then .ok n else .error .badDigit := by
  induction run generalizing front value with
  | nil =>
    obtain rfl : value = n := hfront.eq hradix (by simpa using hrun)
    rw [if_neg (Nat.not_lt.2 hvalue)]
    cases rest with
    | nil => rfl
    | cons c rest =>
      rw [List.nil_append, readDigits, (digitValue?_eq_none_iff hradix).2 (hrest c rfl)]
      rfl
  | cons c run ih =>
    have hshape : front ++ c :: run = front ++ [c] ++ run := by simp
    obtain ⟨m, hle, hm⟩ := hrun.exists_le_of_append hshape.symm
    obtain ⟨value', d, hvalue', hd, rfl⟩ := numeral_concat_iff.1 hm
    obtain rfl := hvalue'.eq hradix hfront
    rw [List.cons_append, readDigits, (digitValue?_eq_some_iff_isDigit hradix).2 hd]
    dsimp only
    split
    · next hfits => exact ih hm hfits (hshape ▸ hrun)
    · next hover => rw [if_pos (by omega)]

/-- A number behind an optional plus sign, up to its digits. -/
lemma readWord_eq_readDigits (radix bound : Nat) (cs : List Char) :
    readWord radix bound cs =
      if cs = [] then .error .empty
      else if unsigned cs = [] then .error .badDigit
      else readDigits radix bound (unsigned cs) 0 := by
  have hmagnitude : ∀ digits, readMagnitude radix bound digits =
      if digits = [] then .error .badDigit else readDigits radix bound digits 0 := by
    intro digits
    cases digits <;> simp [readMagnitude]
  unfold readWord
  split
  · rfl
  · next digits =>
    rw [if_neg (by simp), hmagnitude]
    rfl
  · next hne hplus => rw [if_neg hne, unsigned_eq_self hplus, hmagnitude]

section Reading

variable (hradix : radix ≤ 16) {cs run rest : List Char} {n : Nat}

include hradix

/-- **What is read in a text** with a number up to a bound: without any character, that it is empty; else
that the number of its first digits is too large, if it is; else the number, if there are digits and
nothing else; and else that a character is no digit. -/
theorem readWord_eq (h : StartsWithNumber radix (unsigned cs) run n rest) :
    readWord radix bound cs =
      if cs = [] then .error .empty
      else if bound < n then .error .tooLarge
      else if run ≠ [] ∧ rest = [] then .ok n else .error .badDigit := by
  obtain ⟨hcs, hrun, hrest⟩ := h
  have hdigits : readDigits radix bound (run ++ rest) 0 =
      if bound < n then .error .tooLarge else if rest = [] then .ok n else .error .badDigit :=
    readDigits_eq hradix (numeral_nil_iff.2 rfl) (Nat.zero_le bound) hrun hrest
  rw [readWord_eq_readDigits, ← hcs, hdigits]
  cases run with
  | nil =>
    obtain rfl := numeral_nil_iff.1 hrun
    cases rest <;> simp
  | cons c run => simp

/-- **The numbers that are read are those that are written**, up to the bound. -/
theorem readWord_eq_ok_iff :
    readWord radix bound cs = .ok n ↔ WritesNumber radix cs n ∧ n ≤ bound := by
  constructor
  · intro hread
    obtain ⟨run, m, rest, h⟩ := exists_startsWithNumber radix (unsigned cs)
    rw [readWord_eq hradix h] at hread
    split_ifs at hread with hempty hlarge hdigits
    obtain rfl := Except.ok.inj hread
    obtain ⟨hne, rfl⟩ := hdigits
    have hrun : run = unsigned cs := by simpa using h.append_eq
    obtain ⟨sign, hsign, hcs⟩ := exists_sign_append cs
    exact ⟨⟨sign, run, hrun ▸ hcs, hsign, hne, h.numeral⟩, Nat.le_of_not_lt hlarge⟩
  · rintro ⟨⟨sign, digits, rfl, hsign, hne, hdigits⟩, hle⟩
    have hunsigned : unsigned (sign ++ digits) = digits := by
      rcases hsign with rfl | rfl
      · exact unsigned_of_numeral hdigits
      · rfl
    have h : StartsWithNumber radix (unsigned (sign ++ digits)) digits n [] :=
      ⟨by rw [hunsigned, List.append_nil], hdigits, by simp⟩
    rw [readWord_eq hradix h, if_neg (by simp [hne]), if_neg (Nat.not_lt.2 hle), if_pos ⟨hne, rfl⟩]

end Reading

end Workbench.Text
