import Workbench.Net.Ethertype
import Workbench.Proofs.Text.Numerals

set_option relaxedAutoImplicit false
set_option autoImplicit false

/-!
# How ethertypes are written

An ethertype is written in hexadecimal behind a mark or in decimal without one, with any number of zeros
in front, if its value fits into 16 bits. A text that is no such number is refused with the first problem
that a reader from left to right runs into.

A reader that computes in words of 16 bits, where products and sums wrap around, comes to the same
answers, because it stops at the first digit whose product or sum would wrap.

## Main definitions

* `Workbench.Ethertype.radixOf`, `Workbench.Ethertype.bodyOf` — the radix of a text, and the text behind
  its mark.
* `Workbench.Ethertype.grow?` — one more digit, in words.
* `Workbench.Ethertype.inWords` — the reading of a number in words.
* `Workbench.Ethertype.StaysExact` — numbers in whose reading nothing wraps around.

## Main results

* `Workbench.Ethertype.grow?_eq_some_iff` — a word grows exactly if nothing wraps around.
* `Workbench.Ethertype.inWords_eq` — words do as well as numbers without bound.
* `Workbench.Ethertype.reads_exact_value` — the texts that are read, and the reasons for refusals.
-/

namespace Workbench.Ethertype

/-! ### Marks -/

/-- A text begins with the mark of hexadecimal numbers. -/
def IsMarked (text : List Char) : Prop := ['0', 'x'] <+: text ∨ ['0', 'X'] <+: text

instance : DecidablePred IsMarked := fun text =>
  inferInstanceAs (Decidable (['0', 'x'] <+: text ∨ ['0', 'X'] <+: text))

/-- The radix that a text is written in. -/
def radixOf (text : List Char) : Nat := if IsMarked text then 16 else 10

/-- What stands behind the mark of a text, or the whole text if it has none. -/
def bodyOf (text : List Char) : List Char := if IsMarked text then text.drop 2 else text

/-- Both radices have digits. -/
lemma radixOf_le (text : List Char) : radixOf text ≤ 16 := by
  unfold radixOf
  split <;> decide

/-- A text is read in its radix, behind its mark. -/
lemma ofText_eq (text : List Char) :
    ofText text = Text.readWord (radixOf text) 65535 (bodyOf text) := by
  unfold ofText
  split
  · simp [radixOf, bodyOf, IsMarked]
  · simp [radixOf, bodyOf, IsMarked]
  · next hlower hupper =>
    have hmark : ¬ IsMarked text := by
      rintro (⟨digits, rfl⟩ | ⟨digits, rfl⟩)
      · exact hlower digits rfl
      · exact hupper digits rfl
    rw [radixOf, bodyOf, if_neg hmark, if_neg hmark]

/-! ### Words of 16 bits -/

/-- One more digit behind a word: nothing if the product or the sum wraps around. -/
def grow? (radix digit word : UInt16) : Option UInt16 :=
  if word.toBitVec.umulOverflow radix.toBitVec then none
  else if (word * radix).toBitVec.uaddOverflow digit.toBitVec then none
  else some (word * radix + digit)

/-- Continues a word with the digits of a text. -/
def continueWord (radix : UInt16) : List Char → UInt16 → Except Text.NumeralFault UInt16
  | [], word => .ok word
  | c :: rest, word =>
    match Text.digitValue? radix.toNat c with
    | none => .error .badDigit
    | some d =>
      match grow? radix (UInt16.ofNat d) word with
      | none => .error .tooLarge
      | some next => continueWord radix rest next

/-- A number behind an optional plus sign, in words all the way. -/
def inWords (radix : UInt16) (body : List Char) : Except Text.NumeralFault UInt16 :=
  if body = [] then .error .empty
  else if Text.unsigned body = [] then .error .badDigit
  else continueWord radix (Text.unsigned body) 0

/-- While digits are read in words, no product and no sum wraps around: wherever another digit has been
taken in, both are what they are without a bound. -/
def StaysExact (radix : UInt16) (digits : List Char) : Prop :=
  ∀ front c word next, front ++ [c] <+: digits →
    continueWord radix front 0 = .ok word → continueWord radix (front ++ [c]) 0 = .ok next →
      ∃ digit : UInt16, Text.IsDigit radix.toNat c digit.toNat ∧ next = word * radix + digit ∧
        (word * radix).toNat = word.toNat * radix.toNat ∧
        (word * radix + digit).toNat = word.toNat * radix.toNat + digit.toNat

section Words

variable {radix digit word next : UInt16}

/-- Where the number fits, product and sum are what they are without a bound. -/
lemma toNat_grown (h : word.toNat * radix.toNat + digit.toNat ≤ 65535) :
    (word * radix).toNat = word.toNat * radix.toNat ∧
      (word * radix + digit).toNat = word.toNat * radix.toNat + digit.toNat := by
  have hproduct : (word * radix).toNat = word.toNat * radix.toNat := by
    rw [UInt16.toNat_mul, Nat.mod_eq_of_lt (by omega)]
  refine ⟨hproduct, ?_⟩
  rw [UInt16.toNat_add, hproduct, Nat.mod_eq_of_lt (by omega)]

/-- A word grows as far as the number fits. -/
lemma grow?_eq : grow? radix digit word =
    if word.toNat * radix.toNat + digit.toNat ≤ 65535 then some (word * radix + digit) else none := by
  by_cases hfits : word.toNat * radix.toNat + digit.toNat ≤ 65535
  · obtain ⟨hproduct, -⟩ := toNat_grown hfits
    have hmul : word.toBitVec.umulOverflow radix.toBitVec = false := by
      simp only [BitVec.umulOverflow, UInt16.toNat_toBitVec, decide_eq_false_iff_not]
      omega
    have hadd : (word * radix).toBitVec.uaddOverflow digit.toBitVec = false := by
      simp only [BitVec.uaddOverflow, UInt16.toNat_toBitVec, hproduct, decide_eq_false_iff_not]
      omega
    rw [grow?, hmul, hadd, if_pos hfits]
    rfl
  · rw [if_neg hfits, grow?]
    by_cases hmul : word.toBitVec.umulOverflow radix.toBitVec = true
    · rw [if_pos hmul]
    · have hproduct : (word * radix).toNat = word.toNat * radix.toNat := by
        simp only [BitVec.umulOverflow, UInt16.toNat_toBitVec, decide_eq_true_eq] at hmul
        rw [UInt16.toNat_mul, Nat.mod_eq_of_lt (by omega)]
      have hadd : (word * radix).toBitVec.uaddOverflow digit.toBitVec = true := by
        simp only [BitVec.uaddOverflow, UInt16.toNat_toBitVec, hproduct, decide_eq_true_eq]
        omega
      rw [if_neg hmul, if_pos hadd]

/-- **A word grows exactly if nothing wraps around.** -/
theorem grow?_eq_some_iff :
    grow? radix digit word = some next ↔ next = word * radix + digit ∧
      (word * radix).toNat = word.toNat * radix.toNat ∧
      (word * radix + digit).toNat = word.toNat * radix.toNat + digit.toNat := by
  rw [grow?_eq]
  constructor
  · intro h
    split_ifs at h with hfits
    exact ⟨(Option.some.inj h).symm, toNat_grown hfits⟩
  · rintro ⟨rfl, -, hsum⟩
    have hlt := (word * radix + digit).toNat_lt
    exact if_pos (by omega)

/-- **Digits that are read in words** are read as they are without a bound on the way. -/
theorem continueWord_eq (cs : List Char) (word : UInt16) :
    (continueWord radix cs word).map UInt16.toNat =
      Text.readDigits radix.toNat 65535 cs word.toNat := by
  induction cs generalizing word with
  | nil => rfl
  | cons c cs ih =>
    rw [continueWord, Text.readDigits]
    cases hd : Text.digitValue? radix.toNat c with
    | none => rfl
    | some d =>
      have hlt : d < radix.toNat := of_decide_eq_true (Option.filter_eq_some_iff.1 hd).2
      have hvalue : (UInt16.ofNat d).toNat = d := UInt16.toNat_ofNat_of_lt' (hlt.trans radix.toNat_lt)
      dsimp only
      rw [grow?_eq, hvalue]
      by_cases hfits : word.toNat * radix.toNat + d ≤ 65535
      · have hgrown : (word * radix + UInt16.ofNat d).toNat = word.toNat * radix.toNat + d := by
          rw [(toNat_grown (hvalue.symm ▸ hfits)).2, hvalue]
        rw [if_pos hfits, if_pos hfits, ← hgrown]
        exact ih _
      · rw [if_neg hfits, if_neg hfits]
        rfl

/-- What is read in front of others, and then from there on. -/
lemma continueWord_append (front cs : List Char) (word : UInt16) :
    continueWord radix (front ++ cs) word =
      continueWord radix front word >>= continueWord radix cs := by
  induction front generalizing word with
  | nil => rfl
  | cons c front ih =>
    rw [List.cons_append, continueWord, continueWord]
    cases Text.digitValue? radix.toNat c with
    | none => rfl
    | some d =>
      dsimp only
      cases grow? radix (UInt16.ofNat d) word with
      | none => rfl
      | some next => exact ih next

/-- **Nothing wraps around while digits are read.**

**Proof sketch.** A digit that is taken in makes the word grow, and a word grows only if nothing wraps
around. -/
theorem staysExact (hradix : radix.toNat ≤ 16) (digits : List Char) : StaysExact radix digits := by
  intro front c word next _ hfront hnext
  rw [continueWord_append, hfront] at hnext
  change continueWord radix [c] word = .ok next at hnext
  rw [continueWord] at hnext
  cases hd : Text.digitValue? radix.toNat c with
  | none => simp [hd] at hnext
  | some d =>
    rw [hd] at hnext
    cases hgrow : grow? radix (UInt16.ofNat d) word with
    | none => simp [hgrow] at hnext
    | some grown =>
      obtain rfl : grown = next := by simpa [hgrow, continueWord] using hnext
      obtain ⟨hgrown, hproduct, hsum⟩ := grow?_eq_some_iff.1 hgrow
      have hdigit := (Text.digitValue?_eq_some_iff_isDigit hradix).1 hd
      have hvalue : (UInt16.ofNat d).toNat = d :=
        UInt16.toNat_ofNat_of_lt' (hdigit.1.trans radix.toNat_lt)
      exact ⟨UInt16.ofNat d, hvalue.symm ▸ hdigit, hgrown, hproduct, hsum⟩

/-- **A number that is read in words** is read as it is without a bound on the way. -/
theorem inWords_eq (radix : UInt16) (body : List Char) :
    (inWords radix body).map UInt16.toNat = Text.readWord radix.toNat 65535 body := by
  rw [inWords, Text.readWord_eq_readDigits]
  by_cases hbody : body = []
  · rw [if_pos hbody, if_pos hbody]
    rfl
  rw [if_neg hbody, if_neg hbody]
  by_cases hdigits : Text.unsigned body = []
  · rw [if_pos hdigits, if_pos hdigits]
    rfl
  · rw [if_neg hdigits, if_neg hdigits]
    exact continueWord_eq (Text.unsigned body) 0

end Words

/-! ### All of it -/

/-- The reading of an ethertype in words all the way. -/
def readInWords (s : String) : Except Fault UInt16 :=
  let text := Text.trim s.toList
  match inWords (UInt16.ofNat (radixOf text)) (bodyOf text) with
  | .ok value => .ok value
  | .error fault => .error (.badValue "ethertype" s fault.message)

/-- The radix of a text, as a word. -/
lemma toNat_ofNat_radixOf (text : List Char) : (UInt16.ofNat (radixOf text)).toNat = radixOf text :=
  UInt16.toNat_ofNat_of_lt' (Nat.lt_of_le_of_lt (radixOf_le text) (by decide))

/-- **Words of 16 bits are enough.** -/
theorem readInWords_eq (s : String) : readInWords s = read s := by
  have hwords := inWords_eq (UInt16.ofNat (radixOf (Text.trim s.toList))) (bodyOf (Text.trim s.toList))
  rw [toNat_ofNat_radixOf, ← ofText_eq] at hwords
  unfold readInWords read
  rw [← hwords]
  dsimp only
  cases inWords (UInt16.ofNat (radixOf (Text.trim s.toList))) (bodyOf (Text.trim s.toList)) with
  | ok value => exact congrArg Except.ok UInt16.ofNat_toNat.symm
  | error fault => rfl

/-- The values that are read. -/
lemma exists_read_eq_ok_iff {s : String} {n : Nat} :
    (∃ value, read s = .ok value ∧ value.toNat = n) ↔ ofText (Text.trim s.toList) = .ok n := by
  have hbound : ∀ n, ofText (Text.trim s.toList) = .ok n → n ≤ 65535 := by
    intro n h
    rw [ofText_eq, Text.readWord_eq_ok_iff (radixOf_le _)] at h
    exact h.2
  unfold read
  split
  · next m hm =>
    have hvalue : (UInt16.ofNat m).toNat = m :=
      UInt16.toNat_ofNat_of_lt' (Nat.lt_succ_of_le (hbound m hm))
    simp [hvalue, hm]
  · next fault hfault => simp [hfault]

/-- The refusals. -/
lemma read_of_error {s : String} {fault : Text.NumeralFault}
    (h : ofText (Text.trim s.toList) = .error fault) :
    read s = .error (.badValue "ethertype" s fault.message) := by
  rw [read, h]

/-- **The texts that are read, and the reasons for refusals.** Blanks around a text are left off. Behind
the mark of hexadecimal numbers its radix is sixteen, and without one it is ten. It is read as a value of
16 bits exactly if that value is written behind the mark: digits of the radix, with any zeros in front of
them, behind an optional plus sign. Any other text is refused as it was given: because nothing stands
behind the mark, or else because its first digits already stand for more than 16 bits, or else because
there is a character that is no digit or no digit at all. All of this can be computed in words of 16 bits,
without any product or sum that wraps around. -/
theorem reads_exact_value (s : String) :
    let text := Text.trim s.toList
    let radix := radixOf text
    let body := bodyOf text
    (∀ n, (∃ value, read s = .ok value ∧ value.toNat = n) ↔ Text.WritesNumber radix body n ∧ n ≤ 65535) ∧
    ((∀ n ≤ 65535, ¬ Text.WritesNumber radix body n) → ∃ run n rest,
      Text.StartsWithNumber radix (Text.unsigned body) run n rest ∧
      read s = .error (.badValue "ethertype" s
        (if body = [] then "cannot parse integer from empty string"
        else if 65535 < n then "number too large to fit in target type"
        else "invalid digit found in string"))) ∧
    readInWords s = read s ∧ StaysExact (UInt16.ofNat radix) (Text.unsigned body) := by
  intro text radix body
  have hradix : radix ≤ 16 := radixOf_le text
  have hwords : (UInt16.ofNat radix).toNat ≤ 16 := by
    rw [toNat_ofNat_radixOf]
    exact hradix
  refine ⟨fun n => ?_, fun hnone => ?_, readInWords_eq s, staysExact hwords _⟩
  · rw [← Text.readWord_eq_ok_iff hradix, ← ofText_eq, exists_read_eq_ok_iff]
  · obtain ⟨run, n, rest, hrun⟩ := Text.exists_startsWithNumber radix (Text.unsigned body)
    refine ⟨run, n, rest, hrun, ?_⟩
    have hread : ofText text = _ := (ofText_eq text).trans (Text.readWord_eq hradix hrun)
    split_ifs at hread ⊢ with hempty hlarge hdigits
    · exact read_of_error hread
    · exact read_of_error hread
    · rw [ofText_eq, Text.readWord_eq_ok_iff hradix] at hread
      exact absurd hread.1 (hnone n hread.2)
    · exact read_of_error hread

/-- A text with a sign, a zero that could be left off and the least value that is too large, in front of
what is no digit. -/
theorem reads_exact_value_too_large :
    let s := " 0X+010000g\u3000"
    (∀ n ≤ 65535, ¬ Text.WritesNumber (radixOf (Text.trim s.toList)) (bodyOf (Text.trim s.toList)) n) ∧
      read s = .error (.badValue "ethertype" s "number too large to fit in target type") := by
  intro s
  have hradix : radixOf (Text.trim s.toList) = 16 := by decide +kernel
  have hbody : bodyOf (Text.trim s.toList) = "+010000g".toList := by decide +kernel
  have hdigits : Text.StartsWithNumber 16 "010000g".toList "010000".toList 65536 ['g'] :=
    ⟨by decide, ⟨[0, 0, 0, 0, 1, 0], by decide +kernel, by decide⟩, by simp [Text.IsDigit, Text.IsHexDigit]⟩
  have hnone : ∀ n ≤ 65535, ¬ Text.WritesNumber 16 "+010000g".toList n := by
    intro n hn hwrites
    have hread := (Text.readWord_eq_ok_iff (by decide)).2 ⟨hwrites, hn⟩
    rw [Text.readWord_eq (by decide) hdigits] at hread
    simp at hread
  obtain ⟨-, hrefused, -⟩ := reads_exact_value s
  rw [hradix, hbody] at hrefused ⊢
  refine ⟨hnone, ?_⟩
  obtain ⟨run, n, rest, hrun, hread⟩ := hrefused hnone
  obtain ⟨-, rfl, -⟩ := hdigits.eq (by decide) hrun
  exact hread

end Workbench.Ethertype
