import Mathlib.Data.List.Infix
import Mathlib.Data.List.TakeWhile
import Mathlib.Tactic.Set
import Workbench.Proofs.Toml.Statements

set_option relaxedAutoImplicit false
set_option autoImplicit false

/-!
# How far a text between quotation marks reaches

A reader takes at least one character for each one that it answers, and exactly one only where the
character stands for itself. So a text that comes back as long as it was written has nothing in it that
means something between quotation marks.

## Main definitions

* `Workbench.Toml.Takes` — what a character does in a text on one line.
* `Workbench.Toml.triple` — three marks in a row.

## Main results

* `Workbench.Toml.exists_of_basic`, `Workbench.Toml.exists_of_basicLines` — what is taken for a text on
  one line and for a text of several lines.
* `Workbench.Toml.not_triple_infix_of_areFields` — no line of a field has three marks in a row.
* `Workbench.Toml.isVerbatim_of_quoted?` — a text that comes back as it was put between marks.
* `Workbench.Toml.exists_of_simple?` — nothing but a text starts with a quotation mark.
-/

namespace Workbench.Toml

/-! ### Steps -/

/-- A text with a character in front is that character and the text. -/
lemma push_eq_some_iff {c : Char} {result : Option (List Char × List Char)} {text last : List Char} :
    push c result = some (text, last) ↔ ∃ more, result = some (more, last) ∧ text = c :: more := by
  cases result with
  | none => simp [push]
  | some pair =>
    obtain ⟨more, rest⟩ := pair
    simp only [push, Option.map_some, Option.some.injEq, Prod.mk.injEq]
    constructor
    · rintro ⟨rfl, rfl⟩
      exact ⟨more, ⟨rfl, rfl⟩, rfl⟩
    · rintro ⟨_, ⟨rfl, rfl⟩, rfl⟩
      exact ⟨rfl, rfl⟩

/-- A line feed does not go on with an escape. -/
lemma ne_feed_of_afterBackslash? {c : Char} {next : Char ⊕ Mode}
    (h : afterBackslash? c = some next) : c ≠ '\n' := by
  rintro rfl
  simp [afterBackslash?, letterEscape?, digitsAfter?] at h

/-- A line feed is no digit. -/
lemma ne_feed_of_afterDigit? {missing value : Nat} {c : Char} {next : Char ⊕ Mode}
    (h : afterDigit? missing value c = some next) : c ≠ '\n' := by
  rintro rfl
  have hdigit : Text.digitValue? 16 '\n' = none := by decide
  simp [afterDigit?, hdigit] at h

/-! ### Texts on one line -/

/-- What a character does in a text on one line: it is the mark that ends the text, or it is passed over,
or it gives a character of the text. Outside of an escape, that is the character itself. -/
inductive Takes (mode : Mode) (c : Char) (cs : List Char) : List Char → List Char → Prop where
  | done (h : c = quotationMark) : Takes mode c cs [] cs
  | passes {next : Mode} {text last : List Char} (hc : c ≠ '\n')
    (h : basic next cs = some (text, last)) : Takes mode c cs text last
  | gives {d : Char} {text last : List Char} (hc : c ≠ '\n')
    (h : basic .plain cs = some (text, last))
    (hplain : mode = .plain → d = c ∧ isVerbatim c = true) : Takes mode c cs (d :: text) last

/-- What a character of an escape does. -/
lemma takes_of_resume {mode : Mode} {c : Char} {cs text last : List Char}
    {next : Option (Char ⊕ Mode)} (hmode : mode ≠ .plain) (hc : c ≠ '\n')
    (h : (match next with
      | some (.inl d) => push d (basic .plain cs)
      | some (.inr mode) => basic mode cs
      | none => none) = some (text, last)) : Takes mode c cs text last := by
  match next, h with
  | some (.inl d), h =>
    obtain ⟨more, hmore, rfl⟩ := push_eq_some_iff.1 h
    exact .gives hc hmore fun hplain => absurd hplain hmode
  | some (.inr mode), h => exact .passes hc h

/-- What a character does that is read as one outside of an escape. -/
lemma takes_of_plain {mode : Mode} {c : Char} {cs text last : List Char}
    (h : basic .plain (c :: cs) = some (text, last)) : Takes mode c cs text last := by
  rw [basic_plain_cons] at h
  split at h
  · next hmark =>
    obtain ⟨rfl, rfl⟩ := Prod.mk.inj (Option.some.inj h)
    exact .done hmark
  split at h
  · next hback =>
    exact .passes (by rw [hback]; decide) h
  split at h
  · next hmark hback hplain =>
    obtain ⟨more, hmore, rfl⟩ := push_eq_some_iff.1 h
    have hc : c ≠ '\n' := by
      rintro rfl
      exact absurd hplain (by decide)
    exact .gives hc hmore fun _ => ⟨rfl, isVerbatim_iff.2 ⟨hplain, hmark, hback⟩⟩
  · simp at h

/-- What a character does in a text on one line. -/
lemma takes_of_basic {mode : Mode} {c : Char} {cs text last : List Char}
    (h : basic mode (c :: cs) = some (text, last)) : Takes mode c cs text last := by
  cases mode with
  | plain => exact takes_of_plain h
  | folding => exact takes_of_plain h
  | folded => exact takes_of_plain h
  | opened =>
    rw [basic_opened_cons] at h
    cases hnext : afterBackslash? c with
    | none => simp [hnext] at h
    | some next => exact takes_of_resume (by simp) (ne_feed_of_afterBackslash? hnext) (hnext ▸ h)
  | digits missing value =>
    rw [basic_digits_cons] at h
    cases hnext : afterDigit? missing value c with
    | none => simp [hnext] at h
    | some next => exact takes_of_resume (by simp) (ne_feed_of_afterDigit? hnext) (hnext ▸ h)

/-- What is taken for a text on one line: it ends at a mark and holds no line feed, and it is as long as
the text only if all of it stands for itself.

**Proof sketch.** Induction on what is read, by what its first character does (`takes_of_basic`). One that
is passed over makes the text shorter than what is taken for it. -/
lemma exists_of_basic {mode : Mode} {cs text last : List Char}
    (h : basic mode cs = some (text, last)) :
    ∃ body, cs = body ++ quotationMark :: last ∧ '\n' ∉ body ∧ text.length ≤ body.length ∧
      (mode = .plain → text.length = body.length →
        text = body ∧ ∀ c ∈ body, isVerbatim c = true) := by
  induction cs generalizing mode text with
  | nil => simp [basic] at h
  | cons c cs ih =>
    cases takes_of_basic h with
    | done hmark => exact ⟨[], by rw [hmark, List.nil_append], by simp, le_rfl, by simp⟩
    | passes hc hrest =>
      obtain ⟨body, rfl, hfeed, hle, -⟩ := ih hrest
      refine ⟨c :: body, rfl, by simp [hfeed, hc.symm], by simp; omega, fun _ heq => ?_⟩
      rw [List.length_cons] at heq
      omega
    | gives hc hrest hplain =>
      obtain ⟨body, rfl, hfeed, hle, hsame⟩ := ih hrest
      refine ⟨c :: body, rfl, by simp [hfeed, hc.symm], by simp [hle], fun hmode heq => ?_⟩
      obtain ⟨rfl, hverbatim⟩ := hplain hmode
      obtain ⟨rfl, hall⟩ := hsame rfl (Nat.succ.inj heq)
      exact ⟨rfl, List.forall_mem_cons.2 ⟨hverbatim, hall⟩⟩

/-! ### Texts of several lines -/

/-- Three marks in a row. -/
def triple : List Char := [quotationMark, quotationMark, quotationMark]

/-- What is taken for the end of a text of several lines: up to two marks of the text, and three more. -/
lemma eq_of_closing? {rest text last : List Char}
    (h : closing? quotationMark rest = some (text, last)) :
    quotationMark :: rest = text ++ (triple ++ last) := by
  unfold closing? at h
  dsimp only at h
  split at h
  · simp at h
  · next hrun =>
    obtain ⟨rfl, rfl⟩ := Prod.mk.inj (Option.some.inj h)
    set run := (rest.takeWhile (· == quotationMark)).length with hlength
    set extra := min (run - 2) 2 with hextra
    have htake : rest.take (extra + 2) = List.replicate (extra + 2) quotationMark := by
      have hfront := List.prefix_iff_eq_take.1 (rest.takeWhile_prefix (· == quotationMark))
      rw [← hlength] at hfront
      have hle : extra + 2 ≤ run := by omega
      refine List.eq_replicate_iff.2 ⟨?_, fun c hc => ?_⟩
      · have hrest : run ≤ rest.length := (rest.takeWhile_prefix _).length_le
        rw [List.length_take]
        omega
      · have hmem : c ∈ rest.takeWhile (· == quotationMark) := by
          rw [hfront]
          exact List.take_subset_take_left _ hle hc
        simpa using List.mem_takeWhile_imp hmem
    calc quotationMark :: rest
        = quotationMark :: (rest.take (extra + 2) ++ rest.drop (extra + 2)) := by
          rw [List.take_append_drop]
      _ = List.replicate extra quotationMark ++ (triple ++ rest.drop (extra + 2)) := by
          rw [htake, ← List.cons_append, ← List.replicate_succ, ← List.append_assoc]
          congr 1
          change _ = List.replicate extra quotationMark ++ List.replicate 3 quotationMark
          rw [List.replicate_append_replicate]

/-- What a character does in a text of several lines: it ends the text, or it is passed over, or it
gives a character of the text. -/
lemma basicLines_cons_cases {mode : Mode} {c : Char} {cs : List Char} {answer : List Char × List Char}
    (h : basicLines mode (c :: cs) = some answer) :
    (c = quotationMark ∧ closing? quotationMark cs = some answer) ∨
      (∃ next, basicLines next cs = some answer) ∨
      ∃ d, push d (basicLines .plain cs) = some answer := by
  have hresume : ∀ next : Option (Char ⊕ Mode),
      (match next with
        | some (.inl d) => push d (basicLines .plain cs)
        | some (.inr mode) => basicLines mode cs
        | none => none) = some answer →
      (∃ next, basicLines next cs = some answer) ∨
        ∃ d, push d (basicLines .plain cs) = some answer := by
    intro next hnext
    match next, hnext with
    | some (.inl d), hnext => exact .inr ⟨d, hnext⟩
    | some (.inr mode), hnext => exact .inl ⟨mode, hnext⟩
  unfold basicLines at h
  dsimp only at h
  split at h
  · split at h
    · exact .inr (.inl ⟨_, h⟩)
    · exact .inr (hresume _ h)
  · exact .inr (hresume _ h)
  · split at h
    · exact .inr (.inl ⟨_, h⟩)
    · simp at h
  · split at h
    · exact .inr (.inl ⟨_, h⟩)
    split at h
    · next hmark =>
      rcases Option.or_eq_some_iff.1 h with hclose | ⟨-, hpush⟩
      · exact .inl ⟨hmark, hclose⟩
      · exact .inr (.inr ⟨_, hpush⟩)
    split at h
    · exact .inr (.inl ⟨_, h⟩)
    split at h
    · exact .inr (.inr ⟨_, h⟩)
    · simp at h

/-- What is taken for a text of several lines: it ends with three marks, and it is not shorter than the
text. -/
lemma exists_of_basicLines {mode : Mode} {cs text last : List Char}
    (h : basicLines mode cs = some (text, last)) :
    ∃ body, cs = body ++ (triple ++ last) ∧ text.length ≤ body.length := by
  induction cs generalizing mode text with
  | nil => simp [basicLines] at h
  | cons c cs ih =>
    rcases basicLines_cons_cases h with ⟨rfl, hclose⟩ | ⟨next, hnext⟩ | ⟨d, hpush⟩
    · exact ⟨text, eq_of_closing? hclose, le_rfl⟩
    · obtain ⟨body, rfl, hle⟩ := ih hnext
      exact ⟨c :: body, rfl, by simp; omega⟩
    · obtain ⟨more, hmore, rfl⟩ := push_eq_some_iff.1 hpush
      obtain ⟨body, rfl, hle⟩ := ih hmore
      exact ⟨c :: body, rfl, by simp [hle]⟩

/-! ### Fields have no three marks in a row -/

/-- A row of characters that starts in front of another character, and does not hold it, ends there
too. -/
lemma prefix_of_notMem {row front back : List Char} {c : Char} (hc : c ∉ row)
    (h : row <+: front ++ c :: back) : row <+: front := by
  rcases List.prefix_or_prefix_of_prefix h (List.prefix_append front (c :: back)) with hle | ⟨more, rfl⟩
  · exact hle
  · cases more with
    | nil => simp
    | cons d more =>
      obtain ⟨rfl, -⟩ := List.cons_prefix_cons.1 ((List.prefix_append_right_inj front).1 h)
      simp at hc

/-- A row of characters stands on one side of a character that it does not hold. -/
lemma infix_or_infix_of_notMem {row front back : List Char} {c : Char} (hc : c ∉ row)
    (h : row <:+: front ++ c :: back) : row <:+: front ∨ row <:+: back := by
  induction front with
  | nil =>
    rcases List.infix_cons_iff.1 h with hprefix | hinfix
    · have hnil : row <+: [] := prefix_of_notMem hc hprefix
      exact .inl hnil.isInfix
    · exact .inr hinfix
  | cons d front ih =>
    rcases List.infix_cons_iff.1 h with hprefix | hinfix
    · exact .inl (prefix_of_notMem hc hprefix).isInfix
    · exact (ih hinfix).imp_left List.infix_cons

/-- Three marks in a row do not start with another character. -/
lemma infix_of_triple_infix_cons {c : Char} {cs : List Char} (hc : c ≠ quotationMark)
    (h : triple <:+: c :: cs) : triple <:+: cs := by
  rcases List.infix_cons_iff.1 h with hprefix | hinfix
  · exact absurd (List.cons_prefix_cons.1 hprefix).1.symm hc
  · exact hinfix

/-- What is written for a text does not start with a mark, so two marks do not start where it does. -/
lemma not_two_marks {cs body : List Char} (h : SpellsAll cs body) :
    ¬ [quotationMark, quotationMark] <+: body ++ [quotationMark] := by
  cases h with
  | nil => decide
  | cons hc hcs =>
    obtain ⟨d, more, rfl, hd⟩ := hc.exists_cons
    exact fun hprefix => hd (List.cons_prefix_cons.1 hprefix).1.symm

/-- What is written for a text, and the mark that ends it, have no three marks in a row.

**Proof sketch.** Induction on the text. A mark in what is written stands after a backslash, and no mark
follows it but the one that ends the text. -/
lemma not_triple_infix {cs body : List Char} (h : SpellsAll cs body) :
    ¬ triple <:+: body ++ [quotationMark] := by
  induction h with
  | nil => decide
  | @cons c cs front rest hc hcs ih =>
    intro htriple
    rw [List.append_assoc] at htriple
    refine ih ?_
    cases hc with
    | verbatim h => exact infix_of_triple_infix_cons (isVerbatim_iff.1 h).2.1 htriple
    | letter h =>
      have hletter := infix_of_triple_infix_cons (by decide) htriple
      rcases List.infix_cons_iff.1 hletter with hprefix | hinfix
      · exact absurd (List.cons_prefix_cons.1 hprefix).2 (not_two_marks hcs)
      · exact hinfix
    | @number l ds values hl hd hvalue =>
      have hmark : l ≠ quotationMark := by
        rintro rfl
        simp [digitsAfter?, quotationMark] at hl
      have hdigits := infix_of_triple_infix_cons hmark
        (infix_of_triple_infix_cons (by decide) htriple)
      clear hl hvalue htriple
      induction ds generalizing values with
      | nil => exact hdigits
      | cons d ds ihds =>
        rw [List.mapM_cons] at hd
        obtain ⟨v, hv, hd⟩ := Option.bind_eq_some_iff.1 hd
        obtain ⟨vs, hvs, -⟩ := Option.bind_eq_some_iff.1 hd
        refine ihds hvs (infix_of_triple_infix_cons ?_ hdigits)
        rintro rfl
        have hnone : Text.digitValue? 16 quotationMark = none := by decide
        simp [hnone] at hv

/-- **No line of a field has three marks in a row.** -/
theorem not_triple_infix_of_areFields {fields : List (String × String)} {lines : List Char}
    (h : AreFields fields lines) (hkeys : ∀ field ∈ fields, IsKey field.1) :
    ¬ triple <:+: lines := by
  induction h with
  | nil => decide
  | @cons key s fields line rest hline hrest ih =>
    obtain ⟨hkey, hothers⟩ := List.forall_mem_cons.1 hkeys
    obtain ⟨body, hbody, rfl⟩ := hline
    intro htriple
    have hshape : key.toList ++ ' ' :: '=' :: ' ' :: quotationMark :: (body ++ [quotationMark, '\n']) ++
        rest = key.toList ++ ' ' :: '=' :: ' ' ::
          (quotationMark :: (body ++ [quotationMark]) ++ '\n' :: rest) := by simp
    rw [hshape] at htriple
    have hspace : ' ' ∉ triple := by decide
    rcases infix_or_infix_of_notMem hspace htriple with hfront | hback
    · have hmark : quotationMark ∈ key.toList := hfront.subset (by decide)
      exact absurd (hkey.2 _ hmark) (by decide)
    have hvalue := infix_of_triple_infix_cons (by decide) (infix_of_triple_infix_cons (by decide) hback)
    rcases infix_or_infix_of_notMem (by decide) hvalue with hquoted | hrows
    · rcases List.infix_cons_iff.1 hquoted with hprefix | hinfix
      · exact not_two_marks hbody (List.cons_prefix_cons.1 hprefix).2
      · exact not_triple_infix hbody hinfix
    · exact ih hothers hrows

/-! ### Texts that come back -/

/-- What is in front of a mark, without its first line break. -/
lemma exists_skipFirstBreak (text rest : List Char) :
    ∃ more, skipFirstBreak (text ++ quotationMark :: rest) = more ++ quotationMark :: rest ∧
      more.length ≤ text.length := by
  unfold skipFirstBreak
  cases hbreak : lineBreak? (text ++ quotationMark :: rest) with
  | none => exact ⟨text, rfl, le_rfl⟩
  | some after =>
    unfold lineBreak? at hbreak
    split at hbreak
    · next tail hcs =>
      obtain rfl := Option.some.inj hbreak
      cases text with
      | nil => exact absurd (List.cons.inj hcs).1 (by decide)
      | cons c text =>
        obtain ⟨-, rfl⟩ := List.cons.inj hcs
        exact ⟨text, rfl, by simp⟩
    · next tail hcs =>
      obtain rfl := Option.some.inj hbreak
      match text, hcs with
      | [], hcs => exact absurd (List.cons.inj hcs).1 (by decide)
      | [c], hcs => exact absurd (List.cons.inj (List.cons.inj hcs).2).1 (by decide)
      | c :: d :: text, hcs =>
        obtain rfl : text ++ quotationMark :: rest = tail := (List.cons.inj (List.cons.inj hcs).2).2
        exact ⟨text, rfl, by simp; omega⟩
    · simp at hbreak

/-- A text on one line ends at the mark in front of a line break, or before. -/
lemma length_le_of_feed_notMem {text body rest last : List Char}
    (h : text ++ quotationMark :: '\n' :: rest = body ++ quotationMark :: last)
    (hfeed : '\n' ∉ body) : body.length ≤ text.length := by
  rcases List.append_eq_append_iff.1 h with ⟨more, rfl, hmore⟩ | ⟨more, rfl, -⟩
  · match more, hmore with
    | [], _ => simp
    | [c], hmore => exact absurd (List.cons.inj (List.cons.inj hmore).2).1 (by decide)
    | c :: d :: more, hmore =>
      obtain ⟨rfl, -⟩ := List.cons.inj (List.cons.inj hmore).2
      simp at hfeed
  · simp

/-- **A text that comes back as it was put between marks** stands for itself, if a line break follows and
there are no three marks in a row after it.

**Proof sketch.** On one line the text ends at the mark that was put behind it, because a line feed
cannot be part of it; so it is as long as what is taken for it (`exists_of_basic`). A text of several
lines loses the marks in front, and it ends before the line break (`exists_of_basicLines`); so it is too
short. -/
theorem isVerbatim_of_quoted? {text rest last : List Char} (hrest : ¬ triple <:+: rest)
    (h : quoted? (quotationMark :: (text ++ quotationMark :: '\n' :: rest)) = some (text, last)) :
    ∀ c ∈ text, isVerbatim c = true := by
  have hlines : ∀ {mode cs}, basicLines mode cs = some (text, last) → ∀ front : List Char,
      front.length ≤ text.length → cs ≠ front ++ rest := by
    rintro mode cs hread front hle rfl
    obtain ⟨body, hbody, hlength⟩ := exists_of_basicLines hread
    obtain ⟨more, rfl⟩ : front <+: body :=
      List.prefix_of_prefix_length_le (List.prefix_append front rest) ⟨_, hbody.symm⟩
        (hle.trans hlength)
    rw [List.append_assoc, List.append_cancel_left_eq] at hbody
    exact hrest ⟨more, last, by rw [hbody, List.append_assoc]⟩
  by_cases hmarks : ∃ more,
      text ++ quotationMark :: '\n' :: rest = quotationMark :: quotationMark :: more
  · obtain ⟨more, hmore⟩ := hmarks
    have hread : basicLines .plain (skipFirstBreak more) = some (text, last) := by
      rw [hmore] at h
      exact h
    match text, hmore with
    | [], hmore => exact absurd (List.cons.inj (List.cons.inj hmore).2).1 (by decide)
    | [c], hmore =>
      obtain ⟨-, rfl⟩ := List.cons.inj (List.cons.inj hmore).2
      exact absurd rfl (hlines hread [] (by simp))
    | c :: d :: text, hmore =>
      obtain ⟨-, rfl⟩ := List.cons.inj (List.cons.inj hmore).2
      obtain ⟨front, hskip, hle⟩ := exists_skipFirstBreak text ('\n' :: rest)
      refine absurd ?_ (hlines hread (front ++ [quotationMark, '\n']) (by simp [hle]))
      rw [List.append_assoc]
      exact hskip
  · rw [quoted?_cons fun more hmore => hmarks ⟨more, hmore⟩] at h
    obtain ⟨body, hbody, hfeed, hle, hsame⟩ := exists_of_basic h
    have hlength := length_le_of_feed_notMem hbody hfeed
    obtain ⟨rfl, hall⟩ := hsame rfl (Nat.le_antisymm hle hlength)
    exact hall

/-! ### Words -/

/-- A quotation mark is no digit. -/
lemma digitValue?_quotationMark : Text.digitValue? 10 quotationMark = none := by decide

/-- No real number starts with a quotation mark. -/
lemma real?_cons (negative : Bool) (cs : List Char) :
    real? negative (quotationMark :: cs) = none := by
  have hcut : ∀ (cuts : Char → Bool) (cs : List Char), cuts quotationMark = false →
      ∃ more, (cutAt cuts (quotationMark :: cs)).1 = quotationMark :: more := by
    intro cuts cs hcuts
    exact ⟨cs.takeWhile fun c => !cuts c, by simp [cutAt, hcuts]⟩
  obtain ⟨mantissa, hmantissa⟩ := hcut startsExponent cs (by decide)
  obtain ⟨before, hbefore⟩ := hcut (· == '.') mantissa (by decide)
  have hdigits : digits? 10 (quotationMark :: before) = none := by
    simp [digits?, digitValue?_quotationMark]
  unfold real?
  simp only [hmantissa, hbefore, hdigits]
  rfl

/-- No decimal number starts with a quotation mark. -/
lemma decimal?_cons (negative : Bool) (word body : List Char) :
    decimal? negative word (quotationMark :: body) = none := by
  have hdecimal : ¬ Text.isDecimal quotationMark = true := by decide
  have hlooks : looksInteger (quotationMark :: body) = false := by
    rw [looksInteger, List.dropWhile_cons_of_neg hdecimal]
    rfl
  have hreal : real? negative (unspaced (quotationMark :: body)) = none := by
    have hunspaced : unspaced (quotationMark :: body) = quotationMark :: unspaced body :=
      List.filter_cons_of_pos (by decide)
    rw [hunspaced, real?_cons]
  unfold decimal?
  rw [hlooks, hreal]
  simp

/-- No word with a value starts with a quotation mark. -/
lemma wordValue?_cons (word : List Char) : wordValue? (quotationMark :: word) = none := by
  have htwo : twoDigits? (quotationMark :: word) = none := by
    cases word with
    | nil => rfl
    | cons c word => simp [twoDigits?, digitValue?_quotationMark]
  have hmoment : isMoment (quotationMark :: word) = false := by
    simp [isMoment, date?, time?, upTo?, htwo]
  have hnumber : number? (quotationMark :: word) = none := by
    have hplain : number? (quotationMark :: word) =
        if (quotationMark :: word).contains ' ' then none
        else decimal? false (quotationMark :: word) (quotationMark :: word) := rfl
    rw [hplain, decimal?_cons]
    simp
  have htrue : quotationMark :: word ≠ ['t', 'r', 'u', 'e'] := by simp [quotationMark]
  have hfalse : quotationMark :: word ≠ ['f', 'a', 'l', 's', 'e'] := by simp [quotationMark]
  rw [wordValue?, if_neg htrue, if_neg hfalse, hmoment]
  exact hnumber

/-- **Nothing but a text starts with a quotation mark.** -/
theorem exists_of_simple? {cs last : List Char} {v : Value}
    (h : simple? (quotationMark :: cs) = some (v, last)) :
    ∃ text, quoted? (quotationMark :: cs) = some (text, last) ∧ v = .text (String.ofList text) := by
  unfold simple? at h
  split at h
  · next text rest hquoted =>
    obtain ⟨rfl, rfl⟩ := Prod.mk.inj (Option.some.inj h)
    exact ⟨text, hquoted, rfl⟩
  · have hword : (takeWord (quotationMark :: cs)).1 = quotationMark :: (takeWord cs).1 := by
      have hpart : isWordPart quotationMark = true := by decide
      rw [takeWord, if_pos (by simp [hpart])]
    have hnone : (wordValue? (takeWord (quotationMark :: cs)).1).map
        (·, (takeWord (quotationMark :: cs)).2) = some (v, last) := h
    rw [hword, wordValue?_cons] at hnone
    simp at hnone

end Workbench.Toml
