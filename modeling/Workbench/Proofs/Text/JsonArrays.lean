import Mathlib.Tactic.Lemma
import Workbench.Proofs.Text.Digits

set_option relaxedAutoImplicit false
set_option autoImplicit false

/-!
# Arrays of integers as JSON

The part of JSON that arrays of integers are written in: brackets, commas and decimal numbers with an
optional minus sign and without superfluous zeros, with blanks anywhere between them. Arrays that are
written without blanks are read back, whatever their elements are, if the elements are.

## Main definitions

* `Workbench.Json.integer?`, `Workbench.Json.array?` — integers and arrays.
* `Workbench.Json.integerRows?` — the arrays of integers of a whole text.
* `Workbench.Json.IsReadBack` — a text that a reader reads a value off, in front of a comma or bracket.

## Main results

* `Workbench.Json.isReadBack_toDigits` — decimal digits are read back.
* `Workbench.Json.array?_intercalate` — arrays are read back if their elements are.
* `Workbench.Json.integerRows?_writeRow` — an array of arrays of numbers is read back.

## Design

Every reader answers what it read with the rest of the text. An element must take at least one
character off the text, otherwise the reader of arrays gives up.
-/

namespace Workbench.Json

/-! ### Readers -/

/-- Reads something off the front of a text; answers it with the rest of the text. -/
abbrev Reader (α : Type) := List Char → Option (α × List Char)

/-- The characters that may stand anywhere between the parts of a text. -/
def isBlank (c : Char) : Bool := c == ' ' || c == '\t' || c == '\n' || c == '\r'

/-- A text without the blanks at its front. -/
def skip (cs : List Char) : List Char := cs.dropWhile isBlank

/-- A number without a sign. A zero that other digits follow is no number. -/
def natural? (cs : List Char) : Option (Nat × List Char) :=
  match cs.takeWhile Char.isDigit with
  | [] => none
  | '0' :: _ :: _ => none
  | digits => some (Nat.ofDigitChars 10 digits 0, cs.dropWhile Char.isDigit)

/-- A number with an optional sign. -/
def integer? : Reader Int
  | '-' :: cs => (natural? cs).map fun (n, rest) => (-(n : Int), rest)
  | cs => (natural? cs).map fun (n, rest) => ((n : Int), rest)

section Arrays

variable {α : Type}

/-- The elements of an array from one of them on, up to the closing bracket. -/
def elements? (item : Reader α) (cs : List Char) : Option (List α × List Char) :=
  match item (skip cs) with
  | none => none
  | some (a, rest) =>
    match skip rest with
    | ']' :: rest => some ([a], rest)
    | ',' :: rest =>
      if rest.length < cs.length then
        (elements? item rest).map fun (as, last) => (a :: as, last)
      else none
    | _ => none
termination_by cs.length

/-- An array. -/
def array? (item : Reader α) : Reader (List α)
  | '[' :: cs =>
    match skip cs with
    | ']' :: rest => some ([], rest)
    | _ => elements? item cs
  | _ => none

/-- The value of a whole text. -/
def document? (value : Reader α) (text : List Char) : Option α :=
  match value (skip text) with
  | some (a, rest) => if skip rest = [] then some a else none
  | none => none

end Arrays

/-- The integers of a text that is an array of arrays of them. -/
def integerRows? (text : List Char) : Option (List (List Int)) :=
  document? (array? (array? integer?)) text

/-! ### Numbers are read back -/

/-- A text starts with a character that is neither blank nor a bracket that closes. -/
def StartsItem (cs : List Char) : Prop := ∃ c rest, cs = c :: rest ∧ isBlank c = false ∧ c ≠ ']'

/-- A text that a reader reads a value off, if a comma or the end of an array follows. -/
structure IsReadBack {α : Type} (item : Reader α) (written : List Char) (a : α) : Prop where
  starts : StartsItem written
  read : ∀ c rest, c = ',' ∨ c = ']' → item (written ++ c :: rest) = some (a, c :: rest)

/-- The decimal digits of a number are read as that number, if no digit follows. -/
lemma natural?_toDigits (n : Nat) {c : Char} (hc : c.isDigit = false) (rest : List Char) :
    natural? (Nat.toDigits 10 n ++ c :: rest) = some (n, c :: rest) := by
  rw [natural?, Text.takeWhile_toDigits n hc, Text.dropWhile_toDigits n hc]
  split
  · next hnil => exact absurd hnil Nat.toDigits_ne_nil
  · next d digits hzero =>
    rcases Nat.eq_zero_or_pos n with rfl | hn
    · simp at hzero
    · exact absurd (by rw [hzero]; rfl) (Text.head?_toDigits_ne hn)
  · rw [Nat.ofDigitChars_ten_toDigits]

/-- **Decimal digits are read back.** -/
lemma isReadBack_toDigits (n : Nat) : IsReadBack integer? (Nat.toDigits 10 n) (n : Int) := by
  obtain ⟨d, digits, hd⟩ := List.exists_cons_of_ne_nil (Nat.toDigits_ne_nil (n := n) (b := 10))
  have hdigit : d.isDigit = true := Text.isDigit_of_mem_toDigits (n := n) (by simp [hd])
  have hne : ∀ c : Char, c.isDigit = false → d ≠ c := by
    rintro c hc rfl
    simp [hc] at hdigit
  have hblank : isBlank d = false := by
    simp [isBlank, hne ' ' rfl, hne '\t' rfl, hne '\n' rfl, hne '\r' rfl]
  refine ⟨⟨d, digits, hd, hblank, hne ']' rfl⟩, fun c rest hc => ?_⟩
  have hfollows : c.isDigit = false := by rcases hc with rfl | rfl <;> rfl
  have hread := natural?_toDigits n hfollows rest
  rw [hd, List.cons_append] at hread ⊢
  rw [integer?.eq_2 _ (by simpa using hne '-' rfl), hread]
  rfl

/-! ### Arrays are read back -/

section Arrays

variable {α : Type} {item : Reader α}

/-- Nothing is skipped in front of an element. -/
lemma StartsItem.skip_eq {cs : List Char} (h : StartsItem cs) (rest : List Char) :
    skip (cs ++ rest) = cs ++ rest := by
  obtain ⟨c, cs, rfl, hblank, -⟩ := h
  rw [skip, List.cons_append, List.dropWhile_cons_of_neg (by simp [hblank])]

variable {ι : Type} {write : ι → List Char} {value : ι → α}

/-- The elements of an array are read back.

**Proof sketch.** Induction on the elements behind the first one: a comma follows it if there are any,
and otherwise the bracket. -/
lemma elements?_intercalate {i : ι} {others : List ι}
    (h : ∀ j ∈ i :: others, IsReadBack item (write j) (value j)) (rest : List Char) :
    elements? item ([','].intercalate ((i :: others).map write) ++ ']' :: rest) =
      some ((i :: others).map value, rest) := by
  induction others generalizing i with
  | nil =>
    obtain ⟨hstarts, hread⟩ := h i List.mem_cons_self
    rw [List.map_singleton, List.intercalate_singleton, elements?, hstarts.skip_eq,
      hread _ _ (.inr rfl)]
    rfl
  | cons j others ih =>
    obtain ⟨hstarts, hread⟩ := h i List.mem_cons_self
    have hothers := ih fun k hk => h k (List.mem_cons_of_mem i hk)
    rw [List.map_cons, List.map_cons, List.intercalate_cons_cons, ← List.map_cons, List.append_assoc,
      List.append_assoc, List.singleton_append]
    generalize [','].intercalate ((j :: others).map write) ++ ']' :: rest = behind at hothers ⊢
    -- the reader goes on behind the comma only if something was taken off the text
    have hshorter : behind.length < (write i ++ ',' :: behind).length := by
      rw [List.length_append, List.length_cons]
      omega
    have hcomma : skip (',' :: behind) = ',' :: behind := rfl
    rw [elements?, hstarts.skip_eq, hread _ _ (.inl rfl)]
    simp only [hcomma, if_pos hshorter, hothers]
    rfl

/-- **Arrays are read back if their elements are.** -/
theorem array?_intercalate {is : List ι} (h : ∀ i ∈ is, IsReadBack item (write i) (value i))
    (rest : List Char) :
    array? item ('[' :: [','].intercalate (is.map write) ++ ']' :: rest) = some (is.map value, rest) := by
  cases is with
  | nil => rfl
  | cons i others =>
    have helements := elements?_intercalate h rest
    obtain ⟨c, cs, hc, hblank, hne⟩ := (h i List.mem_cons_self).starts
    obtain ⟨tail, htail⟩ : ∃ tail, [','].intercalate ((i :: others).map write) = c :: tail := by
      cases others with
      | nil => exact ⟨cs, by rw [List.map_singleton, List.intercalate_singleton, hc]⟩
      | cons j others =>
        rw [List.map_cons, List.map_cons, List.intercalate_cons_cons, hc]
        exact ⟨_, rfl⟩
    rw [htail, List.cons_append] at helements
    rw [htail, List.cons_append, List.cons_append, array?, skip,
      List.dropWhile_cons_of_neg (by simp [hblank])]
    split
    · next heq => exact absurd (List.cons.inj heq).1 hne
    · exact helements

/-- An array that is written between brackets is an element that is read back. -/
lemma isReadBack_intercalate {is : List ι} (h : ∀ i ∈ is, IsReadBack item (write i) (value i)) :
    IsReadBack (array? item) ('[' :: [','].intercalate (is.map write) ++ [']']) (is.map value) where
  starts := ⟨'[', [','].intercalate (is.map write) ++ [']'], rfl, rfl, by decide⟩
  read c rest _ := by
    rw [List.append_assoc]
    exact array?_intercalate h (c :: rest)

end Arrays

/-- Numbers between brackets, in decimal digits and without blanks. -/
def writeRow (row : List Nat) : List Char :=
  '[' :: [','].intercalate (row.map (Nat.toDigits 10)) ++ [']']

/-- **An array of arrays of numbers is read back**, with a line feed behind it. -/
theorem integerRows?_writeRow (rows : List (List Nat)) :
    integerRows? ('[' :: [','].intercalate (rows.map writeRow) ++ [']', '\n']) =
      some (rows.map fun row => row.map fun n : Nat => (n : Int)) := by
  have hrows : ∀ row ∈ rows,
      IsReadBack (array? integer?) (writeRow row) (row.map fun n : Nat => (n : Int)) :=
    fun row _ => isReadBack_intercalate fun n _ => isReadBack_toDigits n
  have hskip : ∀ cs, skip ('[' :: cs) = '[' :: cs := fun _ => rfl
  have hread := array?_intercalate hrows ['\n']
  rw [integerRows?, document?, List.cons_append, hskip, ← List.cons_append, hread]
  rfl

/-- Blanks and signs are read as well; a comma too many and a superfluous zero are not. -/
example : integerRows? " [[1, -20] , [ ]]".toList = some [[1, -20], []] ∧
    integerRows? "[[1,]]".toList = none ∧ integerRows? "[[01]]".toList = none := by
  decide +kernel

end Workbench.Json
