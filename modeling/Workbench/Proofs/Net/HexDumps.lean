import Mathlib.Data.List.Forall2
import Mathlib.Tactic.Lemma
import Workbench.Net.HexDump
import Workbench.Proofs.Text.Digits
import Workbench.Proofs.Text.Lines

set_option relaxedAutoImplicit false
set_option autoImplicit false

/-!
# Hex dumps are read back

A dump shows its octets twice, in hexadecimal and as characters, after an offset whose width is not
bounded. The reader takes the hexadecimal columns only. It finds them behind the digits of the offset,
and it knows the end of the last one by the blanks that fill it up.

What a line shows is said here part by part, in base sixteen and columns, without the functions that
write it.

## Main definitions

* `Workbench.HexDump.lineBody` — a line without its end.
* `Workbench.HexDump.ShownAs` — the character of an octet.
* `Workbench.HexDump.ShowsRow` — the parts of a line.

## Main results

* `Workbench.HexDump.octetsOfColumn?_hexColumn` — a hexadecimal column is read back, filled up or full.
* `Workbench.HexDump.octetsOfLine?_lineBody` — a line is read back.
* `Workbench.HexDump.octets?_dump` — a dump is read back, whatever its length.
* `Workbench.HexDump.lines_linesFrom` — the lines of a dump.
* `Workbench.HexDump.dump_losesNothing` — how many lines there are, what they show, and that other octets
  have another dump.
-/

namespace Workbench.HexDump

/-! ### The hexadecimal columns -/

/-- The column of an octet that others follow. -/
lemma hexColumn_cons_cons (b b' : UInt8) (row : List UInt8) :
    hexColumn (b :: b' :: row) = Text.hexOctet b ++ ' ' :: hexColumn (b' :: row) := by
  simp [hexColumn, List.intercalate_cons_cons]

/-- The columns of a line begin with a digit. -/
lemma exists_hexColumn_cons (b : UInt8) (row : List UInt8) :
    ∃ digit rest, hexColumn (b :: row) = digit :: rest ∧ Text.isHex digit = true := by
  have hdigit := Text.isHex_of_mem_hexOctet (List.mem_cons_self : _ ∈ Text.hexOctet b)
  cases row with
  | nil => exact ⟨_, [Text.lowerDigit (b.toNat % 16)], by simp [hexColumn, Text.hexOctet], hdigit⟩
  | cons b' row => exact ⟨_, _, hexColumn_cons_cons b b' row, hdigit⟩

/-- How many columns the octets of a line take. -/
lemma length_hexColumn (b : UInt8) (row : List UInt8) :
    (hexColumn (b :: row)).length + 1 = 3 * (b :: row).length := by
  induction row generalizing b with
  | nil => simp [hexColumn, Text.hexOctet]
  | cons b' row ih =>
    rw [hexColumn_cons_cons, List.length_append, List.length_cons, Text.hexOctet]
    have := ih b'
    simp only [List.length_cons, List.length_nil] at this ⊢
    omega

/-- **A hexadecimal column is read back**, with no blank behind it or with at least two.

**Proof sketch.** Induction on the octets. A pair of digits is the last one if nothing follows or two
blanks do; between two octets there is one blank, behind which comes a digit. -/
lemma octetsOfColumn?_hexColumn {blanks : Nat} (hblanks : blanks ≠ 1) (b : UInt8) (row : List UInt8) :
    octetsOfColumn? (hexColumn (b :: row) ++ List.replicate blanks ' ') = some (b :: row) := by
  induction row generalizing b with
  | nil =>
    match blanks, hblanks with
    | 0, _ => simp [hexColumn, Text.hexOctet, octetsOfColumn?, Text.octetOfDigits?_lowerDigit]
    | blanks + 2, _ =>
      simp [hexColumn, Text.hexOctet, List.replicate_succ, octetsOfColumn?,
        Text.octetOfDigits?_lowerDigit]
  | cons b' row ih =>
    obtain ⟨digit, rest, hrest, hdigit⟩ := exists_hexColumn_cons b' row
    have hnext : ∀ tail, hexColumn (b' :: row) ++ List.replicate blanks ' ' ≠ ' ' :: tail := by
      intro tail h
      rw [hrest, List.cons_append] at h
      rw [(List.cons.inj h).1] at hdigit
      exact absurd hdigit (by decide)
    rw [hexColumn_cons_cons, Text.hexOctet]
    simp only [List.cons_append, List.nil_append]
    rw [octetsOfColumn?.eq_3 _ _ _ hnext, Text.octetOfDigits?_lowerDigit, ih]
    rfl

/-! ### Lines -/

/-- A line of a dump without its end. -/
def lineBody (offset : Nat) (row : List UInt8) : List Char :=
  Text.hexNumber 4 offset ++ [' ', ' '] ++ padRight hexColumns (hexColumn row) ++ [' ', ' ']
    ++ row.map glyph

/-- A line and its end. -/
lemma line_eq (offset : Nat) (row : List UInt8) : line offset row = lineBody offset row ++ ['\n'] := rfl

/-- No octet is shown as a control character. -/
lemma le_toNat_glyph (b : UInt8) : 0x20 ≤ (glyph b).toNat := by
  unfold glyph
  split
  · next h =>
    have hprintable : ∀ n < 0x7F, 0x20 ≤ n → 0x20 ≤ (Char.ofNat n).toNat := by decide
    exact hprintable b.toNat (Nat.lt_succ_of_le h.2) h.1
  · decide

/-- The columns of a line hold digits and blanks. -/
lemma eq_blank_or_isHex_of_mem_hexColumn {row : List UInt8} {c : Char} (h : c ∈ hexColumn row) :
    c = ' ' ∨ Text.isHex c = true := by
  rcases Text.mem_of_mem_intercalate h with hblank | ⟨digits, hdigits, hc⟩
  · exact .inl (List.mem_singleton.1 hblank)
  · obtain ⟨b, -, rfl⟩ := List.mem_map.1 hdigits
    exact .inr (Text.isHex_of_mem_hexOctet hc)

/-- A line holds no control character. -/
lemma le_toNat_of_mem_lineBody {offset : Nat} {row : List UInt8} {c : Char} (h : c ∈ lineBody offset row) :
    0x20 ≤ c.toNat := by
  simp only [lineBody, padRight, List.mem_append, List.mem_replicate, List.mem_map, List.mem_cons,
    List.not_mem_nil, or_false] at h
  rcases h with (((h | rfl | rfl) | h | ⟨-, rfl⟩) | rfl | rfl) | ⟨b, -, rfl⟩
  · exact Text.le_toNat_of_isHex (Text.isHex_of_mem_hexNumber h)
  · decide
  · decide
  · rcases eq_blank_or_isHex_of_mem_hexColumn h with rfl | h
    · decide
    · exact Text.le_toNat_of_isHex h
  · decide
  · decide
  · decide
  · exact le_toNat_glyph b

/-- A line ends nowhere but at its end. -/
lemma lineFeed_notMem_lineBody (offset : Nat) (row : List UInt8) : '\n' ∉ lineBody offset row :=
  fun h => absurd (le_toNat_of_mem_lineBody h) (by decide)

/-- The columns of a line, filled up, are as wide as those of a full line. -/
lemma length_padRight_hexColumn {row : List UInt8} (hne : row ≠ []) (h : row.length ≤ perLine) :
    (padRight hexColumns (hexColumn row)).length = hexColumns := by
  obtain ⟨b, rest, rfl⟩ := List.exists_cons_of_ne_nil hne
  have hlength := length_hexColumn b rest
  rw [perLine] at h
  rw [padRight, List.length_append, List.length_replicate, hexColumns]
  omega

/-- **A line is read back.** -/
lemma octetsOfLine?_lineBody (offset : Nat) {b : UInt8} {row : List UInt8}
    (h : (b :: row).length ≤ perLine) : octetsOfLine? (lineBody offset (b :: row)) = some (b :: row) := by
  have hlength := length_hexColumn b row
  have hpadded : (padRight hexColumns (hexColumn (b :: row))).length = hexColumns :=
    length_padRight_hexColumn (List.cons_ne_nil b row) h
  have hblanks : hexColumns - (hexColumn (b :: row)).length ≠ 1 := by
    rw [perLine] at h
    rw [hexColumns]
    omega
  have hoffset : ∀ c ∈ Text.hexNumber 4 offset, Text.isHex c = true :=
    fun c hc => Text.isHex_of_mem_hexNumber hc
  have hblank : Text.isHex ' ' = false := by decide
  rw [octetsOfLine?, lineBody]
  simp only [List.append_assoc]
  rw [List.dropWhile_append_of_pos hoffset, List.cons_append, List.dropWhile_cons_of_neg (by simp [hblank])]
  simp only [List.cons_append, List.nil_append, List.drop_succ_cons, List.drop_zero]
  rw [List.take_left' hpadded, padRight, octetsOfColumn?_hexColumn hblanks]

/-! ### Dumps -/

/-- The first line of a dump, and the lines behind it. -/
lemma fields_linesFrom {offset : Nat} {bs : List UInt8} (h : bs ≠ []) :
    Text.fields (· == '\n') (linesFrom offset bs) =
      lineBody offset (bs.take perLine) ::
        Text.fields (· == '\n') (linesFrom (offset + perLine) (bs.drop perLine)) := by
  rw [linesFrom, if_neg h, line_eq, List.append_assoc]
  exact Text.fields_append_cons_of_notMem (lineFeed_notMem_lineBody _ _) _

/-- **A dump is read back.**

**Proof sketch.** Induction on the lines. The first one is read back as the octets that it shows
(`octetsOfLine?_lineBody`), and the others as the octets that are left. -/
theorem octets?_dump (bs : List UInt8) : octets? (dump bs) = some bs := by
  rw [octets?, dump, String.toList_ofList]
  generalize 0 = offset
  induction offset, bs using linesFrom.induct with
  | case1 offset => simp [linesFrom, Text.fields]
  | case2 offset bs hne ih =>
    obtain ⟨b, rest, hbs⟩ := List.exists_cons_of_ne_nil hne
    have hrow : bs.take perLine = b :: rest.take 15 := by
      rw [hbs]
      rfl
    have hread : octetsOfLine? (lineBody offset (bs.take perLine)) = some (bs.take perLine) := by
      have hlength : (bs.take perLine).length ≤ perLine := List.length_take_le perLine bs
      rw [hrow] at hlength ⊢
      exact octetsOfLine?_lineBody offset hlength
    obtain ⟨rows, hrows, hflat⟩ := Option.map_eq_some_iff.1 ih
    rw [fields_linesFrom hne, List.dropLast_cons_of_ne_nil (Text.fields_ne_nil _ _), List.mapM_cons,
      hread, hrows]
    exact congrArg some (by rw [List.flatten_cons, hflat, List.take_append_drop])

/-! ### What a dump shows -/

/-- How an octet is shown as a character: as itself if it is printable, else as a point. -/
def ShownAs (b : UInt8) (c : Char) : Prop :=
  if 0x20 ≤ b.toNat ∧ b.toNat ≤ 0x7E then c.toNat = b.toNat else c = '.'

/-- The parts of a line of a dump. -/
structure ShowsRow (offset : Nat) (row : List UInt8) (number columns characters : List Char) : Prop where
  /-- The offset in base sixteen, with at least four digits. -/
  number_eq : number = (Nat.toDigits 16 offset).leftpad 4 '0'
  /-- The octets in base sixteen, with two digits each and single spaces between them. -/
  columns_eq : columns =
    ([' '].intercalate (row.map fun b => (Nat.toDigits 16 b.toNat).leftpad 2 '0')).rightpad 47 ' '
  /-- They take the same columns on every line. -/
  length_columns : columns.length = 47
  /-- One character for each octet. -/
  shownAs : List.Forall₂ ShownAs row characters

/-- An octet is shown as its character. -/
lemma shownAs_glyph (b : UInt8) : ShownAs b (glyph b) := by
  unfold ShownAs glyph
  split
  · next h =>
    have hprintable : ∀ n < 0x7F, (Char.ofNat n).toNat = n := by decide
    exact hprintable b.toNat (Nat.lt_succ_of_le h.2)
  · rfl

/-- A line shows its octets. -/
lemma showsRow_lineBody (offset : Nat) {row : List UInt8} (hne : row ≠ []) (h : row.length ≤ perLine) :
    ∃ number columns characters,
      lineBody offset row = number ++ [' ', ' '] ++ columns ++ [' ', ' '] ++ characters ∧
      ShowsRow offset row number columns characters := by
  have hoctets : row.map Text.hexOctet = row.map fun b => (Nat.toDigits 16 b.toNat).leftpad 2 '0' :=
    List.map_congr_left fun b _ => Text.hexOctet_eq_leftpad b
  refine ⟨_, _, _, rfl, Text.hexNumber_eq_leftpad 4 offset, ?_, length_padRight_hexColumn hne h, ?_⟩
  · rw [hexColumn, hoctets]
    rfl
  · exact List.forall₂_map_right_iff.2 (List.forall₂_same.2 fun b _ => shownAs_glyph b)

/-- The octets of a line of a dump. -/
def rowAt (bs : List UInt8) (i : Nat) : List UInt8 := (bs.drop (perLine * i)).take perLine

/-- **The lines of a dump**: one for every sixteen octets, and one for what is left.

**Proof sketch.** Induction on the lines. A line holds no control character, so it is read as it is
written; the other lines are those of a dump of the octets that are left, from an offset that is larger
by sixteen. -/
theorem lines_linesFrom (offset : Nat) (bs : List UInt8) :
    Text.lines (linesFrom offset bs) =
      (List.range ((bs.length + 15) / 16)).map fun i =>
        { content := lineBody (offset + perLine * i) (rowAt bs i), ending := .lineFeed } := by
  induction offset, bs using linesFrom.induct with
  | case1 offset => simp [linesFrom, Text.lines]
  | case2 offset bs hne ih =>
    let first : Text.Line := ⟨lineBody offset (bs.take perLine), .lineFeed⟩
    have hproper : first.IsProper :=
      ⟨lineFeed_notMem_lineBody _ _, fun _ hlast =>
        absurd (le_toNat_of_mem_lineBody (List.mem_of_getLast? hlast)) (by decide), by simp [first]⟩
    have hfirst : linesFrom offset bs = first.chars ++ linesFrom (offset + perLine) (bs.drop perLine) := by
      rw [linesFrom, if_neg hne]
      rfl
    have hcount : (bs.length + 15) / 16 = ((bs.drop perLine).length + 15) / 16 + 1 := by
      have hpos : 0 < bs.length := List.length_pos_iff.2 hne
      rw [List.length_drop, perLine]
      omega
    rw [hfirst, Text.lines_chars_append_of_isProper hproper (by simp [first]), ih, hcount,
      List.range_succ_eq_map, List.map_cons, List.map_map]
    refine List.cons_eq_cons.2 ⟨by simp [first, rowAt], List.map_congr_left fun i _ => ?_⟩
    simp only [Function.comp_apply, rowAt, List.drop_drop, Nat.succ_eq_add_one, Nat.mul_add, Nat.mul_one]
    rw [Nat.add_comm perLine, Nat.add_right_comm, Nat.add_assoc]

/-- **A dump loses nothing.** It has a line for every sixteen octets and one for what is left, each of
which ends with a line feed. A line shows its offset in base sixteen, with at least four digits and as
many as it takes, the octets from this offset on in columns of a fixed width, and a character for each of
them. From the columns of all lines the octets are read back, so that other octets have another dump.

**Proof sketch.** The lines are `lines_linesFrom`, and what they show is `showsRow_lineBody`; reading back
is `octets?_dump`. -/
theorem dump_losesNothing (bs : List UInt8) :
    (Text.lines (dump bs).toList).length = (bs.length + 15) / 16 ∧
    (∀ i line, (Text.lines (dump bs).toList)[i]? = some line →
      line.ending = .lineFeed ∧ ∃ number columns characters,
        line.content = number ++ [' ', ' '] ++ columns ++ [' ', ' '] ++ characters ∧
        ShowsRow (16 * i) ((bs.drop (16 * i)).take 16) number columns characters) ∧
    octets? (dump bs) = some bs ∧ Function.Injective dump := by
  have htext : (dump bs).toList = linesFrom 0 bs := String.toList_ofList
  rw [htext, lines_linesFrom]
  refine ⟨by simp, fun i line hi => ?_, octets?_dump bs, fun a b hab => ?_⟩
  · rw [List.getElem?_map, Option.map_eq_some_iff] at hi
    obtain ⟨j, hj, rfl⟩ := hi
    obtain ⟨hi, hij⟩ := List.getElem?_eq_some_iff.1 hj
    rw [List.getElem_range] at hij
    rw [List.length_range] at hi
    subst hij
    have hne : rowAt bs i ≠ [] := by
      rw [← List.length_pos_iff, rowAt, List.length_take, List.length_drop, perLine]
      omega
    have hlength : (rowAt bs i).length ≤ perLine := List.length_take_le _ _
    rw [Nat.zero_add]
    exact ⟨rfl, showsRow_lineBody (perLine * i) hne hlength⟩
  · have ha := octets?_dump a
    rw [hab, octets?_dump b] at ha
    exact (Option.some.inj ha).symm

end Workbench.HexDump
