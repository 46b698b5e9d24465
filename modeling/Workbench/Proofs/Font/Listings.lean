import Mathlib.Data.List.Forall2
import Mathlib.Tactic.Lemma
import Workbench.Font.Listing
import Workbench.Proofs.Text.Digits
import Workbench.Proofs.Text.JsonArrays
import Workbench.Text.Fields

set_option relaxedAutoImplicit false
set_option autoImplicit false

/-!
# Listings carry their glyphs

The three forms of a listing write the same octets with other separators, and two of them behind a
header. What stands behind the header depends on the glyphs alone, and from all three the glyphs can be
read back.

## Main definitions

* `Workbench.Listing.Layout` — what a form writes around and between the octets of glyphs.
* `Workbench.Listing.IsRow`, `Workbench.Listing.IsBody` — how glyphs are laid out behind a header.
* `Workbench.Listing.octetsIn`, `Workbench.Listing.glyphsIn?` — reading octets and glyphs back.
* `Workbench.Listing.body` — what stands behind the header of glyphs.

## Main results

* `Workbench.Listing.glyphsIn?_of_isBody` — the rows behind a header are read back.
* `Workbench.Listing.toList_render_c`, `Workbench.Listing.toList_render_rust` — a listing is its header
  and such rows.
* `Workbench.Listing.integerRows?_render` — a listing in JSON is read back.
* `Workbench.Listing.render_inj` — glyphs can be told from their listing.
* `Workbench.Listing.render_carries` — all three forms together.
-/

namespace Workbench

/-- The glyph of sixteen octets. -/
def Glyph.ofOctets? (bs : List UInt8) : Option Glyph :=
  if h : bs.length = 16 then some ⟨bs.toArray, by simpa using h⟩ else none

/-- A glyph is given by its octets. -/
lemma Glyph.ofOctets?_toList (glyph : Glyph) : Glyph.ofOctets? glyph.toList = some glyph := by
  rw [Glyph.ofOctets?, dif_pos glyph.length_toList]
  rfl

namespace Listing

/-! ### The layout behind a header -/

/-- What a form writes in front of the octets of a glyph, between them and behind them, and behind all
glyphs. -/
structure Layout where
  opening : List Char
  between : List Char
  closing : List Char
  ending : List Char

/-- The layout for C. A comma is behind every octet, the last one of a glyph included. -/
def Layout.c : Layout :=
  { opening := [' ', ' ', '\x7b']
    between := [',']
    closing := [',', '\x7d', ',']
    ending := ['\x7d', ';', '\n'] }

/-- The layout for Rust. A comma and a space are between octets. -/
def Layout.rust : Layout :=
  { opening := [' ', ' ', ' ', ' ', '[']
    between := [',', ' ']
    closing := [']', ',']
    ending := [']', ';', '\n'] }

/-- The upper-case digits, each at the place of its value. -/
def upperDigits : List Char :=
  ['0', '1', '2', '3', '4', '5', '6', '7', '8', '9', 'A', 'B', 'C', 'D', 'E', 'F']

/-- An octet as a marked number of two upper-case digits. -/
def IsWord (b : UInt8) (word : List Char) : Prop :=
  ∃ high low, upperDigits[b.toNat / 16]? = some high ∧ upperDigits[b.toNat % 16]? = some low ∧
    word = ['0', 'x', high, low]

/-- A glyph as a line, without the end of it: its sixteen octets in order. -/
def IsRow (layout : Layout) (glyph : Glyph) (row : List Char) : Prop :=
  ∃ words, List.Forall₂ IsWord glyph.toList words ∧
    row = layout.opening ++ layout.between.intercalate words ++ layout.closing

/-- What stands behind a header: one line for each glyph in order, and the ending. -/
def IsBody (layout : Layout) (glyphs : List Glyph) (body : List Char) : Prop :=
  ∃ rows, List.Forall₂ (IsRow layout) glyphs rows ∧
    body = rows.flatMap (· ++ ['\n']) ++ layout.ending

/-! ### Reading glyphs back -/

/-- The octets that a text holds as marked numbers of two digits, in order. -/
def octetsIn : List Char → List UInt8
  | '0' :: 'x' :: high :: low :: rest =>
    match Text.octetOfDigits? high low with
    | some b => b :: octetsIn rest
    | none => octetsIn (high :: low :: rest)
  | _ :: rest => octetsIn rest
  | [] => []

/-- The glyphs of a text whose lines hold sixteen octets each, or none. -/
def glyphsIn? (cs : List Char) : Option (List Glyph) :=
  (((Text.fields (· == '\n') cs).map octetsIn).filter (!·.isEmpty)).mapM Glyph.ofOctets?

/-! ### Words -/

/-- The upper-case digit of a value is at the place of that value. -/
lemma getElem?_upperDigits {n : Nat} (h : n < 16) : upperDigits[n]? = some (Text.upperDigit n) :=
  (by decide : ∀ n < 16, upperDigits[n]? = some (Text.upperDigit n)) n h

/-- An octet is written as such a number. -/
lemma isWord_octet (b : UInt8) : IsWord b (octet b).toList := by
  refine ⟨_, _, getElem?_upperDigits (Text.halves_lt b).1, getElem?_upperDigits (Text.halves_lt b).2, ?_⟩
  rw [octet, String.toList_append, String.toList_ofList, String.toList_ofList]
  rfl

/-- There is only one such number for an octet. -/
lemma IsWord.eq {b : UInt8} {word : List Char} (h : IsWord b word) :
    word = ['0', 'x', Text.upperDigit (b.toNat / 16), Text.upperDigit (b.toNat % 16)] := by
  obtain ⟨high, low, hhigh, hlow, rfl⟩ := h
  rw [getElem?_upperDigits (Text.halves_lt b).1] at hhigh
  rw [getElem?_upperDigits (Text.halves_lt b).2] at hlow
  rw [Option.some.inj hhigh, Option.some.inj hlow]

/-- A word is read back. -/
lemma IsWord.octetsIn_append {b : UInt8} {word : List Char} (h : IsWord b word) (rest : List Char) :
    octetsIn (word ++ rest) = b :: octetsIn rest := by
  rw [h.eq]
  simp only [List.cons_append, List.nil_append, octetsIn, Text.octetOfDigits?_upperDigit]

/-- A word ends no line. -/
lemma IsWord.lineFeed_notMem {b : UInt8} {word : List Char} (h : IsWord b word) : '\n' ∉ word := by
  have hdigit : ∀ n < 16, '\n' ≠ Text.upperDigit n := by decide
  rw [h.eq]
  simp [hdigit _ (Text.halves_lt b).1, hdigit _ (Text.halves_lt b).2]

/-- Characters that start no word are passed over. -/
lemma octetsIn_append_of_notMem {noise : List Char} (h : '0' ∉ noise) (rest : List Char) :
    octetsIn (noise ++ rest) = octetsIn rest := by
  induction noise with
  | nil => rfl
  | cons c noise ih =>
    obtain ⟨hc, hnoise⟩ := not_or.1 (mt List.mem_cons.2 h)
    have hword : ∀ high low tail, c = '0' → noise ++ rest = 'x' :: high :: low :: tail → False :=
      fun _ _ _ hzero _ => hc hzero.symm
    rw [List.cons_append, octetsIn.eq_2 _ _ hword, ih hnoise]

/-! ### Rows -/

section Rows

variable {layout : Layout}

/-- What a layout writes around octets is no octet and ends no line, and no glyph comes behind. -/
structure Layout.IsQuiet (layout : Layout) : Prop where
  opening_noDigit : '0' ∉ layout.opening
  between_noDigit : '0' ∉ layout.between
  closing_noDigit : '0' ∉ layout.closing
  opening_noLineFeed : '\n' ∉ layout.opening
  between_noLineFeed : '\n' ∉ layout.between
  closing_noLineFeed : '\n' ∉ layout.closing
  ending_eq : glyphsIn? layout.ending = some []

/-- The layout for C is such a layout. -/
lemma Layout.isQuiet_c : Layout.c.IsQuiet := by constructor <;> decide

/-- The layout for Rust is such a layout. -/
lemma Layout.isQuiet_rust : Layout.rust.IsQuiet := by constructor <;> decide

/-- Octets between which others are not written are read back. -/
lemma octetsIn_intercalate {between : List Char} (hb : '0' ∉ between) {bs : List UInt8}
    {words : List (List Char)} (hw : List.Forall₂ IsWord bs words) (rest : List Char) :
    octetsIn (between.intercalate words ++ rest) = bs ++ octetsIn rest := by
  induction hw with
  | nil => rfl
  | @cons b word bs words hword hwords ih =>
    cases hwords with
    | nil => rw [List.intercalate_singleton, hword.octetsIn_append]; rfl
    | cons hword' hwords =>
      rw [List.intercalate_cons_cons, List.append_assoc, List.append_assoc, hword.octetsIn_append,
        octetsIn_append_of_notMem hb, ih]
      rfl

/-- Words end no line. -/
lemma lineFeed_notMem_of_mem {bs : List UInt8} {words : List (List Char)}
    (hw : List.Forall₂ IsWord bs words) : ∀ word ∈ words, '\n' ∉ word := by
  induction hw with
  | nil => simp
  | cons hword _ ih => exact List.forall_mem_cons.2 ⟨hword.lineFeed_notMem, ih⟩

/-- A row is read back. -/
lemma IsRow.octetsIn_eq (hq : layout.IsQuiet) {glyph : Glyph} {row : List Char}
    (h : IsRow layout glyph row) : octetsIn row = glyph.toList := by
  obtain ⟨words, hwords, rfl⟩ := h
  rw [List.append_assoc, octetsIn_append_of_notMem hq.opening_noDigit,
    octetsIn_intercalate hq.between_noDigit hwords, ← List.append_nil layout.closing,
    octetsIn_append_of_notMem hq.closing_noDigit, octetsIn, List.append_nil]

/-- A row ends nowhere but at its end. -/
lemma IsRow.lineFeed_notMem (hq : layout.IsQuiet) {glyph : Glyph} {row : List Char}
    (h : IsRow layout glyph row) : '\n' ∉ row := by
  obtain ⟨words, hwords, rfl⟩ := h
  intro hmem
  rw [List.mem_append, List.mem_append] at hmem
  rcases hmem with (hopening | hoctets) | hclosing
  · exact hq.opening_noLineFeed hopening
  · rcases Text.mem_of_mem_intercalate hoctets with hbetween | ⟨word, hword, hc⟩
    · exact hq.between_noLineFeed hbetween
    · exact lineFeed_notMem_of_mem hwords word hword hc
  · exact hq.closing_noLineFeed hclosing

/-- The glyph of a row is the first one that is read back. -/
lemma glyphsIn?_row_append (hq : layout.IsQuiet) {glyph : Glyph} {row : List Char}
    (h : IsRow layout glyph row) (rest : List Char) :
    glyphsIn? (row ++ '\n' :: rest) = (glyphsIn? rest).map (glyph :: ·) := by
  have hfull : (!glyph.toList.isEmpty) = true := by
    rw [Bool.not_eq_true', List.isEmpty_eq_false_iff, ← List.length_pos_iff, Vector.length_toList]
    decide
  rw [glyphsIn?, Text.fields_append_cons_of_notMem (h.lineFeed_notMem hq), List.map_cons,
    h.octetsIn_eq hq, List.filter_cons_of_pos (p := fun bs : List UInt8 => !bs.isEmpty) hfull,
    List.mapM_cons, Glyph.ofOctets?_toList, ← glyphsIn?]
  cases glyphsIn? rest <;> rfl

/-- **The rows behind a header are read back**, and with the ending no glyph is. -/
theorem glyphsIn?_of_isBody (hq : layout.IsQuiet) {glyphs : List Glyph} {body : List Char}
    (h : IsBody layout glyphs body) : glyphsIn? body = some glyphs := by
  obtain ⟨rows, hrows, rfl⟩ := h
  induction hrows with
  | nil => exact hq.ending_eq
  | cons hrow hrows ih =>
    rw [List.flatMap_cons, List.append_assoc, List.append_assoc, List.singleton_append,
      glyphsIn?_row_append hq hrow, ih]
    rfl

end Rows

/-! ### What is rendered -/

/-- Texts that a separator follows are texts between which it stands, and one more of it. -/
lemma flatMap_append_eq {between : List Char} {words : List (List Char)} (h : words ≠ []) :
    words.flatMap (· ++ between) = between.intercalate words ++ between := by
  induction words with
  | nil => exact absurd rfl h
  | cons word words ih =>
    cases words with
    | nil => simp
    | cons word' words =>
      rw [List.flatMap_cons, ih (List.cons_ne_nil _ _), List.intercalate_cons_cons]
      simp only [List.append_assoc]

/-- The line of a glyph in a layout, without the end of it. -/
def row (layout : Layout) (glyph : Glyph) : List Char :=
  layout.opening ++ layout.between.intercalate (glyph.toList.map fun b => (octet b).toList)
    ++ layout.closing

/-- What stands behind the header of glyphs in a layout. -/
def body (layout : Layout) (glyphs : List Glyph) : List Char :=
  glyphs.flatMap (fun glyph => row layout glyph ++ ['\n']) ++ layout.ending

/-- The line of a glyph is laid out as a row. -/
lemma isRow_row (layout : Layout) (glyph : Glyph) : IsRow layout glyph (row layout glyph) :=
  ⟨_, List.forall₂_map_right_iff.2 (List.forall₂_same.2 fun b _ => isWord_octet b), rfl⟩

/-- What stands behind the header of glyphs is laid out as such. -/
theorem isBody_body (layout : Layout) (glyphs : List Glyph) :
    IsBody layout glyphs (body layout glyphs) := by
  refine ⟨glyphs.map (row layout),
    List.forall₂_map_right_iff.2 (List.forall₂_same.2 fun glyph _ => isRow_row layout glyph), ?_⟩
  rw [List.flatMap_map]
  rfl

/-- A glyph of the array for C is the line of its layout. -/
lemma toList_rowC (glyph : Glyph) : (rowC glyph).toList = row .c glyph ++ ['\n'] := by
  have hne : (glyph.toList.map fun b => (octet b).toList) ≠ [] := by
    rw [← List.length_pos_iff, List.length_map, Vector.length_toList]
    decide
  have hoctets : (String.join (glyph.toList.map fun b => octet b ++ ",")).toList =
      [','].intercalate (glyph.toList.map fun b => (octet b).toList) ++ [','] := by
    rw [← flatMap_append_eq hne, String.toList_join, List.flatMap_map, List.flatMap_map]
    simp only [String.toList_append]
    rfl
  rw [rowC, String.toList_append, String.toList_append, hoctets, row]
  simp [Layout.c]

/-- A glyph of the constant for Rust is the line of its layout. -/
lemma toList_rowRust (glyph : Glyph) : (rowRust glyph).toList = row .rust glyph ++ ['\n'] := by
  rw [rowRust, String.toList_append, String.toList_append, String.toList_intercalate, List.map_map,
    row]
  simp [Layout.rust, Function.comp_def]

/-- **A listing for C is its header and the rows of its layout.** -/
theorem toList_render_c (names : Names) (glyphs : List Glyph) : (render .c names glyphs).toList =
    (headerC names glyphs.length).toList ++ body .c glyphs := by
  rw [render, String.toList_append, String.toList_append, String.toList_join, List.flatMap_map, body,
    List.append_assoc]
  simp only [toList_rowC]
  rfl

/-- **A listing for Rust is its header and the rows of its layout.** -/
theorem toList_render_rust (names : Names) (glyphs : List Glyph) :
    (render .rust names glyphs).toList =
      (headerRust names glyphs.length).toList ++ body .rust glyphs := by
  rw [render, String.toList_append, String.toList_append, String.toList_join, List.flatMap_map, body,
    List.append_assoc]
  simp only [toList_rowRust]
  rfl

/-- A glyph in JSON is an array of numbers. -/
lemma toList_rowJson (glyph : Glyph) :
    (rowJson glyph).toList = Json.writeRow (glyph.toList.map UInt8.toNat) := by
  have hnumber : ∀ b : UInt8, (toString b.toNat).toList = Nat.toDigits 10 b.toNat := fun b => by
    rw [Nat.toString_eq_ofList_toDigits, String.toList_ofList]
  rw [rowJson, String.toList_append, String.toList_append, String.toList_intercalate, List.map_map,
    Json.writeRow, List.map_map]
  simp only [Function.comp_def, hnumber]
  rfl

/-- **A listing in JSON is read back** as the octets of its glyphs. -/
theorem integerRows?_render (names : Names) (glyphs : List Glyph) :
    Json.integerRows? (render .json names glyphs).toList =
      some (glyphs.map fun glyph => glyph.toList.map fun b => (b.toNat : Int)) := by
  have hrows : (render .json names glyphs).toList = '[' :: [','].intercalate
      ((glyphs.map fun glyph => glyph.toList.map UInt8.toNat).map Json.writeRow) ++ [']', '\n'] := by
    rw [render, String.toList_append, String.toList_append, String.toList_intercalate, List.map_map,
      List.map_map]
    simp only [Function.comp_def, toList_rowJson]
    rfl
  rw [hrows, Json.integerRows?_writeRow, List.map_map]
  simp only [Function.comp_def, List.map_map]

/-! ### What listings have in common -/

/-- The header of the array for C is the number of glyphs between two texts. -/
lemma exists_toList_headerC (names : Names) : ∃ front back, ∀ count,
    (headerC names count).toList = front ++ (Nat.toDigits 10 count ++ ']' :: back) := by
  refine ⟨("const " ++ names.elementType ++ " " ++ names.name ++ "[").toList,
    ("[" ++ toString Glyph.cellHeight ++ "] = \x7b\n").toList, fun count => ?_⟩
  -- the equation lemma of the definition is slow to state
  delta headerC
  simp only [String.toList_append, Nat.toString_eq_ofList_toDigits, String.toList_ofList,
    List.append_assoc]
  rfl

/-- The header of the constant for Rust is the number of glyphs between two texts. -/
lemma exists_toList_headerRust (names : Names) : ∃ front back, ∀ count,
    (headerRust names count).toList = front ++ (Nat.toDigits 10 count ++ ']' :: back) := by
  refine ⟨("pub const " ++ Text.inCapitals names.name ++ ": [[u8; " ++ toString Glyph.cellHeight
    ++ "]; ").toList, " = [\n".toList, fun count => ?_⟩
  delta headerRust
  simp only [String.toList_append, Nat.toString_eq_ofList_toDigits, String.toList_ofList,
    List.append_assoc]
  rfl

/-- Glyphs behind headers of one kind are the same if the texts are. -/
lemma eq_of_header_append {layout : Layout} (hq : layout.IsQuiet) {header : Nat → List Char}
    (hheader : ∃ front back, ∀ count, header count = front ++ (Nat.toDigits 10 count ++ ']' :: back))
    {glyphs others : List Glyph}
    (h : header glyphs.length ++ body layout glyphs = header others.length ++ body layout others) :
    glyphs = others := by
  obtain ⟨front, back, hheader⟩ := hheader
  simp only [hheader, List.append_assoc, List.append_cancel_left_eq, List.cons_append] at h
  have hbody : body layout glyphs = body layout others := by
    -- the numbers of glyphs may differ so far; what follows their digits does not
    have hbehind := congrArg (List.dropWhile Char.isDigit) h
    rw [Text.dropWhile_toDigits _ rfl, Text.dropWhile_toDigits _ rfl] at hbehind
    exact List.append_cancel_left (List.cons.inj hbehind).2
  have hread := glyphsIn?_of_isBody hq (isBody_body layout glyphs)
  rw [hbody, glyphsIn?_of_isBody hq (isBody_body layout others)] at hread
  exact (Option.some.inj hread).symm

/-- **Glyphs can be told from their listing** in every form. -/
theorem render_inj (format : Format) (names : Names) {glyphs others : List Glyph}
    (h : render format names glyphs = render format names others) : glyphs = others := by
  have hchars := congrArg String.toList h
  cases format with
  | c =>
    rw [toList_render_c, toList_render_c] at hchars
    exact eq_of_header_append Layout.isQuiet_c (exists_toList_headerC names) hchars
  | rust =>
    rw [toList_render_rust, toList_render_rust] at hchars
    exact eq_of_header_append Layout.isQuiet_rust (exists_toList_headerRust names) hchars
  | json =>
    have hread := integerRows?_render names glyphs
    rw [hchars, integerRows?_render names others] at hread
    have hoctets : Function.Injective fun glyph : Glyph =>
        glyph.toList.map fun b => (b.toNat : Int) := by
      intro a b hab
      have hint : Function.Injective fun b : UInt8 => (b.toNat : Int) := fun x y hxy =>
        UInt8.toNat_inj.1 (Int.ofNat.inj hxy)
      exact Vector.toList_inj.1 (List.map_injective_iff.2 hint hab)
    exact (List.map_injective_iff.2 hoctets (Option.some.inj hread)).symm

/-- **All forms of a listing carry the same glyphs.** Behind its header, which names and the number of
glyphs determine, a listing for C has one line for each glyph with its sixteen octets as marked numbers
of two upper-case digits, and the ending; so has a listing for Rust, in its own layout. Names have no
influence on what stands there, nor on a listing in JSON. The glyphs are read back from behind the
headers, and their octets from JSON. So listings with the same names and in the same form are equal
exactly if the glyphs are.

**Proof sketch.** What is rendered behind the headers are such lines (`toList_render_c`,
`toList_render_rust`, `isBody_body`), and such lines are read back whatever the layout is
(`glyphsIn?_of_isBody`). JSON is read back number by number (`integerRows?_render`). Headers end at a
bracket that is no digit, so that two listings that are equal have the same text behind them
(`render_inj`). -/
theorem render_carries (glyphs : List Glyph) :
    (∃ behind, IsBody .c glyphs behind ∧ glyphsIn? behind = some glyphs ∧
      ∀ names, (render .c names glyphs).toList = (headerC names glyphs.length).toList ++ behind) ∧
    (∃ behind, IsBody .rust glyphs behind ∧ glyphsIn? behind = some glyphs ∧
      ∀ names,
        (render .rust names glyphs).toList = (headerRust names glyphs.length).toList ++ behind) ∧
    (∃ text, Json.integerRows? text.toList =
        some (glyphs.map fun glyph => glyph.toList.map fun b => (b.toNat : Int)) ∧
      ∀ names, render .json names glyphs = text) ∧
    ∀ format names others, render format names glyphs = render format names others ↔
      glyphs = others := by
  have hc := isBody_body .c glyphs
  have hrust := isBody_body .rust glyphs
  refine ⟨⟨_, hc, glyphsIn?_of_isBody Layout.isQuiet_c hc, fun names => toList_render_c names glyphs⟩,
    ⟨_, hrust, glyphsIn?_of_isBody Layout.isQuiet_rust hrust,
      fun names => toList_render_rust names glyphs⟩,
    ⟨_, integerRows?_render {} glyphs, fun _ => rfl⟩, fun format names others => ⟨?_, ?_⟩⟩
  · exact render_inj format names
  · rintro rfl
    rfl

end Listing

end Workbench
