import Mathlib.Data.List.Basic
import Workbench.Net.MacAddress
import Workbench.Proofs.Text.Blanks
import Workbench.Proofs.Text.Digits

set_option relaxedAutoImplicit false
set_option autoImplicit false

/-!
# How addresses are written

An address is written as six groups of two digits, with a separator between each two of them and blanks
around the whole. The texts that are written so are exactly those that are read, and every text is
written for one address at most. Case, blanks and the choice of separators are all that two texts for
one address differ in.

## Main definitions

* `Workbench.MacAddress.Spells` — the grammar of octets in groups.
* `Workbench.MacAddress.Writes` — the texts that an address is written as.
* `Workbench.MacAddress.plain` — a character in the form that addresses are printed in.
* `Workbench.MacAddress.digits` — the digits of a text.

## Main results

* `Workbench.MacAddress.ofText?_eq_some_iff` — the texts without outer blanks that are read.
* `Workbench.MacAddress.read_eq_ok_iff` — the texts that are read.
* `Workbench.MacAddress.writes_display` — the printed form is one of them.
* `Workbench.MacAddress.reads_exactly_written` — all of this, with the texts of one address.
-/

namespace Workbench.MacAddress

/-! ### The grammar -/

/-- A group of two digits, the high one first, has the value of an octet. -/
def IsGroup (high low : Char) (b : UInt8) : Prop :=
  ∃ h l, Text.IsHexDigit high h ∧ Text.IsHexDigit low l ∧ b.toNat = 16 * h + l

/-- Groups of two digits with one separator between each two of them, for octets in the same order. -/
inductive Spells : List UInt8 → List Char → Prop where
  | single {high low : Char} {b : UInt8} (hb : IsGroup high low b) : Spells [b] [high, low]
  | more {high low sep : Char} {b : UInt8} {bs : List UInt8} {cs : List Char} (hb : IsGroup high low b)
    (hsep : sep = ':' ∨ sep = '-') (h : Spells bs cs) : Spells (b :: bs) (high :: low :: sep :: cs)

/-- A text that an address is written as: the groups of its six octets, with blanks around them. -/
structure Writes (s : String) (body : List Char) (address : MacAddress) : Prop where
  exists_blanks : ∃ front back, s.toList = front ++ body ++ back ∧
    (∀ c ∈ front, Text.isBlank c = true) ∧ ∀ c ∈ back, Text.isBlank c = true
  spells : Spells address.octets.toList body

/-! ### Groups -/

section Groups

variable {high low sep : Char} {b : UInt8}

/-- A separator is a colon or a hyphen. -/
lemma isSeparator_iff : isSeparator sep = true ↔ sep = ':' ∨ sep = '-' := by
  simp [isSeparator]

/-- A digit separates nothing. -/
lemma isSeparator_of_isHex {c : Char} (h : Text.isHex c = true) : isSeparator c = false := by
  rw [Bool.eq_false_iff, Ne, isSeparator_iff]
  rintro (rfl | rfl)
  · exact absurd h (by decide)
  · exact absurd h (by decide)

/-- A digit is no blank. -/
lemma isBlank_of_isHex {c : Char} (h : Text.isHex c = true) : Text.isBlank c = false := by
  have hascii : ∀ n < 128, Text.isHex (Char.ofNat n) = true → Text.isBlank (Char.ofNat n) = false := by
    decide +kernel
  obtain ⟨n, hn, rfl⟩ := Text.exists_eq_ofNat_of_isHex h
  exact hascii n hn h

/-- A group is made of digits. -/
lemma IsGroup.isHex (hb : IsGroup high low b) : Text.isHex high = true ∧ Text.isHex low = true := by
  obtain ⟨h, l, hhigh, hlow, -⟩ := hb
  exact ⟨Text.isHex_iff.2 ⟨h, hhigh⟩, Text.isHex_iff.2 ⟨l, hlow⟩⟩

/-- The groups that are read. -/
lemma octetOfGroup?_eq_some_iff {group : List Char} :
    octetOfGroup? group = some b ↔ ∃ high low, group = [high, low] ∧ IsGroup high low b := by
  unfold octetOfGroup?
  split
  · next high low => simp [Text.octetOfDigits?_eq_some_iff, IsGroup]
  · next hgroup =>
    refine ⟨fun h => by simp at h, ?_⟩
    rintro ⟨high, low, rfl, -⟩
    exact absurd rfl (hgroup high low)

/-- A group in front of a separator is the first field of a text. -/
lemma fields_group_append (hb : IsGroup high low b) (hsep : isSeparator sep = true) (cs : List Char) :
    Text.fields isSeparator (high :: low :: sep :: cs) =
      [high, low] :: Text.fields isSeparator cs := by
  have hgroup : ∀ c ∈ [high, low], isSeparator c = false := by
    simp [isSeparator_of_isHex hb.isHex.1, isSeparator_of_isHex hb.isHex.2]
  exact Text.fields_append_cons hgroup hsep cs

end Groups

/-! ### Reading -/

/-- **The fields that are read as octets** are groups for them.

**Proof sketch.** From left to right, induction on the octets: the first field is the group of the first
octet, and it is the whole text or ends at a separator. From right to left, induction on the groups. -/
theorem mapM_octetOfGroup?_fields_iff {bs : List UInt8} {cs : List Char} :
    (Text.fields isSeparator cs).mapM octetOfGroup? = some bs ↔ Spells bs cs := by
  constructor
  · intro h
    induction bs generalizing cs with
    | nil =>
      cases hfields : Text.fields isSeparator cs with
      | nil => exact absurd hfields (Text.fields_ne_nil isSeparator cs)
      | cons first others => simp [hfields, List.mapM_cons, Option.bind_eq_some_iff] at h
    | cons b bs ih =>
      cases hfields : Text.fields isSeparator cs with
      | nil => exact absurd hfields (Text.fields_ne_nil isSeparator cs)
      | cons first others =>
        rw [hfields] at h
        obtain ⟨hfirst, hothers⟩ : octetOfGroup? first = some b ∧ others.mapM octetOfGroup? = some bs := by
          simpa [List.mapM_cons, Option.bind_eq_some_iff] using h
        obtain ⟨high, low, rfl, hb⟩ := octetOfGroup?_eq_some_iff.1 hfirst
        rcases Text.eq_or_exists_of_fields_eq_cons hfields with
          ⟨rfl, rfl⟩ | ⟨sep, rest, rfl, hsep, rfl⟩
        · obtain rfl : bs = [] := by simpa [eq_comm] using hothers
          exact .single hb
        · exact .more hb (isSeparator_iff.1 hsep) (ih hothers)
  · intro h
    induction h with
    | single hb =>
      have hgroup := octetOfGroup?_eq_some_iff.2 ⟨_, _, rfl, hb⟩
      simp [Text.fields, isSeparator_of_isHex hb.isHex.1, isSeparator_of_isHex hb.isHex.2, hgroup]
    | more hb hsep _ ih =>
      have hgroup := octetOfGroup?_eq_some_iff.2 ⟨_, _, rfl, hb⟩
      rw [fields_group_append hb (isSeparator_iff.2 hsep), List.mapM_cons, hgroup, ih]
      rfl

/-- Six octets make an address. -/
lemma ofOctets?_eq_some_iff {bs : List UInt8} {address : MacAddress} :
    ofOctets? bs = some address ↔ address.octets.toList = bs := by
  unfold ofOctets?
  split
  · next h =>
    rw [Option.some.injEq]
    constructor
    · rintro rfl
      rfl
    · rintro rfl
      rfl
  · next h =>
    refine ⟨fun hnone => by simp at hnone, ?_⟩
    rintro rfl
    exact absurd (by simp) h

/-- **The texts without outer blanks that are read** are the groups of six octets. -/
theorem ofText?_eq_some_iff {cs : List Char} {address : MacAddress} :
    ofText? cs = some address ↔ Spells address.octets.toList cs := by
  simp only [ofText?, Option.bind_eq_bind, Option.bind_eq_some_iff, mapM_octetOfGroup?_fields_iff,
    ofOctets?_eq_some_iff]
  exact ⟨fun ⟨_, h, heq⟩ => heq ▸ h, fun h => ⟨_, h, rfl⟩⟩

namespace Spells

variable {bs : List UInt8} {cs : List Char}

/-- There is always a group. -/
lemma ne_nil (h : Spells bs cs) : cs ≠ [] := by
  cases h <;> simp

/-- Groups start and end with a digit. -/
lemma isBlank_ends (h : Spells bs cs) :
    (∀ c ∈ cs.head?, Text.isBlank c = false) ∧ ∀ c ∈ cs.getLast?, Text.isBlank c = false := by
  induction h with
  | single hb => simp [isBlank_of_isHex hb.isHex.1, isBlank_of_isHex hb.isHex.2]
  | more hb hsep hrest ih =>
    refine ⟨by simp [isBlank_of_isHex hb.isHex.1], fun c hc => ih.2 c ?_⟩
    simpa [List.getLast?_cons, List.getLast?_eq_some_getLast hrest.ne_nil] using hc

end Spells

/-- The blanks around groups are what is trimmed. -/
lemma trim_eq_of_writes {s : String} {body : List Char} {address : MacAddress}
    (h : Writes s body address) : Text.trim s.toList = body := by
  obtain ⟨front, back, hs, hfront, hback⟩ := h.exists_blanks
  obtain ⟨hhead, hlast⟩ := h.spells.isBlank_ends
  exact Text.trim_eq_iff.2 ⟨front, back, hs, hfront, hback, hhead, hlast⟩

/-- **The texts that are read** are those that an address is written as. -/
theorem read_eq_ok_iff {s : String} {address : MacAddress} :
    read s = .ok address ↔ ∃ body, Writes s body address := by
  have hread : read s = .ok address ↔ ofText? (Text.trim s.toList) = some address := by
    unfold read
    split
    · next other hother => simp [hother]
    · next hnone => simp [hnone]
  rw [hread, ofText?_eq_some_iff]
  constructor
  · intro h
    obtain ⟨front, back, hs, hfront, hback, -⟩ := Text.trim_eq_iff.1 (rfl : Text.trim s.toList = _)
    exact ⟨_, ⟨front, back, hs, hfront, hback⟩, h⟩
  · rintro ⟨body, h⟩
    rw [trim_eq_of_writes h]
    exact h.spells

/-- The texts that are not read are those that no address is written as. -/
lemma read_eq_error_iff {s : String} {fault : Fault} :
    read s = .error fault ↔ fault = .badAddress s ∧ ∀ body address, ¬ Writes s body address := by
  have hread : (∃ address, read s = .ok address) ↔ ∃ body address, Writes s body address := by
    simp only [read_eq_ok_iff]
    exact exists_comm
  constructor
  · intro h
    refine ⟨?_, fun body address hw => ?_⟩
    · unfold read at h
      split at h
      · simp at h
      · exact (Except.error.inj h).symm
    · obtain ⟨address, hok⟩ := hread.2 ⟨body, address, hw⟩
      simp [hok] at h
  · rintro ⟨rfl, hnone⟩
    unfold read
    split
    · next address hsome =>
      have hok : read s = .ok address := by simp [read, hsome]
      obtain ⟨body, hw⟩ := read_eq_ok_iff.1 hok
      exact absurd hw (hnone body address)
    · rfl

/-! ### The printed form -/

/-- A character of groups in the form that addresses are printed in: colons and lower-case digits. -/
def plain (c : Char) : Char := if c = ':' ∨ c = '-' then ':' else c.toLower

/-- The digits of a text, in lower case. -/
def digits (s : String) : List Char := (s.toList.filter Text.isHex).map Char.toLower

/-- The characters of the printed form. -/
lemma toList_display (address : MacAddress) :
    address.display.toList = [':'].intercalate (address.octets.toList.map Text.hexOctet) := by
  rw [display, String.toList_intercalate, List.map_map]
  simp [Function.comp_def]

section Group

variable {high low : Char} {b : UInt8}

/-- A digit in the printed form is in lower case. -/
lemma plain_of_isHex {c : Char} (h : Text.isHex c = true) : plain c = c.toLower := by
  rw [plain, if_neg]
  rw [← isSeparator_iff, isSeparator_of_isHex h]
  simp

/-- A group is printed with the same digits in lower case. -/
lemma IsGroup.hexOctet_eq (h : IsGroup high low b) : Text.hexOctet b = [high.toLower, low.toLower] := by
  obtain ⟨h, l, hhigh, hlow, hb⟩ := h
  have hl := hlow.1
  have hquotient : b.toNat / 16 = h := by omega
  have hremainder : b.toNat % 16 = l := by omega
  rw [Text.hexOctet, hquotient, hremainder, Text.lowerDigit_eq_digitChar hhigh.1,
    Text.lowerDigit_eq_digitChar hl, hhigh.2, hlow.2]

/-- The two digits that an octet is printed with are a group. -/
lemma isGroup_hexOctet (b : UInt8) :
    IsGroup (Text.lowerDigit (b.toNat / 16)) (Text.lowerDigit (b.toNat % 16)) b :=
  Text.octetOfDigits?_eq_some_iff.1 (Text.octetOfDigits?_lowerDigit b)

end Group

namespace Spells

variable {bs : List UInt8} {cs : List Char}

/-- There is always an octet. -/
lemma octets_ne_nil (h : Spells bs cs) : bs ≠ [] := by
  cases h <;> simp

/-- The printed form has a colon for each separator and the same digits in lower case. -/
lemma map_plain (h : Spells bs cs) : cs.map plain = [':'].intercalate (bs.map Text.hexOctet) := by
  induction h with
  | single hb => simp [plain_of_isHex hb.isHex.1, plain_of_isHex hb.isHex.2, hb.hexOctet_eq]
  | more hb hsep hrest ih =>
    obtain ⟨b', bs', rfl⟩ := List.exists_cons_of_ne_nil hrest.octets_ne_nil
    have hcolon : plain _ = ':' := if_pos hsep
    rw [List.map_cons, List.map_cons, List.map_cons, ih, plain_of_isHex hb.isHex.1,
      plain_of_isHex hb.isHex.2, hcolon]
    simp [List.intercalate_cons_cons, hb.hexOctet_eq]

/-- The digits of groups, in lower case, are those that the octets are printed with. -/
lemma map_toLower_filter (h : Spells bs cs) :
    (cs.filter Text.isHex).map Char.toLower = bs.flatMap Text.hexOctet := by
  induction h with
  | single hb => simp [hb.isHex, hb.hexOctet_eq]
  | @more _ _ sep _ _ _ hb hsep _ ih =>
    have hnot : Text.isHex sep = false := by
      rcases hsep with rfl | rfl
      · decide
      · decide
    simp [hb.isHex, hnot, hb.hexOctet_eq, ih]

end Spells

/-- Octets with colons between them are groups. -/
lemma spells_intercalate {bs : List UInt8} (h : bs ≠ []) :
    Spells bs ([':'].intercalate (bs.map Text.hexOctet)) := by
  induction bs with
  | nil => exact absurd rfl h
  | cons b bs ih =>
    cases bs with
    | nil => exact .single (isGroup_hexOctet b)
    | cons b' bs =>
      rw [List.map_cons, List.map_cons, List.intercalate_cons_cons]
      exact .more (isGroup_hexOctet b) (.inl rfl) (ih (by simp))

/-- **The printed form of an address is a text that it is written as.** -/
theorem writes_display (address : MacAddress) : Writes address.display address.display.toList address := by
  refine ⟨⟨[], [], by simp, by simp, by simp⟩, ?_⟩
  rw [toList_display]
  exact spells_intercalate fun hnil => by simpa [hnil] using address.octets.length_toList

/-- The digits of a text that an address is written as are those of its octets. -/
lemma Writes.digits_eq {s : String} {body : List Char} {address : MacAddress} (h : Writes s body address) :
    digits s = address.octets.toList.flatMap Text.hexOctet := by
  have hnone : ∀ blanks : List Char, (∀ c ∈ blanks, Text.isBlank c = true) →
      blanks.filter Text.isHex = [] := by
    refine fun blanks hblanks => List.filter_eq_nil_iff.2 fun c hc hhex => ?_
    exact absurd (hblanks c hc) (by simp [isBlank_of_isHex hhex])
  obtain ⟨front, back, hs, hfront, hback⟩ := h.exists_blanks
  rw [digits, hs, List.filter_append, List.filter_append, hnone front hfront, hnone back hback,
    List.nil_append, List.append_nil, h.spells.map_toLower_filter]

/-- Addresses with the same digits are the same. -/
lemma eq_of_flatMap_hexOctet_eq {a b : MacAddress}
    (h : a.octets.toList.flatMap Text.hexOctet = b.octets.toList.flatMap Text.hexOctet) : a = b := by
  have hoctets := congrArg Text.octetsOfHex? h
  rw [Text.octetsOfHex?_flatMap_hexOctet, Text.octetsOfHex?_flatMap_hexOctet] at hoctets
  obtain ⟨octets⟩ := a
  obtain ⟨octets'⟩ := b
  exact congrArg MacAddress.mk (Vector.toList_inj.1 (Option.some.inj hoctets))

/-! ### All of it -/

/-- **The texts that are read are exactly those that are written for an address**: six groups of two
hexadecimal digits in either case, with a colon or a hyphen between each two of them and any blanks around
the whole. Each octet has the value of its group. Any other text is refused with the text as it was given.
The printed form of an address is read as this address; it has the groups of every text that is read as
it, with lower-case digits and colons. So two texts are read as the same address exactly if they have the
same digits up to case. -/
theorem reads_exactly_written :
    (∀ s address, read s = .ok address ↔ ∃ body, Writes s body address) ∧
    (∀ s fault, read s = .error fault ↔ fault = .badAddress s ∧ ∀ body address, ¬ Writes s body address) ∧
    (∀ address : MacAddress, read address.display = .ok address) ∧
    (∀ s body address, Writes s body address → address.display.toList = body.map plain) ∧
    ∀ s t a b, read s = .ok a → read t = .ok b → (a = b ↔ digits s = digits t) := by
  refine ⟨fun s address => read_eq_ok_iff, fun s fault => read_eq_error_iff, fun address => ?_,
    fun s body address h => ?_, fun s t a b hs ht => ?_⟩
  · exact read_eq_ok_iff.2 ⟨_, address.writes_display⟩
  · rw [toList_display, h.spells.map_plain]
  · obtain ⟨_, hwrites⟩ := read_eq_ok_iff.1 hs
    obtain ⟨_, hwrites'⟩ := read_eq_ok_iff.1 ht
    rw [hwrites.digits_eq, hwrites'.digits_eq]
    exact ⟨fun h => by rw [h], eq_of_flatMap_hexOctet_eq⟩

/-- Two texts for one address: with both separators, both cases and blanks of two kinds around it, and
with colons and the other case of every letter. -/
theorem reads_exactly_written_mixed :
    let mixed := " 5a-0B:ff-00:1C-9d\u3000"
    let body := ['5', 'a', '-', '0', 'B', ':', 'f', 'f', '-', '0', '0', ':', '1', 'C', '-', '9', 'd']
    let swapped := "5A:0b:FF:00:1c:9D"
    let address : MacAddress := ⟨#v[0x5A, 0x0B, 0xFF, 0x00, 0x1C, 0x9D]⟩
    (Writes mixed body address ∧ read swapped = .ok address) ∧
    read mixed = .ok address ∧ address.display.toList = body.map plain ∧ digits mixed = digits swapped := by
  intro mixed body swapped address
  have hwrites : Writes mixed body address :=
    ⟨⟨[' '], ['\u3000'], by decide, List.forall_mem_singleton.2 (by decide),
      List.forall_mem_singleton.2 (by decide)⟩, ofText?_eq_some_iff.1 (by decide +kernel)⟩
  have hswapped : read swapped = .ok address := by decide +kernel
  obtain ⟨hok, -, -, hdisplay, hsame⟩ := reads_exactly_written
  have hmixed : read mixed = .ok address := (hok mixed address).2 ⟨body, hwrites⟩
  exact ⟨⟨hwrites, hswapped⟩, hmixed, hdisplay mixed body address hwrites,
    (hsame mixed swapped address address hmixed hswapped).1 rfl⟩

end Workbench.MacAddress
