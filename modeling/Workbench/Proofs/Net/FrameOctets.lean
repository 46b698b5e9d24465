import Mathlib.Data.Set.Function
import Mathlib.Tactic.Lemma
import Workbench.Net.Frame

set_option relaxedAutoImplicit false
set_option autoImplicit false

/-!
# Frames and their octets

The octets of a frame determine it, and every list of octets that is long enough for a header is the
list of octets of a frame. The reader of frames takes them apart by their shape. Reading by places,
where each field is cut out of the octets between two positions, gives the same, and none of these
positions is ever outside of the octets.

## Main definitions

* `Workbench.Frame.section?` — the octets between two places.
* `Workbench.Frame.ofPlaces?` — reading by places.

## Main results

* `Workbench.Frame.ofOctets_toOctets` — a frame is read back from its octets.
* `Workbench.Frame.exists_ofOctets` — octets that are enough for a header are those of a frame.
* `Workbench.Frame.octets_correspond` — frames correspond to the lists of at least fourteen octets.
-/

namespace Workbench

/-- An address is given by its six octets. -/
lemma MacAddress.exists_eq (address : MacAddress) :
    ∃ b₀ b₁ b₂ b₃ b₄ b₅, address = ⟨#v[b₀, b₁, b₂, b₃, b₄, b₅]⟩ := by
  obtain ⟨⟨⟨octets⟩, hsize⟩⟩ := address
  match octets, hsize with
  | [b₀, b₁, b₂, b₃, b₄, b₅], _ => exact ⟨b₀, b₁, b₂, b₃, b₄, b₅, rfl⟩

namespace Frame

/-! ### The type -/

/-- The two octets of a type give it back. -/
lemma ofNat_ethertypeOctets (ethertype : UInt16) :
    UInt16.ofNat (256 * (UInt8.ofNat (ethertype.toNat / 256)).toNat
      + (UInt8.ofNat (ethertype.toNat % 256)).toNat) = ethertype := by
  have hlt := ethertype.toNat_lt
  apply UInt16.toNat_inj.1
  simp only [UInt8.toNat_ofNat', UInt16.toNat_ofNat']
  omega

/-- Two octets are those of the type that they give. -/
lemma ethertypeOctets_ofNat (high low : UInt8) :
    ethertypeOctets (UInt16.ofNat (256 * high.toNat + low.toNat)) = [high, low] := by
  have hhigh := high.toNat_lt
  have hlow := low.toNat_lt
  have hvalue : (UInt16.ofNat (256 * high.toNat + low.toNat)).toNat =
      256 * high.toNat + low.toNat := by
    rw [UInt16.toNat_ofNat']
    omega
  have hdiv : (256 * high.toNat + low.toNat) / 256 = high.toNat := by omega
  have hmod : (256 * high.toNat + low.toNat) % 256 = low.toNat := by omega
  rw [ethertypeOctets, hvalue, hdiv, hmod, UInt8.ofNat_toNat, UInt8.ofNat_toNat]

/-! ### Both ways -/

/-- **A frame is read back from its octets.** -/
theorem ofOctets_toOctets (frame : Frame) : ofOctets frame.toOctets = .ok frame := by
  obtain ⟨destination, source, ethertype, payload⟩ := frame
  obtain ⟨d₀, d₁, d₂, d₃, d₄, d₅, rfl⟩ := destination.exists_eq
  obtain ⟨s₀, s₁, s₂, s₃, s₄, s₅, rfl⟩ := source.exists_eq
  exact congrArg (fun value => Except.ok (Frame.mk _ _ value payload))
    (ofNat_ethertypeOctets ethertype)

/-- **Octets that are enough for a header are those of a frame.** -/
theorem exists_ofOctets {bs : List UInt8} (h : headerLength ≤ bs.length) :
    ∃ frame, ofOctets bs = .ok frame ∧ frame.toOctets = bs := by
  match bs, h with
  | d₀ :: d₁ :: d₂ :: d₃ :: d₄ :: d₅ :: s₀ :: s₁ :: s₂ :: s₃ :: s₄ :: s₅ :: high :: low :: payload, _ =>
    refine ⟨_, rfl, ?_⟩
    rw [toOctets, ethertypeOctets_ofNat]
    rfl

/-- A frame has at least the octets of its header. -/
lemma headerLength_le_length_toOctets (frame : Frame) : headerLength ≤ frame.toOctets.length := by
  simp only [toOctets, ethertypeOctets, headerLength, List.length_append, Vector.length_toList,
    List.length_cons, List.length_nil]
  omega

/-- Octets that are too few for a header are not read. -/
lemma ofOctets_of_length_lt {bs : List UInt8} (h : bs.length < headerLength) :
    ofOctets bs = .error (tooShort bs.length) := by
  unfold ofOctets
  split
  · simp only [List.length_cons, headerLength] at h
    omega
  · rfl

/-- The octets that are not read, and the fault that they give. -/
lemma ofOctets_eq_error_iff {bs : List UInt8} {fault : Fault} :
    ofOctets bs = .error fault ↔ bs.length < headerLength ∧ fault = tooShort bs.length := by
  rcases Nat.lt_or_ge bs.length headerLength with h | h
  · rw [ofOctets_of_length_lt h]
    simp [h, eq_comm]
  · obtain ⟨frame, hframe, -⟩ := exists_ofOctets h
    simp [hframe, h]

/-! ### Reading by places -/

/-- The octets from one place up to another, if both are inside. -/
def section? (bs : List UInt8) (first last : Nat) : Option (List UInt8) :=
  if first ≤ last ∧ last ≤ bs.length then some ((bs.drop first).take (last - first)) else none

/-- Reading a frame by the places of its fields. Each address takes a section of exactly six octets.
Without a value some place is outside of the octets, or a section does not fit its field. -/
def ofPlaces? (bs : List UInt8) : Option (Except Fault Frame) :=
  if bs.length < headerLength then some (.error (tooShort bs.length))
  else do
    let destination ← (section? bs 0 6).bind MacAddress.ofOctets?
    let source ← (section? bs 6 12).bind MacAddress.ofOctets?
    let high ← bs[12]?
    let low ← bs[13]?
    let payload ← section? bs headerLength bs.length
    some (.ok
      { destination
        source
        ethertype := UInt16.ofNat (256 * high.toNat + low.toNat)
        payload })

/-- **Reading by places never leaves the octets**, and gives what reading by shape gives. -/
theorem ofPlaces?_eq (bs : List UInt8) : ofPlaces? bs = some (ofOctets bs) := by
  rcases Nat.lt_or_ge bs.length headerLength with h | h
  · rw [ofPlaces?, if_pos h, ofOctets_of_length_lt h]
  · rw [ofPlaces?, if_neg (Nat.not_lt.2 h)]
    match bs, h with
    | d₀ :: d₁ :: d₂ :: d₃ :: d₄ :: d₅ :: s₀ :: s₁ :: s₂ :: s₃ :: s₄ :: s₅ :: high :: low :: payload,
      _ => simp [section?, headerLength, MacAddress.ofOctets?, ofOctets]

/-! ### The correspondence -/

/-- **Frames correspond to the lists of at least fourteen octets.** A frame is read back from its
octets. A list of octets is long enough for a header exactly if it is read as a frame, and then it is
the list of octets of that frame; the other lists, and no others, are refused with the fault that tells
their length. So taking octets is a bijection. Reading by places gives the same as well: no place is
outside of the octets, and every section fits its field.

**Proof sketch.** The first two parts are `ofOctets_toOctets` and `exists_ofOctets`, which also make
up the bijection; the third is `ofOctets_eq_error_iff`, the last `ofPlaces?_eq`. -/
theorem octets_correspond :
    (∀ frame : Frame, ofOctets frame.toOctets = .ok frame) ∧
    (∀ bs, headerLength ≤ bs.length ↔ ∃ frame, ofOctets bs = .ok frame ∧ frame.toOctets = bs) ∧
    (∀ bs fault, ofOctets bs = .error fault ↔
      bs.length < headerLength ∧ fault = tooShort bs.length) ∧
    Set.BijOn toOctets Set.univ {bs | headerLength ≤ bs.length} ∧
    ∀ bs, ofPlaces? bs = some (ofOctets bs) := by
  refine ⟨ofOctets_toOctets, fun bs => ⟨exists_ofOctets, ?_⟩, fun bs fault => ofOctets_eq_error_iff,
    ⟨fun frame _ => headerLength_le_length_toOctets frame, ?_, ?_⟩, ofPlaces?_eq⟩
  · rintro ⟨frame, -, rfl⟩
    exact headerLength_le_length_toOctets frame
  · intro a _ b _ h
    have hread := congrArg ofOctets h
    rw [ofOctets_toOctets, ofOctets_toOctets] at hread
    exact Except.ok.inj hread
  · intro bs h
    obtain ⟨frame, -, hframe⟩ := exists_ofOctets h
    exact ⟨frame, Set.mem_univ frame, hframe⟩

end Frame

end Workbench
