import Workbench.Proofs.Disk.Locations
import Workbench.Proofs.Environment.References

set_option relaxedAutoImplicit false
set_option autoImplicit false

/-!
# Substitution in one pass

A text is cut at its leftmost references: behind the first one that can be read from left to right it is
cut again, without a look back. There is one way to cut a text like that, and the environment has no part
in it. What is made of a text by an environment is the same pieces with other text in place of the
references, so that no value is ever looked at again.

An environment of the system may hold values that are no text. A name with such a value keeps its
reference, as one without a value does.

## Main definitions

* `Workbench.Environment.BeginsReference` — texts with a reference at their start.
* `Workbench.Environment.Cuts` — a text cut at its leftmost references.
* `Workbench.Environment.join` — the pieces of a text with other text in place of its references.
* `Workbench.SystemEnvironment` — environments with values of any octets.

## Main results

* `Workbench.Environment.Cuts.unique` — a text is cut in one way.
* `Workbench.Environment.exists_cuts` — every text is cut, and the replacement follows the cut.
* `Workbench.SystemEnvironment.get?_ofTexts` — environments of texts are environments of the system.
* `Workbench.SystemEnvironment.substitute_isOnePass` — all of this for the values of an environment.
-/

namespace Workbench

namespace Environment

/-! ### Cutting a text -/

/-- A text begins with a reference: a name that is not empty and holds no closing brace, in braces behind
a dollar sign. -/
def BeginsReference (cs : List Char) : Prop :=
  ∃ name after, name ≠ [] ∧ '\x7d' ∉ name ∧ cs = reference name ++ after

/-- A text is cut at its leftmost references: the pieces, each of them what stands in front of a reference
with the name of that reference, and what is left behind the last one. -/
inductive Cuts : List Char → List (List Char × List Char) → List Char → Prop where
  | last {cs : List Char} (hnone : ∀ back, back <:+ cs → ¬ BeginsReference back) : Cuts cs [] cs
  | piece {gap name after : List Char} {pieces : List (List Char × List Char)} {rest : List Char}
      (hname : name ≠ []) (hclosed : '\x7d' ∉ name)
      (hfirst : ∀ back, back <:+ gap → back ≠ [] → ¬ BeginsReference (back ++ (reference name ++ after)))
      (h : Cuts after pieces rest) :
      Cuts (gap ++ (reference name ++ after)) ((gap, name) :: pieces) rest

/-- The pieces of a text one after the other, with other text in place of the references. -/
def join (insert : List Char → List Char) (pieces : List (List Char × List Char)) (rest : List Char) :
    List Char :=
  pieces.flatMap (fun (gap, name) => gap ++ insert name) ++ rest

/-- A reference begins with a dollar sign and a brace. -/
lemma not_beginsReference_cons {c : Char} {rest : List Char}
    (h : ∀ more, c = '$' → rest ≠ '\x7b' :: more) : ¬ BeginsReference (c :: rest) := by
  rintro ⟨name, after, -, -, heq⟩
  obtain ⟨hc, hrest⟩ := List.cons.inj heq
  exact h _ hc hrest

/-- A reference is closed. -/
lemma BeginsReference.mem_close {cs : List Char} (h : BeginsReference cs) : '\x7d' ∈ cs := by
  obtain ⟨name, after, -, -, rfl⟩ := h
  simp [reference]

/-- A reference has a name. -/
lemma not_beginsReference_of_nameless {rest : List Char} (h : rest.takeWhile staysOpen = []) :
    ¬ BeginsReference ('$' :: '\x7b' :: rest) := by
  rintro ⟨name, after, hne, hclosed, heq⟩
  have hrest : rest = name ++ '\x7d' :: after := by simpa [reference] using heq
  rw [hrest, (cut_of_notMem hclosed after).1] at h
  exact hne h

section Cutting

variable {cs rest : List Char} {pieces : List (List Char × List Char)}

/-- The pieces of a text make it up. -/
lemma Cuts.join_reference (h : Cuts cs pieces rest) : join reference pieces rest = cs := by
  induction h with
  | last => rfl
  | piece _ _ _ _ ih => simpa [join, List.append_assoc] using ih

/-- Two references at one place are the same. -/
lemma eq_of_reference_append_eq {name name' after after' : List Char} (h : '\x7d' ∉ name)
    (h' : '\x7d' ∉ name') (heq : reference name ++ after = reference name' ++ after') :
    name = name' ∧ after = after' := by
  have hnames : name ++ '\x7d' :: after = name' ++ '\x7d' :: after' := by simpa [reference] using heq
  obtain ⟨htake, hdrop⟩ := cut_of_notMem h after
  obtain ⟨htake', hdrop'⟩ := cut_of_notMem h' after'
  rw [hnames] at htake hdrop
  exact ⟨htake.symm.trans htake', (List.cons.inj (hdrop.symm.trans hdrop')).2⟩

/-- **A text is cut in one way.**

**Proof sketch.** Induction on one of the cuts. If the first reference of the other one stood further
left, it would begin inside of the first piece; if it stood further right, it would have the first
reference of this cut inside of its own first piece. -/
theorem Cuts.unique (h : Cuts cs pieces rest) {pieces' : List (List Char × List Char)}
    {rest' : List Char} (h' : Cuts cs pieces' rest') : pieces = pieces' ∧ rest = rest' := by
  induction h generalizing pieces' rest' with
  | @last cs hnone =>
    cases h' with
    | last => exact ⟨rfl, rfl⟩
    | piece hname hclosed _ _ =>
      exact absurd ⟨_, _, hname, hclosed, rfl⟩ (hnone _ (List.suffix_append _ _))
  | @piece gap name after pieces rest hname hclosed hfirst _ ih =>
    generalize hcs : gap ++ (reference name ++ after) = cs at h'
    cases h' with
    | last hnone =>
      exact absurd ⟨_, _, hname, hclosed, rfl⟩ (hnone _ ⟨gap, hcs⟩)
    | @piece gap' name' after' pieces' rest' hname' hclosed' hfirst' h' =>
      have hgap : gap = gap' := by
        rcases List.append_eq_append_iff.1 hcs with ⟨more, rfl, hmore⟩ | ⟨more, rfl, hmore⟩
        · by_contra hne
          refine hfirst' more (List.suffix_append _ _) (fun hnil => hne (by simp [hnil])) ?_
          exact ⟨name, after, hname, hclosed, hmore.symm⟩
        · by_contra hne
          refine hfirst more (List.suffix_append _ _) (fun hnil => hne (by simp [hnil])) ?_
          exact ⟨name', after', hname', hclosed', hmore.symm⟩
      subst hgap
      obtain ⟨rfl, rfl⟩ := eq_of_reference_append_eq hclosed hclosed' (List.append_cancel_left hcs)
      obtain ⟨rfl, rfl⟩ := ih h'
      exact ⟨rfl, rfl⟩

/-- One more character in front of a text that begins no reference. -/
lemma Cuts.exists_cons (h : Cuts cs pieces rest) {c : Char} (hnot : ¬ BeginsReference (c :: cs)) :
    ∃ pieces' rest', Cuts (c :: cs) pieces' rest' ∧
      ∀ insert, join insert pieces' rest' = c :: join insert pieces rest := by
  cases h with
  | last hnone =>
    refine ⟨[], c :: cs, .last fun back hback => ?_, fun _ => rfl⟩
    rcases List.suffix_cons_iff.1 hback with rfl | hback
    · exact hnot
    · exact hnone back hback
  | @piece gap name after pieces rest hname hclosed hfirst h =>
    refine ⟨(c :: gap, name) :: pieces, rest, ?_, fun _ => rfl⟩
    rw [← List.cons_append]
    refine .piece hname hclosed (fun back hback hne => ?_) h
    rcases List.suffix_cons_iff.1 hback with rfl | hback
    · exact hnot
    · exact hfirst back hback hne

end Cutting

/-- **Every text is cut, and the replacement of references follows the cut.**

**Proof sketch.** Induction along the references. What begins no reference is put in front of the first
piece, and a reference is a piece of its own with nothing in front of it. -/
theorem exists_cuts (cs : List Char) :
    ∃ pieces rest, Cuts cs pieces rest ∧
      ∀ insert, replaceReferences insert cs = join insert pieces rest := by
  fun_induction references cs with
  | case1 =>
    refine ⟨[], [], .last fun back hback hbegins => ?_, fun insert => by simp [replaceReferences, join]⟩
    simpa [List.suffix_nil.1 hback] using hbegins.mem_close
  | case2 rest hnone =>
    refine ⟨[], _, .last fun back hback hbegins => ?_,
      fun insert => replaceReferences_of_unclosed insert hnone⟩
    have hmem : '\x7d' ∈ rest := by simpa using hback.subset hbegins.mem_close
    exact absurd (List.dropWhile_eq_nil_iff.1 hnone _ hmem) (by decide)
  | case3 rest c after hdrop hnameless ih =>
    obtain ⟨pieces, last, hcuts, hjoin⟩ := ih
    have hbrace : ¬ BeginsReference ('\x7b' :: rest) :=
      not_beginsReference_cons fun _ hc => absurd hc (by decide)
    obtain ⟨pieces', last', hcuts', hjoin'⟩ := hcuts.exists_cons hbrace
    obtain ⟨pieces'', last'', hcuts'', hjoin''⟩ :=
      hcuts'.exists_cons (not_beginsReference_of_nameless hnameless)
    refine ⟨pieces'', last'', hcuts'', fun insert => ?_⟩
    rw [replaceReferences_of_nameless insert hnameless (by simp [hdrop]), hjoin'', hjoin', hjoin]
  | case4 rest c after hdrop hne _ ih =>
    obtain ⟨pieces, last, hcuts, hjoin⟩ := ih
    obtain ⟨hclosed, hshape⟩ := eq_reference_append hdrop
    refine ⟨([], rest.takeWhile staysOpen) :: pieces, last, ?_, fun insert => ?_⟩
    · rw [hshape]
      exact .piece hne hclosed (fun back hback hback' => absurd (List.suffix_nil.1 hback) hback') hcuts
    · rw [hshape, replaceReferences_reference insert hne hclosed, hjoin insert]
      simp [join]
  | case5 c rest hnot ih =>
    obtain ⟨pieces, last, hcuts, hjoin⟩ := ih
    obtain ⟨pieces', last', hcuts', hjoin'⟩ := hcuts.exists_cons (not_beginsReference_cons hnot)
    refine ⟨pieces', last', hcuts', fun insert => ?_⟩
    rw [replaceReferences_cons_of_not insert hnot, hjoin', hjoin]

end Environment

/-! ### Values of octets -/

/-- An environment as the system keeps it: entries of the form `NAME=value`, of octets that need not be a
text. -/
structure SystemEnvironment where
  entries : List (List UInt8)

namespace SystemEnvironment

/-- The octets of a name: what follows it and its equals sign in the first entry that starts so. -/
def octets? (environment : SystemEnvironment) (name : String) : Option (List UInt8) :=
  environment.entries.findSome? (Environment.after? (name ++ "=").toUTF8.toList)

/-- The value of a name: its octets, if there are any and they are a text. -/
def get? (environment : SystemEnvironment) (name : String) : Option String :=
  (environment.octets? name).bind fun bs => String.fromUTF8? bs.toByteArray

/-- What stands for a name in a text: its value, or the reference itself. -/
def insertion (environment : SystemEnvironment) (name : List Char) : List Char :=
  match environment.get? (String.ofList name) with
  | some value => value.toList
  | none => Environment.reference name

/-- A text with its references replaced by the values of their names. -/
def substitute (environment : SystemEnvironment) (cs : List Char) : List Char :=
  Environment.replaceReferences environment.insertion cs

/-- The environment of the system with entries that are texts. -/
def ofTexts (environment : Environment) : SystemEnvironment :=
  { entries := environment.entries.map fun entry => entry.toUTF8.toList }

/-- The octets of a text are read as that text, and no others are. -/
lemma fromUTF8?_eq_some_iff {bs : List UInt8} {text : String} :
    String.fromUTF8? bs.toByteArray = some text ↔ bs = text.toUTF8.toList := by
  have h := @Disk.textOf?_eq_some_iff (.octets bs) text
  rwa [Disk.octetsOf, Content.octets.injEq] at h

/-- The octets of two texts, one after the other. -/
lemma toUTF8_append (a b : String) : (a ++ b).toUTF8.toList = a.toUTF8.toList ++ b.toUTF8.toList := by
  rw [Disk.toList_eq, Disk.toList_eq, Disk.toList_eq, String.toUTF8, String.toByteArray_append,
    ByteArray.toList_data_append]
  rfl

/-- A text begins with another one if its octets do. -/
lemma prefix_of_toUTF8 {front entry : String} (h : front.toUTF8.toList <+: entry.toUTF8.toList) :
    front.toList <+: entry.toList := by
  obtain ⟨back, hback⟩ := h
  refine List.isPrefix_of_utf8Encode_append_eq_utf8Encode back.toByteArray ?_
  rw [String.utf8Encode_toList, String.utf8Encode_toList, ByteArray.ext_iff, ← Array.toList_inj,
    ByteArray.toList_data_append, List.data_toByteArray]
  rw [Disk.toList_eq, Disk.toList_eq] at hback
  exact hback

/-- What follows a text in front of another one, told by octets and told by characters. -/
lemma after?_toUTF8 (front entry : String) :
    Environment.after? front.toUTF8.toList entry.toUTF8.toList =
      (Environment.after? front.toList entry.toList).map fun back =>
        (String.ofList back).toUTF8.toList := by
  by_cases h : front.toList <+: entry.toList
  · obtain ⟨back, hback⟩ := h
    obtain rfl : front ++ String.ofList back = entry := by
      rw [← String.toList_inj, String.toList_append, String.toList_ofList, hback]
    rw [toUTF8_append, String.toList_append, String.toList_ofList, Environment.after?_append,
      Environment.after?_append]
    rfl
  · rw [Environment.after?_eq_none_iff.2 h, Environment.after?_eq_none_iff.2 fun hoctets =>
      h (prefix_of_toUTF8 hoctets)]
    rfl

/-- **Environments of texts are environments of the system**, with the same values. -/
theorem get?_ofTexts (environment : Environment) (name : String) :
    (ofTexts environment).get? name = environment.get? name := by
  have hname : (name ++ "=").toList = name.toList ++ ['='] := String.toList_append
  rw [get?, octets?, Environment.get?, ofTexts, ← hname]
  induction environment.entries with
  | nil => rfl
  | cons entry entries ih =>
    rw [List.map_cons, List.findSome?_cons, List.findSome?_cons, after?_toUTF8]
    cases Environment.after? (name ++ "=").toList entry.toList with
    | none => exact ih
    | some back => exact fromUTF8?_eq_some_iff.2 rfl

/-- Environments of texts make the same of a text as environments of the system. -/
lemma substitute_ofTexts (environment : Environment) (cs : List Char) :
    (ofTexts environment).substitute cs = environment.substitute cs :=
  Environment.replaceReferences_congr fun name _ => by
    cases hvalue : environment.get? (String.ofList name) <;>
      simp [insertion, Environment.insertion, get?_ofTexts, hvalue]

/-- What stands for names without a value. -/
lemma join_insertion_of_unset {environment : SystemEnvironment}
    {pieces : List (List Char × List Char)} {rest : List Char}
    (h : ∀ piece ∈ pieces, environment.get? (String.ofList piece.2) = none) :
    Environment.join environment.insertion pieces rest =
      Environment.join Environment.reference pieces rest := by
  refine congrArg (· ++ rest) (List.flatMap_congr fun ⟨gap, name⟩ hpiece => ?_)
  dsimp only
  rw [insertion, h (gap, name) hpiece]

/-- **Substitution is one pass from left to right.** There is one way to cut a text at its leftmost
references, whatever the environment is. An environment puts the value of its name in place of each
reference, if the name has a value that is a text, and leaves all else as it is. So a text is left alone
if none of its names has a value, and no value is looked at again. -/
theorem substitute_isOnePass (content : List Char) :
    ∃ pieces rest, Environment.Cuts content pieces rest ∧
      (∀ pieces' rest', Environment.Cuts content pieces' rest' → pieces' = pieces ∧ rest' = rest) ∧
      (∀ environment : SystemEnvironment,
        environment.substitute content = Environment.join environment.insertion pieces rest ∧
        ((∀ piece ∈ pieces, environment.get? (String.ofList piece.2) = none) →
          environment.substitute content = content)) ∧
      ∀ environment : Environment,
        environment.substitute content = (ofTexts environment).substitute content := by
  obtain ⟨pieces, rest, hcuts, hjoin⟩ := Environment.exists_cuts content
  refine ⟨pieces, rest, hcuts, fun _ _ h => h.unique hcuts,
    fun environment => ⟨hjoin environment.insertion, fun hunset => ?_⟩,
    fun environment => (substitute_ofTexts environment content).symm⟩
  calc environment.substitute content
      = Environment.join environment.insertion pieces rest := hjoin environment.insertion
    _ = Environment.join Environment.reference pieces rest := join_insertion_of_unset hunset
    _ = content := hcuts.join_reference

-- A value that makes up a reference with what follows it; names that are empty, that have no value or one
-- that is no text, and that hold a dollar sign and a brace; and a reference that is not closed.
example :
    let environment : SystemEnvironment :=
      { entries := ["a=$", "b=x", "a$\x7bb=$\x7bb\x7d"].map (fun entry => entry.toUTF8.toList) ++
          [[0x63, 0x3D, 0xFF]] }
    let content := "$$\x7ba\x7d\x7bb\x7d$\x7b\x7d$\x7bd\x7d$\x7bc\x7d$\x7ba$\x7bb\x7d$\x7bb"
    environment.substitute content.toList =
      "$$\x7bb\x7d$\x7b\x7d$\x7bd\x7d$\x7bc\x7d$\x7bb\x7d$\x7bb".toList := by
  decide +kernel

end SystemEnvironment

end Workbench
