import Mathlib.Tactic.TFAE
import Workbench.Proofs.Version.Settling
import Workbench.Proofs.Version.WholeRun

set_option relaxedAutoImplicit false
set_option autoImplicit false

/-!
# Applying a version twice

Accepted targets may overlap: several of them may have one path, and the lead of one may start with
the lead of another. This file says for which lists a second run for the same version changes nothing.
It does not always: a later target with a shorter lead takes the line of an earlier one, which then
finds the next line in the second run. Apart from such pairs all overlaps are harmless, in lists of any
length.

## Main definitions

* `Workbench.Target.rule` — the rule by which a target rewrites lines.
* `Workbench.Target.Yields` — how two targets may overlap.
* `Workbench.Idempotent` — lists of targets for which a second run changes nothing.

## Main results

* `Workbench.lines_patchText` — what targets of one path do to the lines of a text.
* `Workbench.idempotent_of_yields` — targets that yield are idempotent.
* `Workbench.not_idempotent_of_not_yields` — two targets that do not yield are not.
* `Workbench.idempotent_tfae` — all choices, all pairs, and overlaps.
-/

namespace Workbench

open Text (Line lines AreLines)

/-! ### Targets as rules -/

namespace Target

/-- The rule of a target for a version. -/
def rule (version : String) (target : Target) : Rule where
  lead := target.lead.toList
  content := (target.line version).toList
  lead_start := target.lead_prefix_line version

/-- How two targets of a list, the earlier one first, may overlap: if the later one can take a line
from the earlier one, it has the same lead, or it writes a quotation mark with which its lead becomes
that of the earlier one. -/
def Yields (a b : Target) : Prop :=
  a.path = b.path → b.lead.toList <+: a.lead.toList →
    a.lead = b.lead ∨ b.style = .quoted ∧ a.lead = b.lead ++ "\""

instance : DecidableRel Yields := fun _ _ => inferInstanceAs (Decidable (_ → _ → _))

/-- Targets that yield have rules that yield, for every version. -/
lemma Yields.yield_rule {a b : Target} (h : a.Yields b) (hpath : a.path = b.path)
    (version : String) : (a.rule version).Yield (b.rule version) := by
  intro hp
  rcases h hpath hp with heq | ⟨hquoted, heq⟩
  · exact .inl (congrArg String.toList heq)
  · have hchars : a.lead.toList = b.lead.toList ++ ['"'] := by simp [heq]
    have hline : (b.line version).toList =
        a.lead.toList ++ (version.toList ++ '"' :: b.tailChars) := by
      rw [toList_line, hquoted, hchars]
      simp [Style.write]
    refine .inr ⟨?_, by simp [rule, hchars]⟩
    exact ⟨_, hline.symm⟩

end Target

/-! ### Runs by path -/

/-- Patching a text rewrites its lines by the rules of the targets. -/
lemma lines_patchText {field version : String} (hv : Check.version field version = .ok ())
    {targets : List Target} (hp : ∀ target ∈ targets, target.TailIsPlain) (text : String) :
    lines (patchText version targets text).toList =
      Rule.rewriteAll (targets.map (Target.rule version)) (lines text.toList) := by
  rw [← Rule.foldl_rewriteFirst, List.foldl_map]
  induction targets generalizing text with
  | nil => rfl
  | cons target targets ih =>
    have hrest := ih (fun t ht => hp t (by simp [ht])) (target.patch version text).1
    rw [List.foldl_cons]
    refine hrest.trans ?_
    rw [target.lines_patch (hp target (by simp)) hv]
    rfl

/-! ### Applying a version twice -/

/-- Applying a version a second time leaves all texts as the first time has left them. -/
def Idempotent (targets : List Target) : Prop :=
  ∀ (version : String) (memory : MemoryStore), Check.version "version" version = .ok () →
    memory.IsFaultFree → memory.Holds targets →
      let once := (applyVersion MemoryStore.store version targets memory).after
      let twice := (applyVersion MemoryStore.store version targets once).after
      ∀ path, twice.texts.get? path = once.texts.get? path

/-- What a second run leaves at a path, by the rules of the targets of the path. -/
lemma get?_again_iff {targets : List Target} {version : String} {memory : MemoryStore}
    (hp : ∀ target ∈ targets, target.TailIsPlain) (hv : Check.version "version" version = .ok ())
    (hf : memory.IsFaultFree) (hh : memory.Holds targets) (path : String) :
    let once := (applyVersion MemoryStore.store version targets memory).after
    let rules := (targetsAt path targets).map (Target.rule version)
    (applyVersion MemoryStore.store version targets once).after.texts.get? path =
        once.texts.get? path ↔
      ∀ text, memory.texts.get? path = some text →
        Rule.rewriteAll rules (Rule.rewriteAll rules (lines text.toList)) =
          Rule.rewriteAll rules (lines text.toList) := by
  intro once rules
  obtain ⟨hfonce, hhonce⟩ := MemoryStore.isFaultFree_applyVersion version hf hh
  have hp' : ∀ target ∈ targetsAt path targets, target.TailIsPlain :=
    fun target hm => hp target (mem_targetsAt_iff.1 hm).1
  rw [MemoryStore.texts_applyVersion hfonce hhonce, MemoryStore.texts_applyVersion hf hh,
    Texts.get?_patchAll, Texts.get?_patchAll]
  cases memory.texts.get? path with
  | none => simp
  | some text =>
    simp only [Option.map_some, Option.some.injEq, forall_eq']
    rw [← lines_patchText hv hp', ← lines_patchText hv hp']
    exact ⟨fun h => by rw [h], fun h => String.toList_inj.1 (Text.lines_injective h)⟩

/-- **Targets that yield are idempotent.**

**Proof sketch.** At each path a run rewrites the lines by the rules of the targets of the path
(`get?_again_iff`). These yield, so rewriting once more leaves the lines
(`Rule.rewriteAll_rewriteAll`). -/
theorem idempotent_of_yields {targets : List Target}
    (hp : ∀ target ∈ targets, target.TailIsPlain) (h : targets.Pairwise Target.Yields) :
    Idempotent targets := by
  intro version memory hv hf hh once twice path
  refine (get?_again_iff hp hv hf hh path).2 fun text _ => ?_
  refine Rule.rewriteAll_rewriteAll ?_ _
  refine List.pairwise_map.2 ((h.sublist List.filter_sublist).imp_of_mem fun {a b} ha hb hab => ?_)
  have hapath : a.path = path := (mem_targetsAt_iff.1 ha).2
  have hbpath : b.path = path := (mem_targetsAt_iff.1 hb).2
  exact hab.yield_rule (hapath.trans hbpath.symm) version

/-! ### Targets that do not yield -/

/-- What starts with different characters has nothing in common behind a common start. -/
lemma prefix_of_prefix_cons {l p xs ys : List Char} {x y : Char} (hne : x ≠ y)
    (hx : l <+: p ++ x :: xs) (hy : l <+: p ++ y :: ys) : l <+: p := by
  induction p generalizing l with
  | nil =>
    cases l with
    | nil => exact List.prefix_rfl
    | cons c l =>
      obtain ⟨rfl, -⟩ := List.cons_prefix_cons.1 hx
      exact absurd (List.cons_prefix_cons.1 hy).1 hne
  | cons c p ih =>
    cases l with
    | nil => exact List.nil_prefix
    | cons d l =>
      obtain ⟨rfl, hxs⟩ := List.cons_prefix_cons.1 hx
      exact List.cons_prefix_cons.2 ⟨rfl, ih hxs (List.cons_prefix_cons.1 hy).2⟩

/-- A target that does not yield: the later one writes a line, for one of two versions, that the
earlier one does not find. -/
lemma exists_not_prefix_line {a b : Target} (hp : b.lead.toList <+: a.lead.toList)
    (hne : a.lead ≠ b.lead) (hq : ¬ (b.style = .quoted ∧ a.lead = b.lead ++ "\"")) :
    ∃ version, (version = "v" ∨ version = "w") ∧
      ¬ a.lead.toList <+: (b.line version).toList := by
  by_cases hv : a.lead.toList <+: (b.line "v").toList
  · refine ⟨"w", .inr rfl, fun hw => ?_⟩
    rw [Target.toList_line] at hv hw
    cases hs : b.style with
    | bare =>
      rw [hs] at hv hw
      have hle : a.lead.toList <+: b.lead.toList :=
        prefix_of_prefix_cons (by decide : 'v' ≠ 'w') hv hw
      exact hne (String.toList_inj.1 (hle.eq_of_length_le hp.length_le))
    | quoted =>
      have hquoted : ∀ version : String, b.lead.toList ++
          ((Style.quoted.write version).toList ++ b.tailChars) =
            (b.lead.toList ++ ['"']) ++ (version.toList ++ '"' :: b.tailChars) := by
        simp [Style.write]
      rw [hs, hquoted] at hv hw
      have hle : a.lead.toList <+: b.lead.toList ++ ['"'] :=
        prefix_of_prefix_cons (by decide : 'v' ≠ 'w') hv hw
      rcases List.prefix_concat_iff.1 hle with heq | hle
      · exact hq ⟨hs, String.toList_inj.1 (by simp [heq])⟩
      · exact hne (String.toList_inj.1 (hle.eq_of_length_le hp.length_le))
  · exact ⟨"v", .inl rfl, hv⟩

/-- **Two targets that do not yield are not idempotent.**

**Proof sketch.** In a text of two lines that start with the lead of the first target, the second one
takes the first line from it. Run once more, the first target finds the second line. -/
theorem not_idempotent_of_not_yields {a b : Target} (ha : a.IsAcceptable) (hpa : a.TailIsPlain)
    (hpb : b.TailIsPlain) (h : ¬ a.Yields b) : ¬ Idempotent [a, b] := by
  obtain ⟨hpath, hp, hne, hq⟩ : a.path = b.path ∧ b.lead.toList <+: a.lead.toList ∧
      a.lead ≠ b.lead ∧ ¬ (b.style = .quoted ∧ a.lead = b.lead ++ "\"") := by
    unfold Target.Yields at h
    tauto
  obtain ⟨version, hversion, hnot⟩ := exists_not_prefix_line hp hne hq
  have hv : Check.version "version" version = .ok () := by
    rcases hversion with rfl | rfl <;> rfl
  let line : Line := ⟨a.lead.toList ++ ['z'], .lineFeed⟩
  have hproper : line.IsProper := ⟨by simp [line, ha.lead_noLineFeed], by simp [line], by simp [line]⟩
  have hlines : lines (Text.unlines [line, line]) = [line, line] :=
    Text.lines_unlines ⟨hproper, by simp [line], hproper, by simp, trivial⟩
  let memory : MemoryStore := { texts := [(a.path, String.ofList (Text.unlines [line, line]))] }
  have hf : memory.IsFaultFree := ⟨rfl, rfl⟩
  have hh : memory.Holds [a, b] := by
    intro target hm
    rw [Texts.isSome_get?_iff]
    rcases List.mem_cons.1 hm with rfl | hm
    · simp [memory]
    · simp [memory, List.mem_singleton.1 hm, hpath]
  have hplain : ∀ target ∈ [a, b], target.TailIsPlain := by simp [hpa, hpb]
  intro hidem
  have hsame := (get?_again_iff hplain hv hf hh a.path).1 (hidem version memory hv hf hh a.path)
    (String.ofList (Text.unlines [line, line])) (by simp [memory, Texts.get?])
  rw [String.toList_ofList, hlines] at hsame
  have hne' : line.content ≠ (a.line version).toList := by
    rw [Target.toList_line]
    intro heq
    have htail : ['z'] = (a.style.write version).toList ++ a.tailChars := List.append_cancel_left heq
    rcases hversion with rfl | rfl <;> cases hs : a.style <;> simp [hs, Style.write] at htail
  have hboth : targetsAt a.path [a, b] = [a, b] := by
    simp [targetsAt, hpath]
  rw [hboth] at hsame
  have hstarts : (a.rule version).lead <+: line.content := List.prefix_append _ _
  exact Rule.rewriteAll_rewriteAll_ne hp hnot hstarts hstarts hne' hsame

/-- **When targets are idempotent.** For an accepted list of targets with plain tails, every choice of
them is idempotent exactly if any two of them are, and exactly if any two of them yield. A single list
can do with less: after `ab` and `a`, a third target with the lead `ab` finds the next line already in
the first run.

**Proof sketch.** Any two targets are a choice of their own. If they are idempotent, they yield
(`not_idempotent_of_not_yields`), and targets that yield are idempotent (`idempotent_of_yields`), as is
every choice of them. -/
theorem idempotent_tfae {targets : List Target} (h : checkTargets targets = .ok ())
    (hp : ∀ target ∈ targets, target.TailIsPlain) :
    [∀ chosen, chosen.Sublist targets → Idempotent chosen,
      targets.Pairwise fun a b => Idempotent [a, b],
      targets.Pairwise Target.Yields].TFAE := by
  have hacceptable := (checkTargets_eq_ok_iff.1 h).2
  tfae_have 1 → 2 := fun hall => List.pairwise_iff_forall_sublist.2 fun {a b} hab => hall _ hab
  tfae_have 2 → 3 := by
    intro hpairs
    refine hpairs.imp_of_mem fun {a b} ha hb hab => ?_
    by_contra hno
    exact not_idempotent_of_not_yields (hacceptable a ha) (hp a ha) (hp b hb) hno hab
  tfae_have 3 → 1 := by
    intro hyields chosen hchosen
    exact idempotent_of_yields (fun target hm => hp target (hchosen.subset hm))
      (hyields.sublist hchosen)
  tfae_finish

/-- Targets of one file with overlapping leads, the shorter one first, are idempotent. -/
theorem idempotent_shorter_first :
    let targets : List Target :=
      [⟨"build.mk", "VERSION=", .quoted, none⟩, ⟨"build.mk", "VERSION=\"0", .bare, some "\""⟩]
    checkTargets targets = .ok () ∧ (∀ target ∈ targets, target.TailIsPlain) ∧
      Idempotent targets := by
  intro targets
  have h : checkTargets targets = .ok () := rfl
  have hp : ∀ target ∈ targets, target.TailIsPlain := by decide
  have hall : ∀ chosen, chosen.Sublist targets → Idempotent chosen :=
    ((idempotent_tfae h hp).out 2 0).1 (by decide)
  exact ⟨h, hp, hall targets (List.Sublist.refl targets)⟩

/-- With the longer lead first they are not: the second run finds another line. -/
theorem not_idempotent_longer_first :
    let targets : List Target := [⟨"f", "ab", .bare, none⟩, ⟨"f", "a", .bare, none⟩]
    let memory : MemoryStore := { texts := [("f", "ab0\nab1\n")] }
    let once := (applyVersion MemoryStore.store "v" targets memory).after
    let twice := (applyVersion MemoryStore.store "v" targets once).after
    checkTargets targets = .ok () ∧ (∀ target ∈ targets, target.TailIsPlain) ∧
      Check.version "version" "v" = .ok () ∧ once.texts = [("f", "av\nab1\n")] ∧
      twice.texts = [("f", "av\nabv\n")] ∧ ¬ Idempotent targets := by
  intro targets memory once twice
  have hp : ∀ target ∈ targets, target.TailIsPlain := by decide
  refine ⟨rfl, hp, rfl, by decide, by decide, fun h => ?_⟩
  have hh : memory.Holds targets := by decide
  exact absurd (h "v" memory rfl ⟨rfl, rfl⟩ hh "f") (by decide)

end Workbench
