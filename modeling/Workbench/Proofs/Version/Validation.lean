import Workbench.Proofs.Version.LineEdits

set_option relaxedAutoImplicit false
set_option autoImplicit false

/-!
# What the check of a list of targets guards

A list of targets is refused with one fault: that of the first target that is refused, which is the first
of four faults that the target has. Three of the conditions concern what paths and leads have to be like.
The last one, that a lead holds no line feed, is about patches: these look for a line that starts with the
lead, and a lead with a line feed starts no line of any text, while every other lead starts a line of some.

## Main definitions

* `Workbench.Target.Refused` — why a target is refused.

## Main results

* `Workbench.Target.check_eq_error_iff` — the faults of a target.
* `Workbench.checkTargetsFrom_eq_error_iff`, `Workbench.checkTargets_eq_error_iff` — the faults of a list.
* `Workbench.Target.exists_found?_iff` — the leads that a line can start with.
* `Workbench.checkTargets_guards` — what the check of a list guards.
-/

namespace Workbench

open Text (Line lines)

/-! ### Faults of a target -/

/-- Why the target at a place of a list is refused. The four conditions are looked at in this order, so
that each of them asks for a target to which none of those before it applies. -/
inductive Target.Refused (index : Nat) (target : Target) : Fault → Prop
  /-- There is no path. -/
  | emptyPath (hpath : target.path = "") :
    Refused index target
      (.badValue (fieldName index "path") target.path "Path cannot be empty")
  /-- The path holds the character that ends paths. -/
  | nulInPath (hpath : target.path ≠ "") (hnul : '\x00' ∈ target.path.toList) :
    Refused index target
      (.badValue (fieldName index "path") target.path "Path contains null bytes")
  /-- The lead has nothing but blanks. -/
  | blankLead (hpath : target.path ≠ "") (hnul : '\x00' ∉ target.path.toList)
      (hblank : ∀ c ∈ target.lead.toList, Text.isBlank c = true) :
    Refused index target
      (.badValue (fieldName index "prefix") target.lead "Value cannot be empty or whitespace-only")
  /-- The lead goes on behind the end of a line. -/
  | lineFeedInLead (hpath : target.path ≠ "") (hnul : '\x00' ∉ target.path.toList)
      (hblank : ∃ c ∈ target.lead.toList, Text.isBlank c = false)
      (hfeed : '\n' ∈ target.lead.toList) :
    Refused index target
      (.badValue (fieldName index "prefix") target.lead "Prefix must be a single line")

/-- **The faults of a target.** -/
theorem Target.check_eq_error_iff {index : Nat} {target : Target} {fault : Fault} :
    target.check index = .error fault ↔ target.Refused index fault := by
  unfold Target.check
  rw [seq_eq_error_iff, seq_eq_error_iff, ite_eq_error_iff, Check.path_eq_error_iff,
    Check.path_eq_ok_iff, Check.notBlank_eq_error_iff, Check.notBlank_eq_ok_iff]
  constructor
  · rintro ((⟨hpath, rfl⟩ | ⟨hpath, hnul, rfl⟩) |
      ⟨⟨hpath, hnul⟩, ⟨hblank, rfl⟩ | ⟨hblank, ⟨hfeed, rfl⟩ | ⟨-, hok⟩⟩⟩)
    · exact .emptyPath hpath
    · exact .nulInPath hpath hnul
    · exact .blankLead hpath hnul hblank
    · exact .lineFeedInLead hpath hnul hblank (List.contains_iff_mem.1 hfeed)
    · simp at hok
  · rintro (hpath | ⟨hpath, hnul⟩ | ⟨hpath, hnul, hblank⟩ | ⟨hpath, hnul, hblank, hfeed⟩)
    · exact .inl (.inl ⟨hpath, rfl⟩)
    · exact .inl (.inr ⟨hpath, hnul, rfl⟩)
    · exact .inr ⟨⟨hpath, hnul⟩, .inl ⟨hblank, rfl⟩⟩
    · exact .inr ⟨⟨hpath, hnul⟩, .inr ⟨hblank, .inl ⟨List.contains_iff_mem.2 hfeed, rfl⟩⟩⟩

/-! ### Faults of a list -/

/-- **The faults of the targets from a place on**: those of the first target that is not acceptable.

**Proof sketch.** Induction on the targets. The list fails with its first target, or this one is
acceptable and the rest fails one place further on. -/
theorem checkTargetsFrom_eq_error_iff {targets : List Target} {index : Nat} {fault : Fault} :
    checkTargetsFrom index targets = .error fault ↔
      ∃ (i : Nat) (target : Target), targets[i]? = some target ∧
        (∀ j < i, ∀ earlier : Target, targets[j]? = some earlier → earlier.IsAcceptable) ∧
        target.Refused (index + i) fault := by
  induction targets generalizing index with
  | nil => simp [checkTargetsFrom]
  | cons first targets ih =>
    rw [checkTargetsFrom, seq_eq_error_iff, Target.check_eq_error_iff, Target.check_eq_ok_iff, ih]
    constructor
    · rintro (hrefused | ⟨hfirst, i, target, htarget, hbefore, hrefused⟩)
      · exact ⟨0, first, rfl, by simp, hrefused⟩
      · refine ⟨i + 1, target, htarget, fun j hj earlier hearlier => ?_, ?_⟩
        · cases j with
          | zero =>
            obtain rfl := Option.some.inj hearlier
            exact hfirst
          | succ j => exact hbefore j (Nat.lt_of_succ_lt_succ hj) earlier hearlier
        · rwa [show index + (i + 1) = index + 1 + i by omega]
    · rintro ⟨i, target, htarget, hbefore, hrefused⟩
      cases i with
      | zero =>
        obtain rfl := Option.some.inj htarget
        exact .inl hrefused
      | succ i =>
        rw [show index + (i + 1) = index + 1 + i by omega] at hrefused
        refine .inr ⟨hbefore 0 (Nat.zero_lt_succ i) first rfl, i, target, htarget, ?_, hrefused⟩
        exact fun j hj => hbefore (j + 1) (Nat.succ_lt_succ hj)

/-- **The faults of a list of targets.** -/
theorem checkTargets_eq_error_iff {targets : List Target} {fault : Fault} :
    checkTargets targets = .error fault ↔
      targets = [] ∧
        fault = .settingsPart "targets" "at least one [[targets]] entry is required" ∨
      ∃ (i : Nat) (target : Target), targets[i]? = some target ∧
        (∀ j < i, ∀ earlier : Target, targets[j]? = some earlier → earlier.IsAcceptable) ∧
        target.Refused i fault := by
  unfold checkTargets
  rw [ite_eq_error_iff, checkTargetsFrom_eq_error_iff, List.isEmpty_iff]
  simp only [Nat.zero_add]
  refine or_congr_right (and_iff_right_of_imp ?_)
  rintro ⟨i, target, htarget, -⟩ rfl
  simp at htarget

/-- Of two targets that are refused, and of two faults of one, the first one counts. -/
example : checkTargets [⟨"f", "v=", .bare, none⟩, ⟨"a\x00b", " ", .bare, none⟩, ⟨"", "", .bare, none⟩] =
    .error (.badValue "targets[1].path" "a\x00b" "Path contains null bytes") := by
  rfl

/-! ### Leads that are found -/

namespace Target

variable (target : Target)

/-- A lead with a line feed is found in no text, since no line holds one. -/
lemma found?_eq_none_of_lineFeed_mem (h : '\n' ∈ target.lead.toList) (text : String) :
    target.found? text = none := by
  cases hline : target.found? text with
  | none => rfl
  | some line =>
    have hstarts : target.lead.toList <+: line.content := startsWith_iff.1 (List.find?_some hline)
    exact absurd (hstarts.subset h) (isProper_of_find? (Text.areLines_lines _) hline).noLineFeed

/-- A patch that finds a line does not report that it found none. -/
lemma patch_ne_leadNotFound {text : String} {line : Line} (h : target.found? text = some line)
    (version : String) : (target.patch version text).2 ≠ .leadNotFound := by
  rw [patch_eq, h, outcomeAt]
  split <;> simp

/-- Nothing is found in an empty text. -/
lemma ne_empty_of_found? {text : String} {line : Line} (h : target.found? text = some line) :
    text ≠ "" := by
  rintro rfl
  simp [found?, lines] at h

/-- **The leads that a line can start with** are those without a line feed. -/
theorem exists_found?_iff : (∃ text line, target.found? text = some line) ↔ '\n' ∉ target.lead.toList := by
  constructor
  · rintro ⟨text, line, hline⟩ hfeed
    rw [target.found?_eq_none_of_lineFeed_mem hfeed] at hline
    simp at hline
  · intro h
    obtain ⟨text, line, hline, -⟩ := exists_found? h
    exact ⟨text, line, hline⟩

/-- A carriage return at the end of a lead is found within a line, but not in front of a line feed. -/
example : (Target.patch ⟨"f", "v\r", .bare, none⟩ "2" "v\r\n").2 = .leadNotFound ∧
    (Target.patch ⟨"f", "v\r", .bare, none⟩ "2" "v\rx\n").2 = .updated "v\r2" := by
  decide +kernel

end Target

/-- **What the check of a list guards.** A list of targets is accepted exactly if it has a target and
each of them has a path that is neither empty nor holds the character that ends paths, and a lead that
is not blank and holds no line feed. Otherwise it fails: without a target with a fault of its own, and
else with the fault of the first target that is not acceptable, where the conditions are looked at in
the order in which they stand here. The last one is what patches rely on: with a line feed in the lead
every patch leaves its text and reports that the lead is not found, and without one there is a text,
not an empty one, in which the lead is found, whatever the version is.

**Proof sketch.** The faults are those of `checkTargets_eq_error_iff`. No line of a text holds a line
feed, so none starts with a lead that does; a lead that does not is found on a line that goes on with
one more character (`Target.exists_found?`), which keeps a carriage return at the end of the lead out of
the ending. -/
theorem checkTargets_guards :
    (∀ targets : List Target,
      (checkTargets targets = .ok () ↔
        targets ≠ [] ∧ ∀ target ∈ targets, target.IsAcceptable) ∧
      ∀ fault, checkTargets targets = .error fault ↔
        targets = [] ∧
          fault = .settingsPart "targets" "at least one [[targets]] entry is required" ∨
        ∃ (i : Nat) (target : Target), targets[i]? = some target ∧
          (∀ j < i, ∀ earlier : Target, targets[j]? = some earlier → earlier.IsAcceptable) ∧
          target.Refused i fault) ∧
    ∀ target : Target,
      ('\n' ∈ target.lead.toList → ∀ version text,
        target.patch version text = (text, .leadNotFound)) ∧
      ('\n' ∉ target.lead.toList → ∃ text ≠ "", ∀ version,
        (target.patch version text).2 ≠ .leadNotFound) := by
  refine ⟨fun targets => ⟨checkTargets_eq_ok_iff, fun _ => checkTargets_eq_error_iff⟩,
    fun target => ⟨fun hfeed version text => ?_, fun hfeed => ?_⟩⟩
  · exact target.patch_of_found?_eq_none (target.found?_eq_none_of_lineFeed_mem hfeed text)
  · obtain ⟨text, line, hline⟩ := target.exists_found?_iff.2 hfeed
    exact ⟨text, target.ne_empty_of_found? hline, target.patch_ne_leadNotFound hline⟩

end Workbench
