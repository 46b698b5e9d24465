import Mathlib.Data.List.Basic
import Workbench.Proofs.Version.Rewriting

set_option relaxedAutoImplicit false
set_option autoImplicit false

/-!
# Rewriting with overlapping rules

Several rules rewrite the lines of a text, one after the other: each of them gives its content to the
first line that starts with its lead. Leads may overlap, so a line can go through several rules. Seen
from the lines, each line is settled by the rules that have not found one yet, and those that do not
find it go on to the next line (`Rule.rewriteAll`).

The question is what happens when the rules are used once more. A rule then finds the line that it
found before or, if an earlier one has meanwhile been made to start with its lead, that line. The
proof goes along the lines and keeps the list of the leads that have been found early in this way.

## Main definitions

* `Workbench.Rule` — a lead and a content that starts with it.
* `Workbench.Rule.settle`, `Workbench.Rule.rewriteAll` — rewriting line by line.
* `Workbench.Rule.Keep` — rules that keep what a line starts with.
* `Workbench.Rule.Yield` — how two rules may overlap.
* `Workbench.Rule.Resettles` — what settling a settled line once more does.

## Main results

* `Workbench.Rule.foldl_rewriteFirst` — rewriting line by line is rewriting rule by rule.
* `Workbench.Rule.exists_resettles` — settling a settled line once more leaves it.
* `Workbench.Rule.rewriteAll_rewriteAll` — rewriting lines once more leaves them, if rules yield.
* `Workbench.Rule.rewriteAll_rewriteAll_ne` — and not if two rules do not yield.
-/

namespace Workbench

open Text (Line)

/-! ### Rules -/

/-- A rule for rewriting a line: what it starts with, and what it becomes. -/
structure Rule where
  lead : List Char
  content : List Char
  /-- The rule finds the line that it has rewritten. -/
  lead_start : lead <+: content

/-- Some line can start with both. -/
def Overlap (p q : List Char) : Prop := p <+: q ∨ q <+: p

lemma Overlap.of_start {p q r : List Char} (h : Overlap p q) (hr : r <+: q) : Overlap p r := by
  rcases h with h | h
  · exact List.prefix_or_prefix_of_prefix h hr
  · exact .inr (hr.trans h)

namespace Rule

/-- What becomes of a line when rules are used one after the other, and the rules that do not find
it. -/
def settle : List Rule → List Char → List Char × List Rule
  | [], content => (content, [])
  | rule :: rules, content =>
    if rule.lead <+: content then settle rules rule.content
    else ((settle rules content).1, rule :: (settle rules content).2)

/-- What becomes of lines: a line is settled, and the rules that do not find it go on. -/
def rewriteAll : List Rule → List Line → List Line
  | _, [] => []
  | rules, line :: ls =>
    { line with content := (settle rules line.content).1 } ::
      rewriteAll (settle rules line.content).2 ls

section Settle

variable {rule : Rule} {rules : List Rule} {content q : List Char}

lemma settle_cons_of_finds (h : rule.lead <+: content) :
    settle (rule :: rules) content = settle rules rule.content := by
  rw [settle, if_pos h]

lemma settle_cons_of_not_finds (h : ¬ rule.lead <+: content) :
    settle (rule :: rules) content =
      ((settle rules content).1, rule :: (settle rules content).2) := by
  rw [settle, if_neg h]

/-- Rules that do not find a line leave it. -/
lemma settle_of_forall_not (h : ∀ rule ∈ rules, ¬ rule.lead <+: content) :
    settle rules content = (content, rules) := by
  induction rules with
  | nil => rfl
  | cons rule rules ih =>
    rw [settle_cons_of_not_finds (h rule (by simp)), ih fun r hr => h r (by simp [hr])]

/-- Rules are used one after the other. -/
lemma settle_append (front back : List Rule) (content : List Char) :
    settle (front ++ back) content =
      ((settle back (settle front content).1).1,
        (settle front content).2 ++ (settle back (settle front content).1).2) := by
  induction front generalizing content with
  | nil => simp [settle]
  | cons rule front ih =>
    by_cases h : rule.lead <+: content
    · rw [List.cons_append, settle_cons_of_finds h, settle_cons_of_finds h, ih]
    · rw [List.cons_append, settle_cons_of_not_finds h, settle_cons_of_not_finds h, ih]
      rfl

/-- The rules that are left stay in order. -/
lemma settle_sublist (rules : List Rule) (content : List Char) :
    (settle rules content).2.Sublist rules := by
  induction rules generalizing content with
  | nil => exact List.Sublist.refl _
  | cons rule rules ih =>
    by_cases h : rule.lead <+: content
    · rw [settle_cons_of_finds h]
      exact (ih rule.content).cons rule
    · rw [settle_cons_of_not_finds h]
      exact (ih content).cons_cons rule

/-- Rewriting line by line is rewriting rule by rule. -/
theorem foldl_rewriteFirst (rules : List Rule) (ls : List Line) :
    rules.foldl (fun ls rule => rewriteFirst rule.lead rule.content ls) ls = rewriteAll rules ls := by
  induction rules generalizing ls with
  | nil =>
    induction ls with
    | nil => rfl
    | cons line ls ih => simpa [rewriteAll, settle] using ih
  | cons rule rules ih =>
    rw [List.foldl_cons, ih]
    clear ih
    induction ls generalizing rules with
    | nil => rfl
    | cons line ls ih =>
      by_cases h : rule.lead <+: line.content
      · have hs : line.startsWith rule.lead = true := startsWith_iff.2 h
        rw [rewriteFirst, if_pos hs, rewriteAll, rewriteAll, settle_cons_of_finds h]
      · have hs : ¬ line.startsWith rule.lead = true := fun hs => h (startsWith_iff.1 hs)
        rw [rewriteFirst, if_neg hs, rewriteAll, rewriteAll, settle_cons_of_not_finds h, ih]

/-! ### What a line keeps -/

/-- The rules keep a start of a line: those that could find a shorter one write it. -/
def Keep (q : List Char) (rules : List Rule) : Prop :=
  ∀ rule ∈ rules, rule.lead <+: q → q <+: rule.content

lemma Keep.tail (h : Keep q (rule :: rules)) : Keep q rules :=
  fun r hr => h r (by simp [hr])

/-- A rule that finds the line writes what is kept. -/
lemma Keep.prefix_content (h : Keep q (rule :: rules)) (hq : q <+: content)
    (hr : rule.lead <+: content) : q <+: rule.content := by
  rcases List.prefix_or_prefix_of_prefix hr hq with hp | hp
  · exact h rule (by simp) hp
  · exact hp.trans rule.lead_start

/-- What is kept is there in the end. -/
lemma Keep.prefix_settle (h : Keep q rules) (hq : q <+: content) : q <+: (settle rules content).1 := by
  induction rules generalizing content with
  | nil => exact hq
  | cons rule rules ih =>
    by_cases hr : rule.lead <+: content
    · rw [settle_cons_of_finds hr]
      exact ih h.tail (h.prefix_content hq hr)
    · rw [settle_cons_of_not_finds hr]
      exact ih h.tail hq

/-- No rule is left that finds all lines that start with what is kept. -/
lemma Keep.not_prefix_of_mem (h : Keep q rules) (hq : q <+: content) :
    ∀ rule ∈ (settle rules content).2, ¬ rule.lead <+: q := by
  induction rules generalizing content with
  | nil => simp [settle]
  | cons rule rules ih =>
    by_cases hr : rule.lead <+: content
    · rw [settle_cons_of_finds hr]
      exact ih h.tail (h.prefix_content hq hr)
    · rw [settle_cons_of_not_finds hr]
      intro r hm
      rcases List.mem_cons.1 hm with rfl | hm
      · exact fun hp => hr (hp.trans hq)
      · exact ih h.tail hq r hm

/-- Rules that do not overlap with what is kept can be left out. -/
lemma Keep.settle_filter {p : Rule → Bool} (h : Keep q rules) (hq : q <+: content)
    (hp : ∀ rule ∈ rules, p rule = false → ¬ Overlap rule.lead q) :
    settle (rules.filter p) content =
      ((settle rules content).1, (settle rules content).2.filter p) := by
  induction rules generalizing content with
  | nil => rfl
  | cons rule rules ih =>
    have hp' : ∀ rule ∈ rules, p rule = false → ¬ Overlap rule.lead q :=
      fun r hr => hp r (by simp [hr])
    by_cases hr : rule.lead <+: content
    · have hkept : p rule = true := by
        by_contra hpr
        refine hp rule (by simp) (by simpa using hpr) ?_
        exact List.prefix_or_prefix_of_prefix hr hq
      rw [List.filter_cons_of_pos hkept, settle_cons_of_finds hr, settle_cons_of_finds hr]
      exact ih h.tail (h.prefix_content hq hr) hp'
    · rw [settle_cons_of_not_finds hr]
      by_cases hpr : p rule = true
      · rw [List.filter_cons_of_pos hpr, List.filter_cons_of_pos hpr, settle_cons_of_not_finds hr,
          ih h.tail hq hp']
      · rw [List.filter_cons_of_neg hpr, List.filter_cons_of_neg hpr, ih h.tail hq hp']

/-- Rules of which only those with the lead `q` overlap with `q` leave the others. -/
lemma settle_of_overlap_eq (h : ∀ rule ∈ rules, Overlap rule.lead q → rule.lead = q)
    (hq : q <+: content) :
    q <+: (settle rules content).1 ∧
      (settle rules content).2 = rules.filter fun rule => rule.lead ≠ q := by
  have hkeep : Keep q rules := fun rule hr hp => h rule hr (.inl hp) ▸ rule.lead_start
  refine ⟨hkeep.prefix_settle hq, ?_⟩
  induction rules generalizing content with
  | nil => rfl
  | cons rule rules ih =>
    have h' : ∀ rule ∈ rules, Overlap rule.lead q → rule.lead = q := fun r hr => h r (by simp [hr])
    by_cases hr : rule.lead <+: content
    · have heq : rule.lead = q := h rule (by simp) (List.prefix_or_prefix_of_prefix hr hq)
      rw [settle_cons_of_finds hr, List.filter_cons_of_neg (by simp [heq])]
      exact ih h' (hkeep.prefix_content hq hr) hkeep.tail
    · have hne : rule.lead ≠ q := fun heq => hr (heq ▸ hq)
      rw [settle_cons_of_not_finds hr, List.filter_cons_of_pos (by simp [hne])]
      exact congrArg (rule :: ·) (ih h' hq hkeep.tail)

end Settle

/-! ### Settling a line once more -/

/-- How two rules of a list, the earlier one first, may overlap: if the later one can take a line from
the earlier one, it writes the lead of the earlier one, which is longer by one character. -/
def Yield (a b : Rule) : Prop :=
  b.lead <+: a.lead →
    a.lead = b.lead ∨ a.lead <+: b.content ∧ a.lead.length = b.lead.length + 1

lemma Yield.prefix_content {a b : Rule} (h : a.Yield b) (hp : b.lead <+: a.lead) :
    a.lead <+: b.content := by
  rcases h hp with heq | ⟨hc, -⟩
  · exact heq ▸ b.lead_start
  · exact hc

/-- The rules with other leads than those in a list. -/
def without (found : List (List Char)) (rules : List Rule) : List Rule :=
  rules.filter fun rule => rule.lead ∉ found

/-- How two rules of a list, the earlier one first, may overlap when one of their leads is in a list
of those that have found a line already. -/
structure Fit (found : List (List Char)) (a b : Rule) : Prop where
  /-- The later rule takes no line from a lead that has found one. -/
  earlier : a.lead ∈ found → b.lead <+: a.lead → b.lead = a.lead
  /-- The earlier rule finds no line of a lead that has found one. -/
  later : b.lead ∈ found → Overlap a.lead b.lead → a.lead = b.lead

lemma Fit.cons {found : List (List Char)} {a b : Rule} {q : List Char} (h : Fit found a b)
    (ha : a.lead = q → b.lead <+: q → b.lead = q)
    (hb : b.lead = q → Overlap a.lead q → a.lead = q) : Fit (q :: found) a b where
  earlier hm hp := by
    rcases List.mem_cons.1 hm with rfl | hm
    · exact ha rfl hp
    · exact h.earlier hm hp
  later hm ho := by
    rcases List.mem_cons.1 hm with rfl | hm
    · exact hb rfl ho
    · exact h.later hm ho

/-- Another lead may have found a line if no rule in front overlaps with it but those with this very
lead, and no rule behind them finds all of its lines. -/
lemma pairwise_fit_cons {found : List (List Char)} {front back : List Rule} {q : List Char}
    (hfit : (front ++ back).Pairwise (Fit found))
    (hfront : ∀ rule ∈ front, Overlap rule.lead q → rule.lead = q)
    (hback : ∀ rule ∈ back, ¬ rule.lead <+: q) : (front ++ back).Pairwise (Fit (q :: found)) := by
  have hne : ∀ rule ∈ back, rule.lead ≠ q := fun rule hr heq =>
    hback rule hr (heq ▸ List.prefix_rfl)
  obtain ⟨hffront, hfback, hfcross⟩ := List.pairwise_append.1 hfit
  refine List.pairwise_append.2 ⟨?_, ?_, ?_⟩
  · exact hffront.imp_of_mem fun {a b} ha hb hab =>
      hab.cons (fun _ hp => hfront b hb (.inl hp)) fun _ => hfront a ha
  · exact hfback.imp_of_mem fun {a b} ha hb hab =>
      hab.cons (fun heq _ => absurd heq (hne a ha)) fun heq _ => absurd heq (hne b hb)
  · exact fun a ha b hb => (hfcross a ha b hb).cons
      (fun _ hp => absurd hp (hback b hb)) fun _ => hfront a ha

/-- **What settling a settled line once more does.** Leads that have found a line already are left
out. The line stays as it is, and the rules that are left are those that were left before, without
leads that have found a line by now. -/
structure Resettles (found : List (List Char)) (rules : List Rule) (content : List Char)
    (found' : List (List Char)) : Prop where
  settle_eq : settle (without found rules) (settle rules content).1 =
    ((settle rules content).1, without found' (settle rules content).2)
  fit : (settle rules content).2.Pairwise (Fit found')
  mem_iff : ∀ q, ¬ q <+: (settle rules content).1 → (q ∈ found' ↔ q ∈ found)

section Resettle

variable {found : List (List Char)} {front back : List Rule} {rule : Rule} {content : List Char}

lemma without_append (found : List (List Char)) (front back : List Rule) :
    without found (front ++ back) = without found front ++ without found back :=
  List.filter_append front back

lemma without_congr {found' : List (List Char)} {rules : List Rule}
    (h : ∀ rule ∈ rules, (rule.lead ∈ found' ↔ rule.lead ∈ found)) :
    without found' rules = without found rules :=
  List.filter_congr fun rule hr => by simp [h rule hr]

/-- A line that no rule finds is settled. -/
lemma resettles_of_forall_not {rules : List Rule} (h : ∀ rule ∈ rules, ¬ rule.lead <+: content)
    (hfit : rules.Pairwise (Fit found)) : Resettles found rules content found := by
  have hsettle : settle rules content = (content, rules) := settle_of_forall_not h
  refine ⟨?_, by rwa [hsettle], fun q _ => Iff.rfl⟩
  rw [hsettle]
  exact settle_of_forall_not fun rule hr => h rule (List.mem_of_mem_filter hr)

/-- Rules in front that do not find the settled line, nor overlap with a rule that is left and could
find it, fit the leads that have found a line by then. -/
lemma Resettles.pairwise_fit_append {found' : List (List Char)}
    (h : Resettles found back content found') (hfit : (front ++ back).Pairwise (Fit found))
    (hnot : ∀ a ∈ front, ¬ a.lead <+: (settle back content).1)
    (hapart : ∀ a ∈ front, ∀ b ∈ (settle back content).2, b.lead <+: (settle back content).1 →
      ¬ Overlap a.lead b.lead) :
    (front ++ (settle back content).2).Pairwise (Fit found') := by
  have hsame : ∀ a ∈ front, (a.lead ∈ found' ↔ a.lead ∈ found) :=
    fun a ha => h.mem_iff _ (hnot a ha)
  obtain ⟨hffront, -, hcross⟩ := List.pairwise_append.1 hfit
  refine List.pairwise_append.2 ⟨?_, h.fit, ?_⟩
  · refine hffront.imp_of_mem fun {a b} ha hb hab => ⟨?_, ?_⟩
    · exact fun hma => hab.earlier ((hsame a ha).1 hma)
    · exact fun hmb => hab.later ((hsame b hb).1 hmb)
  · intro a ha b hb
    have hab := hcross a ha b ((settle_sublist back content).subset hb)
    refine ⟨fun hma => hab.earlier ((hsame a ha).1 hma), fun hmb ho => ?_⟩
    by_cases hnew : b.lead <+: (settle back content).1
    · exact absurd ho (hapart a ha b hb hnew)
    · exact hab.later ((h.mem_iff _ hnew).1 hmb) ho

/-- The first rule that finds the line decides how the others go on. -/
lemma settle_split (back : List Rule) (hfront : ∀ r ∈ front, ¬ r.lead <+: content)
    (hr : rule.lead <+: content) :
    settle (front ++ rule :: back) content =
      ((settle back rule.content).1, front ++ (settle back rule.content).2) := by
  rw [settle_append, settle_of_forall_not hfront]
  simp only
  rw [settle_cons_of_finds hr]

/-- Rules behind one that they yield to keep its lead. -/
lemma keep_of_yield (hy : ∀ b ∈ back, rule.Yield b) : Keep rule.lead back :=
  fun b hb hp => (hy b hb).prefix_content hp

/-- A rule that does not find a line, but overlaps with a later one that does: its lead is longer by one
character and starts what the later one writes. -/
lemma Yield.longer {r : Rule} (hy : r.Yield rule) (hno : ¬ r.lead <+: content)
    (hr : rule.lead <+: content) (ho : Overlap r.lead rule.lead) :
    rule.lead <+: r.lead ∧ r.lead <+: rule.content ∧ r.lead.length = rule.lead.length + 1 := by
  have hle : rule.lead <+: r.lead := ho.resolve_left fun hle => hno (hle.trans hr)
  rcases hy hle with heq | hlong
  · exact absurd (heq ▸ hr) hno
  · exact ⟨hle, hlong⟩

variable (hfront : ∀ r ∈ front, ¬ r.lead <+: content) (hr : rule.lead <+: content)
  (hyield : (front ++ rule :: back).Pairwise Yield)
  (hfit : (front ++ rule :: back).Pairwise (Fit found))

include hfront hr hyield hfit

/-- A line of which the first rule has found a line already: the rule is left out, and no rule in front
of it finds the line. -/
lemma resettles_of_mem {found' : List (List Char)} (hm : rule.lead ∈ found)
    (hback : Resettles found back rule.content found') :
    Resettles found (front ++ rule :: back) content found' := by
  obtain ⟨-, hyback, -⟩ := List.pairwise_append.1 hyield
  obtain ⟨-, -, hcross⟩ := List.pairwise_append.1 hfit
  obtain ⟨hyrule, -⟩ := List.pairwise_cons.1 hyback
  have hkeep : Keep rule.lead back := keep_of_yield hyrule
  have hsplit := settle_split back hfront hr
  set left := (settle back rule.content).2 with hleft
  set new := (settle back rule.content).1 with hnew
  -- the rules in front overlap with none that writes the line
  have hlead : rule.lead <+: new := hkeep.prefix_settle rule.lead_start
  have hapart : ∀ r ∈ front, ¬ Overlap r.lead rule.lead := by
    intro r hrf ho
    exact hfront r hrf (((hcross r hrf rule (by simp)).later hm ho).symm ▸ hr)
  have hnot : ∀ r ∈ front, ¬ r.lead <+: new := fun r hrf hp =>
    hapart r hrf (List.prefix_or_prefix_of_prefix hp hlead)
  refine ⟨?_, ?_, ?_⟩
  · have hgone : without found (rule :: back) = without found back :=
      List.filter_cons_of_neg (by simp [hm])
    have hstay : settle (without found front) new = (new, without found front) :=
      settle_of_forall_not fun r hrf => hnot r (List.mem_of_mem_filter hrf)
    have hsame : without found' front = without found front :=
      without_congr fun r hrf => hback.mem_iff _ (hnot r hrf)
    rw [hsplit, without_append, hgone, settle_append, hstay]
    simp only
    rw [hback.settle_eq, without_append, hsame]
  · rw [hsplit]
    have hfit' : (front ++ back).Pairwise (Fit found) :=
      hfit.sublist ((List.sublist_cons_self rule back).append_left front)
    refine hback.pairwise_fit_append hfit' hnot fun a ha b hb hbnew ho => ?_
    rcases List.prefix_or_prefix_of_prefix hbnew hlead with hp | hp
    · exact hkeep.not_prefix_of_mem rule.lead_start b hb hp
    · exact hapart a ha (ho.of_start hp)
  · rw [hsplit]
    exact hback.mem_iff

omit hfront hr in
/-- Where the lead of the first rule has found no line, the rules behind it do once more what they have
done, whatever rules in front of it do that leave its lead. -/
lemma settle_without_of_notMem (hm : rule.lead ∉ found) {first : List Char × List Rule}
    (hfirst : settle (without found front) (settle back rule.content).1 = first)
    (hlead : rule.lead <+: first.1) :
    settle (without found (front ++ rule :: back)) (settle back rule.content).1 =
      ((settle back rule.content).1, first.2 ++ without found (settle back rule.content).2) := by
  obtain ⟨-, hyback, -⟩ := List.pairwise_append.1 hyield
  obtain ⟨-, hfback, -⟩ := List.pairwise_append.1 hfit
  obtain ⟨hyrule, -⟩ := List.pairwise_cons.1 hyback
  obtain ⟨hfrule, -⟩ := List.pairwise_cons.1 hfback
  have hstays : without found (rule :: back) = rule :: without found back :=
    List.filter_cons_of_pos (by simp [hm])
  have hback : settle (without found back) rule.content =
      ((settle back rule.content).1, without found (settle back rule.content).2) := by
    refine (keep_of_yield hyrule).settle_filter rule.lead_start fun r hr hfound ho => ?_
    have hrm : r.lead ∈ found := by simpa using hfound
    exact hm ((hfrule r hr).later hrm ho.symm ▸ hrm)
  rw [without_append, hstays, settle_append, hfirst, settle_cons_of_finds hlead, hback]

/-- A line of which the first rule has found no line yet, and that no rule in front of it can find. -/
lemma resettles_of_notMem (hm : rule.lead ∉ found)
    (hapart : ∀ r ∈ front, ¬ Overlap r.lead rule.lead) :
    Resettles found (front ++ rule :: back) content found := by
  obtain ⟨-, hyback, -⟩ := List.pairwise_append.1 hyield
  obtain ⟨hyrule, -⟩ := List.pairwise_cons.1 hyback
  have hlead : rule.lead <+: (settle back rule.content).1 :=
    (keep_of_yield hyrule).prefix_settle rule.lead_start
  have hsplit := settle_split back hfront hr
  have hstay : settle (without found front) (settle back rule.content).1 =
      ((settle back rule.content).1, without found front) := by
    refine settle_of_forall_not fun r hrf hp => ?_
    exact hapart r (List.mem_of_mem_filter hrf) (List.prefix_or_prefix_of_prefix hp hlead)
  refine ⟨?_, ?_, fun q _ => Iff.rfl⟩
  · rw [hsplit, settle_without_of_notMem hyield hfit hm hstay hlead, without_append]
  · exact hfit.sublist (settle_sublist _ content)

/-- A line of which the first rule has found no line yet, while rules in front of it can find what it
writes: these have one lead, and it has found a line after that.

**Proof sketch.** A rule in front that overlaps with the rule yields to it, so its lead is longer by
one character and starts the content that the rule writes; hence all these rules have one lead `q`.
The rules behind keep `q`, and none of them that is left has a lead that starts it. So all rules in
front with this lead find the settled line, the rule itself finds it again, and everything goes on as
before. -/
lemma resettles_cons {r : Rule} (hm : rule.lead ∉ found) (hrf : r ∈ front)
    (ho : Overlap r.lead rule.lead) :
    Resettles found (front ++ rule :: back) content (r.lead :: found) := by
  obtain ⟨-, hyback, hycross⟩ := List.pairwise_append.1 hyield
  obtain ⟨hle, hcontent, hlength⟩ := (hycross r hrf rule (by simp)).longer (hfront r hrf) hr ho
  -- rules in front that overlap with `r` overlap with the rule, so they have the lead of `r`
  have hone : ∀ p ∈ front, Overlap p.lead r.lead → p.lead = r.lead := by
    intro p hp hpo
    obtain ⟨-, hpc, hpl⟩ := (hycross p hp rule (by simp)).longer (hfront p hp) hr (hpo.of_start hle)
    have hsame : p.lead.length = r.lead.length := by omega
    exact (List.prefix_of_prefix_length_le hpc hcontent (Nat.le_of_eq hsame)).eq_of_length hsame
  have hkeep : Keep r.lead back := fun b hb => (hycross r hrf b (by simp [hb])).prefix_content
  have hq : r.lead <+: (settle back rule.content).1 := hkeep.prefix_settle hcontent
  have hnone : ∀ b ∈ (settle back rule.content).2, ¬ b.lead <+: r.lead :=
    hkeep.not_prefix_of_mem hcontent
  have hsplit := settle_split back hfront hr
  have honly : ∀ p ∈ without found front, Overlap p.lead r.lead → p.lead = r.lead :=
    fun p hp => hone p (List.mem_of_mem_filter hp)
  obtain ⟨hnew, hleft⟩ := settle_of_overlap_eq honly hq
  have hfrontleft : (without found front).filter (fun p => p.lead ≠ r.lead) =
      without (r.lead :: found) front := by
    rw [without, List.filter_filter]
    exact List.filter_congr fun p _ => by simp [not_or]
  have hbackleft : without found (settle back rule.content).2 =
      without (r.lead :: found) (settle back rule.content).2 := by
    refine (without_congr fun b hb => ?_).symm
    have hne : b.lead ≠ r.lead := fun heq => hnone b hb (heq ▸ List.prefix_rfl)
    simp [hne]
  refine ⟨?_, ?_, ?_⟩
  · rw [hsplit, settle_without_of_notMem hyield hfit hm rfl (hle.trans hnew), hleft, hfrontleft,
      hbackleft, without_append]
  · rw [hsplit]
    have hleft' : (front ++ (settle back rule.content).2).Sublist (front ++ rule :: back) :=
      ((settle_sublist back rule.content).trans (List.sublist_cons_self _ _)).append_left front
    exact pairwise_fit_cons (hfit.sublist hleft') hone hnone
  · rw [hsplit]
    intro q hnq
    have hne : q ≠ r.lead := fun heq => hnq (heq ▸ hq)
    simp [hne]

end Resettle

/-- **Settling a settled line once more leaves it.**

**Proof sketch.** Induction on the rules behind those in front that do not find the line. If the first
one of them does not find it either, it goes to the front. If it does, either its lead has found a line
already and the rules behind it settle what it writes, or some rule in front can find what it writes,
or none can. -/
theorem exists_resettles {found : List (List Char)} (back : List Rule) :
    ∀ {front : List Rule} {content : List Char}, (∀ r ∈ front, ¬ r.lead <+: content) →
      (front ++ back).Pairwise Yield → (front ++ back).Pairwise (Fit found) →
      ∃ found', Resettles found (front ++ back) content found' := by
  induction back with
  | nil =>
    intro front content hfront _ hfit
    rw [List.append_nil] at hfit ⊢
    exact ⟨found, resettles_of_forall_not hfront hfit⟩
  | cons rule back ih =>
    intro front content hfront hyield hfit
    by_cases hr : rule.lead <+: content
    · by_cases hm : rule.lead ∈ found
      · have hback : back.Sublist (front ++ rule :: back) :=
          (List.sublist_cons_self rule back).trans (List.sublist_append_right front _)
        have hnone : ∀ r ∈ ([] : List Rule), ¬ r.lead <+: rule.content := by simp
        obtain ⟨found', hresettles⟩ := ih hnone (hyield.sublist hback) (hfit.sublist hback)
        exact ⟨found', resettles_of_mem hfront hr hyield hfit hm hresettles⟩
      · by_cases ho : ∃ r ∈ front, Overlap r.lead rule.lead
        · obtain ⟨r, hrf, ho⟩ := ho
          exact ⟨r.lead :: found, resettles_cons hfront hr hyield hfit hm hrf ho⟩
        · refine ⟨found, resettles_of_notMem hfront hr hyield hfit hm fun r hrf hro => ?_⟩
          exact ho ⟨r, hrf, hro⟩
    · rw [List.append_cons] at hyield hfit ⊢
      refine ih (fun r hrf => ?_) hyield hfit
      rcases List.mem_append.1 hrf with hrf | hrf
      · exact hfront r hrf
      · exact List.mem_singleton.1 hrf ▸ hr

/-- **Rewriting lines once more leaves them**, if the rules yield to each other.

**Proof sketch.** Induction on the lines, for all rules and all leads that have found a line already.
The first line is settled once more (`exists_resettles`), and the rules that are left then go on. -/
theorem rewriteAll_rewriteAll_without (ls : List Line) :
    ∀ {found : List (List Char)} {rules : List Rule}, rules.Pairwise Yield →
      rules.Pairwise (Fit found) →
      rewriteAll (without found rules) (rewriteAll rules ls) = rewriteAll rules ls := by
  induction ls with
  | nil => exact fun _ _ => rfl
  | cons line ls ih =>
    intro found rules hyield hfit
    have hnone : ∀ r ∈ ([] : List Rule), ¬ r.lead <+: line.content := by simp
    obtain ⟨found', hresettles⟩ := exists_resettles rules hnone hyield hfit
    rw [List.nil_append] at hresettles
    rw [rewriteAll, rewriteAll, hresettles.settle_eq,
      ih (hyield.sublist (settle_sublist rules line.content)) hresettles.fit]

/-- **Rewriting lines once more leaves them**, if the rules yield to each other. -/
theorem rewriteAll_rewriteAll {rules : List Rule} (hyield : rules.Pairwise Yield) (ls : List Line) :
    rewriteAll rules (rewriteAll rules ls) = rewriteAll rules ls := by
  have hfit : rules.Pairwise (Fit []) :=
    List.pairwise_of_forall fun a b => ⟨fun h => by simp at h, fun h => by simp at h⟩
  have hall : without [] rules = rules := List.filter_eq_self.2 fun rule _ => by simp
  have hagain := rewriteAll_rewriteAll_without ls hyield hfit
  rwa [hall] at hagain

/-- **Two rules that do not yield.** Where the later rule takes a line from the earlier one and writes
something that the earlier one does not find, the earlier one finds the next line when it is used once
more. -/
lemma rewriteAll_rewriteAll_ne {a b : Rule} {line next : Line} (hp : b.lead <+: a.lead)
    (hnot : ¬ a.lead <+: b.content) (hline : a.lead <+: line.content)
    (hnext : a.lead <+: next.content) (hne : next.content ≠ a.content) :
    rewriteAll [a, b] (rewriteAll [a, b] [line, next]) ≠ rewriteAll [a, b] [line, next] := by
  have honce : rewriteAll [a, b] [line, next] = [{ line with content := b.content }, next] := by
    simp [rewriteAll, settle, hline, hp.trans a.lead_start]
  have htwice : rewriteAll [a, b] [{ line with content := b.content }, next] =
      [{ line with content := b.content }, { next with content := a.content }] := by
    simp [rewriteAll, settle, hnot, b.lead_start, hnext]
  rw [honce, htwice]
  intro h
  have hsame : { next with content := a.content } = next := by simpa using h
  exact hne (congrArg Line.content hsame).symm

end Rule

end Workbench
