import Mathlib.Data.List.Basic
import RollCall.Logging.Noise

/-!
# What the noise filter makes of a record

The name of a logger is a list of components with dots between them, and a logger is within another
one exactly if its components begin with those of the other one. A record that is below `WARNING`
and comes from within a noisy logger is *muffled*; the filter leaves every other record as it is. Of
what it changes, the filter looks at the level only, and the level that it gives is below `WARNING`
too. So a record that has been judged once is judged in the same way ever after.

## Main definitions

* `components`: the components of a logger's name.
* `Record.IsMuffled`: the records that the filter does not leave as they are.

## Main results

* `isWithin_iff`: a logger is within another one by its components.
* `Record.judge_judge`: a second pass changes nothing.
* `Record.passes_again`: any number of passes is as good as one.
-/

namespace RollCall.Logging

/-! ### Names of loggers -/

/-- The components of a logger's name, with dots between them. -/
def components (name : String) : List (List Char) :=
  name.toList.splitOn '.'

theorem components_ne_nil (name : String) : components name ≠ [] :=
  List.splitOn_ne_nil '.' name.toList

theorem intercalate_components (name : String) :
    ['.'].intercalate (components name) = name.toList :=
  List.intercalate_splitOn '.'

/-- Two lists of components, put together with marks between all of them. -/
theorem intercalate_append {α : Type} {mark : α} {front back : List (List α)} (hfront : front ≠ [])
    (hback : back ≠ []) :
    [mark].intercalate (front ++ back) =
      [mark].intercalate front ++ mark :: [mark].intercalate back := by
  induction front with
  | nil => exact absurd rfl hfront
  | cons part front ih =>
    cases front with
    | nil => simp [List.intercalate_cons_of_ne_nil hback]
    | cons part' front =>
      have hlater : part' :: front ++ back ≠ [] := by simp
      rw [List.cons_append, List.intercalate_cons_of_ne_nil hlater, ih (List.cons_ne_nil part' front),
        List.intercalate_cons_cons]
      simp

/-- **A logger is within another one** if its components begin with those of the other one. -/
theorem isWithin_iff {name above : String} :
    isWithin name above = true ↔ components above <+: components name := by
  rw [isWithin, Bool.or_eq_true, beq_iff_eq, List.isPrefixOf_iff_prefix]
  constructor
  · rintro (rfl | ⟨below, hname⟩)
    · exact List.prefix_refl _
    · rw [List.append_assoc, List.singleton_append] at hname
      rw [components, components, ← hname, List.splitOn_append_cons_self]
      exact List.prefix_append _ _
  · rintro ⟨below, hbelow⟩
    -- The name is put together again from its components.
    have hname := intercalate_components name
    rw [← hbelow] at hname
    by_cases hnone : below = []
    · rw [hnone, List.append_nil, intercalate_components] at hname
      exact .inl (String.toList_inj.1 hname.symm)
    · rw [intercalate_append (components_ne_nil above) hnone, intercalate_components] at hname
      exact .inr ⟨['.'].intercalate below, by simpa using hname⟩

/-- The loggers within a noisy one. -/
theorem isNoisy_iff {name : String} :
    isNoisy name = true ↔ ∃ above ∈ noisyLoggers, components above <+: components name := by
  simp only [isNoisy, List.any_eq_true, isWithin_iff]

/-- A logger whose name goes on without a dot is another one. -/
example : isNoisy "botocore.hooks.retry" = true ∧ isNoisy "botocore.hookshot" = false := by
  decide

namespace Record

/-- A record below `WARNING` that comes from within a noisy logger. -/
def IsMuffled (r : Record) : Prop :=
  r.level < Level.warning.number ∧
    ∃ above ∈ noisyLoggers, components above <+: components r.logger

variable {levels : Levels} {r : Record} {kept : Bool}

/-! ### One pass -/

/-- The records that the filter looks into are the muffled ones. -/
theorem isMuffled_iff : r.IsMuffled ↔
    ¬ (!isNoisy r.logger || decide (Level.warning.number ≤ r.level)) = true := by
  rw [IsMuffled, ← isNoisy_iff]
  simp [and_comm]

theorem judge_of_isMuffled (h : r.IsMuffled) :
    r.judge levels = (levels.of r.logger == Level.debug.number, r.demote) :=
  if_neg (isMuffled_iff.1 h)

theorem judge_of_not_isMuffled (h : ¬ r.IsMuffled) : r.judge levels = (true, r) :=
  if_pos (not_not.1 (mt isMuffled_iff.2 h))

/-- A record that was demoted would be demoted again: `DEBUG` is below `WARNING`. -/
theorem IsMuffled.demote (h : r.IsMuffled) : r.demote.IsMuffled :=
  have hlevel : Level.debug.number < Level.warning.number := by decide
  ⟨hlevel, h.2⟩

/-- **A second pass changes nothing**, and has the same verdict. -/
theorem judge_judge (levels : Levels) (r : Record) :
    (r.judge levels).2.judge levels = r.judge levels := by
  by_cases h : r.IsMuffled
  · rw [judge_of_isMuffled h, judge_of_isMuffled h.demote]
    rfl
  · rw [judge_of_not_isMuffled h, judge_of_not_isMuffled h]

/-! ### Several passes -/

/-- A record that a pass leaves as it is meets the same verdict in every pass. -/
theorem passes_of_judge_eq (h : r.judge levels = (kept, r)) (n : ℕ) :
    r.passes levels n = (List.replicate n kept, r) := by
  induction n with
  | zero => rfl
  | succ n ih => simp [passes, h, ih, List.replicate_succ]

/-- **Any number of passes is as good as one.** All verdicts are that of the first pass, and the
record is as the first pass left it. It is kept as it was unless it is muffled; a muffled one is
demoted, and kept if `DEBUG` is the level that its logger was given. -/
theorem passes_again (levels : Levels) (r : Record) (n : ℕ) :
    r.passes levels (n + 1) = (List.replicate (n + 1) (r.judge levels).1, (r.judge levels).2) ∧
      (r.judge levels ≠ (true, r) → r.IsMuffled) ∧
      (r.IsMuffled → r.judge levels =
        (decide (levels.of r.logger = Level.debug.number), r.demote)) := by
  refine ⟨?_, fun hne => ?_, fun h => ?_⟩
  · have hsteady : (r.judge levels).2.judge levels =
        ((r.judge levels).1, (r.judge levels).2) := judge_judge levels r
    simp [passes, passes_of_judge_eq hsteady, List.replicate_succ]
  · by_contra h
    exact hne (judge_of_not_isMuffled h)
  · exact judge_of_isMuffled h

end Record

end RollCall.Logging
