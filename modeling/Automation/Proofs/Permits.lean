import Automation.Proofs.Activities

/-
  Permits that are free no later.

  Activities that run side by side take the permit that is free first, and
  give it back when they are over.  When at any time at least as many
  permits are free, the next activity can start at least as early, and
  when it is over no later, this stays so.

  Key definitions include:
    * `FreeNoLater`, permits that are free at least as early

  Key theorems include:
    * `FreeNoLater.earliest_le`, the next activity starts no later
    * `FreeNoLater.replaceFirst`, a permit that is given back no later
-/

namespace Automation

/- At any time, at least as many of the second permits are free. -/
def FreeNoLater
    (first second : List Nat) : Prop :=
  ∀ time,
    first.countP (fun free => free ≤ time) ≤
      second.countP (fun free => free ≤ time)

------------------------------------------------------------
-- The Permit That Is Free First
------------------------------------------------------------

namespace Activity

variable {free : List Nat}

theorem earliest_le
    {time : Nat}
    (hTime : time ∈ free) :
    earliest free ≤ time := by
  induction free with
  | nil => cases hTime
  | cons first rest ih =>
      cases rest with
      | nil =>
          rw [List.mem_singleton.mp hTime]
          exact Nat.le_refl _
      | cons next rest =>
          have hEarliest :
              earliest (first :: next :: rest) =
                min first (earliest (next :: rest)) := rfl
          rw [hEarliest]
          rcases List.mem_cons.mp hTime with rfl | hRest
          · exact Nat.min_le_left _ _
          · exact Nat.le_trans (Nat.min_le_right _ _) (ih hRest)

theorem countP_earliest_pos
    (hFree : free ≠ []) :
    0 < free.countP (fun time => time ≤ earliest free) :=
  List.countP_pos_iff.mpr
    ⟨_, earliest_mem hFree, by simp⟩

theorem countP_replaceFirst
    (holds : Nat → Bool)
    {old : Nat}
    (new : Nat)
    (hOld : old ∈ free) :
    (replaceFirst old new free).countP holds +
        (if holds old then 1 else 0) =
      free.countP holds + if holds new then 1 else 0 := by
  induction free with
  | nil => cases hOld
  | cons time rest ih =>
      rw [replaceFirst]
      split
      · rename_i hTime
        subst hTime
        simp only [List.countP_cons]
        omega
      · rename_i hTime
        have hRest : old ∈ rest := by
          rcases List.mem_cons.mp hOld with rfl | hRest
          · exact absurd rfl hTime
          · exact hRest
        have hCount := ih hRest
        simp only [List.countP_cons]
        omega

end Activity

------------------------------------------------------------
-- Permits That Are Given Back
------------------------------------------------------------

namespace FreeNoLater

open Activity

variable {first second : List Nat}

theorem replicate
    {permits more early late : Nat}
    (hMore : permits ≤ more)
    (hEarly : early ≤ late) :
    FreeNoLater (List.replicate permits late)
      (List.replicate more early) := by
  intro time
  simp only [List.countP_replicate, decide_eq_true_eq]
  split
  · rw [if_pos (by omega)]
    exact hMore
  · exact Nat.zero_le _

theorem ne_nil
    (hFree : FreeNoLater first second)
    (hFirst : first ≠ []) :
    second ≠ [] := by
  rintro rfl
  have hCount := hFree (earliest first)
  rw [List.countP_nil] at hCount
  have hSome := countP_earliest_pos hFirst
  omega

/- The next activity can start at least as early. -/
theorem earliest_le
    (hFree : FreeNoLater first second)
    (hFirst : first ≠ []) :
    earliest second ≤ earliest first := by
  have hSome :=
    Nat.lt_of_lt_of_le (countP_earliest_pos hFirst)
      (hFree (earliest first))
  rcases List.countP_pos_iff.mp hSome with
    ⟨time, hTime, hLe⟩
  exact Nat.le_trans (Activity.earliest_le hTime)
    (by simpa using hLe)

/- A permit that is given back no later is free no later. -/
theorem replaceFirst
    {late early : Nat}
    (hFree : FreeNoLater first second)
    (hFirst : first ≠ [])
    (hLate : earliest first ≤ late)
    (hEarly : early ≤ late) :
    FreeNoLater
      (replaceFirst (earliest first) late first)
      (replaceFirst (earliest second) early second) := by
  intro time
  have hStart := hFree.earliest_le hFirst
  have hCountFirst :=
    countP_replaceFirst (fun free => free ≤ time) late
      (earliest_mem hFirst)
  have hCountSecond :=
    countP_replaceFirst (fun free => free ≤ time) early
      (earliest_mem (hFree.ne_nil hFirst))
  have hCount := hFree time
  simp only [decide_eq_true_eq] at hCountFirst hCountSecond
  by_cases hTime : earliest first ≤ time
  · -- Both permits that are taken were free by then.
    rw [if_pos hTime] at hCountFirst
    rw [if_pos (by omega)] at hCountSecond
    by_cases hBack : late ≤ time
    · rw [if_pos hBack] at hCountFirst
      rw [if_pos (by omega)] at hCountSecond
      omega
    · rw [if_neg hBack] at hCountFirst
      split at hCountSecond <;> omega
  · -- None of the first permits is free by then.
    have hNone :
        (Activity.replaceFirst (earliest first) late
          first).countP (fun free => free ≤ time) = 0 := by
      rw [List.countP_eq_zero]
      intro other hOther
      rcases List.mem_cons.mp
          (replaceFirst_subset _ _ _ hOther) with
        rfl | hOther
      · simp only [decide_eq_true_eq]
        omega
      · have hLe := Activity.earliest_le hOther
        simp only [decide_eq_true_eq]
        omega
    omega

end FreeNoLater

end Automation
