import Mathlib.Data.List.Basic

/-!
# First appearances

Names and foreign characters are listed without repetition. `FirstAppearances` says what such a list
has to be, however it is made: each element once, and in the order in which the elements first
appear. `List.eraseDups` makes such a list.
-/

namespace FieldFormula

variable {α : Type} [BEq α] [LawfulBEq α]

/-- The list has each element of `all` once, in the order in which they first appear there. -/
structure FirstAppearances (all listed : List α) : Prop where
  nodup : listed.Nodup
  mem_iff : ∀ x, x ∈ listed ↔ x ∈ all
  ordered : listed.Pairwise fun x y => all.idxOf x < all.idxOf y

/-- Elements that are kept appear in the same order when others are left out. -/
theorem idxOf_lt_of_idxOf_filter_lt {keeps : α → Bool} {all : List α} {x y : α}
    (keepsFirst : keeps x = true) (keepsSecond : keeps y = true)
    (before : (all.filter keeps).idxOf x < (all.filter keeps).idxOf y) :
    all.idxOf x < all.idxOf y := by
  induction all with
  | nil => simp at before
  | cons head rest ih =>
    cases kept : keeps head with
    | true =>
      rw [List.filter_cons_of_pos kept] at before
      grind
    | false =>
      have other : head ≠ x := by
        rintro rfl
        simp [keepsFirst] at kept
      have different : head ≠ y := by
        rintro rfl
        simp [keepsSecond] at kept
      rw [List.filter_cons_of_neg (by simp [kept])] at before
      simpa [other, different] using ih before

/-- **Erasing duplicates lists first appearances.** -/
theorem firstAppearances_eraseDups (all : List α) : FirstAppearances all all.eraseDups := by
  match all with
  | [] => exact ⟨by simp, by simp, by simp⟩
  | first :: rest =>
    -- What is listed behind the first element was listed for the others.
    have others := firstAppearances_eraseDups (rest.filter fun x => !x == first)
    have other {x : α} (member : x ∈ (rest.filter fun x => !x == first).eraseDups) : x ≠ first := by
      simpa using (List.mem_filter.1 ((others.mem_iff x).1 member)).2
    have ordered : (first :: (rest.filter fun x => !x == first).eraseDups).Pairwise fun x y =>
        (first :: rest).idxOf x < (first :: rest).idxOf y := by
      refine List.pairwise_cons.2 ⟨fun y member => ?_, others.ordered.imp_of_mem ?_⟩
      · simp [List.idxOf_cons_ne rest (other member).symm]
      · intro x y memberFirst memberSecond before
        rw [List.idxOf_cons_ne rest (other memberFirst).symm,
          List.idxOf_cons_ne rest (other memberSecond).symm]
        refine Nat.succ_lt_succ (idxOf_lt_of_idxOf_filter_lt ?_ ?_ before)
        · simpa using other memberFirst
        · simpa using other memberSecond
    refine ⟨?_, fun x => List.mem_eraseDups, ?_⟩
    · rw [List.eraseDups_cons]
      exact List.nodup_cons.2 ⟨fun member => other member rfl, others.nodup⟩
    · rw [List.eraseDups_cons]
      exact ordered
termination_by all.length
decreasing_by exact Nat.lt_succ_of_le (List.length_filter_le _ _)

/-- Of the elements that are listed once, those are left that would be listed of what is left. -/
theorem filter_eraseDups (keeps : α → Bool) (all : List α) :
    all.eraseDups.filter keeps = (all.filter keeps).eraseDups := by
  match all with
  | [] => simp
  | first :: rest =>
    have others := filter_eraseDups keeps (rest.filter fun x => !x == first)
    rw [List.eraseDups_cons]
    cases kept : keeps first with
    | true =>
      rw [List.filter_cons_of_pos kept, List.filter_cons_of_pos kept, List.eraseDups_cons, others,
        List.filter_comm]
    | false =>
      -- An element that is left out makes no difference to the others.
      have unchanged : (rest.filter keeps).filter (fun x => !x == first) = rest.filter keeps := by
        refine List.filter_eq_self.2 fun x member => ?_
        have keepsOther := (List.mem_filter.1 member).2
        grind
      rw [List.filter_cons_of_neg (by simp [kept]), List.filter_cons_of_neg (by simp [kept]),
        others, List.filter_comm, unchanged]
termination_by all.length
decreasing_by exact Nat.lt_succ_of_le (List.length_filter_le _ _)

end FieldFormula
