import Mathlib.Data.List.Induction
import Mathlib.Data.List.Nodup

/-!
Contract: lists without their repetitions.

Owns: how `List.eraseDups` grows with a list, that it repeats nothing, and that it leaves
a list alone that repeats nothing.

Does not own: what the lists are made of.
-/

namespace LineTemplate

variable {α : Type} [BEq α] [LawfulBEq α]

theorem eraseDups_concat_of_mem {values : List α} {last : α} (known : last ∈ values) :
    (values ++ [last]).eraseDups = values.eraseDups := by
  rw [List.eraseDups_append]
  simp [List.removeAll, known]

theorem eraseDups_concat_of_not_mem {values : List α} {last : α} (new : last ∉ values) :
    (values ++ [last]).eraseDups = values.eraseDups ++ [last] := by
  rw [List.eraseDups_append]
  simp [List.removeAll, new, List.eraseDups_cons]

theorem nodup_eraseDups (values : List α) : values.eraseDups.Nodup := by
  induction values using List.reverseRecOn with
  | nil => simp
  | append_singleton values last inductionHypothesis =>
      by_cases known : last ∈ values
      · rwa [eraseDups_concat_of_mem known]
      · rw [eraseDups_concat_of_not_mem known, ← List.concat_eq_append]
        exact inductionHypothesis.concat fun among => known (List.mem_eraseDups.mp among)

theorem eraseDups_of_nodup {values : List α} (distinct : values.Nodup) :
    values.eraseDups = values := by
  induction values using List.reverseRecOn with
  | nil => simp
  | append_singleton values last inductionHypothesis =>
      have new : last ∉ values := fun known =>
        (List.nodup_append.mp distinct).2.2 last known last (List.mem_singleton_self last) rfl
      rw [eraseDups_concat_of_not_mem new, inductionHypothesis distinct.of_append_left]

end LineTemplate
