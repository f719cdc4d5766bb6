import Mathlib.Data.List.Dedup

/-! A history in which the same element may come several times, and the order that it
gives to the elements that are still wanted: by the last time each of them came, the
latest first. -/

namespace BluezTutorial.History

variable {α : Type*} [DecidableEq α]

theorem dedup_concat (l : List α) (a : α) : (l ++ [a]).dedup = l.dedup.erase a ++ [a] := by
  induction l with
  | nil => simp
  | cons b l ih =>
      rw [List.cons_append]
      by_cases same : b = a
      · rw [List.dedup_cons_of_mem (by simp [same]), ih, same]
        by_cases mem : a ∈ l
        · rw [List.dedup_cons_of_mem mem]
        · have absent : a ∉ l.dedup := fun h => mem (List.mem_dedup.mp h)
          rw [List.dedup_cons_of_notMem mem, List.erase_cons_head, List.erase_of_not_mem absent]
      · by_cases mem : b ∈ l
        · rw [List.dedup_cons_of_mem (List.mem_append_left _ mem), List.dedup_cons_of_mem mem, ih]
        · have absent : b ∉ l ++ [a] := by simp [mem, same]
          have other : ¬(b == a) = true := by simpa using same
          rw [List.dedup_cons_of_notMem absent, List.dedup_cons_of_notMem mem,
            List.erase_cons_tail other, ih, List.cons_append]

/-- The elements of a history that are still wanted, the latest first. -/
def latest (wanted : α → Bool) (history : List α) : List α := (history.dedup.filter wanted).reverse

theorem nodup_latest (wanted : α → Bool) (history : List α) : (latest wanted history).Nodup :=
  List.nodup_reverse.mpr ((List.nodup_dedup history).filter _)

theorem latest_concat {wanted : α → Bool} {a : α} (some : wanted a = true) (history : List α) :
    latest wanted (history ++ [a]) = a :: (latest wanted history).erase a := by
  have nodup := List.nodup_dedup history
  rw [latest, dedup_concat, List.filter_append, List.reverse_append,
    (nodup_latest wanted history).erase_eq_filter, latest, List.filter_reverse,
    List.filter_filter, nodup.erase_eq_filter, List.filter_filter]
  simp [some, Bool.and_comm]

theorem latest_remove {wanted wanted' : α → Bool} {a : α} (history : List α)
    (same : ∀ b, wanted' b = (wanted b && (b != a))) :
    latest wanted' history = (latest wanted history).erase a := by
  rw [(nodup_latest wanted history).erase_eq_filter, latest, latest, List.filter_reverse,
    List.filter_filter]
  congr 1
  refine List.filter_congr fun b _ => ?_
  rw [same, Bool.and_comm]

theorem latest_congr {wanted wanted' : α → Bool} {history : List α}
    (same : ∀ a ∈ history, wanted a = wanted' a) :
    latest wanted history = latest wanted' history := by
  rw [latest, latest]
  congr 1
  exact List.filter_congr fun a mem => same a (List.mem_dedup.mp mem)

theorem mem_latest {wanted : α → Bool} {history : List α} {a : α} :
    a ∈ latest wanted history ↔ a ∈ history ∧ wanted a = true := by
  simp [latest]

end BluezTutorial.History
