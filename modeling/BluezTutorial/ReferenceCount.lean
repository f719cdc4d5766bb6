import BluezTutorial.KeyedList
import Mathlib.Data.List.Perm.Lattice

/-! Objects that count the references to them and are freed with the last one. A heap is
a list of records with a key and a counter, and a list of holders has the key of a record
once for every reference to it, wherever that reference is kept. The two are balanced when
every counter is right, no record outlives its references and no reference outlives its
record. -/

namespace BluezTutorial.ReferenceCount
open KeyedList

structure Counter (α κ : Type*) where
  key : α → κ
  ref : α → ℕ
  put : ℕ → α → α
  key_put : ∀ n x, key (put n x) = key x
  ref_put : ∀ n x, ref (put n x) = n
  put_put : ∀ m n x, put m (put n x) = put m x
  put_ref : ∀ x, put (ref x) x = x

variable {α κ : Type*} [DecidableEq κ] (c : Counter α κ)

def acquire (k : κ) (heap : List α) : List α :=
  update c.key k (fun x => c.put (c.ref x + 1) x) heap

def release (k : κ) (heap : List α) : List α :=
  match find c.key k heap with
  | none => heap
  | some x =>
      if 1 < c.ref x then update c.key k (fun x => c.put (c.ref x - 1) x) heap
      else remove c.key k heap

structure Balanced (heap : List α) (holders : List κ) : Prop where
  distinct : Distinct c.key heap
  count : ∀ x ∈ heap, c.ref x = holders.count (c.key x)
  positive : ∀ x ∈ heap, 0 < c.ref x
  alive : ∀ k ∈ holders, ∃ x ∈ heap, c.key x = k

variable {c} {heap : List α} {holders : List κ} {k : κ} {x y : α} {f : α → α}

theorem balanced_nil : Balanced c [] [] :=
  ⟨List.nodup_nil, by simp, by simp, by simp⟩

theorem mem_acquire (h : y ∈ acquire c k heap) : ∃ x ∈ heap, c.key x = c.key y ∧
    (y = x ∨ y = c.put (c.ref x + 1) x) := by
  obtain ⟨x, mem, rfl⟩ := List.mem_map.mp h
  by_cases same : c.key x = k
  · rw [if_pos same]
    exact ⟨x, mem, (c.key_put _ _).symm, Or.inr rfl⟩
  · rw [if_neg same]
    exact ⟨x, mem, rfl, Or.inl rfl⟩

theorem mem_release (h : y ∈ release c k heap) : ∃ x ∈ heap, c.key x = c.key y ∧
    (y = x ∨ y = c.put (c.ref x - 1) x) := by
  unfold release at h
  split at h
  · exact ⟨y, h, rfl, Or.inl rfl⟩
  · split at h
    · obtain ⟨x, mem, rfl⟩ := List.mem_map.mp h
      by_cases same : c.key x = k
      · rw [if_pos same]
        exact ⟨x, mem, (c.key_put _ _).symm, Or.inr rfl⟩
      · rw [if_neg same]
        exact ⟨x, mem, rfl, Or.inl rfl⟩
    · exact ⟨y, (mem_remove.mp h).1, rfl, Or.inl rfl⟩

/-- A reference that is given back at once. -/
theorem release_acquire (distinct : Distinct c.key heap) (mem : x ∈ heap) (positive : 0 < c.ref x) :
    release c (c.key x) (acquire c (c.key x) heap) = heap := by
  have keeps : ∀ y, c.key y = c.key x → c.key (c.put (c.ref y + 1) y) = c.key x :=
    fun y same => (c.key_put _ y).trans same
  have found : find c.key (c.key x) (acquire c (c.key x) heap) = some (c.put (c.ref x + 1) x) := by
    rw [acquire, find_update keeps, (find_eq_some distinct).mpr ⟨mem, rfl⟩, Option.map_some]
  have more : 1 < c.ref (c.put (c.ref x + 1) x) := by
    rw [c.ref_put]
    omega
  simp only [release, found, more, if_true]
  rw [acquire, update_update keeps]
  refine update_eq_self fun y _ _ => ?_
  rw [c.ref_put, c.put_put, Nat.add_sub_cancel, c.put_ref]

namespace Balanced

theorem perm {others : List κ} (balanced : Balanced c heap holders) (same : holders.Perm others) :
    Balanced c heap others where
  distinct := balanced.distinct
  count x mem := (balanced.count x mem).trans (same.count_eq _)
  positive := balanced.positive
  alive k mem := balanced.alive k (same.mem_iff.mpr mem)

theorem held (balanced : Balanced c heap holders) (mem : x ∈ heap) : c.key x ∈ holders := by
  rw [← List.count_pos_iff, ← balanced.count x mem]
  exact balanced.positive x mem

theorem find_eq_some (balanced : Balanced c heap holders) (mem : k ∈ holders) :
    ∃ x ∈ heap, c.key x = k ∧ KeyedList.find c.key k heap = some x := by
  obtain ⟨x, xmem, same⟩ := balanced.alive k mem
  exact ⟨x, xmem, same, (KeyedList.find_eq_some balanced.distinct).mpr ⟨xmem, same⟩⟩

/-- Nothing that concerns the references changes. -/
theorem update_same (balanced : Balanced c heap holders) (keys : ∀ x, c.key (f x) = c.key x)
    (refs : ∀ x, c.ref (f x) = c.ref x) : Balanced c (update c.key k f heap) holders := by
  have each : ∀ y ∈ update c.key k f heap, ∃ x ∈ heap, c.key x = c.key y ∧ c.ref x = c.ref y := by
    intro y mem
    obtain ⟨x, xmem, rfl⟩ := List.mem_map.mp mem
    refine ⟨x, xmem, ?_⟩
    by_cases same : c.key x = k
    · rw [if_pos same]
      exact ⟨(keys x).symm, (refs x).symm⟩
    · rw [if_neg same]
      exact ⟨rfl, rfl⟩
  have kept := map_key_update (l := heap) fun x (same : c.key x = k) => (keys x).trans same
  refine ⟨balanced.distinct.update fun x same => (keys x).trans same, fun y mem => ?_,
    fun y mem => ?_, fun j mem => ?_⟩
  · obtain ⟨x, xmem, sameKey, sameRef⟩ := each y mem
    rw [← sameKey, ← sameRef]
    exact balanced.count x xmem
  · obtain ⟨x, xmem, -, sameRef⟩ := each y mem
    exact sameRef ▸ balanced.positive x xmem
  · obtain ⟨x, xmem, rfl⟩ := balanced.alive j mem
    have still : c.key x ∈ (update c.key k f heap).map c.key := by
      rw [kept]
      exact List.mem_map_of_mem xmem
    exact List.mem_map.mp still

theorem acquire (balanced : Balanced c heap holders) (held : k ∈ holders) :
    Balanced c (acquire c k heap) (k :: holders) := by
  have keeps : ∀ x, c.key x = k → c.key (c.put (c.ref x + 1) x) = k :=
    fun x same => (c.key_put _ x).trans same
  refine ⟨balanced.distinct.update keeps, fun y mem => ?_, fun y mem => ?_, fun j mem => ?_⟩
  · obtain ⟨x, xmem, rfl⟩ := List.mem_map.mp mem
    by_cases same : c.key x = k
    · rw [if_pos same, c.ref_put, c.key_put, balanced.count x xmem, ← same, List.count_cons_self]
    · rw [if_neg same, List.count_cons_of_ne (Ne.symm same)]
      exact balanced.count x xmem
  · obtain ⟨x, xmem, rfl⟩ := List.mem_map.mp mem
    by_cases same : c.key x = k
    · rw [if_pos same, c.ref_put]
      exact Nat.succ_pos _
    · rw [if_neg same]
      exact balanced.positive x xmem
  · have before : j ∈ holders := by
      rcases List.mem_cons.mp mem with rfl | mem
      · exact held
      · exact mem
    obtain ⟨x, xmem, rfl⟩ := balanced.alive j before
    have still : c.key x ∈ (ReferenceCount.acquire c k heap).map c.key := by
      rw [ReferenceCount.acquire, map_key_update keeps]
      exact List.mem_map_of_mem xmem
    exact List.mem_map.mp still

theorem release (balanced : Balanced c heap (k :: holders)) :
    Balanced c (release c k heap) holders := by
  obtain ⟨x, xmem, same, found⟩ := balanced.find_eq_some List.mem_cons_self
  have references := balanced.count x xmem
  rw [same, List.count_cons_self] at references
  have others : ∀ y ∈ heap, c.key y ≠ k → c.ref y = holders.count (c.key y) := by
    intro y mem ne
    rw [balanced.count y mem, List.count_cons_of_ne (Ne.symm ne)]
  simp only [ReferenceCount.release, found]
  split
  · next more =>
      have keeps : ∀ x, c.key x = k → c.key (c.put (c.ref x - 1) x) = k :=
        fun x same => (c.key_put _ x).trans same
      refine ⟨balanced.distinct.update keeps, fun y mem => ?_, fun y mem => ?_, fun j mem => ?_⟩
      · rw [← same, mem_update balanced.distinct xmem] at mem
        rcases mem with ⟨mem, ne⟩ | rfl
        · exact others y mem (same ▸ ne)
        · rw [c.ref_put, c.key_put, same]
          omega
      · rw [← same, mem_update balanced.distinct xmem] at mem
        rcases mem with ⟨mem, _⟩ | rfl
        · exact balanced.positive y mem
        · rw [c.ref_put]
          omega
      · obtain ⟨y, ymem, rfl⟩ := balanced.alive j (List.mem_cons_of_mem _ mem)
        have still : c.key y ∈ (update c.key k (fun x => c.put (c.ref x - 1) x) heap).map c.key := by
          rw [map_key_update keeps]
          exact List.mem_map_of_mem ymem
        exact List.mem_map.mp still
  · next last =>
      have none : k ∉ holders := by
        rw [← List.count_eq_zero]
        omega
      refine ⟨balanced.distinct.remove k, fun y mem => ?_, fun y mem => ?_, fun j mem => ?_⟩
      · obtain ⟨mem, ne⟩ := mem_remove.mp mem
        exact others y mem ne
      · exact balanced.positive y (mem_remove.mp mem).1
      · obtain ⟨y, ymem, rfl⟩ := balanced.alive j (List.mem_cons_of_mem _ mem)
        refine ⟨y, mem_remove.mpr ⟨ymem, fun equal => none (equal ▸ mem)⟩, rfl⟩

/-- A new record with its first reference. -/
theorem concat (balanced : Balanced c heap holders) (one : c.ref x = 1)
    (fresh : ∀ y ∈ heap, c.key y ≠ c.key x) : Balanced c (heap ++ [x]) (c.key x :: holders) := by
  have unheld : c.key x ∉ holders := by
    intro mem
    obtain ⟨y, ymem, same⟩ := balanced.alive _ mem
    exact fresh y ymem same
  refine ⟨balanced.distinct.concat fresh, fun y mem => ?_, fun y mem => ?_, fun j mem => ?_⟩
  · rcases List.mem_append.mp mem with old | new
    · rw [List.count_cons_of_ne (fresh y old).symm]
      exact balanced.count y old
    · rw [List.mem_singleton.mp new, one, List.count_cons_self, List.count_eq_zero.mpr unheld]
  · rcases List.mem_append.mp mem with old | new
    · exact balanced.positive y old
    · rw [List.mem_singleton.mp new, one]
      exact Nat.one_pos
  · rcases List.mem_cons.mp mem with rfl | old
    · exact ⟨x, by simp, rfl⟩
    · obtain ⟨y, ymem, same⟩ := balanced.alive j old
      exact ⟨y, List.mem_append_left _ ymem, same⟩

end Balanced

end BluezTutorial.ReferenceCount
