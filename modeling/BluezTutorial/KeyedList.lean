import Mathlib.Data.List.Nodup

/-! Lists of records that carry their own key, as the linked lists of a C program
carry pointers: the order of the list matters to whoever looks for a first match on
some other field, and the key is what tells two records apart. While the keys are
distinct, looking a key up, replacing its record and taking it out of the list each
concern one record and leave the others in place. -/

namespace BluezTutorial.KeyedList

variable {α κ : Type*} (key : α → κ)

def Distinct (l : List α) : Prop := (l.map key).Nodup

section Distinct

variable {key} {l : List α} {x y : α}

theorem Distinct.eq_of_key_eq (distinct : Distinct key l) (hx : x ∈ l) (hy : y ∈ l)
    (same : key x = key y) : x = y :=
  List.inj_on_of_nodup_map distinct hx hy same

theorem Distinct.concat (distinct : Distinct key l) (fresh : ∀ y ∈ l, key y ≠ key x) :
    Distinct key (l ++ [x]) := by
  rw [Distinct, List.map_append]
  refine List.Nodup.append distinct (List.nodup_singleton _) ?_
  intro k old new
  obtain ⟨y, mem, rfl⟩ := List.mem_map.mp old
  exact fresh y mem (List.mem_singleton.mp new)

end Distinct

variable [DecidableEq κ]

def find (k : κ) (l : List α) : Option α := l.find? (key · = k)

def update (k : κ) (f : α → α) (l : List α) : List α :=
  l.map fun x => if key x = k then f x else x

def remove (k : κ) (l : List α) : List α := l.filter (key · ≠ k)

variable {key} {k : κ} {f : α → α} {l : List α} {x y : α} {p : α → Bool}

theorem find_eq_some (distinct : Distinct key l) :
    find key k l = some x ↔ x ∈ l ∧ key x = k := by
  constructor
  · intro found
    exact ⟨List.mem_of_find?_eq_some found, by simpa using List.find?_some found⟩
  · rintro ⟨mem, rfl⟩
    have some : (find key (key x) l).isSome := List.find?_isSome.mpr ⟨x, mem, by simp⟩
    obtain ⟨y, found⟩ := Option.isSome_iff_exists.mp some
    have same : key y = key x := by simpa using List.find?_some found
    rw [found, distinct.eq_of_key_eq (List.mem_of_find?_eq_some found) mem same]

theorem mem_remove : x ∈ remove key k l ↔ x ∈ l ∧ key x ≠ k := by
  simp [remove]

theorem Distinct.remove (distinct : Distinct key l) (k : κ) : Distinct key (remove key k l) :=
  List.Nodup.sublist (List.filter_sublist.map key) distinct

section Update

variable (keeps : ∀ x, key x = k → key (f x) = k)
include keeps

theorem map_key_update : (update key k f l).map key = l.map key := by
  rw [update, List.map_map]
  refine List.map_congr_left fun x _ => ?_
  by_cases h : key x = k
  · simp [h, keeps x h]
  · simp [h]

theorem Distinct.update (distinct : Distinct key l) : Distinct key (update key k f l) := by
  rw [Distinct, map_key_update keeps]
  exact distinct

theorem update_update (g : α → α) : update key k g (update key k f l) =
    update key k (fun x => g (f x)) l := by
  rw [update, update, List.map_map]
  refine List.map_congr_left fun x _ => ?_
  by_cases h : key x = k
  · simp [h, keeps x h]
  · simp [h]

theorem remove_update : remove key k (update key k f l) = remove key k l := by
  induction l with
  | nil => rfl
  | cons x l ih =>
      by_cases h : key x = k
      · simpa [remove, update, h, keeps x h] using ih
      · simpa [remove, update, h] using ih

theorem find_update : find key k (update key k f l) = (find key k l).map f := by
  induction l with
  | nil => rfl
  | cons x l ih =>
      by_cases h : key x = k
      · simp [find, update, h, keeps x h]
      · simpa [find, update, h] using ih

end Update

theorem update_eq_self (same : ∀ x ∈ l, key x = k → f x = x) : update key k f l = l := by
  conv_rhs => rw [← List.map_id l]
  refine List.map_congr_left fun x mem => ?_
  by_cases h : key x = k
  · simp [h, same x mem h]
  · simp [h]

theorem update_congr {g : α → α} (same : ∀ x ∈ l, key x = k → f x = g x) :
    update key k f l = update key k g l := by
  refine List.map_congr_left fun x mem => ?_
  by_cases h : key x = k
  · simp [h, same x mem h]
  · simp [h]

theorem mem_update (distinct : Distinct key l) (hx : x ∈ l) :
    y ∈ update key (key x) f l ↔ (y ∈ l ∧ key y ≠ key x) ∨ y = f x := by
  rw [update, List.mem_map]
  constructor
  · rintro ⟨z, mem, rfl⟩
    by_cases h : key z = key x
    · rw [if_pos h, distinct.eq_of_key_eq mem hx h]
      exact Or.inr rfl
    · rw [if_neg h]
      exact Or.inl ⟨mem, h⟩
  · rintro (⟨mem, h⟩ | rfl)
    · exact ⟨y, mem, if_neg h⟩
    · exact ⟨x, hx, if_pos rfl⟩

/-- Up to order, a list is any one of its records and the rest. -/
theorem perm_cons_remove (distinct : Distinct key l) (hx : x ∈ l) :
    l.Perm (x :: remove key (key x) l) := by
  have whole := (List.filter_append_perm (fun y => key y = key x) l).symm
  have one : l.filter (fun y => key y = key x) = [x] := by
    refine List.perm_singleton.mp ((List.perm_ext_iff_of_nodup
      (distinct.of_map.filter _) (List.nodup_singleton x)).mpr fun y => ?_)
    simp only [List.mem_filter, decide_eq_true_eq, List.mem_singleton]
    refine ⟨fun h => distinct.eq_of_key_eq h.1 hx h.2, ?_⟩
    rintro rfl
    exact ⟨hx, rfl⟩
  rw [one] at whole
  simpa [remove] using whole

theorem perm_update (distinct : Distinct key l) (hx : x ∈ l) :
    (update key (key x) f l).Perm (f x :: remove key (key x) l) := by
  refine ((perm_cons_remove distinct hx).map _).trans ?_
  rw [List.map_cons, if_pos rfl]
  refine List.Perm.cons _ (List.Perm.of_eq ?_)
  conv_rhs => rw [← List.map_id (remove key (key x) l)]
  refine List.map_congr_left fun y hy => ?_
  rw [if_neg (mem_remove.mp hy).2, id]

/-- Taking one record out lowers a count by that record. -/
theorem countP_remove (distinct : Distinct key l) (hx : x ∈ l) :
    (remove key (key x) l).countP p + (if p x then 1 else 0) = l.countP p := by
  induction l with
  | nil => cases hx
  | cons y l ih =>
      have tail : Distinct key l := (List.nodup_cons.mp distinct).2
      have head : key y ∉ l.map key := (List.nodup_cons.mp distinct).1
      rcases List.mem_cons.mp hx with rfl | mem
      · have whole : remove key (key x) l = l := by
          refine List.filter_eq_self.mpr fun z hz => ?_
          simpa using fun same : key z = key x => head (same ▸ List.mem_map_of_mem hz)
        simp only [remove, List.filter_cons, ne_eq, not_true_eq_false, decide_false,
          Bool.false_eq_true, if_false, List.countP_cons] at whole ⊢
        rw [whole]
      · have other : key y ≠ key x := fun same => head (same ▸ List.mem_map_of_mem mem)
        have rest := ih tail mem
        simp only [remove, List.filter_cons, ne_eq, other, not_false_eq_true, decide_true,
          if_true, List.countP_cons] at rest ⊢
        omega

/-- Replacing records by ones that count the same changes no count. -/
theorem countP_update (same : ∀ x ∈ l, key x = k → p (f x) = p x) :
    (update key k f l).countP p = l.countP p := by
  rw [update, List.countP_map]
  refine List.countP_congr fun x mem => ?_
  by_cases h : key x = k
  · simp [h, same x mem h]
  · simp [h]

end BluezTutorial.KeyedList
