import Mathlib.Data.List.Induction
import Mathlib.Data.List.Infix

/-! Finite runs of a deterministic labelled step function. All choice lives in
the labels: a scheduler, a peer or a kernel that may answer in several ways is a
family of labels, and `none` means that the label cannot be taken in that state.
A run is therefore a list of labels, and the state after every prefix of it is
determined, which is what lets "in every state of this run" be a statement about
prefixes. The rules at the end turn a step lemma into a statement about runs. -/

namespace BluezTutorial.LabelledRun

variable {σ ι : Type*} {step : σ → ι → Option σ} {s t : σ} {labels : List ι} {label : ι}

/-- The state after taking the labels in order. -/
def run (step : σ → ι → Option σ) (s : σ) (labels : List ι) : Option σ :=
  labels.foldlM step s

/-- `P` holds in every state the run passes, the first and the last included. -/
def Along (step : σ → ι → Option σ) (P : σ → Prop) (s : σ) (labels : List ι) : Prop :=
  ∀ front t, front <+: labels → run step s front = some t → P t

/-- Every step of the run is taken in a state in which `G` allows its label. -/
def Guarded (step : σ → ι → Option σ) (G : σ → ι → Prop) (s : σ) (labels : List ι) : Prop :=
  ∀ front label t, front ++ [label] <+: labels → run step s front = some t → G t label

@[simp] theorem run_nil : run step s [] = some s := rfl

theorem run_cons : run step s (label :: labels) =
    (step s label).bind fun t => run step t labels := by
  simp [run]

theorem run_singleton : run step s [label] = step s label := by
  simp [run]

theorem run_append (front back : List ι) : run step s (front ++ back) =
    (run step s front).bind fun t => run step t back := by
  simp [run, List.foldlM_append]

theorem run_concat : run step s (labels ++ [label]) =
    (run step s labels).bind fun t => step t label := by
  rw [run_append]
  simp [run]

theorem run_concat_eq_some : run step s (labels ++ [label]) = some t ↔
    ∃ u, run step s labels = some u ∧ step u label = some t := by
  rw [run_concat, Option.bind_eq_some_iff]

/-- A run that goes through has gone through every prefix. -/
theorem run_of_isPrefix {front : List ι} (hfront : front <+: labels)
    (hrun : run step s labels = some t) : ∃ u, run step s front = some u := by
  obtain ⟨back, rfl⟩ := hfront
  rw [run_append, Option.bind_eq_some_iff] at hrun
  obtain ⟨u, hu, _⟩ := hrun
  exact ⟨u, hu⟩

theorem Along.of_isPrefix {P : σ → Prop} {front : List ι} (h : Along step P s labels)
    (hfront : front <+: labels) : Along step P s front :=
  fun shorter u hshorter hu => h shorter u (hshorter.trans hfront) hu

theorem Along.last {P : σ → Prop} (h : Along step P s labels)
    (hrun : run step s labels = some t) : P t :=
  h labels t (List.prefix_refl labels) hrun

theorem Guarded.of_isPrefix {G : σ → ι → Prop} {front : List ι} (h : Guarded step G s labels)
    (hfront : front <+: labels) : Guarded step G s front :=
  fun shorter label u hshorter hu => h shorter label u (hshorter.trans hfront) hu

/-- A guard that looks only at the label is a condition on the list of labels. -/
theorem guarded_iff_forall_mem {p : ι → Prop} (hrun : run step s labels = some t) :
    Guarded step (fun _ label => p label) s labels ↔ ∀ label ∈ labels, p label := by
  constructor
  · intro guarded label hmem
    obtain ⟨front, back, rfl⟩ := List.append_of_mem hmem
    have hfront : front ++ [label] <+: front ++ label :: back := ⟨back, by simp⟩
    obtain ⟨u, hu⟩ := run_of_isPrefix (List.prefix_append front (label :: back)) hrun
    exact guarded front label u hfront hu
  · intro all front label u hfront _
    exact all label (hfront.subset (by simp))

/-- A view that commutes with every step, in the states in which `I` holds, commutes
with every run. -/
theorem run_view {σ' ι' : Type*} {step' : σ' → ι' → Option σ'} {I : σ → Prop}
    (view : σ → σ') (lift : ι' → ι)
    (keep : ∀ s label t, I s → step s (lift label) = some t → I t)
    (commute : ∀ s label, I s → (step s (lift label)).map view = step' (view s) label)
    (start : I s) (labels : List ι') :
    (run step s (labels.map lift)).map view = run step' (view s) labels := by
  induction labels generalizing s with
  | nil => rfl
  | cons label labels ih =>
      rw [List.map_cons, run_cons, run_cons, ← commute s label start]
      cases taken : step s (lift label) with
      | none => rfl
      | some t => exact ih (keep s label t start taken)

/-- If every step from related states is answered by some run of the other system, so
is every run. -/
theorem run_simulates {σ' ι' : Type*} {step' : σ' → ι' → Option σ'} {R : σ → σ' → Prop}
    (simulate : ∀ s label t s', R s s' → step s label = some t →
      ∃ labels' t', run step' s' labels' = some t' ∧ R t t')
    {s' : σ'} (start : R s s') (hrun : run step s labels = some t) :
    ∃ labels' t', run step' s' labels' = some t' ∧ R t t' := by
  induction labels generalizing s s' with
  | nil =>
      simp only [run_nil, Option.some.injEq] at hrun
      exact ⟨[], s', rfl, hrun ▸ start⟩
  | cons label labels ih =>
      rw [run_cons, Option.bind_eq_some_iff] at hrun
      obtain ⟨u, hstep, hrun⟩ := hrun
      obtain ⟨front, u', hfront, related⟩ := simulate s label u s' start hstep
      obtain ⟨back, t', hback, related⟩ := ih related hrun
      refine ⟨front ++ back, t', ?_, related⟩
      rw [run_append, hfront]
      exact hback

theorem guarded_nil {G : σ → ι → Prop} : Guarded step G s [] := by
  intro front label t hfront _
  simp at hfront

theorem guarded_cons {G : σ → ι → Prop} : Guarded step G s (label :: labels) ↔
    G s label ∧ ∀ t, step s label = some t → Guarded step G t labels := by
  constructor
  · intro guarded
    refine ⟨guarded [] label s ⟨labels, rfl⟩ rfl, fun t ht front other u hfront hu => ?_⟩
    refine guarded (label :: front) other u ((List.prefix_cons_inj label).mpr hfront) ?_
    rw [run_cons, ht]
    exact hu
  · rintro ⟨first, rest⟩ front other u hfront hu
    cases front with
    | nil =>
        obtain rfl : other = label := by simpa using hfront
        obtain rfl : s = u := by simpa using hu
        exact first
    | cons head front =>
        obtain ⟨rfl, shorter⟩ := List.cons_prefix_cons.mp hfront
        rw [run_cons, Option.bind_eq_some_iff] at hu
        obtain ⟨t, ht, hu⟩ := hu
        exact rest t ht front other u shorter hu

instance decidableGuarded {G : σ → ι → Prop} [∀ s label, Decidable (G s label)] :
    (s : σ) → (labels : List ι) → Decidable (Guarded step G s labels)
  | _, [] => isTrue guarded_nil
  | s, label :: labels =>
      match h : step s label with
      | none => decidable_of_iff (G s label) (by simp [guarded_cons, h])
      | some t =>
          have : Decidable (Guarded step G t labels) := decidableGuarded t labels
          decidable_of_iff (G s label ∧ Guarded step G t labels) (by simp [guarded_cons, h])

/-- What the guarded steps keep holds after a guarded run. -/
theorem guarded_invariant {I : σ → Prop} {G : σ → ι → Prop}
    (keep : ∀ s label t, I s → G s label → step s label = some t → I t)
    (start : I s) (guarded : Guarded step G s labels)
    (hrun : run step s labels = some t) : I t := by
  induction labels using List.reverseRecOn generalizing t with
  | nil =>
      simp only [run_nil, Option.some.injEq] at hrun
      exact hrun ▸ start
  | append_singleton labels label ih =>
      obtain ⟨u, hu, hstep⟩ := run_concat_eq_some.mp hrun
      have before : I u := ih (guarded.of_isPrefix (List.prefix_append labels [label])) hu
      exact keep u label t before (guarded labels label u (List.prefix_refl _) hu) hstep

/-- What every step keeps holds after every run. -/
theorem invariant {I : σ → Prop} (keep : ∀ s label t, I s → step s label = some t → I t)
    (start : I s) (hrun : run step s labels = some t) : I t :=
  guarded_invariant (G := fun _ _ => True) (fun s label t hs _ => keep s label t hs)
    start (fun _ _ _ _ _ => trivial) hrun

theorem along_of_guarded {I P : σ → Prop} {G : σ → ι → Prop}
    (keep : ∀ s label t, I s → G s label → step s label = some t → I t)
    (sound : ∀ s, I s → P s) (start : I s) (guarded : Guarded step G s labels) :
    Along step P s labels :=
  fun _ u hfront hu =>
    sound u (guarded_invariant keep start (guarded.of_isPrefix hfront) hu)

/-- The guard is exact: if the guarded steps keep `I`, `I` gives `P`, and the
first unguarded step breaks `P`, then `P` holds along a run exactly when every
step of the run is guarded. -/
theorem along_iff_guarded {I P : σ → Prop} {G : σ → ι → Prop}
    (keep : ∀ s label t, I s → G s label → step s label = some t → I t)
    (sound : ∀ s, I s → P s)
    (tight : ∀ s label t, I s → step s label = some t → P t → G s label)
    (start : I s) (hrun : run step s labels = some t) :
    Along step P s labels ↔ Guarded step G s labels := by
  refine ⟨fun along => ?_, along_of_guarded keep sound start⟩
  induction labels using List.reverseRecOn generalizing t with
  | nil =>
      intro front label u hfront _
      simp at hfront
  | append_singleton labels label ih =>
      obtain ⟨u, hu, hstep⟩ := run_concat_eq_some.mp hrun
      have earlier : Guarded step G s labels :=
        ih hu (along.of_isPrefix (List.prefix_append labels [label]))
      have before : I u := guarded_invariant keep start earlier hu
      intro front other v hfront hv
      rw [List.prefix_concat_iff] at hfront
      rcases hfront with same | shorter
      · obtain ⟨rfl, last⟩ := List.append_inj' same rfl
        obtain rfl : other = label := by simpa using last
        obtain rfl : u = v := by simpa [hu] using hv
        exact tight u other t before hstep (along.last hrun)
      · exact earlier front other v shorter hv

end BluezTutorial.LabelledRun
