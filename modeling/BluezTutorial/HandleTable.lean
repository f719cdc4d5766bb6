import Mathlib.Data.Int.Notation
import Mathlib.Data.List.Nodup
import Mathlib.Logic.Function.Basic

/-! Numbered handles whose numbers are reused, as a kernel's descriptor table.
A number stands for a resource while it is open; closing frees the number and a
later grant may give the same number to another resource. The resources are the
identities that statements about double closing need, since the numbers alone do
not tell two grants of one number apart. Every close call is recorded with what
its number stood for at that moment, `none` for a number that was not open. -/

namespace BluezTutorial

structure HandleTable (ρ : Type*) where
  target : ℤ → Option ρ
  closes : List (ℤ × Option ρ)

namespace HandleTable

variable {ρ : Type*} {table : HandleTable ρ} {number : ℤ} {resource : ρ}

def grant (table : HandleTable ρ) (number : ℤ) (resource : ρ) : HandleTable ρ :=
  { table with target := Function.update table.target number (some resource) }

def close (table : HandleTable ρ) (number : ℤ) : HandleTable ρ where
  target := Function.update table.target number none
  closes := table.closes ++ [(number, table.target number)]

/-- Some number still stands for the resource. -/
def Live (table : HandleTable ρ) (resource : ρ) : Prop :=
  ∃ number, table.target number = some resource

/-- A resource has one number, a closed resource stays closed, and no resource
was closed twice. -/
structure Sound (table : HandleTable ρ) : Prop where
  unique : ∀ m n resource, table.target m = some resource →
    table.target n = some resource → m = n
  gone : ∀ resource, resource ∈ table.closes.filterMap Prod.snd → ¬ table.Live resource
  once : (table.closes.filterMap Prod.snd).Nodup

@[simp] theorem grant_target_self :
    (table.grant number resource).target number = some resource := by
  simp [grant]

theorem grant_target_of_ne {other : ℤ} (h : other ≠ number) :
    (table.grant number resource).target other = table.target other := by
  simp [grant, h]

@[simp] theorem close_closes :
    (table.close number).closes = table.closes ++ [(number, table.target number)] := rfl

@[simp] theorem close_target_self : (table.close number).target number = none := by
  simp [close]

theorem close_target_of_ne {other : ℤ} (h : other ≠ number) :
    (table.close number).target other = table.target other := by
  simp [close, h]

theorem close_target_eq_some {other : ℤ} :
    (table.close number).target other = some resource ↔
      other ≠ number ∧ table.target other = some resource := by
  by_cases h : other = number
  · simp [h]
  · simp [close_target_of_ne h, h]

theorem live_grant (free : table.target number = none) {other : ρ} :
    (table.grant number resource).Live other ↔ other = resource ∨ table.Live other := by
  constructor
  · rintro ⟨n, hn⟩
    by_cases h : n = number
    · subst h
      rw [grant_target_self] at hn
      exact Or.inl (Option.some.inj hn).symm
    · exact Or.inr ⟨n, by rwa [grant_target_of_ne h] at hn⟩
  · rintro (rfl | ⟨n, hn⟩)
    · exact ⟨number, grant_target_self⟩
    · have h : n ≠ number := by
        rintro rfl
        simp [free] at hn
      exact ⟨n, by rwa [grant_target_of_ne h]⟩

theorem live_of_live_close (h : (table.close number).Live resource) : table.Live resource := by
  obtain ⟨n, hn⟩ := h
  exact ⟨n, (close_target_eq_some.mp hn).2⟩

/-- Closing the number of a resource is the end of that resource. -/
theorem Sound.not_live_close (sound : table.Sound)
    (held : table.target number = some resource) : ¬ (table.close number).Live resource := by
  rintro ⟨n, hn⟩
  obtain ⟨different, target⟩ := close_target_eq_some.mp hn
  exact different (sound.unique n number resource target held)

/-- A grant keeps the table sound when the resource is a new one. -/
theorem Sound.grant (sound : table.Sound) (free : table.target number = none)
    (fresh : ¬ table.Live resource) (unclosed : resource ∉ table.closes.filterMap Prod.snd) :
    (table.grant number resource).Sound where
  unique m n r hm hn := by
    by_cases em : m = number <;> by_cases en : n = number
    · rw [em, en]
    · subst em
      rw [grant_target_self, Option.some.injEq] at hm
      rw [grant_target_of_ne en] at hn
      exact absurd ⟨n, hm ▸ hn⟩ fresh
    · subst en
      rw [grant_target_self, Option.some.injEq] at hn
      rw [grant_target_of_ne em] at hm
      exact absurd ⟨m, hn ▸ hm⟩ fresh
    · rw [grant_target_of_ne em] at hm
      rw [grant_target_of_ne en] at hn
      exact sound.unique m n r hm hn
  gone r hr := by
    rw [live_grant free]
    rintro (rfl | live)
    · exact unclosed hr
    · exact sound.gone r hr live
  once := sound.once

/-- A close keeps the table sound, whatever the number stood for. -/
theorem Sound.close (sound : table.Sound) (number : ℤ) : (table.close number).Sound where
  unique m n r hm hn :=
    sound.unique m n r (close_target_eq_some.mp hm).2 (close_target_eq_some.mp hn).2
  gone r hr := by
    rw [close_closes, List.filterMap_append, List.mem_append] at hr
    rcases hr with earlier | now
    · exact fun live => sound.gone r earlier (live_of_live_close live)
    · have held : table.target number = some r := by simpa using now
      exact sound.not_live_close held
  once := by
    rw [close_closes, List.filterMap_append, List.nodup_append']
    refine ⟨sound.once, ?_, ?_⟩
    · cases table.target number <;> simp
    · intro r earlier now
      have held : table.target number = some r := by simpa using now
      exact sound.gone r earlier ⟨number, held⟩

end HandleTable

end BluezTutorial
