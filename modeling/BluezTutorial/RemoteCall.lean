import BluezTutorial.LabelledRun

/-! Asynchronous calls between two parties. The caller issues a request under a
fresh serial and counts it as outstanding until a reply comes in or it gives up
waiting; the request meanwhile travels to the callee, which may serve it before
or after the caller gave up, in any order with other requests. Replies that come
after the timeout are dropped. `served` records the requests the callee has
served, in the order it served them.

The last section is about a silent callee, one that never sends a reply: there
the caller only ever sees timeouts, whatever the callee did. -/

namespace BluezTutorial.RemoteCall

variable {κ σ ρ α δ : Type}

/-- The two parties: what the caller does when it issues a request and when one
is resolved (`none` is a timeout), and how the callee serves a request under the
inputs `δ` of its own environment. -/
structure Parties (κ σ ρ α δ : Type) where
  issue : κ → ℕ → ρ → κ
  resolve : κ → ℕ → ρ → Option α → κ
  serve : σ → δ → ρ → Option (σ × List α)

structure State (κ σ ρ α : Type) where
  caller : κ
  callee : σ
  issued : ℕ
  outstanding : List (ℕ × ρ)
  queue : List (ℕ × ρ)
  replies : List (ℕ × α)
  served : List ρ

inductive Label (ρ δ : Type) where
  | issue (request : ρ)
  | dispatch (position : ℕ) (input : δ)
  | deliver (position : ℕ)
  | timeOut (position : ℕ)

def State.start (caller : κ) (callee : σ) : State κ σ ρ α :=
  ⟨caller, callee, 0, [], [], [], []⟩

def step (parties : Parties κ σ ρ α δ) (s : State κ σ ρ α) :
    Label ρ δ → Option (State κ σ ρ α)
  | .issue request =>
      some { s with
        caller := parties.issue s.caller s.issued request
        issued := s.issued + 1
        outstanding := s.outstanding ++ [(s.issued, request)]
        queue := s.queue ++ [(s.issued, request)] }
  | .dispatch position input => do
      let (serial, request) ← s.queue[position]?
      let (callee, answers) ← parties.serve s.callee input request
      some { s with
        callee := callee
        queue := s.queue.eraseIdx position
        replies := s.replies ++ answers.map (serial, ·)
        served := s.served ++ [request] }
  | .deliver position => do
      let (serial, answer) ← s.replies[position]?
      match s.outstanding.find? (·.1 = serial) with
      | none => some { s with replies := s.replies.eraseIdx position }
      | some (_, request) =>
          some { s with
            caller := parties.resolve s.caller serial request (some answer)
            outstanding := s.outstanding.filter (·.1 ≠ serial)
            replies := s.replies.eraseIdx position }
  | .timeOut position => do
      let (serial, request) ← s.outstanding[position]?
      some { s with
        caller := parties.resolve s.caller serial request none
        outstanding := s.outstanding.eraseIdx position }

variable {parties : Parties κ σ ρ α δ} {s t : State κ σ ρ α} {label : Label ρ δ}

/-- What one step does to the callee: nothing, or it serves one request. -/
theorem step_callee (h : step parties s label = some t) :
    (t.callee = s.callee ∧ t.served = s.served) ∨
    ∃ input request answers,
      parties.serve s.callee input request = some (t.callee, answers) ∧
      t.served = s.served ++ [request] := by
  cases label with
  | issue request =>
      simp only [step, Option.some.injEq] at h
      subst h
      exact Or.inl ⟨rfl, rfl⟩
  | dispatch position input =>
      simp only [step, Option.bind_eq_bind, Option.bind_eq_some_iff, Prod.exists,
        Option.some.injEq] at h
      obtain ⟨serial, request, _, callee, answers, served, rfl⟩ := h
      exact Or.inr ⟨input, request, answers, served, rfl⟩
  | deliver position =>
      simp only [step, Option.bind_eq_bind, Option.bind_eq_some_iff, Prod.exists] at h
      obtain ⟨serial, answer, _, h⟩ := h
      split at h <;> simp only [Option.some.injEq] at h <;> subst h <;> exact Or.inl ⟨rfl, rfl⟩
  | timeOut position =>
      simp only [step, Option.bind_eq_bind, Option.bind_eq_some_iff, Prod.exists,
        Option.some.injEq] at h
      obtain ⟨serial, request, _, rfl⟩ := h
      exact Or.inl ⟨rfl, rfl⟩

/-- A property of the callee and of the requests it has served, kept by serving. -/
theorem callee_invariant {J : σ → List ρ → Prop}
    (keep : ∀ callee input request callee' answers served, J callee served →
      parties.serve callee input request = some (callee', answers) →
      J callee' (served ++ [request]))
    {labels : List (Label ρ δ)} (start : J s.callee s.served)
    (hrun : LabelledRun.run (step parties) s labels = some t) : J t.callee t.served := by
  refine LabelledRun.invariant (I := fun s => J s.callee s.served) ?_ start hrun
  intro s label t before h
  rcases step_callee h with ⟨callee, served⟩ | ⟨input, request, answers, serve, served⟩
  · rw [callee, served]
    exact before
  · rw [served]
    exact keep _ _ _ _ _ _ before serve

section Silent

/-- A callee that takes every request over and answers none. -/
def Silent (parties : Parties κ σ ρ α δ) : Prop :=
  ∀ callee input request callee' answers,
    parties.serve callee input request = some (callee', answers) → answers = []

/-- What one step of a system with a silent callee does to the caller. -/
theorem step_caller_of_silent (silent : Silent parties) (quiet : s.replies = [])
    (h : step parties s label = some t) :
    t.replies = [] ∧ (t.caller = s.caller ∨
      (∃ request, t.caller = parties.issue s.caller s.issued request) ∨
      ∃ serial request, t.caller = parties.resolve s.caller serial request none) := by
  cases label with
  | issue request =>
      simp only [step, Option.some.injEq] at h
      subst h
      exact ⟨quiet, Or.inr (Or.inl ⟨request, rfl⟩)⟩
  | dispatch position input =>
      simp only [step, Option.bind_eq_bind, Option.bind_eq_some_iff, Prod.exists,
        Option.some.injEq] at h
      obtain ⟨serial, request, _, callee, answers, served, rfl⟩ := h
      refine ⟨?_, Or.inl rfl⟩
      simp [quiet, silent _ _ _ _ _ served]
  | deliver position =>
      simp [step, quiet] at h
  | timeOut position =>
      simp only [step, Option.bind_eq_bind, Option.bind_eq_some_iff, Prod.exists,
        Option.some.injEq] at h
      obtain ⟨serial, request, _, rfl⟩ := h
      exact ⟨quiet, Or.inr (Or.inr ⟨serial, request, rfl⟩)⟩

/-- Against a silent callee, what issuing and timing out keep is all that the
caller's state ever satisfies. -/
theorem caller_invariant_of_silent {K : κ → Prop} (silent : Silent parties)
    (issue : ∀ caller serial request, K caller → K (parties.issue caller serial request))
    (timeOut : ∀ caller serial request, K caller → K (parties.resolve caller serial request none))
    {labels : List (Label ρ δ)} (start : K s.caller) (quiet : s.replies = [])
    (hrun : LabelledRun.run (step parties) s labels = some t) : K t.caller := by
  have both : K t.caller ∧ t.replies = [] := by
    refine LabelledRun.invariant (I := fun s => K s.caller ∧ s.replies = []) ?_
      ⟨start, quiet⟩ hrun
    rintro s label t ⟨before, quiet⟩ h
    obtain ⟨still, same | ⟨request, issued⟩ | ⟨serial, request, timedOut⟩⟩ :=
      step_caller_of_silent silent quiet h
    · exact ⟨same ▸ before, still⟩
    · exact ⟨issued ▸ issue _ _ _ before, still⟩
    · exact ⟨timedOut ▸ timeOut _ _ _ before, still⟩
  exact both.1

end Silent

end BluezTutorial.RemoteCall
