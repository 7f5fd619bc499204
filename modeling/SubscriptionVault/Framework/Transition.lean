import Mathlib

/-!
# Labelled transition systems with histories

A run remembers every step it took together with the state the step was taken in, latest
first. Invariants may speak about that history, so that a statement of the form "this entry is
here because of that earlier step" is an ordinary invariant.
-/

namespace SubscriptionVault

universe u v w

variable {Label : Type u} {σ : Type v}

/-- The steps taken in a run and the states they were taken in, latest first. -/
abbrev History (Label : Type u) (σ : Type v) := List (Label × σ)

/-- The steps that led to `t` with the states before and after them, latest first. -/
def transitions : History Label σ → σ → List (Label × σ × σ)
  | [], _ => []
  | (l, s) :: earlier, t => (l, s, t) :: transitions earlier s

theorem mem_of_mem_transitions {hist : History Label σ} {l : Label} {s t u : σ}
    (h : (l, s, u) ∈ transitions hist t) : (l, s) ∈ hist := by
  induction hist generalizing t with
  | nil => cases h
  | cons step earlier ih =>
    rcases List.mem_cons.mp h with heq | h
    · cases heq
      exact List.mem_cons_self
    · exact List.mem_cons_of_mem _ (ih h)

/-- The runs from `start`. -/
inductive Run (step : Label → σ → σ → Prop) (start : σ) : History Label σ → σ → Prop
  | start : Run step start [] start
  | next {hist : History Label σ} {s t : σ} {l : Label} :
      Run step start hist s → step l s t → Run step start ((l, s) :: hist) t

/-- The steps whose label and source state satisfy `P`. -/
def Guarded (P : Label → σ → Prop) (step : Label → σ → σ → Prop) : Label → σ → σ → Prop :=
  fun l s t => P l s ∧ step l s t

/-- A step of the history satisfies `made`, and all later steps satisfy `K`. -/
def Since (K made : Label → σ → Prop) : History Label σ → Prop
  | [] => False
  | (l, s) :: earlier => made l s ∨ K l s ∧ Since K made earlier

namespace Since

variable {K K' made made' : Label → σ → Prop} {hist : History Label σ} {l : Label} {s : σ}

theorem mono (hK : ∀ l s, K l s → K' l s) (hmade : ∀ l s, made l s → made' l s)
    (h : Since K made hist) : Since K' made' hist := by
  induction hist with
  | nil => exact h
  | cons step earlier ih =>
    rcases h with h | ⟨hs, h⟩
    · exact .inl (hmade _ _ h)
    · exact .inr ⟨hK _ _ hs, ih h⟩

theorem exists_mem (h : Since K made hist) : ∃ step ∈ hist, made step.1 step.2 := by
  induction hist with
  | nil => exact h.elim
  | cons step earlier ih =>
    rcases h with h | ⟨-, h⟩
    · exact ⟨step, List.mem_cons_self, h⟩
    · obtain ⟨before, hmem, hmade⟩ := ih h
      exact ⟨before, List.mem_cons_of_mem _ hmem, hmade⟩

/-- A step that is neither the one looked for nor in the way. -/
theorem cons_iff (hmade : ¬made l s) (hK : K l s) :
    Since K made ((l, s) :: hist) ↔ Since K made hist := by
  simp only [Since, hmade, hK, false_or, true_and]

end Since

namespace Run

variable {step : Label → σ → σ → Prop} {start s t : σ} {hist later : History Label σ}

/-- An invariant of histories and states that every step preserves. -/
theorem invariant {I : History Label σ → σ → Prop} (hstart : I [] start)
    (hstep : ∀ hist s l t, I hist s → step l s t → I ((l, s) :: hist) t)
    (hrun : Run step start hist s) : I hist s := by
  induction hrun with
  | start => exact hstart
  | next _ hlast ih => exact hstep _ _ _ _ ih hlast

/-- An invariant of states that every step preserves. -/
theorem invariant_state {I : σ → Prop} (hstart : I start)
    (hstep : ∀ l s t, I s → step l s t → I t) (hrun : Run step start hist s) : I s :=
  hrun.invariant (I := fun _ => I) hstart fun _ s l t hs => hstep l s t hs

/-- Where only some steps put a value into a cell, a value that is there was put by one of them,
and no later step took it away. -/
theorem since_stored {V : Type w} (cell : σ → Option V) {I : σ → Prop} {P : Label → σ → Prop}
    {K made : V → Label → σ → Prop} (hempty : cell start = none) (hstart : I start)
    (hstep : ∀ l s t, P l s → I s → step l s t → I t ∧ ∀ v, cell t = some v →
      made v l s ∨ K v l s ∧ cell s = some v)
    (hrun : Run step start hist s) (hall : ∀ taken ∈ hist, P taken.1 taken.2) :
    I s ∧ ∀ v, cell s = some v → Since (K v) (made v) hist := by
  induction hrun with
  | start =>
    refine ⟨hstart, fun v hv => ?_⟩
    rw [hempty] at hv
    cases hv
  | next _ hlast ih =>
    obtain ⟨hI, hsince⟩ := ih fun taken hmem => hall taken (List.mem_cons_of_mem _ hmem)
    obtain ⟨hI', hcell⟩ := hstep _ _ _ (hall _ List.mem_cons_self) hI hlast
    refine ⟨hI', fun v hv => ?_⟩
    rcases hcell v hv with hmade | ⟨hK, hold⟩
    · exact .inl hmade
    · exact .inr ⟨hK, hsince v hold⟩

theorem append (hrun : Run step start hist s) (hlater : Run step s later t) :
    Run step start (later ++ hist) t := by
  induction hlater with
  | start => exact hrun
  | next _ hlast ih => exact .next ih hlast

theorem mono {step' : Label → σ → σ → Prop} (himp : ∀ l s t, step l s t → step' l s t)
    (hrun : Run step start hist s) : Run step' start hist s := by
  induction hrun with
  | start => exact .start
  | next _ hlast ih => exact .next ih (himp _ _ _ hlast)

/-- A step of the run was taken in a state the run had reached before. -/
theorem step_of_mem (hrun : Run step start hist s) {l : Label} {u : σ} (hmem : (l, u) ∈ hist) :
    ∃ earlier v, Run step start earlier u ∧ step l u v := by
  induction hrun with
  | start => cases hmem
  | next hbefore hlast ih =>
    rcases List.mem_cons.mp hmem with heq | hmem
    · cases heq
      exact ⟨_, _, hbefore, hlast⟩
    · exact ih hmem

/-- The run up to one of its transitions, and the step taken there. -/
theorem before_transition (hrun : Run step start hist t) {l : Label} {u v : σ}
    (hmem : (l, u, v) ∈ transitions hist t) :
    ∃ earlier, Run step start earlier u ∧ earlier ⊆ hist ∧ step l u v := by
  induction hrun with
  | start => cases hmem
  | next hbefore hlast ih =>
    rcases List.mem_cons.mp hmem with heq | hmem
    · cases heq
      exact ⟨_, hbefore, List.subset_cons_self _ _, hlast⟩
    · obtain ⟨earlier, hrun, hsubset, hstep⟩ := ih hmem
      exact ⟨earlier, hrun, List.subset_cons_of_subset _ hsubset, hstep⟩

/-- Every transition of the run is a step. -/
theorem step_of_transition (hrun : Run step start hist t) {l : Label} {u v : σ}
    (hmem : (l, u, v) ∈ transitions hist t) : step l u v := by
  obtain ⟨-, -, -, hstep⟩ := hrun.before_transition hmem
  exact hstep

end Run

end SubscriptionVault
