import SubscriptionVault.Framework.Execution

/-!
# Executions that do not abort

An execution returns when it ends with a value or an error in every environment and state. Code
without aborts of its own returns when its parts do. Where a part may abort, the place of the
abort is found along the program text.
-/

namespace SubscriptionVault.Exec

variable {ρ ε σ α β : Type}

/-- `x` ends with a value or an error, wherever it starts. -/
def Returns (x : Exec ρ ε σ α) : Prop := ∀ r s, x.run r s ≠ .trap

/-- The run has aborted. -/
def aborted : Outcome ε σ α → Bool
  | .trap => true
  | _ => false

theorem aborted_iff {o : Outcome ε σ α} : aborted o = true ↔ o = .trap := by
  cases o <;> simp [aborted]

/-- A sequence aborts in its first part, or in the second after the first has succeeded. -/
theorem run_bind_trap {x : Exec ρ ε σ α} {f : α → Exec ρ ε σ β} {r : ρ} {s : σ} :
    (x >>= f).run r s = .trap ↔
      x.run r s = .trap ∨ ∃ a t, x.run r s = .ok a t ∧ (f a).run r t = .trap := by
  cases hx : x.run r s with
  | ok a t =>
    rw [run_bind_of_ok hx]
    constructor
    · exact fun hrest => .inr ⟨a, t, rfl, hrest⟩
    · rintro (hfirst | ⟨a', t', hsame, hrest⟩)
      · cases hfirst
      · cases hsame
        exact hrest
  | err e t =>
    rw [run_bind_of_err hx]
    constructor
    · intro h
      cases h
    · rintro (hfirst | ⟨a', t', hsame, -⟩)
      · cases hfirst
      · cases hsame
  | trap =>
    rw [run_bind_of_trap hx]
    exact ⟨fun _ => .inl rfl, fun _ => rfl⟩

namespace Returns

variable {x : Exec ρ ε σ α}

theorem pure (a : α) : (Pure.pure a : Exec ρ ε σ α).Returns := fun _ _ h => by cases h

theorem fail (e : ε) : (fail e : Exec ρ ε σ α).Returns := fun _ _ h => by cases h

theorem ask : (ask : Exec ρ ε σ ρ).Returns := fun _ _ h => by cases h

theorem gets (f : σ → α) : (gets f : Exec ρ ε σ α).Returns := fun _ _ h => by cases h

theorem update (f : σ → σ) : (update f : Exec ρ ε σ Unit).Returns := fun _ _ h => by cases h

theorem ite {c : Prop} [Decidable c] {y : Exec ρ ε σ α} (hx : x.Returns) (hy : y.Returns) :
    (if c then x else y).Returns := by
  split
  · exact hx
  · exact hy

theorem failIf (c : Prop) [Decidable c] (e : ε) : (failIf c e : Exec ρ ε σ Unit).Returns :=
  ite (fail e) (pure ())

theorem okOr (o : Option α) (e : ε) : (okOr o e : Exec ρ ε σ α).Returns := by
  cases o
  · exact fail e
  · exact pure _

theorem lift (y : Except ε α) : (lift y : Exec ρ ε σ α).Returns := by
  cases y
  · exact fail _
  · exact pure _

theorem when {c : Prop} [Decidable c] {x : Exec ρ ε σ Unit} (h : x.Returns) :
    (when c x).Returns :=
  ite h (pure ())

theorem whenSome {o : Option α} {f : α → Exec ρ ε σ Unit} (h : ∀ a, (f a).Returns) :
    (whenSome o f).Returns := by
  cases o
  · exact pure ()
  · exact h _

theorem bind {f : α → Exec ρ ε σ β} (hx : x.Returns) (hf : ∀ a, (f a).Returns) :
    (x >>= f).Returns := by
  intro r s htrap
  rcases run_bind_trap.mp htrap with hfirst | ⟨a, t, -, hrest⟩
  · exact hx r s hfirst
  · exact hf a r t hrest

theorem forEach {f : α → Exec ρ ε σ Unit} (h : ∀ a, (f a).Returns) (as : List α) :
    (forEach as f).Returns := by
  induction as with
  | nil => exact pure ()
  | cons a as ih => exact bind (h a) fun _ => ih

end Returns

section Places

variable {x : Exec ρ ε σ α} {f : α → Exec ρ ε σ β} {r : ρ} {s : σ}

/-- Code that returns leaves the abort to what follows. -/
theorem Returns.run_bind_trap (h : x.Returns) : (x >>= f).run r s = .trap ↔
    ∃ a t, x.run r s = .ok a t ∧ (f a).run r t = .trap := by
  rw [Exec.run_bind_trap]
  exact or_iff_right (h r s)

/-- A run that cannot abort at first does not abort if no rest does. -/
theorem run_bind_ne_trap (hx : x.run r s ≠ .trap)
    (hf : ∀ a t, x.run r s = .ok a t → (f a).run r t ≠ .trap) : (x >>= f).run r s ≠ .trap := by
  intro htrap
  rcases Exec.run_bind_trap.mp htrap with hfirst | ⟨a, t, hok, hrest⟩
  · exact hx hfirst
  · exact hf a t hok hrest

theorem run_require_ne_trap {c : Prop} [Decidable c] (h : c) :
    (require c : Exec ρ ε σ Unit).run r s ≠ .trap := by
  unfold Exec.require
  rw [if_pos h]
  exact Returns.pure () r s

theorem run_unwrap_ne_trap {o : Option α} (h : o ≠ none) :
    (unwrap o : Exec ρ ε σ α).run r s ≠ .trap := by
  cases o
  · exact absurd rfl h
  · exact Returns.pure _ r s

theorem run_attempt_trap : (attempt x).run r s = .trap ↔ x.run r s = .trap := by
  cases hrun : x.run r s <;> simp [attempt, hrun]

end Places

/-- `x` ends with a value or an error from every state of `P`. -/
def ReturnsFrom (r : ρ) (P : σ → Prop) (x : Exec ρ ε σ α) : Prop :=
  ∀ s, P s → x.run r s ≠ .trap

/-- Whatever `x` returns, it stays in `P`. -/
def StaysIn (r : ρ) (P : σ → Prop) (x : Exec ρ ε σ α) : Prop :=
  ∀ s a t, P s → x.run r s = .ok a t → P t

namespace ReturnsFrom

variable {r : ρ} {P : σ → Prop} {x : Exec ρ ε σ α}

theorem of_returns (h : x.Returns) : x.ReturnsFrom r P := fun s _ => h r s

theorem bind {f : α → Exec ρ ε σ β} (hx : x.ReturnsFrom r P) (hstays : x.StaysIn r P)
    (hf : ∀ a, (f a).ReturnsFrom r P) : (x >>= f).ReturnsFrom r P := by
  intro s hs
  apply run_bind_ne_trap (hx s hs)
  intro a t hrun
  exact hf a t (hstays s a t hs hrun)

theorem ite {c : Prop} [Decidable c] {y : Exec ρ ε σ α} (hx : x.ReturnsFrom r P)
    (hy : y.ReturnsFrom r P) : (if c then x else y).ReturnsFrom r P := by
  split
  · exact hx
  · exact hy

theorem require {c : Prop} [Decidable c] (h : c) :
    (require c : Exec ρ ε σ Unit).ReturnsFrom r P :=
  fun _ _ => run_require_ne_trap h

end ReturnsFrom

end SubscriptionVault.Exec
