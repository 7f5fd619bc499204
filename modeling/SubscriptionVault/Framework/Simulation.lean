import SubscriptionVault.Framework.Execution
import SubscriptionVault.Framework.FiniteStore

/-!
# The same code in related states

Code respects a relation between states when two runs of it that start in related states end
in the same way: with the same value or the same error, in related states again. Code that
does not read some of the keys of a store respects agreement off them.
-/

namespace SubscriptionVault

/-- Two ends of the same kind, with the same value or error, in `R`-related states. -/
inductive Outcome.Matches {ε σ α : Type} (R : σ → σ → Prop) :
    Outcome ε σ α → Outcome ε σ α → Prop
  | ok (a : α) {s s' : σ} : R s s' → Matches R (.ok a s) (.ok a s')
  | err (e : ε) {s s' : σ} : R s s' → Matches R (.err e s) (.err e s')
  | trap : Matches R .trap .trap

theorem Outcome.Matches.of_ok {ε σ α : Type} {R : σ → σ → Prop} {a : α} {s : σ}
    {o : Outcome ε σ α} (h : Outcome.Matches R (.ok a s) o) : ∃ s', o = .ok a s' ∧ R s s' := by
  cases h with
  | ok _ hstates => exact ⟨_, rfl, hstates⟩

theorem Outcome.Matches.ok_of {ε σ α : Type} {R : σ → σ → Prop} {a : α} {s' : σ}
    {o : Outcome ε σ α} (h : Outcome.Matches R o (.ok a s')) : ∃ s, o = .ok a s ∧ R s s' := by
  cases h with
  | ok _ hstates => exact ⟨_, rfl, hstates⟩

namespace Exec

variable {ρ ε σ α β : Type}

/-- Runs from `R`-related states match. -/
def Respects (R : σ → σ → Prop) (x : Exec ρ ε σ α) : Prop :=
  ∀ r s s', R s s' → (x.run r s).Matches R (x.run r s')

namespace Respects

variable {R : σ → σ → Prop} {x : Exec ρ ε σ α}

theorem pure (a : α) : (Pure.pure a : Exec ρ ε σ α).Respects R := fun _ _ _ h => .ok a h

theorem fail (e : ε) : (fail e : Exec ρ ε σ α).Respects R := fun _ _ _ h => .err e h

theorem trap : (trap : Exec ρ ε σ α).Respects R := fun _ _ _ _ => .trap

theorem ask : (ask : Exec ρ ε σ ρ).Respects R := fun r _ _ h => .ok r h

/-- What is read is the same in related states. -/
theorem gets {f : σ → α} (hf : ∀ s s', R s s' → f s' = f s) :
    (gets f : Exec ρ ε σ α).Respects R := by
  intro r s s' h
  show Outcome.Matches R (.ok (f s) s) (.ok (f s') s')
  rw [hf s s' h]
  exact .ok _ h

theorem update {f : σ → σ} (hf : ∀ s s', R s s' → R (f s) (f s')) :
    (update f : Exec ρ ε σ Unit).Respects R :=
  fun _ s s' h => .ok () (hf s s' h)

theorem ite {c : Prop} [Decidable c] {y : Exec ρ ε σ α} (hx : x.Respects R)
    (hy : y.Respects R) : (if c then x else y).Respects R := by
  split
  · exact hx
  · exact hy

theorem failIf (c : Prop) [Decidable c] (e : ε) : (failIf c e : Exec ρ ε σ Unit).Respects R :=
  ite (fail e) (pure ())

theorem require (c : Prop) [Decidable c] : (require c : Exec ρ ε σ Unit).Respects R :=
  ite (pure ()) trap

theorem okOr (o : Option α) (e : ε) : (okOr o e : Exec ρ ε σ α).Respects R := by
  cases o with
  | some a => exact pure a
  | none => exact fail e

theorem unwrap (o : Option α) : (unwrap o : Exec ρ ε σ α).Respects R := by
  cases o with
  | some a => exact pure a
  | none => exact trap

theorem lift (y : Except ε α) : (lift y : Exec ρ ε σ α).Respects R := by
  cases y with
  | ok a => exact pure a
  | error e => exact fail e

theorem bind {f : α → Exec ρ ε σ β} (hx : x.Respects R) (hf : ∀ a, (f a).Respects R) :
    (x >>= f).Respects R := by
  intro r s s' h
  have hmatch := hx r s s' h
  generalize hrun : x.run r s = o at hmatch
  generalize hrun' : x.run r s' = o' at hmatch
  cases hmatch with
  | ok a hstates =>
    rw [run_bind_of_ok hrun, run_bind_of_ok hrun']
    exact hf a r _ _ hstates
  | err e hstates =>
    rw [run_bind_of_err hrun, run_bind_of_err hrun']
    exact .err e hstates
  | trap =>
    rw [run_bind_of_trap hrun, run_bind_of_trap hrun']
    exact .trap

/-- The whole state is read for something that is the same in related states. -/
theorem bind_state {f : σ → Exec ρ ε σ β} (hsame : ∀ s s', R s s' → f s' = f s)
    (hf : ∀ s, (f s).Respects R) : (Exec.gets (fun s => s) >>= f).Respects R := by
  intro r s s' h
  show Outcome.Matches R ((f s).run r s) ((f s').run r s')
  rw [hsame s s' h]
  exact hf s r s s' h

theorem when {c : Prop} [Decidable c] {x : Exec ρ ε σ Unit} (h : x.Respects R) :
    (when c x).Respects R :=
  ite h (pure ())

theorem whenSome {o : Option α} {f : α → Exec ρ ε σ Unit} (h : ∀ a, (f a).Respects R) :
    (whenSome o f).Respects R := by
  cases o with
  | some a => exact h a
  | none => exact pure ()

theorem forEach {f : α → Exec ρ ε σ Unit} (h : ∀ a, (f a).Respects R) (as : List α) :
    (forEach as f).Respects R := by
  induction as with
  | nil => exact pure ()
  | cons a as ih => exact bind (h a) fun _ => ih

theorem attempt (h : x.Respects R) : (attempt x).Respects R := by
  intro r s s' hstates
  have hmatch := h r s s' hstates
  unfold Exec.attempt
  dsimp only
  generalize x.run r s = o at hmatch ⊢
  generalize x.run r s' = o' at hmatch ⊢
  cases hmatch with
  | ok a hend => exact .ok _ hend
  | err e hend => exact .ok _ hend
  | trap => exact .trap

end Respects

end Exec

end SubscriptionVault
