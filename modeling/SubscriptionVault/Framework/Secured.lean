import SubscriptionVault.Framework.Execution

/-!
# What an execution secures

In a fixed environment an execution may depend on a fact about the state to have its values come
out right, and on those values to keep that fact. `Secures r P x Q` states both at once, for runs
that succeed: the invariant `P` of the state is kept, and the value satisfies `Q`.
-/

namespace SubscriptionVault.Exec

variable {ρ ε σ α β : Type}

/-- A success from a state of `P` ends in a state of `P`, with a value of `Q`. -/
def Secures (r : ρ) (P : σ → Prop) (x : Exec ρ ε σ α) (Q : α → Prop) : Prop :=
  ∀ s a t, P s → x.run r s = .ok a t → P t ∧ Q a

namespace Secures

variable {r : ρ} {P : σ → Prop} {x : Exec ρ ε σ α} {f : α → Exec ρ ε σ β} {Q : α → Prop}
  {Q' : β → Prop}

theorem bind (hx : x.Secures r P Q) (hf : ∀ a, Q a → (f a).Secures r P Q') :
    (x >>= f).Secures r P Q' := by
  intro s b t hs hrun
  obtain ⟨a, u, hfirst, hrest⟩ := run_bind_ok.mp hrun
  obtain ⟨hu, ha⟩ := hx s a u hs hfirst
  exact hf a ha u b t hu hrest

/-- Code that moves only between states that agree on `P`. -/
theorem of_keeps {R : σ → σ → Prop} (hx : x.Keeps R) (hR : ∀ s t, R s t → P s → P t) :
    x.Secures r P fun _ => True :=
  fun s _ t hs hrun => ⟨hR s t (hx.ok hrun) hs, trivial⟩

theorem quiet {R : σ → σ → Prop} (hx : x.Keeps R) (hR : ∀ s t, R s t → P s → P t)
    (hf : ∀ a, (f a).Secures r P Q') : (x >>= f).Secures r P Q' :=
  (of_keeps hx hR).bind fun a _ => hf a

/-- A check leaves the state alone, so nothing has to be said about it. -/
theorem check (hx : x.Keeps Eq) (hf : ∀ a, (f a).Secures r P Q') : (x >>= f).Secures r P Q' :=
  quiet hx (fun _ _ h => h ▸ id) hf

theorem pure {a : α} (ha : Q a) : (Pure.pure a : Exec ρ ε σ α).Secures r P Q := by
  intro s b t hs hrun
  obtain ⟨rfl, rfl⟩ := run_pure_ok.mp hrun
  exact ⟨hs, ha⟩

theorem lift {o : Except ε α} (h : ∀ a, o = .ok a → Q a) :
    (Exec.lift o : Exec ρ ε σ α).Secures r P Q := by
  intro s a t hs hrun
  obtain ⟨ha, rfl⟩ := run_lift_ok.mp hrun
  exact ⟨hs, h a ha⟩

theorem when {c : Prop} [Decidable c] {x : Exec ρ ε σ Unit}
    (h : c → x.Secures r P fun _ => True) : (when c x).Secures r P fun _ => True := by
  intro s u t hs hrun
  rcases run_when_ok.mp hrun with ⟨hc, hrun⟩ | ⟨-, rfl⟩
  · exact h hc s () t hs hrun
  · exact ⟨hs, trivial⟩

theorem ite {c : Prop} [Decidable c] {x y : Exec ρ ε σ α} (hx : c → x.Secures r P Q)
    (hy : ¬c → y.Secures r P Q) : (if c then x else y).Secures r P Q := by
  split
  · exact hx ‹c›
  · exact hy ‹¬c›

end Secures

end SubscriptionVault.Exec
