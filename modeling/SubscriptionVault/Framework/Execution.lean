import Mathlib

/-!
# Executions with errors and traps

An execution reads an environment, threads a state and ends in one of three ways: with a
value, with an error that keeps the state reached so far, or in a trap that keeps nothing.
Whether an error rolls back is for the caller to decide: `attempt` catches an error together
with the writes made before it.

Two kinds of rule are used by proofs. The `run_*_ok` and `run_*_err` equivalences take a
successful or failed run apart. `Keeps R` says that every state an execution can leave behind
is related to its initial state by the preorder `R`, and is proved along the program text.
-/

namespace SubscriptionVault

/-- How an execution ends. -/
inductive Outcome (ε σ α : Type) where
  | ok (value : α) (state : σ)
  | err (error : ε) (state : σ)
  | trap

/-- Every state the outcome leaves behind satisfies `P`. -/
def Outcome.Leaves {ε σ α : Type} (P : σ → Prop) : Outcome ε σ α → Prop
  | .ok _ s => P s
  | .err _ s => P s
  | .trap => True

/-- Success ends in a state of `Q`, an error `e` in a state of `E e`. -/
def Outcome.Ends {ε σ α : Type} (Q : σ → Prop) (E : ε → σ → Prop) : Outcome ε σ α → Prop
  | .ok _ s => Q s
  | .err e s => E e s
  | .trap => True

/-- A computation over an environment `ρ` and a state `σ` that may fail or trap. -/
structure Exec (ρ ε σ α : Type) where
  run : ρ → σ → Outcome ε σ α

namespace Exec

variable {ρ ε σ α β : Type}

instance : Monad (Exec ρ ε σ) where
  pure a := ⟨fun _ s => .ok a s⟩
  bind x f := ⟨fun r s => match x.run r s with
    | .ok a t => (f a).run r t
    | .err e t => .err e t
    | .trap => .trap⟩

/-- Return an error; the writes made so far stand until a caller drops them. -/
def fail (e : ε) : Exec ρ ε σ α := ⟨fun _ s => .err e s⟩

/-- Abort the whole call. -/
def trap : Exec ρ ε σ α := ⟨fun _ _ => .trap⟩

/-- Read the environment. -/
def ask : Exec ρ ε σ ρ := ⟨fun r s => .ok r s⟩

/-- Read from the state. -/
def gets (f : σ → α) : Exec ρ ε σ α := ⟨fun _ s => .ok (f s) s⟩

/-- Change the state. -/
def update (f : σ → σ) : Exec ρ ε σ Unit := ⟨fun _ s => .ok () (f s)⟩

/-- Return the error `e` when `c` holds. -/
def failIf (c : Prop) [Decidable c] (e : ε) : Exec ρ ε σ Unit :=
  if c then fail e else pure ()

/-- Abort unless `c` holds. -/
def require (c : Prop) [Decidable c] : Exec ρ ε σ Unit :=
  if c then pure () else trap

/-- The value, or the error `e` when there is none. -/
def okOr (o : Option α) (e : ε) : Exec ρ ε σ α :=
  match o with
  | some a => pure a
  | none => fail e

/-- The value, or an abort when there is none. -/
def unwrap (o : Option α) : Exec ρ ε σ α :=
  match o with
  | some a => pure a
  | none => trap

/-- Run a pure computation that may fail. -/
def lift (x : Except ε α) : Exec ρ ε σ α :=
  match x with
  | .ok a => pure a
  | .error e => fail e

/-- Run `x` only when `c` holds. -/
def when (c : Prop) [Decidable c] (x : Exec ρ ε σ Unit) : Exec ρ ε σ Unit :=
  if c then x else pure ()

/-- Run `f` on the value, if there is one. -/
def whenSome (o : Option α) (f : α → Exec ρ ε σ Unit) : Exec ρ ε σ Unit :=
  match o with
  | some a => f a
  | none => pure ()

/-- Run `f` on every element, in order. -/
def forEach : List α → (α → Exec ρ ε σ Unit) → Exec ρ ε σ Unit
  | [], _ => pure ()
  | a :: as, f => do
      f a
      forEach as f

/-- Catch an error as a value. The state the error left behind is kept. -/
def attempt (x : Exec ρ ε σ α) : Exec ρ ε σ (Except ε α) :=
  ⟨fun r s => match x.run r s with
    | .ok a t => .ok (.ok a) t
    | .err e t => .ok (.error e) t
    | .trap => .trap⟩

/-- Whether the execution returns a value. -/
def succeeds (x : Exec ρ ε σ Unit) (r : ρ) (s : σ) : Bool :=
  match x.run r s with
  | .ok _ _ => true
  | _ => false

/-- The state a successful execution ends in. -/
def after (x : Exec ρ ε σ Unit) (r : ρ) (s : σ) : σ :=
  match x.run r s with
  | .ok _ t => t
  | _ => s

theorem run_eq_after {x : Exec ρ ε σ Unit} {r : ρ} {s : σ} (h : x.succeeds r s) :
    x.run r s = .ok () (x.after r s) := by
  unfold succeeds at h
  unfold after
  split at h
  · rename_i heq
    rw [heq]
  · cases h

theorem succeeds_of_ok {x : Exec ρ ε σ Unit} {r : ρ} {s t : σ} (h : x.run r s = .ok () t) :
    x.succeeds r s = true := by
  unfold succeeds
  rw [h]

theorem after_of_ok {x : Exec ρ ε σ Unit} {r : ρ} {s t : σ} (h : x.run r s = .ok () t) :
    x.after r s = t := by
  unfold after
  rw [h]

theorem after_of_not_ok {x : Exec ρ ε σ Unit} {r : ρ} {s : σ} (h : ∀ t, x.run r s ≠ .ok () t) :
    x.after r s = s := by
  unfold after
  split
  · rename_i t hrun
    exact absurd hrun (h t)
  · rfl

/-- Whether the execution returns `a`. -/
def returns [DecidableEq α] (x : Exec ρ ε σ α) (r : ρ) (s : σ) (a : α) : Bool :=
  match x.run r s with
  | .ok b _ => b = a
  | _ => false

theorem run_of_returns [DecidableEq α] {x : Exec ρ ε σ α} {r : ρ} {s : σ} {a : α}
    (h : x.returns r s a) : ∃ t, x.run r s = .ok a t := by
  unfold returns at h
  split at h
  · rename_i b t heq
    exact ⟨t, (of_decide_eq_true h) ▸ heq⟩
  · cases h

/-- Whether the execution ends in the error `e`. -/
def failsWith [DecidableEq ε] (x : Exec ρ ε σ α) (r : ρ) (s : σ) (e : ε) : Bool :=
  match x.run r s with
  | .err e' _ => e' = e
  | _ => false

theorem run_of_failsWith [DecidableEq ε] {x : Exec ρ ε σ α} {r : ρ} {s : σ} {e : ε}
    (h : x.failsWith r s e) : ∃ t, x.run r s = .err e t := by
  unfold failsWith at h
  split at h
  · rename_i e' t heq
    exact ⟨t, (of_decide_eq_true h) ▸ heq⟩
  · cases h

/-- Two continuations that agree wherever the first part can end give the same run. -/
theorem run_bind_congr {x : Exec ρ ε σ α} {f g : α → Exec ρ ε σ β} {r : ρ} {s : σ}
    (h : ∀ a t, x.run r s = .ok a t → (f a).run r t = (g a).run r t) :
    (x >>= f).run r s = (x >>= g).run r s := by
  show (match x.run r s with
    | .ok a t => (f a).run r t
    | .err e t => .err e t
    | .trap => .trap) = (match x.run r s with
    | .ok a t => (g a).run r t
    | .err e t => .err e t
    | .trap => .trap)
  cases hx : x.run r s with
  | ok a t => exact h a t hx
  | err e t => rfl
  | trap => rfl

theorem run_bind_congr_left {x y : Exec ρ ε σ α} {f : α → Exec ρ ε σ β} {r : ρ} {s : σ}
    (h : x.run r s = y.run r s) : (x >>= f).run r s = (y >>= f).run r s := by
  show (match x.run r s with
    | .ok a t => (f a).run r t
    | .err e t => .err e t
    | .trap => .trap) = _
  rw [h]
  rfl

/-- Past a first part that succeeds. -/
theorem run_bind_of_ok {x : Exec ρ ε σ α} {f : α → Exec ρ ε σ β} {r : ρ} {s t : σ} {a : α}
    (h : x.run r s = .ok a t) : (x >>= f).run r s = (f a).run r t := by
  show (match x.run r s with
    | .ok a t => (f a).run r t
    | .err e t => .err e t
    | .trap => .trap) = _
  rw [h]

theorem run_bind_of_err {x : Exec ρ ε σ α} {f : α → Exec ρ ε σ β} {r : ρ} {s t : σ} {e : ε}
    (h : x.run r s = .err e t) : (x >>= f).run r s = .err e t := by
  show (match x.run r s with
    | .ok a t => (f a).run r t
    | .err e t => .err e t
    | .trap => .trap) = _
  rw [h]

theorem run_bind_of_trap {x : Exec ρ ε σ α} {f : α → Exec ρ ε σ β} {r : ρ} {s : σ}
    (h : x.run r s = .trap) : (x >>= f).run r s = .trap := by
  show (match x.run r s with
    | .ok a t => (f a).run r t
    | .err e t => .err e t
    | .trap => .trap) = _
  rw [h]

theorem run_seq_of_ok {x : Exec ρ ε σ Unit} {f : Unit → Exec ρ ε σ β} {r : ρ} {s t : σ}
    (h : x.run r s = .ok () t) : (x >>= f).run r s = (f ()).run r t :=
  run_bind_of_ok h

theorem exists_run_bind {x : Exec ρ ε σ α} {f : α → Exec ρ ε σ β} {r : ρ} {s u : σ} {a : α}
    {b : β} (h : x.run r s = .ok a u) (hrest : ∃ t, (f a).run r u = .ok b t) :
    ∃ t, (x >>= f).run r s = .ok b t := by
  rw [run_bind_of_ok h]
  exact hrest

theorem exists_result_bind {x : Exec ρ ε σ α} {f : α → Exec ρ ε σ β} {r : ρ} {s u : σ} {a : α}
    (h : x.run r s = .ok a u) (hrest : ∃ b t, (f a).run r u = .ok b t) :
    ∃ b t, (x >>= f).run r s = .ok b t := by
  rw [run_bind_of_ok h]
  exact hrest

theorem exists_run_seq {x : Exec ρ ε σ Unit} {f : Unit → Exec ρ ε σ β} {r : ρ} {s u : σ} {b : β}
    (h : x.run r s = .ok () u) (hrest : ∃ t, (f ()).run r u = .ok b t) :
    ∃ t, (x >>= f).run r s = .ok b t :=
  exists_run_bind h hrest

theorem run_gets_congr {f g : σ → α} {r : ρ} {s : σ} (h : f s = g s) :
    (gets f : Exec ρ ε σ α).run r s = (gets g).run r s := by
  simp [gets, h]

theorem run_attempt_congr {x y : Exec ρ ε σ α} {r : ρ} {s : σ} (h : x.run r s = y.run r s) :
    (attempt x).run r s = (attempt y).run r s := by
  simp only [attempt, h]

/-! ## Successful runs -/

section Ok

variable {r : ρ} {s t : σ} {a b : α} {e : ε}

@[simp] theorem run_bind_ok {x : Exec ρ ε σ α} {f : α → Exec ρ ε σ β} {b : β} :
    (x >>= f).run r s = .ok b t ↔ ∃ a u, x.run r s = .ok a u ∧ (f a).run r u = .ok b t := by
  show (match x.run r s with
    | .ok a u => (f a).run r u
    | .err e u => .err e u
    | .trap => .trap) = _ ↔ _
  cases x.run r s <;> simp [and_assoc]

@[simp] theorem run_map_ok {x : Exec ρ ε σ α} {f : α → β} {b : β} :
    (f <$> x).run r s = .ok b t ↔ ∃ a, x.run r s = .ok a t ∧ f a = b := by
  show (match x.run r s with
    | .ok a u => Outcome.ok (f a) u
    | .err e u => .err e u
    | .trap => .trap) = _ ↔ _
  cases x.run r s <;> simp [and_assoc, and_comm]

@[simp] theorem run_pure_ok : (pure a : Exec ρ ε σ α).run r s = .ok b t ↔ a = b ∧ s = t := by
  show Outcome.ok a s = _ ↔ _
  simp

@[simp] theorem run_fail_ok : (fail e : Exec ρ ε σ α).run r s = .ok b t ↔ False := by
  simp [fail]

@[simp] theorem run_trap_ok : (trap : Exec ρ ε σ α).run r s = .ok b t ↔ False := by
  simp [trap]

@[simp] theorem run_ask_ok {r' : ρ} :
    (ask : Exec ρ ε σ ρ).run r s = .ok r' t ↔ r = r' ∧ s = t := by
  simp [ask]

@[simp] theorem run_gets_ok {f : σ → α} :
    (gets f : Exec ρ ε σ α).run r s = .ok b t ↔ f s = b ∧ s = t := by
  simp [gets]

@[simp] theorem run_update_ok {f : σ → σ} {u : Unit} :
    (update f : Exec ρ ε σ Unit).run r s = .ok u t ↔ f s = t := by
  simp [update]

@[simp] theorem run_failIf_ok {c : Prop} [Decidable c] {u : Unit} :
    (failIf c e : Exec ρ ε σ Unit).run r s = .ok u t ↔ ¬c ∧ s = t := by
  by_cases h : c <;> simp [failIf, h]

@[simp] theorem run_require_ok {c : Prop} [Decidable c] {u : Unit} :
    (require c : Exec ρ ε σ Unit).run r s = .ok u t ↔ c ∧ s = t := by
  by_cases h : c <;> simp [require, h]

@[simp] theorem run_okOr_ok {o : Option α} :
    (okOr o e : Exec ρ ε σ α).run r s = .ok b t ↔ o = some b ∧ s = t := by
  cases o <;> simp [okOr]

@[simp] theorem run_unwrap_ok {o : Option α} :
    (unwrap o : Exec ρ ε σ α).run r s = .ok b t ↔ o = some b ∧ s = t := by
  cases o <;> simp [unwrap]

@[simp] theorem run_lift_ok {x : Except ε α} :
    (lift x : Exec ρ ε σ α).run r s = .ok b t ↔ x = .ok b ∧ s = t := by
  cases x <;> simp [lift]

theorem run_when_ok {c : Prop} [Decidable c] {x : Exec ρ ε σ Unit} {u : Unit} :
    (when c x).run r s = .ok u t ↔ (c ∧ x.run r s = .ok () t) ∨ (¬c ∧ s = t) := by
  by_cases h : c <;> simp [when, h]

theorem exists_run_when {c : Prop} [Decidable c] {x : Exec ρ ε σ Unit}
    (h : c → ∃ t, x.run r s = .ok () t) : ∃ t, (when c x).run r s = .ok () t := by
  by_cases hc : c
  · obtain ⟨t, hrun⟩ := h hc
    exact ⟨t, run_when_ok.mpr (.inl ⟨hc, hrun⟩)⟩
  · exact ⟨s, run_when_ok.mpr (.inr ⟨hc, rfl⟩)⟩

theorem run_whenSome_ok {o : Option α} {f : α → Exec ρ ε σ Unit} {u : Unit} :
    (whenSome o f).run r s = .ok u t ↔
      (∃ a, o = some a ∧ (f a).run r s = .ok () t) ∨ (o = none ∧ s = t) := by
  cases o <;> simp [whenSome]

@[simp] theorem run_forEach_nil_ok {f : α → Exec ρ ε σ Unit} {u : Unit} :
    (forEach [] f).run r s = .ok u t ↔ s = t := by
  simp [forEach]

@[simp] theorem run_forEach_cons_ok {as : List α} {f : α → Exec ρ ε σ Unit} {u : Unit} :
    (forEach (a :: as) f).run r s = .ok u t ↔
      ∃ m, (f a).run r s = .ok () m ∧ (forEach as f).run r m = .ok () t := by
  rw [forEach, run_bind_ok]
  exact ⟨fun ⟨_, m, h⟩ => ⟨m, h⟩, fun ⟨m, h⟩ => ⟨(), m, h⟩⟩

theorem run_attempt_ok {x : Exec ρ ε σ α} {res : Except ε α} :
    (attempt x).run r s = .ok res t ↔
      (∃ a, res = .ok a ∧ x.run r s = .ok a t) ∨ (∃ e, res = .error e ∧ x.run r s = .err e t) := by
  show (match x.run r s with
    | .ok a u => Outcome.ok (Except.ok a) u
    | .err e u => .ok (Except.error e) u
    | .trap => .trap) = _ ↔ _
  cases x.run r s <;> grind

end Ok

/-! ## Failed runs -/

section Err

variable {r : ρ} {s t : σ} {e e' : ε}

@[simp] theorem run_bind_err {x : Exec ρ ε σ α} {f : α → Exec ρ ε σ β} :
    (x >>= f).run r s = .err e t ↔
      x.run r s = .err e t ∨ ∃ a u, x.run r s = .ok a u ∧ (f a).run r u = .err e t := by
  show (match x.run r s with
    | .ok a u => (f a).run r u
    | .err e u => .err e u
    | .trap => .trap) = _ ↔ _
  cases x.run r s <;> simp [and_assoc]

@[simp] theorem run_map_err {x : Exec ρ ε σ α} {f : α → β} :
    (f <$> x).run r s = .err e t ↔ x.run r s = .err e t := by
  show (match x.run r s with
    | .ok a u => Outcome.ok (f a) u
    | .err e u => .err e u
    | .trap => .trap) = _ ↔ _
  cases x.run r s <;> simp

@[simp] theorem run_pure_err {a : α} : (pure a : Exec ρ ε σ α).run r s = .err e t ↔ False := by
  show Outcome.ok a s = _ ↔ _
  simp

@[simp] theorem run_fail_err :
    (fail e : Exec ρ ε σ α).run r s = .err e' t ↔ e = e' ∧ s = t := by
  simp [fail]

@[simp] theorem run_trap_err : (trap : Exec ρ ε σ α).run r s = .err e t ↔ False := by
  simp [trap]

@[simp] theorem run_ask_err : (ask : Exec ρ ε σ ρ).run r s = .err e t ↔ False := by
  simp [ask]

@[simp] theorem run_gets_err {f : σ → α} :
    (gets f : Exec ρ ε σ α).run r s = .err e t ↔ False := by
  simp [gets]

@[simp] theorem run_update_err {f : σ → σ} :
    (update f : Exec ρ ε σ Unit).run r s = .err e t ↔ False := by
  simp [update]

@[simp] theorem run_failIf_err {c : Prop} [Decidable c] :
    (failIf c e : Exec ρ ε σ Unit).run r s = .err e' t ↔ c ∧ e = e' ∧ s = t := by
  by_cases h : c <;> simp [failIf, h]

@[simp] theorem run_require_err {c : Prop} [Decidable c] :
    (require c : Exec ρ ε σ Unit).run r s = .err e t ↔ False := by
  by_cases h : c <;> simp [require, h]

@[simp] theorem run_okOr_err {o : Option α} :
    (okOr o e : Exec ρ ε σ α).run r s = .err e' t ↔ o = none ∧ e = e' ∧ s = t := by
  cases o <;> simp [okOr]

@[simp] theorem run_unwrap_err {o : Option α} :
    (unwrap o : Exec ρ ε σ α).run r s = .err e t ↔ False := by
  cases o <;> simp [unwrap]

@[simp] theorem run_lift_err {x : Except ε α} :
    (lift x : Exec ρ ε σ α).run r s = .err e t ↔ x = .error e ∧ s = t := by
  cases x <;> simp [lift]

theorem run_when_err {c : Prop} [Decidable c] {x : Exec ρ ε σ Unit} :
    (when c x).run r s = .err e t ↔ c ∧ x.run r s = .err e t := by
  by_cases h : c <;> simp [when, h]

theorem run_whenSome_err {o : Option α} {f : α → Exec ρ ε σ Unit} :
    (whenSome o f).run r s = .err e t ↔ ∃ a, o = some a ∧ (f a).run r s = .err e t := by
  cases o <;> simp [whenSome]

@[simp] theorem run_attempt_err {x : Exec ρ ε σ α} :
    (attempt x).run r s = .err e t ↔ False := by
  show (match x.run r s with
    | .ok a u => Outcome.ok (Except.ok a) u
    | .err e u => .ok (Except.error e) u
    | .trap => .trap) = _ ↔ _
  cases x.run r s <;> simp

end Err

/-! ## Relations kept by an execution -/

/-- Every state the execution can leave behind is `R`-related to the state it started in. -/
def Keeps (R : σ → σ → Prop) (x : Exec ρ ε σ α) : Prop :=
  ∀ r s, (x.run r s).Leaves (R s)

namespace Keeps

variable {R : σ → σ → Prop} {x : Exec ρ ε σ α}

theorem ok (h : x.Keeps R) {r : ρ} {s t : σ} {a : α} (hrun : x.run r s = .ok a t) : R s t := by
  simpa [hrun, Outcome.Leaves] using h r s

theorem err (h : x.Keeps R) {r : ρ} {s t : σ} {e : ε} (hrun : x.run r s = .err e t) :
    R s t := by
  simpa [hrun, Outcome.Leaves] using h r s

theorem of_runs (hok : ∀ r s a t, x.run r s = .ok a t → R s t)
    (herr : ∀ r s e t, x.run r s = .err e t → R s t) : x.Keeps R := by
  intro r s
  cases h : x.run r s with
  | ok a t => exact hok r s a t h
  | err e t => exact herr r s e t h
  | trap => trivial

theorem mono {R' : σ → σ → Prop} (h : x.Keeps R) (himp : ∀ s t, R s t → R' s t) :
    x.Keeps R' :=
  of_runs (fun _ _ _ _ hrun => himp _ _ (h.ok hrun)) (fun _ _ _ _ hrun => himp _ _ (h.err hrun))

theorem update {f : σ → σ} (h : ∀ s, R s (f s)) : (update f : Exec ρ ε σ Unit).Keeps R :=
  fun _ s => h s

theorem trap : (trap : Exec ρ ε σ α).Keeps R :=
  fun _ _ => trivial

theorem ite {c : Prop} [Decidable c] {y : Exec ρ ε σ α} (hx : x.Keeps R) (hy : y.Keeps R) :
    (if c then x else y).Keeps R := by
  split
  · exact hx
  · exact hy

theorem attempt (h : x.Keeps R) : (attempt x).Keeps R := by
  refine of_runs ?_ (by simp)
  intro r s res t hrun
  rcases run_attempt_ok.mp hrun with ⟨a, -, hx⟩ | ⟨e, -, hx⟩
  · exact h.ok hx
  · exact h.err hx

section Reflexive

variable [Std.Refl R]

theorem pure (a : α) : (Pure.pure a : Exec ρ ε σ α).Keeps R :=
  fun _ s => Std.Refl.refl s

theorem fail (e : ε) : (fail e : Exec ρ ε σ α).Keeps R :=
  fun _ s => Std.Refl.refl s

theorem ask : (ask : Exec ρ ε σ ρ).Keeps R :=
  fun _ s => Std.Refl.refl s

theorem gets (f : σ → α) : (gets f : Exec ρ ε σ α).Keeps R :=
  fun _ s => Std.Refl.refl s

theorem failIf (c : Prop) [Decidable c] (e : ε) : (failIf c e : Exec ρ ε σ Unit).Keeps R :=
  ite (fail e) (pure ())

theorem require (c : Prop) [Decidable c] : (require c : Exec ρ ε σ Unit).Keeps R :=
  ite (pure ()) trap

theorem okOr (o : Option α) (e : ε) : (okOr o e : Exec ρ ε σ α).Keeps R := by
  cases o
  · exact fail e
  · exact pure _

theorem unwrap (o : Option α) : (unwrap o : Exec ρ ε σ α).Keeps R := by
  cases o
  · exact trap
  · exact pure _

theorem lift (y : Except ε α) : (lift y : Exec ρ ε σ α).Keeps R := by
  cases y
  · exact fail _
  · exact pure _

theorem when {c : Prop} [Decidable c] {x : Exec ρ ε σ Unit} (h : x.Keeps R) :
    (when c x).Keeps R :=
  ite h (pure ())

theorem whenSome {o : Option α} {f : α → Exec ρ ε σ Unit} (h : ∀ a, (f a).Keeps R) :
    (whenSome o f).Keeps R := by
  cases o
  · exact pure ()
  · exact h _

end Reflexive

theorem bind [IsTrans σ R] {f : α → Exec ρ ε σ β} (hx : x.Keeps R) (hf : ∀ a, (f a).Keeps R) :
    (x >>= f).Keeps R := by
  refine of_runs ?_ ?_
  · intro r s b t hrun
    obtain ⟨a, u, hu, ht⟩ := run_bind_ok.mp hrun
    exact trans_of R (hx.ok hu) ((hf a).ok ht)
  · intro r s e t hrun
    rcases run_bind_err.mp hrun with hu | ⟨a, u, hu, ht⟩
    · exact hx.err hu
    · exact trans_of R (hx.ok hu) ((hf a).err ht)

/-- What follows a computation is only run with its value. -/
theorem bind_lift [Std.Refl R] {y : Except ε α} {f : α → Exec ρ ε σ β}
    (hf : ∀ a, y = .ok a → (f a).Keeps R) : (Exec.lift y >>= f).Keeps R := by
  refine of_runs ?_ ?_
  · intro r s b t hrun
    obtain ⟨a, u, hu, ht⟩ := run_bind_ok.mp hrun
    obtain ⟨hy, rfl⟩ := run_lift_ok.mp hu
    exact (hf a hy).ok ht
  · intro r s e t hrun
    rcases run_bind_err.mp hrun with hu | ⟨a, u, hu, ht⟩
    · obtain ⟨-, rfl⟩ := run_lift_err.mp hu
      exact Std.Refl.refl _
    · obtain ⟨hy, rfl⟩ := run_lift_ok.mp hu
      exact (hf a hy).err ht

/-- After code that only reads, two continuations need to agree in the same state only. -/
theorem run_bind_congr {f g : α → Exec ρ ε σ β} {r : ρ} {s : σ} (hx : x.Keeps Eq)
    (h : ∀ a, (f a).run r s = (g a).run r s) : (x >>= f).run r s = (x >>= g).run r s := by
  refine Exec.run_bind_congr fun a t hrun => ?_
  obtain rfl := hx.ok hrun
  exact h a

/-- What holds of an outcome when code that only reads comes first. -/
theorem run_bind_cases {P : Outcome ε σ β → Prop} {f : α → Exec ρ ε σ β} {r : ρ} {s : σ}
    (hx : x.Keeps Eq) (htrap : P .trap) (herr : ∀ e, P (.err e s))
    (hok : ∀ a, x.run r s = .ok a s → P ((f a).run r s)) : P ((x >>= f).run r s) := by
  show P (match x.run r s with
    | .ok a t => (f a).run r t
    | .err e t => .err e t
    | .trap => .trap)
  cases hrun : x.run r s with
  | ok a t =>
    obtain rfl := hx.ok hrun
    exact hok a hrun
  | err e t =>
    obtain rfl := hx.err hrun
    exact herr e
  | trap => exact htrap

theorem forEach [Std.Refl R] [IsTrans σ R] {f : α → Exec ρ ε σ Unit}
    (h : ∀ a, (f a).Keeps R) (as : List α) : (forEach as f).Keeps R := by
  induction as with
  | nil => exact pure ()
  | cons a as ih => exact bind (h a) fun _ => ih

/-- A loop of checks succeeds when every check does. -/
theorem run_forEach_ok {f : α → Exec ρ ε σ Unit} (hread : ∀ a, (f a).Keeps Eq) {r : ρ}
    {s t : σ} {u : Unit} {as : List α} :
    (Exec.forEach as f).run r s = .ok u t ↔ s = t ∧ ∀ a ∈ as, (f a).run r s = .ok () s := by
  induction as with
  | nil => simp
  | cons a as ih =>
    rw [run_forEach_cons_ok, List.forall_mem_cons]
    constructor
    · rintro ⟨m, ha, has⟩
      obtain rfl := (hread a).ok ha
      obtain ⟨rfl, hrest⟩ := ih.mp has
      exact ⟨rfl, ha, hrest⟩
    · rintro ⟨rfl, ha, has⟩
      exact ⟨s, ha, ih.mpr ⟨rfl, has⟩⟩

/-- It fails with the error of one of them. -/
theorem run_forEach_err {f : α → Exec ρ ε σ Unit} (hread : ∀ a, (f a).Keeps Eq) {r : ρ}
    {s t : σ} {e : ε} {as : List α} (hrun : (Exec.forEach as f).run r s = .err e t) :
    ∃ a ∈ as, (f a).run r s = .err e t := by
  induction as with
  | nil => exact (run_pure_err.mp hrun).elim
  | cons a as ih =>
    rcases run_bind_err.mp hrun with hfirst | ⟨_, u, hfirst, hrest⟩
    · exact ⟨a, List.mem_cons_self, hfirst⟩
    · obtain rfl := (hread a).ok hfirst
      obtain ⟨b, hmem, hfails⟩ := ih hrest
      exact ⟨b, List.mem_cons_of_mem _ hmem, hfails⟩

end Keeps

/-- A run that succeeds goes on from where code that only reads has started. -/
theorem run_check_ok {x : Exec ρ ε σ α} {f : α → Exec ρ ε σ β} {r : ρ} {s t : σ} {b : β}
    (hx : x.Keeps Eq) (hrun : (x >>= f).run r s = .ok b t) :
    ∃ a, x.run r s = .ok a s ∧ (f a).run r s = .ok b t := by
  obtain ⟨a, u, hfirst, hrun⟩ := run_bind_ok.mp hrun
  obtain rfl := hx.ok hfirst
  exact ⟨a, hfirst, hrun⟩

/-- A run that fails has failed at once, or goes on from where code that only reads started. -/
theorem run_check_err {x : Exec ρ ε σ α} {f : α → Exec ρ ε σ β} {r : ρ} {s t : σ} {e : ε}
    (hx : x.Keeps Eq) (hrun : (x >>= f).run r s = .err e t) :
    s = t ∨ ∃ a, x.run r s = .ok a s ∧ (f a).run r s = .err e t := by
  rcases run_bind_err.mp hrun with hfail | ⟨a, u, hfirst, hrest⟩
  · exact .inl (hx.err hfail)
  · obtain rfl := hx.ok hfirst
    exact .inr ⟨a, hfirst, hrest⟩

/-! ## Successful and failed ends apart -/

/-- Success ends in a `Q`-related state, an error in an `E`-related one. -/
def Ends (Q : σ → σ → Prop) (E : ε → σ → σ → Prop) (x : Exec ρ ε σ α) : Prop :=
  ∀ r s, (x.run r s).Ends (Q s) (E · s)

/-- What successful code left behind may come before a failure. -/
class EndRelation (Q : σ → σ → Prop) (E : ε → σ → σ → Prop) : Prop where
  refl : ∀ s, Q s s
  trans : ∀ {s m t}, Q s m → Q m t → Q s t
  failed : ∀ e {s t}, Q s t → E e s t
  extend : ∀ {e s m t}, Q s m → E e m t → E e s t

instance {R : σ → σ → Prop} [Std.Refl R] [IsTrans σ R] :
    EndRelation R (fun _ : ε => R) where
  refl := Std.Refl.refl
  trans := trans_of R
  failed _ _ _ h := h
  extend := trans_of R

/-- For code whose failures are rolled back. -/
def AnyEnd (_ : ε) (_ _ : σ) : Prop := True

instance {R : σ → σ → Prop} [Std.Refl R] [IsTrans σ R] : EndRelation R (AnyEnd (ε := ε)) where
  refl := Std.Refl.refl
  trans := trans_of R
  failed _ _ _ _ := trivial
  extend _ _ := trivial

namespace Ends

variable {Q : σ → σ → Prop} {E : ε → σ → σ → Prop} {x : Exec ρ ε σ α}

theorem ok (h : x.Ends Q E) {r : ρ} {s t : σ} {a : α} (hrun : x.run r s = .ok a t) : Q s t := by
  simpa [hrun, Outcome.Ends] using h r s

theorem err (h : x.Ends Q E) {r : ρ} {s t : σ} {e : ε} (hrun : x.run r s = .err e t) :
    E e s t := by
  simpa [hrun, Outcome.Ends] using h r s

theorem of_runs (hok : ∀ r s a t, x.run r s = .ok a t → Q s t)
    (herr : ∀ r s e t, x.run r s = .err e t → E e s t) : x.Ends Q E := by
  intro r s
  cases h : x.run r s with
  | ok a t => exact hok r s a t h
  | err e t => exact herr r s e t h
  | trap => trivial

theorem mono {Q' : σ → σ → Prop} {E' : ε → σ → σ → Prop} (h : x.Ends Q E)
    (hok : ∀ s t, Q s t → Q' s t) (herr : ∀ e s t, E e s t → E' e s t) : x.Ends Q' E' :=
  of_runs (fun _ _ _ _ hrun => hok _ _ (h.ok hrun)) fun _ _ _ _ hrun => herr _ _ _ (h.err hrun)

theorem keeps {R : σ → σ → Prop} (h : x.Ends R (fun _ => R)) : x.Keeps R :=
  Keeps.of_runs (fun _ _ _ _ => h.ok) fun _ _ _ _ => h.err

theorem ite {c : Prop} [Decidable c] {y : Exec ρ ε σ α} (hx : x.Ends Q E) (hy : y.Ends Q E) :
    (if c then x else y).Ends Q E := by
  split
  · exact hx
  · exact hy

variable [EndRelation Q E]

theorem of_keeps {R : σ → σ → Prop} (h : x.Keeps R) (himp : ∀ s t, R s t → Q s t) :
    x.Ends Q E :=
  of_runs (fun _ _ _ _ hrun => himp _ _ (h.ok hrun)) fun _ _ e _ hrun =>
    EndRelation.failed (Q := Q) e (himp _ _ (h.err hrun))

/-- Code that only reads. -/
theorem check (h : x.Keeps Eq) : x.Ends Q E :=
  of_keeps h fun s _ heq => heq ▸ EndRelation.refl E s

theorem bind {f : α → Exec ρ ε σ β} (hx : x.Ends Q E) (hf : ∀ a, (f a).Ends Q E) :
    (x >>= f).Ends Q E := by
  refine of_runs ?_ ?_
  · intro r s b t hrun
    obtain ⟨a, u, hu, ht⟩ := run_bind_ok.mp hrun
    exact EndRelation.trans E (hx.ok hu) ((hf a).ok ht)
  · intro r s e t hrun
    rcases run_bind_err.mp hrun with hu | ⟨a, u, hu, ht⟩
    · exact hx.err hu
    · exact EndRelation.extend (hx.ok hu) ((hf a).err ht)

theorem pure (a : α) : (Pure.pure a : Exec ρ ε σ α).Ends Q E := check (.pure a)

theorem fail (e : ε) : (fail e : Exec ρ ε σ α).Ends Q E := check (.fail e)

theorem ask : (ask : Exec ρ ε σ ρ).Ends Q E := check .ask

theorem gets (f : σ → α) : (gets f : Exec ρ ε σ α).Ends Q E := check (.gets f)

theorem failIf (c : Prop) [Decidable c] (e : ε) : (failIf c e : Exec ρ ε σ Unit).Ends Q E :=
  check (.failIf c e)

theorem require (c : Prop) [Decidable c] : (require c : Exec ρ ε σ Unit).Ends Q E :=
  check (.require c)

theorem okOr (o : Option α) (e : ε) : (okOr o e : Exec ρ ε σ α).Ends Q E := check (.okOr o e)

theorem unwrap (o : Option α) : (unwrap o : Exec ρ ε σ α).Ends Q E := check (.unwrap o)

theorem lift (y : Except ε α) : (lift y : Exec ρ ε σ α).Ends Q E := check (.lift y)

theorem when {c : Prop} [Decidable c] {x : Exec ρ ε σ Unit} (h : x.Ends Q E) :
    (when c x).Ends Q E :=
  ite h (pure ())

theorem whenSome {o : Option α} {f : α → Exec ρ ε σ Unit} (h : ∀ a, (f a).Ends Q E) :
    (whenSome o f).Ends Q E := by
  cases o
  · exact pure ()
  · exact h _

theorem forEach {f : α → Exec ρ ε σ Unit} {as : List α} (h : ∀ a ∈ as, (f a).Ends Q E) :
    (forEach as f).Ends Q E := by
  induction as with
  | nil => exact pure ()
  | cons a as ih =>
    exact bind (h a List.mem_cons_self) fun _ => ih fun b hb => h b (List.mem_cons_of_mem _ hb)

end Ends

/-! ## Errors an execution can end in -/

/-- A computation that fails does so with an error in `E`. -/
def FailsIn (E : Set ε) (x : Except ε α) : Prop :=
  ∀ e, x = .error e → e ∈ E

/-- Every error of the execution is in `E`. -/
def Raises (E : Set ε) (x : Exec ρ ε σ α) : Prop :=
  ∀ r s e t, x.run r s = .err e t → e ∈ E

namespace FailsIn

variable {E : Set ε} {x : Except ε α}

theorem ok (a : α) : FailsIn E (.ok a : Except ε α) :=
  nofun

theorem error {e : ε} (he : e ∈ E) : FailsIn E (.error e : Except ε α) := by
  rintro _ ⟨⟩
  exact he

theorem ite {c : Prop} [Decidable c] {y : Except ε α} (hx : FailsIn E x) (hy : FailsIn E y) :
    FailsIn E (if c then x else y) := by
  split
  · exact hx
  · exact hy

theorem map (f : α → β) (hx : FailsIn E x) : FailsIn E (x.map f) := by
  cases x with
  | ok a => exact nofun
  | error e => exact error (hx e rfl)

theorem bind {f : α → Except ε β} (hx : FailsIn E x) (hf : ∀ a, FailsIn E (f a)) :
    FailsIn E (x >>= f) := by
  cases x with
  | ok a => exact hf a
  | error e => exact error (hx e rfl)

theorem foldlM {f : β → α → Except ε β} (hf : ∀ b a, FailsIn E (f b a)) (as : List α) (b : β) :
    FailsIn E (as.foldlM f b) := by
  induction as generalizing b with
  | nil => exact ok b
  | cons a as ih => exact bind (hf b a) fun b => ih b

end FailsIn

namespace Raises

variable {E : Set ε} {x : Exec ρ ε σ α}

theorem of_silent (h : ∀ r s e t, ¬x.run r s = .err e t) : x.Raises E :=
  fun r s e t hrun => (h r s e t hrun).elim

theorem pure (a : α) : (Pure.pure a : Exec ρ ε σ α).Raises E :=
  of_silent (by simp)

theorem fail {e : ε} (he : e ∈ E) : (fail e : Exec ρ ε σ α).Raises E := by
  intro r s e' t hrun
  obtain ⟨rfl, -⟩ := run_fail_err.mp hrun
  exact he

theorem ask : (ask : Exec ρ ε σ ρ).Raises E :=
  of_silent (by simp)

theorem gets (f : σ → α) : (gets f : Exec ρ ε σ α).Raises E :=
  of_silent (by simp)

theorem failIf {c : Prop} [Decidable c] {e : ε} (he : e ∈ E) :
    (failIf c e : Exec ρ ε σ Unit).Raises E := by
  intro r s e' t hrun
  obtain ⟨-, rfl, -⟩ := run_failIf_err.mp hrun
  exact he

theorem require (c : Prop) [Decidable c] : (require c : Exec ρ ε σ Unit).Raises E :=
  of_silent (by simp)

theorem okOr {o : Option α} {e : ε} (he : e ∈ E) : (okOr o e : Exec ρ ε σ α).Raises E := by
  intro r s e' t hrun
  obtain ⟨-, rfl, -⟩ := run_okOr_err.mp hrun
  exact he

theorem unwrap (o : Option α) : (unwrap o : Exec ρ ε σ α).Raises E :=
  of_silent (by simp)

theorem lift {y : Except ε α} (hy : FailsIn E y) : (lift y : Exec ρ ε σ α).Raises E :=
  fun _ _ _ _ hrun => hy _ (run_lift_err.mp hrun).1

theorem ite {c : Prop} [Decidable c] {y : Exec ρ ε σ α} (hx : x.Raises E) (hy : y.Raises E) :
    (if c then x else y).Raises E := by
  split
  · exact hx
  · exact hy

theorem when {c : Prop} [Decidable c] {x : Exec ρ ε σ Unit} (hx : x.Raises E) :
    (when c x).Raises E :=
  ite hx (pure ())

theorem whenSome {o : Option α} {f : α → Exec ρ ε σ Unit} (h : ∀ a, (f a).Raises E) :
    (whenSome o f).Raises E := by
  cases o
  · exact pure ()
  · exact h _

theorem bind {f : α → Exec ρ ε σ β} (hx : x.Raises E) (hf : ∀ a, (f a).Raises E) :
    (x >>= f).Raises E := by
  intro r s e t hrun
  rcases Exec.run_bind_err.mp hrun with hfirst | ⟨a, u, -, hrest⟩
  · exact hx r s e t hfirst
  · exact hf a r u e t hrest

/-- What is read may matter for the errors that follow. -/
theorem bind_gets {f : σ → α} {g : α → Exec ρ ε σ β} (h : ∀ s, (g (f s)).Raises E) :
    (Exec.gets f >>= g).Raises E := by
  intro r s e t hrun
  rcases Exec.run_bind_err.mp hrun with hfirst | ⟨a, u, hgets, hrest⟩
  · exact (run_gets_err.mp hfirst).elim
  · obtain ⟨rfl, rfl⟩ := run_gets_ok.mp hgets
    exact h s r s e t hrest

/-- An error that the first part does not raise comes from the second. -/
theorem run_bind_err {f : α → Exec ρ ε σ β} {r : ρ} {s t : σ} {e : ε} (hx : x.Raises E)
    (he : e ∉ E) (hrun : (x >>= f).run r s = .err e t) :
    ∃ a u, x.run r s = .ok a u ∧ (f a).run r u = .err e t := by
  rcases Exec.run_bind_err.mp hrun with hfirst | hrest
  · exact absurd (hx r s e t hfirst) he
  · exact hrest

/-- The same behind a part that only reads. -/
theorem run_check_err {f : α → Exec ρ ε σ β} {r : ρ} {s t : σ} {e : ε} (hx : x.Raises E)
    (hkeeps : x.Keeps Eq) (he : e ∉ E) (hrun : (x >>= f).run r s = .err e t) :
    ∃ a, x.run r s = .ok a s ∧ (f a).run r s = .err e t := by
  obtain ⟨a, u, hfirst, hrest⟩ := hx.run_bind_err he hrun
  obtain rfl := hkeeps.ok hfirst
  exact ⟨a, hfirst, hrest⟩

theorem forEach {f : α → Exec ρ ε σ Unit} (h : ∀ a, (f a).Raises E) (as : List α) :
    (forEach as f).Raises E := by
  induction as with
  | nil => exact pure ()
  | cons a as ih => exact bind (h a) fun _ => ih

end Raises

/-! ## Executions that always succeed -/

/-- `x` ends with a value, wherever it starts. -/
def Total (x : Exec ρ ε σ α) : Prop := ∀ r s, ∃ a t, x.run r s = .ok a t

namespace Total

variable {x : Exec ρ ε σ α}

theorem pure (a : α) : (Pure.pure a : Exec ρ ε σ α).Total := fun _ s => ⟨a, s, rfl⟩

theorem gets (f : σ → α) : (gets f : Exec ρ ε σ α).Total := fun _ s => ⟨f s, s, rfl⟩

theorem update (f : σ → σ) : (update f : Exec ρ ε σ Unit).Total := fun _ s => ⟨(), f s, rfl⟩

theorem bind {f : α → Exec ρ ε σ β} (hx : x.Total) (hf : ∀ a, (f a).Total) :
    (x >>= f).Total := by
  intro r s
  obtain ⟨a, t, hrun⟩ := hx r s
  obtain ⟨b, u, hrest⟩ := hf a r t
  exact ⟨b, u, run_bind_ok.mpr ⟨a, t, hrun, hrest⟩⟩

theorem when {c : Prop} [Decidable c] {x : Exec ρ ε σ Unit} (h : x.Total) : (when c x).Total := by
  unfold Exec.when
  split
  · exact h
  · exact .pure ()

theorem whenSome {o : Option α} {f : α → Exec ρ ε σ Unit} (h : ∀ a, (f a).Total) :
    (whenSome o f).Total := by
  cases o with
  | none => exact .pure ()
  | some a => exact h a

theorem forEach {f : α → Exec ρ ε σ Unit} (h : ∀ a, (f a).Total) (as : List α) :
    (forEach as f).Total := by
  induction as with
  | nil => exact .pure ()
  | cons a as ih => exact .bind (h a) fun _ => ih

end Total

/-! ## Executions that do not see part of the environment -/

/-- `x` ends the same way in the environments `r` and `r'`. -/
def SameIn (r r' : ρ) (x : Exec ρ ε σ α) : Prop := ∀ s, x.run r' s = x.run r s

namespace SameIn

variable {r r' : ρ} {x : Exec ρ ε σ α}

theorem pure (a : α) : SameIn r r' (Pure.pure a : Exec ρ ε σ α) := fun _ => rfl

theorem gets (f : σ → α) : SameIn r r' (gets f : Exec ρ ε σ α) := fun _ => rfl

theorem update (f : σ → σ) : SameIn r r' (update f : Exec ρ ε σ Unit) := fun _ => rfl

theorem failIf (c : Prop) [Decidable c] (e : ε) :
    SameIn r r' (failIf c e : Exec ρ ε σ Unit) := by
  intro s
  unfold Exec.failIf
  split <;> rfl

theorem require (c : Prop) [Decidable c] : SameIn r r' (require c : Exec ρ ε σ Unit) := by
  intro s
  unfold Exec.require
  split <;> rfl

theorem okOr (o : Option α) (e : ε) : SameIn r r' (okOr o e : Exec ρ ε σ α) := by
  intro s
  cases o <;> rfl

theorem lift (y : Except ε α) : SameIn r r' (lift y : Exec ρ ε σ α) := by
  intro s
  cases y <;> rfl

/-- Two runs that begin alike end alike when their rests do from wherever the beginning ends. -/
theorem run_bind {f : α → Exec ρ ε σ β} {s : σ} (hx : x.run r' s = x.run r s)
    (hf : ∀ a t, x.run r s = .ok a t → (f a).run r' t = (f a).run r t) :
    (x >>= f).run r' s = (x >>= f).run r s := by
  show (match x.run r' s with
    | .ok a t => (f a).run r' t
    | .err e t => .err e t
    | .trap => .trap) = match x.run r s with
    | .ok a t => (f a).run r t
    | .err e t => .err e t
    | .trap => .trap
  rw [hx]
  cases hrun : x.run r s with
  | ok a t => exact hf a t hrun
  | err e t => rfl
  | trap => rfl

theorem run_ask {f : ρ → Exec ρ ε σ β} {s : σ} (hsame : f r' = f r)
    (hf : (f r).run r' s = (f r).run r s) :
    (Exec.ask >>= f).run r' s = (Exec.ask >>= f).run r s := by
  have hread (q : ρ) : (Exec.ask >>= f : Exec ρ ε σ β).run q s = (f q).run q s := rfl
  rw [hread, hread, hsame]
  exact hf

/-- The same where the beginning leaves the state alone. -/
theorem run_check {f : α → Exec ρ ε σ β} {s : σ} (hx : SameIn r r' x) (hkeeps : x.Keeps Eq)
    (hf : ∀ a, x.run r s = .ok a s → (f a).run r' s = (f a).run r s) :
    (x >>= f).run r' s = (x >>= f).run r s :=
  run_bind (hx s) fun a t hrun => by
    obtain rfl := hkeeps.ok hrun
    exact hf a hrun

theorem bind {f : α → Exec ρ ε σ β} (hx : SameIn r r' x) (hf : ∀ a, SameIn r r' (f a)) :
    SameIn r r' (x >>= f) :=
  fun s => run_bind (hx s) fun a t _ => hf a t

/-- The environment is read for something that is the same in both. -/
theorem ask {f : ρ → Exec ρ ε σ β} (hsame : f r' = f r) (hf : SameIn r r' (f r)) :
    SameIn r r' (Exec.ask >>= f) :=
  fun s => run_ask hsame (hf s)

theorem when {c : Prop} [Decidable c] {x : Exec ρ ε σ Unit} (h : SameIn r r' x) :
    SameIn r r' (when c x) := by
  unfold Exec.when
  split
  · exact h
  · exact .pure ()

theorem whenSome {o : Option α} {f : α → Exec ρ ε σ Unit} (h : ∀ a, SameIn r r' (f a)) :
    SameIn r r' (whenSome o f) := by
  cases o with
  | none => exact .pure ()
  | some a => exact h a

theorem forEach {f : α → Exec ρ ε σ Unit} (h : ∀ a, SameIn r r' (f a)) (as : List α) :
    SameIn r r' (forEach as f) := by
  induction as with
  | nil => exact .pure ()
  | cons a as ih => exact .bind (h a) fun _ => ih

theorem ok (h : SameIn r r' x) {s t : σ} {a : α} (hrun : x.run r s = .ok a t) :
    x.run r' s = .ok a t :=
  (h s).trans hrun

end SameIn

end Exec

end SubscriptionVault
