import SubscriptionVault.Framework.Transition

/-!
# Counters

A state holds a counter for each key, and a step may use up the next number of one of them. When
no step does anything else to the counters, the numbers used under a key are, in order, all those
below its counter.
-/

namespace SubscriptionVault

universe u

variable {κ Label σ : Type} [DecidableEq κ]

/-- The counter of the used key moves past the number, which was the next one. -/
structure Uses (before after : κ → Nat) (use : Option (κ × Nat)) : Prop where
  next : ∀ key n, use = some (key, n) → n = before key
  after_eq : after = use.elim before fun one => Function.update before one.1 (one.2 + 1)

namespace Uses

variable {before after later : κ → Nat} {use : Option (κ × Nat)} {key : κ} {n : Nat}

theorem idle (h : after = before) : Uses before after none := ⟨nofun, h⟩

theorem one (h : n = before key) :
    Uses before (Function.update before key (n + 1)) (some (key, n)) := by
  refine ⟨fun other m hsame => ?_, rfl⟩
  cases hsame
  exact h

theorem after_idle (h : Uses before after use) (hidle : later = after) : Uses before later use :=
  ⟨h.next, hidle.trans h.after_eq⟩

theorem le (h : Uses before after use) (key : κ) : before key ≤ after key := by
  rw [h.after_eq]
  cases huse : use with
  | none => exact le_rfl
  | some one =>
    have hnext : one.2 = before one.1 := h.next one.1 one.2 huse
    by_cases hkey : key = one.1
    · subst hkey
      simp [hnext]
    · simp [hkey]

end Uses

/-- What becomes of the number of a successful call: unless the call is idle, it is used up as the
next number of the counter it is meant for. -/
structure Consumes (number : Option Nat) (counter : Option κ) (idle : Bool)
    (before after : κ → Nat) : Prop where
  quiet : number = none ∨ idle = true → after = before
  one : ∀ n, number = some n → idle = false →
    ∃ key, counter = some key ∧ Uses before after (some (key, n))

/-- The number taken and its counter. -/
def taken (number : Option Nat) (counter : Option κ) (idle : Bool) : Option (κ × Nat) :=
  if idle then none else number.bind fun n => counter.map (·, n)

namespace Consumes

variable {before after : κ → Nat} {number : Option Nat} {counter : Option κ} {idle : Bool}
  {key : κ} {n : Nat}

theorem of_quiet (hquiet : number = none ∨ idle = true) (h : after = before) :
    Consumes number counter idle before after where
  quiet _ := h
  one m hnumber hbusy := by
    rcases hquiet with hnone | hidle
    · rw [hnone] at hnumber
      cases hnumber
    · rw [hbusy] at hidle
      cases hidle

theorem of_uses (h : Uses before after (some (key, n))) :
    Consumes (some n) (some key) false before after where
  quiet hquiet := by
    rcases hquiet with hnone | hidle
    · cases hnone
    · cases hidle
  one m hnumber _ := by
    cases hnumber
    exact ⟨key, rfl, h⟩

theorem uses (h : Consumes number counter idle before after) :
    Uses before after (taken number counter idle) := by
  cases idle with
  | true => exact .idle (h.quiet (.inr rfl))
  | false =>
    cases number with
    | none => exact .idle (h.quiet (.inl rfl))
    | some n =>
      obtain ⟨key, hcounter, huses⟩ := h.one n rfl rfl
      rw [hcounter]
      exact huses

end Consumes

/-- The numbers used under the key, the oldest first. -/
def used (use : Label → σ → Option (κ × Nat)) (hist : History Label σ) (key : κ) : List Nat :=
  hist.reverse.filterMap fun step =>
    (use step.1 step.2).bind fun one => if one.1 = key then some one.2 else none

section Runs

variable {count : σ → κ → Nat} {use : Label → σ → Option (κ × Nat)}
  {step : Label → σ → σ → Prop} {start s : σ} {hist : History Label σ}

theorem used_cons (l : Label) (s : σ) (hist : History Label σ) (key : κ) :
    used use ((l, s) :: hist) key = used use hist key ++
      ((use l s).bind fun one => if one.1 = key then some one.2 else none).toList := by
  unfold used
  rw [List.reverse_cons, List.filterMap_append]
  rfl

/-- From counters at zero, the numbers used are those below the counter, without gap. -/
theorem used_eq_range (hrun : Run step start hist s) (hstart : ∀ key, count start key = 0)
    (hstep : ∀ l s t, step l s t → Uses (count s) (count t) (use l s)) (key : κ) :
    used use hist key = List.range (count s key) := by
  induction hrun with
  | start =>
    rw [hstart]
    rfl
  | @next hist s t l _ hlast ih =>
    have huses := hstep l s t hlast
    rw [used_cons, ih, huses.after_eq]
    cases huse : use l s with
    | none => simp
    | some one =>
      have hnext : one.2 = count s one.1 := huses.next one.1 one.2 huse
      by_cases hkey : one.1 = key
      · subst hkey
        simp [hnext, List.range_succ]
      · have hother : Function.update (count s) one.1 (one.2 + 1) key = count s key :=
          Function.update_of_ne (Ne.symm hkey) _ _
        simp [hkey, hother]

end Runs

end SubscriptionVault
