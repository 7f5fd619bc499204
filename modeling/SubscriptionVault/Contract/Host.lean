import SubscriptionVault.Contract.Arithmetic
import SubscriptionVault.Contract.Storage
import SubscriptionVault.Framework.Execution

/-!
# Host environment and primitive operations

A contract call reads the ledger clock, the set of addresses that authorised it and the
answers of external contracts. Storage reads and writes, authorisation and token transfers are
the only operations the contract functions are built from.
-/

namespace SubscriptionVault

/-- What is fixed for the lifetime of a deployment. The charge salt and the idempotency hash
are opaque functions of what the source feeds into them. -/
structure Host where
  contract : Address
  chargeSalt : (id lastPayment sequence : Nat) → BytesN32
  hashIdemKey : (domain id : Nat) → BytesN32 → BytesN32

/-- What a single contract call sees of the outside world. -/
structure Env where
  host : Host
  now : Nat
  sequence : Nat
  authorized : Address → Bool
  /-- The spot answer of an oracle contract; no answer when the call fails. -/
  latestPrice : Address → Option OraclePrice
  /-- The observations an oracle contract returns from a start time on. -/
  observations : Address → Nat → Option (List OraclePrice)
  /-- Transfers a token contract turns down although the balance would cover them. -/
  transferRefused : (token sender receiver : Address) → Int → Bool

/-- A deployment with injective salts and hashes, for concrete runs. -/
def sampleHost : Host where
  contract := ⟨0⟩
  chargeSalt id lastPayment sequence := ⟨Nat.pair id (Nat.pair lastPayment sequence)⟩
  hashIdemKey domain id key := ⟨Nat.pair domain (Nat.pair id key.value)⟩

/-- A call at time `now` that the given addresses authorised; no external contract answers. -/
def sampleEnv (now : Nat) (signers : List Address) : Env where
  host := sampleHost
  now := now
  sequence := now
  authorized a := a ∈ signers
  latestPrice _ := none
  observations _ _ := none
  transferRefused _ _ _ _ := false

/-- Contract code. -/
abbrev Vault := Exec Env Error State

/-- The state after the listed calls, latest first, on a fresh deployment. -/
def afterCalls : List (Env × Vault Unit) → State
  | [] => FiniteStore.empty
  | (env, code) :: earlier => code.after env (afterCalls earlier)

open Exec

variable {α : Type}

/-- Read a slot. -/
def load (k : Slot) [Holds Slot.Val k α] : Vault (Option α) := gets (·.read k)

/-- Write a slot. -/
def store (k : Slot) [Holds Slot.Val k α] (v : α) : Vault Unit := update (·.write k v)

/-- Delete a slot. -/
def delete (k : Slot) : Vault Unit := update (·.remove k)

/-- `require_auth`. The vault itself never authorises a call to itself. -/
def requireAuth (a : Address) : Vault Unit := do
  let env ← ask
  require (env.authorized a ∧ a ≠ env.host.contract)

/-- The token balance of an address. -/
def State.balanceOf (s : State) (token holder : Address) : Int :=
  (s.read (.tokenBalance token holder)).getD 0

def State.setBalance (s : State) (token holder : Address) (amount : Int) : State :=
  s.write (.tokenBalance token holder) amount

/-- The state after a completed transfer. -/
def State.transferred (s : State) (token sender receiver : Address) (amount : Int) : State :=
  let debited := s.setBalance token sender (s.balanceOf token sender - amount)
  debited.setBalance token receiver (debited.balanceOf token receiver + amount)

def tokenBalance (token holder : Address) : Vault Int := gets (·.balanceOf token holder)

/-- A standard token transfer: it moves exactly the amount or aborts the call. -/
def transfer (token sender receiver : Address) (amount : Int) : Vault Unit := do
  let env ← ask
  require (sender = env.host.contract ∨ env.authorized sender)
  require (0 ≤ amount)
  require (¬env.transferRefused token sender receiver amount)
  let held ← tokenBalance token sender
  require (amount ≤ held)
  update (·.transferred token sender receiver amount)

/-- Run `body` under a reentrancy lock, released however `body` ends. -/
def withLock (name : LockName) (body : Vault α) : Vault α := do
  let held ← load (.lock name)
  failIf held.isSome .reentrancy
  store (.lock name) true
  let result ← attempt body
  delete (.lock name)
  lift result

/-! ## Effects of the primitives -/

section Rules

variable {r : Env} {s t : State} {k : Slot}

@[simp] theorem run_load_ok [Holds Slot.Val k α] {v : Option α} :
    (load k).run r s = .ok v t ↔ s.read k = v ∧ s = t := by
  simp [load]

@[simp] theorem run_store_ok [Holds Slot.Val k α] {v : α} {u : Unit} :
    (store k v).run r s = .ok u t ↔ s.write k v = t := by
  simp [store]

@[simp] theorem run_delete_ok {u : Unit} :
    (delete k).run r s = .ok u t ↔ s.remove k = t := by
  simp [delete]

@[simp] theorem run_requireAuth_ok {a : Address} {u : Unit} :
    (requireAuth a).run r s = .ok u t ↔ (r.authorized a ∧ a ≠ r.host.contract) ∧ s = t := by
  simp [requireAuth, and_comm]

@[simp] theorem run_tokenBalance_ok {token holder : Address} {v : Int} :
    (tokenBalance token holder).run r s = .ok v t ↔ s.balanceOf token holder = v ∧ s = t := by
  simp [tokenBalance]

@[simp] theorem run_load_err [Holds Slot.Val k α] {e : Error} :
    (load k).run r s = .err e t ↔ False := by
  simp [load]

@[simp] theorem run_store_err [Holds Slot.Val k α] {v : α} {e : Error} :
    (store k v).run r s = .err e t ↔ False := by
  simp [store]

@[simp] theorem run_delete_err {e : Error} : (delete k).run r s = .err e t ↔ False := by
  simp [delete]

@[simp] theorem run_requireAuth_err {a : Address} {e : Error} :
    (requireAuth a).run r s = .err e t ↔ False := by
  simp [requireAuth]

@[simp] theorem run_tokenBalance_err {token holder : Address} {e : Error} :
    (tokenBalance token holder).run r s = .err e t ↔ False := by
  simp [tokenBalance]

theorem run_transfer_ok {token sender receiver : Address} {amount : Int} {u : Unit} :
    (transfer token sender receiver amount).run r s = .ok u t ↔
      (sender = r.host.contract ∨ r.authorized sender) ∧ 0 ≤ amount ∧
        r.transferRefused token sender receiver amount = false ∧
        amount ≤ s.balanceOf token sender ∧
        s.transferred token sender receiver amount = t := by
  simp [transfer]

@[simp] theorem run_transfer_err {token sender receiver : Address} {amount : Int} {e : Error} :
    (transfer token sender receiver amount).run r s = .err e t ↔ False := by
  simp [transfer]

theorem run_withLock_ok {name : LockName} {body : Vault α} {a : α} :
    (withLock name body).run r s = .ok a t ↔
      s.read (.lock name) = none ∧
        ∃ u, body.run r (s.write (.lock name) true) = .ok a u ∧ u.remove (.lock name) = t := by
  simp only [withLock, run_bind_ok, run_load_ok, run_failIf_ok, run_store_ok, run_delete_ok,
    run_attempt_ok, run_lift_ok]
  constructor
  · rintro ⟨_, _, ⟨rfl, rfl⟩, _, _, ⟨hfree, rfl⟩, _, _, rfl, res, u, hbody, _, _, rfl, rfl, rfl⟩
    rcases hbody with ⟨a', hres, hbody⟩ | ⟨e, hres, -⟩
    · cases hres
      exact ⟨by simpa using hfree, u, hbody, rfl⟩
    · cases hres
  · rintro ⟨hfree, u, hbody, rfl⟩
    exact ⟨_, _, ⟨rfl, rfl⟩, (), _, ⟨by simp [hfree], rfl⟩, (), _, rfl, .ok a, u,
      .inl ⟨a, rfl, hbody⟩, (), _, rfl, rfl, rfl⟩

/-- An error under a lock says that the lock was taken, or is the body's own. -/
theorem run_withLock_err {name : LockName} {body : Vault α} {e : Error} :
    (withLock name body).run r s = .err e t →
      (e = .reentrancy ∧ s = t) ∨
        ∃ u, body.run r (s.write (.lock name) true) = .err e u ∧ u.remove (.lock name) = t := by
  simp only [withLock, run_bind_err, run_load_err, run_load_ok, run_failIf_err, run_failIf_ok,
    run_store_err, run_store_ok, run_attempt_err, run_attempt_ok, run_delete_err, run_delete_ok,
    run_lift_err, false_or]
  rintro ⟨_, _, ⟨-, rfl⟩, ⟨-, rfl, rfl⟩ | ⟨_, _, ⟨-, rfl⟩, _, _, rfl, res, u, hbody, _, _, rfl,
    hres, rfl⟩⟩
  · exact .inl ⟨rfl, rfl⟩
  · rcases hbody with ⟨a, rfl, -⟩ | ⟨e', rfl, hbody⟩
    · cases hres
    · cases hres
      exact .inr ⟨u, hbody, rfl⟩

end Rules

/-! ## Token balances -/

theorem State.balanceOf_setBalance (s : State) (token holder other holder' : Address)
    (amount : Int) : (s.setBalance token holder amount).balanceOf other holder' =
      if token = other ∧ holder = holder' then amount else s.balanceOf other holder' := by
  unfold State.setBalance State.balanceOf
  split
  · rename_i h
    obtain ⟨rfl, rfl⟩ := h
    simp
  · rename_i h
    have hne : Slot.tokenBalance other holder' ≠ .tokenBalance token holder := by
      intro heq
      cases heq
      exact h ⟨rfl, rfl⟩
    simp [hne]

/-- A transfer depends on the balances alone. -/
theorem State.balanceOf_transferred_congr {s t : State} (h : t.balanceOf = s.balanceOf)
    (token sender receiver : Address) (amount : Int) :
    (t.transferred token sender receiver amount).balanceOf =
      (s.transferred token sender receiver amount).balanceOf := by
  funext other holder
  simp only [State.transferred, State.balanceOf_setBalance, h]

/-! ## Footprints -/

theorem State.agreeOff_transferred {S : Set Slot} (s : State) {token sender receiver : Address}
    (amount : Int) (hsender : .tokenBalance token sender ∈ S)
    (hreceiver : .tokenBalance token receiver ∈ S) :
    FiniteStore.AgreeOff S s (s.transferred token sender receiver amount) := by
  let debited := s.setBalance token sender (s.balanceOf token sender - amount)
  have hdebit : FiniteStore.AgreeOff S s debited := s.agreeOff_write _ hsender
  exact hdebit.trans (FiniteStore.agreeOff_write debited _ hreceiver)

/-- Whatever way it ends, the code leaves every slot outside `S` as it was. -/
abbrev Modifies (S : Set Slot) (x : Vault α) : Prop := x.Keeps (FiniteStore.AgreeOff S)

namespace Modifies

section ReadOnly

variable {R : State → State → Prop} [Std.Refl R] [IsTrans State R]

omit [IsTrans State R] in
theorem load {k : Slot} [Holds Slot.Val k α] : (load k).Keeps R := .gets _

theorem requireAuth (a : Address) : (requireAuth a).Keeps R :=
  .bind .ask fun _ => .require _

omit [IsTrans State R] in
theorem tokenBalance (token holder : Address) : (tokenBalance token holder).Keeps R :=
  .gets _

end ReadOnly

variable {S : Set Slot} {k : Slot}

theorem store [Holds Slot.Val k α] {v : α} (h : k ∈ S) : Modifies S (store k v) :=
  .update fun s => s.agreeOff_write v h

theorem delete (h : k ∈ S) : Modifies S (delete k) :=
  .update fun s => s.agreeOff_remove h

theorem weaken {S' : Set Slot} {x : Vault α} (h : Modifies S x) (hsub : S ⊆ S') :
    Modifies S' x :=
  Exec.Keeps.mono h fun _ _ hagree => hagree.mono hsub

theorem transfer {token sender receiver : Address} {amount : Int}
    (hsender : .tokenBalance token sender ∈ S) (hreceiver : .tokenBalance token receiver ∈ S) :
    Modifies S (transfer token sender receiver amount) :=
  .bind .ask fun _ => .bind (.require _) fun _ => .bind (.require _) fun _ =>
    .bind (.require _) fun _ => .bind (tokenBalance _ _) fun _ => .bind (.require _) fun _ =>
    .update fun s => State.agreeOff_transferred s amount hsender hreceiver

theorem withLock {name : LockName} {body : Vault α} (hlock : .lock name ∈ S)
    (h : Modifies S body) : Modifies S (withLock name body) :=
  .bind load fun _ => .bind (.failIf _ _) fun _ => .bind (store hlock) fun _ =>
    .bind (.attempt h) fun _ => .bind (delete hlock) fun _ => .lift _

end Modifies

end SubscriptionVault
