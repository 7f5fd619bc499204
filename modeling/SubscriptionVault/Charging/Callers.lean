import SubscriptionVault.Charging.Unread

/-!
# Charges do not see their caller

An entrypoint takes its lock and a batch notes its nonce before anything is charged. No charge
reads either, so it ends the same way whichever entrypoint it was submitted through.
-/

namespace SubscriptionVault

open Exec

/-- Slots that only say which call is running. -/
def Slot.isCall : Slot → Bool
  | .lock _ | .symbol .batchNonceCtx => true
  | _ => false

def callSlots : Set Slot := {k | k.isCall = true}

/-- The states differ at most in which call is running. -/
abbrev SameButCall : State → State → Prop := SameBut callSlots

instance : Unread callSlots where
  isUnread k hk := by
    have hcall : k.isCall = true := hk
    unfold Slot.isCall at hcall
    split at hcall
    · rfl
    · rfl
    · cases hcall

namespace SameButCall

variable {α : Type}

theorem of_write {k : Slot} [Holds Slot.Val k α] (s : State) (v : α) (hk : k.isCall = true) :
    SameButCall s (s.write k v) :=
  s.agreeOff_write v hk

theorem of_remove {k : Slot} (s : State) (hk : k.isCall = true) : SameButCall s (s.remove k) :=
  s.agreeOff_remove hk

end SameButCall

/-- The code ends in the same way whichever call it runs in. -/
abbrev IgnoresCall {α : Type} (x : Vault α) : Prop := x.Respects SameButCall

/-- An interval charge ends in the same way whichever call it runs in. -/
theorem IgnoresCall.chargeOne (id : Nat) (key : Option BytesN32) :
    IgnoresCall (chargeOne id key none ∅) :=
  Ignores.chargeOne id key none ∅

end SubscriptionVault
