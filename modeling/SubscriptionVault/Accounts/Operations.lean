import SubscriptionVault.Accounts.Payments
import SubscriptionVault.Lifecycle.Transactions

/-!
# Postings of the calls

Which postings each call makes. A call that is rolled back makes none, so only successful calls
count; in a batch the items that failed count as well.
-/

namespace SubscriptionVault

open Exec

/-! ## Payouts -/

section Payouts

variable {env : Env} {s t : State} {u : Unit} {merchant token : Address} {amount : Int}

theorem recordRefund_accounts
    (hrun : (recordRefund merchant token amount).run env s = .ok u t) :
    t.accounts = s.accounts.setEarnings merchant token { s.accounts.earnings merchant token with
      refunds := (s.accounts.earnings merchant token).refunds + amount } := by
  obtain ⟨earnings, hearnings, hrun⟩ := run_check_ok (.gets _) hrun
  obtain rfl := (run_gets_ok.mp hearnings).1
  obtain ⟨refunds, hrefunds, hrun⟩ := run_check_ok (.lift _) hrun
  obtain ⟨rfl, -⟩ := checkedI128_ok.mp (run_lift_ok.mp hrefunds).1
  obtain rfl := run_store_ok.mp hrun
  exact State.accounts_setEarnings _ _ _ _

theorem recordWithdrawal_accounts
    (hrun : (recordWithdrawal merchant token amount).run env s = .ok u t) :
    t.accounts = s.accounts.setEarnings merchant token { s.accounts.earnings merchant token with
      withdrawals := (s.accounts.earnings merchant token).withdrawals + amount } := by
  obtain ⟨earnings, hearnings, hrun⟩ := run_check_ok (.gets _) hrun
  obtain rfl := (run_gets_ok.mp hearnings).1
  obtain ⟨withdrawals, hwithdrawals, hrun⟩ := run_check_ok (.lift _) hrun
  obtain ⟨rfl, -⟩ := checkedI128_ok.mp (run_lift_ok.mp hwithdrawals).1
  obtain rfl := run_store_ok.mp hrun
  exact State.accounts_setEarnings _ _ _ _

theorem run_requireMerchantBalance_ok {current : Int}
    (hrun : (requireMerchantBalance merchant token amount).run env s = .ok current t) :
    current = s.accounts.balance merchant token ∧ amount ≤ current := by
  obtain ⟨balance, hbalance, hrun⟩ := run_check_ok (.gets _) hrun
  obtain rfl := (run_gets_ok.mp hbalance).1
  obtain ⟨_, -, hrun⟩ := run_check_ok (.failIf _ _) hrun
  obtain ⟨_, hcovers, hrun⟩ := run_check_ok (.failIf _ _) hrun
  obtain ⟨rfl, -⟩ := run_pure_ok.mp hrun
  exact ⟨rfl, Int.not_lt.mp (run_failIf_ok.mp hcovers).1⟩

theorem debitMerchantBalance_accounts {current : Int}
    (hrun : (debitMerchantBalance merchant token current amount).run env s = .ok u t) :
    t.accounts = s.accounts.setBalance merchant token (current - amount) := by
  obtain ⟨balance, hbalance, hrun⟩ := run_check_ok (.lift _) hrun
  obtain ⟨rfl, -⟩ := safeSub_ok.mp (run_lift_ok.mp hbalance).1
  obtain rfl := run_store_ok.mp hrun
  exact State.accounts_setBalance _ _ _ _

theorem transfer_accounts {sender receiver : Address}
    (hrun : (transfer token sender receiver amount).run env s = .ok u t) :
    t.accounts = s.accounts := by
  have hareas : Modifies (areas [.tokens]) (transfer token sender receiver amount) :=
    Modifies.transfer rfl rfl
  exact hareas.accounts rfl hrun

theorem withdrawMerchantFundsForToken_posts
    (hrun : (withdrawMerchantFundsForToken merchant token amount).run env s = .ok u t) :
    PostsOf (· = .withdraw merchant token amount) s t := by
  obtain ⟨_, -, hrun⟩ := run_check_ok .ask hrun
  obtain ⟨_, -, hrun⟩ := run_check_ok (Modifies.requireAuth _) hrun
  obtain ⟨_, -, hrun⟩ := run_check_ok (requireMerchantApproved_keeps _) hrun
  obtain ⟨_, -, hrun⟩ := run_check_ok (requireMerchantSigners_keeps _) hrun
  obtain ⟨_, -, hrun⟩ := run_check_ok (Modifies.requireNotBlocklisted _) hrun
  obtain ⟨_, hsign, hrun⟩ := run_check_ok (.failIf _ _) hrun
  obtain ⟨_, -, hrun⟩ := run_check_ok (.gets _) hrun
  obtain ⟨_, -, hrun⟩ := run_check_ok (.failIf _ _) hrun
  obtain ⟨_, -, hrun⟩ := run_check_ok (.gets _) hrun
  obtain ⟨_, -, hrun⟩ := run_check_ok (.failIf _ _) hrun
  obtain ⟨current, hcurrent, hrun⟩ := run_check_ok (requireMerchantBalance_keeps _ _ _) hrun
  obtain ⟨rfl, hcovers⟩ := run_requireMerchantBalance_ok hcurrent
  obtain ⟨_, -, hrun⟩ := run_check_ok (Modifies.tokenBalance _ _) hrun
  obtain ⟨_, -, hrun⟩ := run_check_ok (.failIf _ _) hrun
  obtain ⟨_, s₁, hdebit, hrun⟩ := run_bind_ok.mp hrun
  obtain ⟨_, s₂, hrefund, hrun⟩ := run_bind_ok.mp hrun
  obtain ⟨_, -, hrun⟩ := run_check_ok (.pure ()) hrun
  obtain ⟨_, s₃, hwithdrawal, hrun⟩ := run_bind_ok.mp hrun
  have hsign : 0 < amount := Int.not_le.mp (run_failIf_ok.mp hsign).1
  refine .one (.withdraw merchant token amount) rfl ⟨hsign, hcovers⟩ ?_
  rw [transfer_accounts hrun, recordWithdrawal_accounts hwithdrawal, recordRefund_accounts hrefund,
    debitMerchantBalance_accounts hdebit, Accounts.setEarnings_setEarnings]
  simp only [Accounts.earnings_setEarnings_self]
  rfl

theorem withdrawMerchantFundsReported_posts
    (hrun : (withdrawMerchantFundsReported merchant amount).run env s = .ok u t) :
    ∃ token, PostsOf (· = .withdraw merchant token amount) s t := by
  obtain ⟨_, s₁, hwithdraw, hrun⟩ := run_bind_ok.mp hrun
  obtain ⟨_, -, hrun⟩ := run_check_ok (.gets _) hrun
  obtain ⟨_, -, hrun⟩ := run_check_ok (.lift _) hrun
  obtain ⟨-, rfl⟩ := run_pure_ok.mp hrun
  obtain ⟨_, -, hwithdraw⟩ := run_check_ok (.gets _) hwithdraw
  obtain ⟨token, -, hwithdraw⟩ := run_check_ok (.lift _) hwithdraw
  exact ⟨token, withdrawMerchantFundsForToken_posts hwithdraw⟩

theorem merchantRefund_posts {subscriber : Address}
    (hrun : (merchantRefund merchant subscriber token amount).run env s = .ok u t) :
    PostsOf (· = .refund merchant token amount) s t := by
  obtain ⟨_, -, hrun⟩ := run_check_ok .ask hrun
  obtain ⟨_, -, hrun⟩ := run_check_ok (Modifies.requireAuth _) hrun
  obtain ⟨_, -, hrun⟩ := run_check_ok (requireMerchantApproved_keeps _) hrun
  obtain ⟨_, hsign, hrun⟩ := run_check_ok (.failIf _ _) hrun
  obtain ⟨_, -, hrun⟩ := run_check_ok (.gets _) hrun
  obtain ⟨_, -, hrun⟩ := run_check_ok (.failIf _ _) hrun
  obtain ⟨current, hcurrent, hrun⟩ := run_check_ok (requireMerchantBalance_keeps _ _ _) hrun
  obtain ⟨rfl, hcovers⟩ := run_requireMerchantBalance_ok hcurrent
  obtain ⟨_, s₁, hdebit, hrun⟩ := run_bind_ok.mp hrun
  obtain ⟨_, -, hrun⟩ := run_check_ok (.pure ()) hrun
  obtain ⟨_, s₂, hrefund, hrun⟩ := run_bind_ok.mp hrun
  have hsign : 0 < amount := Int.not_le.mp (run_failIf_ok.mp hsign).1
  refine .one (.refund merchant token amount) rfl ⟨hsign, hcovers⟩ ?_
  rw [transfer_accounts hrun, recordRefund_accounts hrefund, debitMerchantBalance_accounts hdebit]
  rfl

theorem flushMerchantToken_posts {minPayout : Int}
    (hrun : (flushMerchantToken merchant minPayout token).run env s = .ok u t) :
    PostsOf (· = .payOut merchant token) s t := by
  obtain ⟨_, -, hrun⟩ := run_check_ok .ask hrun
  obtain ⟨balance, hbalance, hrun⟩ := run_check_ok (.gets _) hrun
  obtain rfl := (run_gets_ok.mp hbalance).1
  rcases run_when_ok.mp hrun with ⟨⟨-, hfunded⟩, hrun⟩ | ⟨-, rfl⟩
  · obtain ⟨_, -, hrun⟩ := run_check_ok (.gets _) hrun
    obtain ⟨_, -, hrun⟩ := run_check_ok (.okOr _ _) hrun
    obtain ⟨_, s₁, hwrite, hrun⟩ := run_bind_ok.mp hrun
    obtain rfl := run_store_ok.mp hwrite
    obtain ⟨_, s₂, hwithdrawal, hrun⟩ := run_bind_ok.mp hrun
    obtain ⟨_, -, hrun⟩ := run_check_ok (.pure ()) hrun
    refine .one (.payOut merchant token) rfl hfunded ?_
    rw [transfer_accounts hrun, recordWithdrawal_accounts hwithdrawal, State.accounts_setBalance]
    rfl
  · exact Std.Refl.refl _

theorem doFlushPayouts_posts (hrun : (doFlushPayouts merchant).run env s = .ok u t) :
    PostsOf (fun p => ∃ token, p = .payOut merchant token) s t := by
  have hflush (minPayout : Int) (token : Address) : (flushMerchantToken merchant minPayout
      token).Ends (PostsOf fun p => ∃ token, p = .payOut merchant token) AnyEnd :=
    .of_runs (fun _ _ _ _ hrun => (flushMerchantToken_posts hrun).mono fun _ hp => ⟨token, hp⟩)
      fun _ _ _ _ _ => trivial
  have hschedule (schedule : PayoutSchedule) : (store (.instanced (.payoutSchedule merchant))
      schedule : Vault Unit).Ends (PostsOf fun p => ∃ token, p = .payOut merchant token) AnyEnd :=
    .of_keeps (Modifies.store (S := areas [.schedules]) rfl) fun _ _ h => .of_areas h rfl
  have hends : (doFlushPayouts merchant).Ends
      (PostsOf fun p => ∃ token, p = .payOut merchant token) AnyEnd :=
    .bind .ask fun _ => .bind (.check (requireMerchantApproved_keeps _)) fun _ =>
      .bind (.gets _) fun _ => .when <| .bind (.failIf _ _) fun _ => .bind (.gets _) fun _ =>
      .bind (.forEach fun token _ => hflush _ token) fun _ => hschedule _
  exact hends.ok hrun

theorem registerSubAccount_posts {label : Symbol}
    (hrun : (registerSubAccount merchant label).run env s = .ok u t) :
    PostsOf (· = .register merchant label) s t := by
  obtain ⟨_, -, hrun⟩ := run_check_ok (Modifies.requireAuth _) hrun
  obtain ⟨_, -, hrun⟩ := run_check_ok (.gets _) hrun
  obtain ⟨_, -, hrun⟩ := run_check_ok (.failIf _ _) hrun
  obtain ⟨labels, -, hrun⟩ := run_check_ok (.gets _) hrun
  obtain ⟨_, -, hrun⟩ := run_check_ok (.failIf _ _) hrun
  obtain ⟨_, s₁, hwrite, hrun⟩ := run_bind_ok.mp hrun
  obtain rfl := run_store_ok.mp hwrite
  have hlist : Modifies (areas [.subAccountLabels]) (store (.instanced (.merchantSubAccountList
      merchant)) (labels ++ [label]) : Vault Unit) := Modifies.store rfl
  refine .one (.register merchant label) rfl trivial ?_
  rw [hlist.accounts rfl hrun]
  exact State.accounts_setSubAccount s merchant label 0

theorem withdrawSubAccountFunds_posts {label : Symbol}
    (hrun : (withdrawSubAccountFunds merchant label token amount).run env s = .ok u t) :
    PostsOf (· = .withdrawSub merchant token label amount) s t := by
  obtain ⟨_, -, hrun⟩ := run_check_ok .ask hrun
  obtain ⟨_, -, hrun⟩ := run_check_ok (Modifies.requireAuth _) hrun
  obtain ⟨_, -, hrun⟩ := run_check_ok (requireMerchantApproved_keeps _) hrun
  obtain ⟨_, hsign, hrun⟩ := run_check_ok (.failIf _ _) hrun
  obtain ⟨_, -, hrun⟩ := run_check_ok (.bind Modifies.load fun _ => .failIf _ _) hrun
  obtain ⟨current, hcurrent, hrun⟩ := run_check_ok (.gets _) hrun
  obtain rfl := (run_gets_ok.mp hcurrent).1
  obtain ⟨_, -, hrun⟩ := run_check_ok (.failIf _ _) hrun
  obtain ⟨_, hcovers, hrun⟩ := run_check_ok (.failIf _ _) hrun
  obtain ⟨_, -, hrun⟩ := run_check_ok (Modifies.tokenBalance _ _) hrun
  obtain ⟨_, -, hrun⟩ := run_check_ok (.failIf _ _) hrun
  obtain ⟨balance, hbalance, hrun⟩ := run_check_ok (.lift _) hrun
  obtain ⟨rfl, -⟩ := checkedI128_ok.mp (run_lift_ok.mp hbalance).1
  obtain ⟨_, s₁, hwrite, hrun⟩ := run_bind_ok.mp hrun
  obtain rfl := run_store_ok.mp hwrite
  obtain ⟨funds, hfunds, hrun⟩ := run_check_ok (.gets _) hrun
  obtain rfl := (run_gets_ok.mp hfunds).1
  obtain ⟨_, s₂, hwrite, hrun⟩ := run_bind_ok.mp hrun
  obtain rfl := run_store_ok.mp hwrite
  obtain ⟨_, s₃, hwithdrawal, hrun⟩ := run_bind_ok.mp hrun
  obtain ⟨_, -, hrun⟩ := run_check_ok (.pure ()) hrun
  have hsign : 0 < amount := Int.not_le.mp (run_failIf_ok.mp hsign).1
  have hcovers : amount ≤ s.accounts.subAccount merchant label :=
    Int.not_lt.mp (run_failIf_ok.mp hcovers).1
  refine .one (.withdrawSub merchant token label amount) rfl ⟨hsign, hcovers⟩ ?_
  have hfunds := State.accounts_setFunds (s.write (.instanced (.merchantSubAccount merchant label))
    (s.subAccountBalance merchant label - amount)) merchant label token (-amount)
  rw [← Int.sub_eq_add_neg] at hfunds
  rw [transfer_accounts hrun, recordWithdrawal_accounts hwithdrawal, hfunds,
    State.accounts_setSubAccount]
  rfl

end Payouts

/-! ## Disputes -/

section Disputes

variable {env : Env} {s t : State} {u : Unit}

theorem doOpenDispute_posts {subscriber : Address} {id : Nat} {amount : Int}
    {evidenceHash : Option BytesN32}
    (hrun : (doOpenDispute subscriber id amount evidenceHash).run env s = .ok u t) :
    ∃ merchant token, PostsOf (· = .dispute merchant token amount) s t := by
  obtain ⟨_, -, hrun⟩ := run_check_ok (Modifies.requireAuth _) hrun
  obtain ⟨_, hsign, hrun⟩ := run_check_ok (.failIf _ _) hrun
  obtain ⟨sub, -, hrun⟩ := run_check_ok (Modifies.getSubscription _) hrun
  obtain ⟨_, -, hrun⟩ := run_check_ok (.failIf _ _) hrun
  obtain ⟨_, -, hrun⟩ := run_check_ok Modifies.load hrun
  obtain ⟨_, -, hrun⟩ := run_check_ok (.failIf _ _) hrun
  obtain ⟨balance, hbalance, hrun⟩ := run_check_ok (.gets _) hrun
  obtain rfl := (run_gets_ok.mp hbalance).1
  obtain ⟨_, hcovers, hrun⟩ := run_check_ok (.failIf _ _) hrun
  obtain ⟨rest, hrest, hrun⟩ := run_check_ok (.lift _) hrun
  obtain ⟨rfl, -⟩ := checkedI128_ok.mp (run_lift_ok.mp hrest).1
  obtain ⟨_, s₁, hwrite, hrun⟩ := run_bind_ok.mp hrun
  obtain rfl := run_store_ok.mp hwrite
  have hsign : 0 < amount := Int.not_le.mp (run_failIf_ok.mp hsign).1
  have hcovers : amount ≤ s.accounts.balance sub.merchant sub.token :=
    Int.not_lt.mp (run_failIf_ok.mp hcovers).1
  refine ⟨sub.merchant, sub.token, .one (.dispute sub.merchant sub.token amount) rfl
    ⟨hsign, hcovers⟩ ?_⟩
  rw [(recordDispute_areas _ _ _ _ _).accounts rfl hrun]
  exact State.accounts_setBalance _ _ _ _

theorem payOutDispute_posts {dispute : Dispute} {token : Address} {remaining : Int}
    {resolution : DisputeStatus} (hsign : 0 < remaining)
    (hrun : (payOutDispute dispute token remaining resolution).run env s = .ok u t) :
    PostsOf (· = .release dispute.merchant token remaining) s t := by
  unfold payOutDispute at hrun
  split at hrun
  · obtain ⟨current, hcurrent, hrun⟩ := run_check_ok (.gets _) hrun
    obtain rfl := (run_gets_ok.mp hcurrent).1
    obtain ⟨balance, hbalance, hrun⟩ := run_check_ok (.lift _) hrun
    obtain ⟨rfl, -⟩ := checkedI128_ok.mp (run_lift_ok.mp hbalance).1
    obtain rfl := run_store_ok.mp hrun
    refine .one (.release dispute.merchant token remaining) rfl hsign ?_
    exact State.accounts_setBalance _ _ _ _
  · obtain ⟨_, -, hrun⟩ := run_check_ok .ask hrun
    obtain ⟨_, -, hrun⟩ := run_check_ok (.pure ()) hrun
    exact .of_eq (transfer_accounts hrun)

theorem doResolveDispute_posts {admin : Address} {disputeId : Nat} {toSubscriber : Bool}
    (hrun : (doResolveDispute admin disputeId toSubscriber).run env s = .ok u t) :
    ∃ merchant token amount, PostsOf (· = .release merchant token amount) s t := by
  obtain ⟨_, -, hrun⟩ := run_check_ok .ask hrun
  obtain ⟨_, -, hrun⟩ := run_check_ok (Modifies.requireAdminAuth _) hrun
  obtain ⟨_, -, hrun⟩ := run_check_ok (.gets _) hrun
  obtain ⟨dispute, -, hrun⟩ := run_check_ok (.okOr _ _) hrun
  obtain ⟨_, -, hrun⟩ := run_check_ok (.failIf _ _) hrun
  obtain ⟨_, -, hrun⟩ := run_check_ok (.gets _) hrun
  obtain ⟨_, -, hrun⟩ := run_check_ok (.failIf _ _) hrun
  obtain ⟨_, -, hrun⟩ := run_check_ok (.gets _) hrun
  obtain ⟨_, -, hrun⟩ := run_check_ok (.okOr _ _) hrun
  obtain ⟨remaining, -, hrun⟩ := run_check_ok (.lift _) hrun
  obtain ⟨_, hsign, hrun⟩ := run_check_ok (.failIf _ _) hrun
  obtain ⟨sub, -, hrun⟩ := run_check_ok (Modifies.getSubscription _) hrun
  obtain ⟨_, s₁, hdrop, hrun⟩ := run_bind_ok.mp hrun
  obtain ⟨_, s₂, hpaid, hrun⟩ := run_bind_ok.mp hrun
  have hbefore : Modifies (areas [.disputes]) (delete (.instanced (.disputeEscrow disputeId))) :=
    Modifies.delete rfl
  have hafter : Modifies (areas [.disputes]) (do
      store (.persistent (.dispute disputeId))
        { dispute with status := dispute.resolution toSubscriber }
      delete (.instanced (.subscriptionDispute dispute.subscriptionId)) : Vault Unit) :=
    .bind (Modifies.store rfl) fun _ => Modifies.delete rfl
  refine ⟨dispute.merchant, sub.token, remaining, ?_⟩
  have hfirst : PostsOf (· = .release dispute.merchant sub.token remaining) s s₁ :=
    .of_eq (hbefore.accounts rfl hdrop)
  have hlast : PostsOf (· = .release dispute.merchant sub.token remaining) s₂ t :=
    .of_eq (hafter.accounts rfl hrun)
  exact trans_of (PostsOf _) (trans_of (PostsOf _) hfirst
    (payOutDispute_posts (Int.not_le.mp (run_failIf_ok.mp hsign).1) hpaid)) hlast

end Disputes

/-! ## Rotation and restore -/

section Rotation

variable {env : Env} {s t : State} {u : Unit} {oldMerchant newMerchant token : Address}

/-- The balance of the old address is added to that of the new one. -/
theorem mergeBalance_accounts
    (hrun : (do
      when (s.merchantBalance oldMerchant token ≠ 0) do
        let existing ← gets (·.merchantBalance newMerchant token)
        setMerchantBalance newMerchant token
          (wrapI128 (existing + s.merchantBalance oldMerchant token)) : Vault Unit).run env s =
        .ok u t) :
    t.accounts = if s.accounts.balance oldMerchant token = 0 then s.accounts else
      s.accounts.setBalance newMerchant token (wrapI128
        (s.accounts.balance newMerchant token + s.accounts.balance oldMerchant token)) := by
  rcases run_when_ok.mp hrun with ⟨hsome, hrun⟩ | ⟨hzero, rfl⟩
  · have hsome : s.accounts.balance oldMerchant token ≠ 0 := hsome
    obtain ⟨existing, hexisting, hrun⟩ := run_check_ok (.gets _) hrun
    obtain rfl := (run_gets_ok.mp hexisting).1
    obtain rfl := run_store_ok.mp hrun
    rw [if_neg hsome]
    exact State.accounts_setBalance _ _ _ _
  · have hzero : s.accounts.balance oldMerchant token = 0 := not_not.mp hzero
    rw [if_pos hzero]

/-- The earnings of the new address are replaced, where there are earnings to move. -/
theorem moveEarnings_accounts
    (hrun : (moveEntry (.merchantEarnings oldMerchant token)
      (.merchantEarnings newMerchant token)).run env s = .ok u t) :
    ∃ recorded : Bool,
      (recorded = false → s.accounts.earnings oldMerchant token = .none) ∧
      t.accounts = if recorded then
          (s.accounts.setEarnings newMerchant token
            (s.accounts.earnings oldMerchant token)).setEarnings oldMerchant token .none
        else s.accounts := by
  obtain ⟨found, hfound, hrun⟩ := run_check_ok Modifies.load hrun
  have hfound := (run_load_ok.mp hfound).1
  have hearnings : s.accounts.earnings oldMerchant token = found.getD .none := by
    rw [← hfound]
    rfl
  rcases run_whenSome_ok.mp hrun with ⟨earnings, rfl, hrun⟩ | ⟨rfl, rfl⟩
  · obtain ⟨_, s₁, hwrite, hrun⟩ := run_bind_ok.mp hrun
    obtain rfl := run_store_ok.mp hwrite
    obtain rfl := run_delete_ok.mp hrun
    refine ⟨true, fun h => (Bool.noConfusion h), ?_⟩
    rw [State.accounts_dropEarnings, State.accounts_setEarnings, hearnings]
    rfl
  · exact ⟨false, fun _ => hearnings, rfl⟩

theorem moveMerchantToken_posts
    (hrun : (moveMerchantToken oldMerchant newMerchant token).run env s = .ok u t) :
    PostsOf (fun p => ∃ recorded, p = .move oldMerchant newMerchant token recorded) s t := by
  obtain ⟨balance, hbalance, hrun⟩ := run_check_ok (.gets _) hrun
  obtain rfl := (run_gets_ok.mp hbalance).1
  obtain ⟨_, s₁, hmerge, hrun⟩ := run_bind_ok.mp hrun
  obtain ⟨_, s₂, hdrop, hrun⟩ := run_bind_ok.mp hrun
  obtain rfl := run_delete_ok.mp hdrop
  obtain ⟨recorded, hnone, hmoved⟩ := moveEarnings_accounts hrun
  have hkept : s₁.accounts.earnings = s.accounts.earnings := by
    rw [mergeBalance_accounts hmerge]
    split <;> rfl
  have hearnings : (s₁.accounts.setBalance oldMerchant token 0).earnings oldMerchant token =
      s.accounts.earnings oldMerchant token := congrFun (congrFun hkept _) _
  rw [State.accounts_dropBalance, hearnings] at hnone hmoved
  rw [mergeBalance_accounts hmerge] at hmoved
  exact .one (.move oldMerchant newMerchant token recorded) ⟨recorded, rfl⟩ hnone hmoved

/-- After the accounts a rotation moves lists, settings and records. -/
theorem rotationRest_areas (oldMerchant newMerchant : Address) (tokens : List Address) :
    Modifies (areas [.merchantTokens, .merchants, .records, .merchantIndex]) (do
      moveList (.merchantTokens oldMerchant) (.merchantTokens newMerchant) tokens
      moveEntry (.merchantConfig oldMerchant) (.merchantConfig newMerchant)
      moveEntry (.merchantPaused oldMerchant) (.merchantPaused newMerchant)
      moveEntry (.merchantVacation oldMerchant) (.merchantVacation newMerchant)
      let ids ← gets (·.merchantSubs oldMerchant)
      forEach ids (rewriteSubscriptionMerchant oldMerchant newMerchant)
      moveList (.merchantSubs oldMerchant) (.merchantSubs newMerchant) ids : Vault Unit) :=
  .bind (moveList_areas _ _ _ rfl rfl) fun _ => .bind (moveEntry_areas _ _ rfl rfl) fun _ =>
    .bind (moveEntry_areas _ _ rfl rfl) fun _ => .bind (moveEntry_areas _ _ rfl rfl) fun _ =>
    .bind (.gets _) fun _ =>
    .bind (.forEach (fun _ => (rewriteSubscriptionMerchant_areas _ _ _).widen rfl) _) fun _ =>
    moveList_areas _ _ _ rfl rfl

theorem doRotateMerchantAddress_posts {admin : Address} {nonce : Nat}
    (hrun : (doRotateMerchantAddress admin oldMerchant newMerchant nonce).run env s = .ok u t) :
    PostsOf (fun p => ∃ token ∈ s.merchantTokens oldMerchant, ∃ recorded,
      p = .move oldMerchant newMerchant token recorded) s t := by
  obtain ⟨_, -, hrun⟩ := run_check_ok (Modifies.requireAdminAuth _) hrun
  obtain ⟨_, s₁, hnonce, hrun⟩ := run_bind_ok.mp hrun
  obtain ⟨tokens, htokens, hrun⟩ := run_check_ok (.gets _) hrun
  obtain rfl := (run_gets_ok.mp htokens).1
  obtain ⟨_, s₂, hmoved, hrun⟩ := run_bind_ok.mp hrun
  have hnonces : Modifies (areas [.nonces]) (checkAndAdvance admin .merchantRotation nonce) :=
    Modifies.checkAndAdvance rfl
  have hkept : s₁.merchantTokens oldMerchant = s.merchantTokens oldMerchant :=
    congrArg (·.getD []) (State.read_of_areas
      (k := .instanced (.merchantTokens oldMerchant)) (hnonces.ok hnonce) rfl)
  have hmove : ∀ token ∈ s₁.merchantTokens oldMerchant,
      (moveMerchantToken oldMerchant newMerchant token).Ends
        (PostsOf fun p => ∃ token ∈ s.merchantTokens oldMerchant, ∃ recorded,
          p = .move oldMerchant newMerchant token recorded) AnyEnd := fun token htoken =>
    .of_runs (fun _ _ _ _ hrun => (moveMerchantToken_posts hrun).mono
      fun _ hp => ⟨token, hkept ▸ htoken, hp⟩) fun _ _ _ _ _ => trivial
  have hmoves := (Ends.forEach hmove).ok hmoved
  refine trans_of (PostsOf _) (trans_of (PostsOf _) ?_ hmoves) ?_
  · exact .of_areas (hnonces.ok hnonce) rfl
  · exact .of_areas ((rotationRest_areas _ _ _).ok hrun) rfl

theorem restoreSnapshotPage_posts {admin : Address} {summaries : List SubscriptionSummary}
    {balances : List MerchantBalanceEntry}
    (hrun : (restoreSnapshotPage admin summaries balances).run env s = .ok u t) :
    PostsOf (fun p => ∃ merchant token balance, p = .restore merchant token balance) s t := by
  have hrestore (entry : MerchantBalanceEntry) :
      (setMerchantBalance entry.merchant entry.token entry.amount).Ends
        (PostsOf fun p => ∃ merchant token balance, p = .restore merchant token balance) AnyEnd := by
    refine .of_runs (fun env s _ t hrun => ?_) fun _ _ _ _ _ => trivial
    obtain rfl := run_store_ok.mp hrun
    exact .one (.restore entry.merchant entry.token entry.amount) ⟨_, _, _, rfl⟩ trivial
      (State.accounts_setBalance _ _ _ _)
  have hquiet {α : Type} {l : List Area} {x : Vault α} (hx : Modifies (areas l) x)
      (hl : l.any accountAreas.contains = false) : x.Ends
        (PostsOf fun p => ∃ merchant token balance, p = .restore merchant token balance) AnyEnd :=
    .of_keeps hx fun _ _ h => .of_areas h hl
  have hends : (restoreSnapshotPage admin summaries balances).Ends
      (PostsOf fun p => ∃ merchant token balance, p = .restore merchant token balance) AnyEnd :=
    .bind (.check (Modifies.requireAdminAuth _)) fun _ => .bind (.gets _) fun _ =>
      .bind (.failIf _ _) fun _ => .bind (.check Modifies.load) fun _ =>
      .bind (.forEach fun _ _ => hquiet (writeSubscription_areas _ _) rfl) fun _ =>
      .bind (.forEach fun entry _ => hrestore entry) fun _ =>
      .when (hquiet (l := [.numbering]) (Modifies.store rfl) rfl)
  exact hends.ok hrun

end Rotation

/-! ## Calls -/

/-- The postings of a call that goes through. -/
def VaultCall.mayPost (s : State) (p : Posting) : VaultCall → Prop
  | .chargeSubscription _ _ | .operatorChargeSubscription _ _ | .chargeUsage _ _
  | .chargeUsageWithReference _ _ _ | .operatorChargeUsage _ _ _
  | .operatorChargeUsageWithRef _ _ _ _ | .chargeOneOff _ _ _ _ | .graceBuyout _ _ _ _ =>
    p.isPayment = true
  | .batchCharge _ _ _ | .batchChargeDetailed _ _ _ => p.isPayment = true ∨ p.isCut = true
  | .withdrawMerchantFunds merchant amount => ∃ token, p = .withdraw merchant token amount
  | .withdrawMerchantTokenFunds merchant token amount => p = .withdraw merchant token amount
  | .merchantRefund merchant _ token amount => p = .refund merchant token amount
  | .flushPayouts merchant => ∃ token, p = .payOut merchant token
  | .registerSubAccount merchant label => p = .register merchant label
  | .withdrawSubAccountFunds merchant label token amount =>
    p = .withdrawSub merchant token label amount
  | .rotateMerchantAddress _ oldMerchant newMerchant _ =>
    ∃ token ∈ s.merchantTokens oldMerchant, ∃ recorded,
      p = .move oldMerchant newMerchant token recorded
  | .openDispute _ _ amount _ => ∃ merchant token, p = .dispute merchant token amount
  | .resolveDispute _ _ _ => ∃ merchant token amount, p = .release merchant token amount
  | .restoreSnapshotPage _ _ _ => ∃ merchant token balance, p = .restore merchant token balance
  | _ => False

section Calls

variable {α : Type} {env : Env} {s t : State} {a : α} {name : LockName} {body : Vault α}
  {P : Posting → Prop}

theorem posts_of_locked (hbody : ∀ u, body.run env (s.write (.lock name) true) = .ok a u →
      PostsOf P (s.write (.lock name) true) u)
    (hrun : (withLock name body).run env s = .ok a t) : PostsOf P s t := by
  obtain ⟨-, u, hlocked, rfl⟩ := run_withLock_ok.mp hrun
  have htaken : PostsOf P s (s.write (.lock name) true) :=
    .of_areas (l := [.locks]) (s.agreeOff_write _ rfl) rfl
  have hdropped : PostsOf P u (u.remove (.lock name)) :=
    .of_areas (l := [.locks]) (u.agreeOff_remove rfl) rfl
  exact trans_of (PostsOf P) (trans_of (PostsOf P) htaken (hbody u hlocked)) hdropped

theorem posts_of_guarded (hbody : ∀ u, body.run env (s.write (.lock name) true) = .ok a u →
      PostsOf P (s.write (.lock name) true) u)
    (hrun : (guardedCall name body).run env s = .ok a t) : PostsOf P s t :=
  posts_of_locked hbody (run_guardedCall_ok.mp hrun).2

theorem chargeOne_posts (id : Nat) (key : Option BytesN32) (cfg : Option CachedAdminConfig)
    (cache : MerchantCache) :
    (chargeOne id key cfg cache).Ends (PostsOf (·.isPayment)) (FailedPosts (·.isPayment)) :=
  fun _ _ => chargeOne_ends fun sub _ => paymentPosts id sub

theorem chargeUsageOne_posts (id : Nat) (usageAmount : Int) (reference : Bytes) :
    (chargeUsageOne id usageAmount reference).Ends (PostsOf (·.isPayment))
      (FailedPosts (·.isPayment)) :=
  fun _ _ => chargeUsageOne_ends fun sub _ =>
    (paymentPosts id sub).withUsage fun _ _ hagree => .of_areas hagree rfl

theorem doChargeOneOff_posts (id : Nat) (merchant : Address) (amount : Int)
    (key : Option BytesN32) : (doChargeOneOff id merchant amount key).Ends
      (PostsOf (·.isPayment)) (FailedPosts (·.isPayment)) :=
  fun _ _ => doChargeOneOff_ends fun _ _ _ _ => paymentPosts id _

theorem doGraceBuyout_posts (id : Nat) (subscriber : Address) (amount : Int)
    (key : Option BytesN32) : (doGraceBuyout id subscriber amount key).Ends
      (PostsOf (·.isPayment)) (FailedPosts (·.isPayment)) :=
  doGraceBuyout_ends (fun sub => (paymentPosts id sub).credits) subscriber amount key

/-- A batch keeps the postings of items that failed. -/
theorem doBatchChargeDetailed_posts (ids : List Nat) (keys : Option (List BytesN32))
    (nonce : Nat) : (doBatchChargeDetailed ids keys nonce).Keeps
      (PostsOf fun p => p.isPayment = true ∨ p.isCut = true) := by
  refine doBatchChargeDetailed_keeps (fun id key cfg cache => ?_) (fun s t hagree => ?_) ids keys
    nonce
  · refine .of_runs (fun _ _ _ _ hrun => ?_) fun _ _ _ _ hrun => ?_
    · exact ((chargeOne_posts id key cfg cache).ok hrun).mono fun _ hp => .inl hp
    · exact ((chargeOne_posts id key cfg cache).err hrun).any
  · exact .of_areas hagree rfl

/-- A call that goes through changes the accounts by postings of its own kind. -/
theorem VaultCall.posts {call : VaultCall} (hrun : call.exec.run env s = .ok () t) :
    PostsOf (call.mayPost s ·) s t := by
  have hpays {β : Type} {x : Vault β} {name : LockName}
      (hx : x.Ends (PostsOf (·.isPayment)) (FailedPosts (·.isPayment)))
      (hcall : (effectOf (guardedCall name x)).run env s = .ok () t) :
      PostsOf (·.isPayment) s t := by
    obtain ⟨b, hcall⟩ := run_effectOf_ok.mp hcall
    exact posts_of_guarded (fun u hbody => hx.ok hbody) hcall
  have hbatch {β : Type} {x : Vault β}
      (hx : x.Keeps (PostsOf fun p => p.isPayment = true ∨ p.isCut = true))
      (hcall : (effectOf (guardedBatch x)).run env s = .ok () t) :
      PostsOf (fun p => p.isPayment = true ∨ p.isCut = true) s t := by
    obtain ⟨b, hcall⟩ := run_effectOf_ok.mp hcall
    refine posts_of_locked (fun u hbody => ?_) hcall
    obtain ⟨_, -, hbody⟩ := run_check_ok Modifies.requireNotEmergencyStop hbody
    exact hx.ok hbody
  by_cases hquiet : (.locks :: call.areas).any accountAreas.contains = false
  · exact .of_areas (call.worksIn.ok hrun).1 hquiet
  cases call
  case chargeSubscription => exact hpays (chargeOne_posts _ _ _ _) hrun
  case operatorChargeSubscription =>
    exact hpays (.bind (.check (keeps_requireOperatorAuth _)) fun _ => chargeOne_posts _ _ _ _) hrun
  case batchCharge =>
    exact hbatch (.bind (doBatchChargeDetailed_posts _ _ _) fun _ =>
      .bind (.failIf _ _) fun _ => .pure _) hrun
  case batchChargeDetailed => exact hbatch (doBatchChargeDetailed_posts _ _ _) hrun
  case chargeUsage => exact hpays (chargeUsageOne_posts _ _ _) hrun
  case chargeUsageWithReference => exact hpays (chargeUsageOne_posts _ _ _) hrun
  case operatorChargeUsage =>
    exact hpays (.bind (.check (keeps_requireOperatorAuth _)) fun _ =>
      chargeUsageOne_posts _ _ _) hrun
  case operatorChargeUsageWithRef =>
    exact hpays (.bind (.check (keeps_requireOperatorAuth _)) fun _ =>
      chargeUsageOne_posts _ _ _) hrun
  case chargeOneOff =>
    exact posts_of_guarded (fun u hbody => (doChargeOneOff_posts _ _ _ _).ok hbody) hrun
  case graceBuyout => exact hpays (doGraceBuyout_posts _ _ _ _) hrun
  case withdrawMerchantFunds =>
    refine posts_of_guarded (fun u hbody => ?_) hrun
    obtain ⟨token, hposts⟩ := withdrawMerchantFundsReported_posts hbody
    exact hposts.mono fun p hp => ⟨token, hp⟩
  case withdrawMerchantTokenFunds =>
    exact posts_of_guarded (fun u hbody => withdrawMerchantFundsForToken_posts hbody) hrun
  case merchantRefund => exact posts_of_locked (fun u hbody => merchantRefund_posts hbody) hrun
  case flushPayouts => exact posts_of_guarded (fun u hbody => doFlushPayouts_posts hbody) hrun
  case registerSubAccount => exact registerSubAccount_posts hrun
  case withdrawSubAccountFunds =>
    exact posts_of_locked (fun u hbody => withdrawSubAccountFunds_posts hbody) hrun
  case rotateMerchantAddress => exact doRotateMerchantAddress_posts hrun
  case openDispute =>
    refine posts_of_locked (fun u hbody => ?_) hrun
    obtain ⟨merchant, token, hposts⟩ := doOpenDispute_posts hbody
    exact hposts.mono fun p hp => ⟨merchant, token, hp⟩
  case resolveDispute =>
    refine posts_of_locked (fun u hbody => ?_) hrun
    obtain ⟨merchant, token, amount, hposts⟩ := doResolveDispute_posts hbody
    exact hposts.mono fun p hp => ⟨merchant, token, amount, hp⟩
  case restoreSnapshotPage => exact restoreSnapshotPage_posts hrun
  all_goals exact absurd rfl hquiet

end Calls

end SubscriptionVault
