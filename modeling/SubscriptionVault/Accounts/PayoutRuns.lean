import SubscriptionVault.Accounts.EarnedTokens
import SubscriptionVault.Accounts.ScheduledPayouts

/-!
# Runs with scheduled payouts

Along a run the time of the last flush only moves forward, which spaces flushes, and the token
list of a merchant holds everything it has ever earned, which makes a flush complete. Both hold
whatever comes between the flushes, except that a rotation away from the address takes the list
with it: what a dispute puts back on the old address afterwards is never flushed.
-/

namespace SubscriptionVault

open Exec

/-! ## Runs with schedules -/

inductive PayoutAction where
  | call (env : Env) (call : VaultCall)
  | setSchedule (env : Env) (merchant : Address) (cadenceSeconds : Nat) (minPayout : Int)
  /-- An entrypoint that is not listed, a transfer of tokens outside the vault, or nothing. -/
  | other (env : Env)

def PayoutAction.env : PayoutAction → Env
  | .call env _ | .setSchedule env _ _ _ | .other env => env

inductive PayoutStep : PayoutAction → State → State → Prop
  | call {env : Env} {call : VaultCall} {s t : State} :
      call.exec.run env s = .ok () t → PayoutStep (.call env call) s t
  | setSchedule {env : Env} {merchant : Address} {cadenceSeconds : Nat} {minPayout : Int}
      {s t : State} : (doSetPayoutSchedule merchant cadenceSeconds minPayout).run env s = .ok () t →
      PayoutStep (.setSchedule env merchant cadenceSeconds minPayout) s t
  | other {env : Env} {s t : State} :
      FiniteStore.AgreeOff (areas (foreignAreas.erase .schedules)) s t →
      PayoutStep (.other env) s t

/-- The address gives everything it owns to another one. -/
def PayoutAction.rotatesAway (merchant : Address) : PayoutAction → Prop
  | .call _ made => made.rotatesAway merchant
  | _ => False

/-- The step flushes the merchant's balances under a schedule. -/
def FlushesUnder (merchant : Address) (step : PayoutAction × State) : Prop :=
  (∃ env, step.1 = .call env (.flushPayouts merchant)) ∧ (step.2.payoutSchedule merchant).IsSet

/-- Ledger times are positive and never run backwards. -/
structure InLedgerOrder (hist : History PayoutAction State) : Prop where
  pairwise : hist.Pairwise fun later earlier => earlier.1.env.now ≤ later.1.env.now
  positive : ∀ step ∈ hist, 0 < step.1.env.now

/-! ## The time of the last flush -/

section Clock

variable {env : Env} {s t start : State} {l : PayoutAction} {merchant : Address}
  {hist : History PayoutAction State}

/-- All slots but the merchant's schedule. -/
def scheduleFree (merchant : Address) : Set Slot :=
  {k | k ≠ .instanced (.payoutSchedule merchant)}

theorem State.payoutSchedule_of_agreeOff (h : FiniteStore.AgreeOff (scheduleFree merchant) s t) :
    t.payoutSchedule merchant = s.payoutSchedule merchant := by
  unfold State.payoutSchedule
  rw [h.read fun hmem => hmem rfl]

theorem Modifies.scheduleFree {α : Type} {l : List Area} {x : Vault α} (h : Modifies (areas l) x)
    (hl : l.contains .schedules = false) : Modifies (scheduleFree merchant) x := by
  refine h.weaken ?_
  rintro k hk rfl
  have hin : l.contains .schedules = true := hk
  exact Bool.noConfusion (hl.symm.trans hin)

theorem doFlushPayouts_scheduleFree {flushed : Address} (hne : merchant ≠ flushed) :
    Modifies (scheduleFree merchant) (doFlushPayouts flushed) := by
  refine .bind .ask fun _ => .bind (requireMerchantApproved_keeps _) fun _ =>
    .bind (.gets _) fun _ => .when <| .bind (.failIf _ _) fun _ => .bind (.gets _) fun _ =>
    .bind (.forEach (fun _ => (flushMerchantToken_areas _ _ _).scheduleFree rfl) _) fun _ =>
    Modifies.store ?_
  intro hsame
  cases hsame
  exact hne rfl

/-- Without a schedule a flush stops before it writes anything. -/
theorem doFlushPayouts_unset (hunset : ¬(s.payoutSchedule merchant).IsSet)
    (hrun : (doFlushPayouts merchant).run env s = .ok () t) : s = t := by
  obtain ⟨_, -, hrun⟩ := run_check_ok .ask hrun
  obtain ⟨_, -, hrun⟩ := run_check_ok (requireMerchantApproved_keeps _) hrun
  obtain ⟨schedule, hschedule, hrun⟩ := run_check_ok (.gets _) hrun
  obtain rfl := (run_gets_ok.mp hschedule).1
  rcases run_when_ok.mp hrun with ⟨hset, -⟩ | ⟨-, hrest⟩
  · exact absurd hset hunset
  · exact hrest

theorem flushPayouts_schedule {flushed : Address}
    (hother : ¬(merchant = flushed ∧ (s.payoutSchedule merchant).IsSet))
    (hrun : (VaultCall.flushPayouts flushed).exec.run env s = .ok () t) :
    t.payoutSchedule merchant = s.payoutSchedule merchant := by
  obtain ⟨-, v, hbody, hdrop⟩ := run_withLock_ok.mp (run_guardedCall_ok.mp hrun).2
  have hdropped : FiniteStore.AgreeOff (areas [.locks]) v t := hdrop ▸ v.agreeOff_remove rfl
  have htaken := congrFun (s.locked_views .flushPayouts).2.2.1 merchant
  rw [congrFun (State.payoutSchedule_of_areas hdropped rfl) merchant, ← htaken]
  by_cases hsame : merchant = flushed
  · subst hsame
    have hunset : ¬(s.payoutSchedule merchant).IsSet := fun hset => hother ⟨rfl, hset⟩
    rw [← htaken] at hunset
    rw [doFlushPayouts_unset hunset hbody]
  · exact State.payoutSchedule_of_agreeOff ((doFlushPayouts_scheduleFree hsame).ok hbody)

theorem doSetPayoutSchedule_lastPayout {changed : Address} {cadenceSeconds : Nat}
    {minPayout : Int} {u : Unit}
    (hrun : (doSetPayoutSchedule changed cadenceSeconds minPayout).run env s = .ok u t) :
    (t.payoutSchedule merchant).lastPayoutAt = (s.payoutSchedule merchant).lastPayoutAt := by
  obtain ⟨_, -, hrun⟩ := run_check_ok (Modifies.requireAuth _) hrun
  obtain ⟨_, -, hrun⟩ := run_check_ok (.failIf _ _) hrun
  obtain ⟨previous, hprevious, hrun⟩ := run_check_ok (.gets _) hrun
  obtain rfl := (run_gets_ok.mp hprevious).1
  obtain rfl := run_store_ok.mp hrun
  by_cases hsame : merchant = changed
  · subst hsame
    unfold State.payoutSchedule
    rw [FiniteStore.read_write_self]
    rfl
  · have hkept : FiniteStore.AgreeOff (scheduleFree merchant) s
        (s.write (.instanced (.payoutSchedule changed))
          ({ cadenceSeconds, minPayout,
             lastPayoutAt := (s.payoutSchedule changed).lastPayoutAt } : PayoutSchedule)) := by
      refine s.agreeOff_write _ fun hkey => hsame ?_
      cases hkey
      rfl
    rw [State.payoutSchedule_of_agreeOff hkept]

/-- Nothing but a flush under a schedule moves the time of the last flush. -/
theorem PayoutStep.lastPayout (hstep : PayoutStep l s t) (hother : ¬FlushesUnder merchant (l, s)) :
    (t.payoutSchedule merchant).lastPayoutAt = (s.payoutSchedule merchant).lastPayoutAt := by
  cases hstep with
  | @call env call _ _ hrun =>
    by_cases hquiet : call.areas.contains .schedules = false
    · have hkept := (call.worksIn.ok hrun).1
      rw [State.payoutSchedule_of_areas hkept hquiet]
    · cases call
      case flushPayouts flushed =>
        rw [flushPayouts_schedule (fun h => hother ⟨⟨env, by rw [h.1]⟩, h.2⟩) hrun]
      all_goals exact absurd rfl hquiet
  | setSchedule hrun => exact doSetPayoutSchedule_lastPayout hrun
  | other hagree => rw [State.payoutSchedule_of_areas hagree rfl]

theorem PayoutStep.flush_spec (hstep : PayoutStep l s t) (hflush : FlushesUnder merchant (l, s)) :
    FlushSpec l.env merchant s t := by
  obtain ⟨⟨env, hcall⟩, hset⟩ := hflush
  obtain rfl : l = .call env (.flushPayouts merchant) := hcall
  cases hstep with
  | call hrun => exact (flushPayouts_spec hset hrun).1

/-- The recorded time lies behind no flush made so far. -/
theorem lastPayout_of_run (hrun : Run PayoutStep start hist s) (horder : InLedgerOrder hist) :
    ∀ step ∈ hist, FlushesUnder merchant step →
      step.1.env.now ≤ (s.payoutSchedule merchant).lastPayoutAt := by
  induction hrun with
  | start => exact fun _ hmem => absurd hmem List.not_mem_nil
  | @next hist s t l hrun hstep ih =>
    have htail : InLedgerOrder hist :=
      ⟨horder.pairwise.of_cons, fun step hmem => horder.positive step (.tail _ hmem)⟩
    intro step hmem hflush
    by_cases hlast : FlushesUnder merchant (l, s)
    · rw [(hstep.flush_spec hlast).stamped]
      rcases List.mem_cons.mp hmem with rfl | hearlier
      · exact le_refl _
      · exact List.rel_of_pairwise_cons horder.pairwise hearlier
    · rw [hstep.lastPayout hlast]
      rcases List.mem_cons.mp hmem with rfl | hearlier
      · exact absurd hflush hlast
      · exact ih htail step hearlier hflush

/-- Two flushes are a cadence apart, the one set when the later flush is made. -/
theorem flushes_spaced (hrun : Run PayoutStep start hist s) (horder : InLedgerOrder hist) :
    hist.Pairwise fun later earlier => FlushesUnder merchant later →
      FlushesUnder merchant earlier →
        earlier.1.env.now + (later.2.payoutSchedule merchant).cadenceSeconds ≤
          later.1.env.now := by
  induction hrun with
  | start => exact List.Pairwise.nil
  | @next hist s t l hrun hstep ih =>
    have htail : InLedgerOrder hist :=
      ⟨horder.pairwise.of_cons, fun step hmem => horder.positive step (.tail _ hmem)⟩
    refine List.pairwise_cons.mpr ⟨fun step hmem hlast hflush => ?_, ih htail⟩
    have hrecorded := lastPayout_of_run hrun htail step hmem hflush
    have hpositive := htail.positive step hmem
    have hbefore := List.rel_of_pairwise_cons horder.pairwise hmem
    have helapsed := (hstep.flush_spec hlast).elapsed
    dsimp only at hbefore ⊢
    omega

end Clock

/-! ## What a merchant has earned -/

/-- The vault has recorded earnings of the merchant in the token. -/
def State.HasEarned (s : State) (merchant token : Address) : Prop :=
  (s.tokenEarnings merchant token).accruals ≠ ⟨0, 0, 0⟩

/-- It has, now or before some step of the run. -/
def EverEarned (hist : History PayoutAction State) (s : State) (merchant token : Address) : Prop :=
  s.HasEarned merchant token ∨ ∃ step ∈ hist, step.2.HasEarned merchant token

section Earned

variable {env : Env} {s t start : State} {l : PayoutAction} {merchant token : Address}
  {hist : History PayoutAction State}

theorem PayoutStep.tokensKept (hstep : PayoutStep l s t) (hstays : ¬l.rotatesAway merchant) :
    TokensKept merchant s t := by
  cases hstep with
  | call hrun => exact VaultCall.tokensKept hstays hrun
  | setSchedule hrun =>
    have hschedule (changed : Address) (cadenceSeconds : Nat) (minPayout : Int) :
        Modifies (areas [.schedules]) (doSetPayoutSchedule changed cadenceSeconds minPayout) :=
      .bind (Modifies.requireAuth _) fun _ => .bind (.failIf _ _) fun _ => .bind (.gets _) fun _ =>
        Modifies.store rfl
    exact .of_areas ((hschedule _ _ _).ok hrun) rfl
  | other hagree => exact .of_areas hagree rfl

theorem EverEarned.listed (hdeployed : Deployed start) (hrun : Run PayoutStep start hist s)
    (hstays : ∀ step ∈ hist, ¬step.1.rotatesAway merchant)
    (hearned : EverEarned hist s merchant token) : token ∈ s.merchantTokens merchant := by
  induction hrun with
  | start =>
    rcases hearned with hearned | ⟨_, hmem, -⟩
    · refine absurd ?_ hearned
      rw [State.tokenEarnings_of_areas hdeployed.areas rfl]
      rfl
    · exact absurd hmem List.not_mem_nil
  | @next hist s t l hrun hstep ih =>
    have hkept := hstep.tokensKept (hstays _ List.mem_cons_self)
    have hbefore : EverEarned hist s merchant token → token ∈ t.merchantTokens merchant :=
      fun h => hkept.grown token (ih (fun step hmem => hstays step (.tail _ hmem)) h)
    rcases hearned with hearned | ⟨step, hmem, hearned⟩
    · by_contra hnot
      unfold State.HasEarned at hearned
      rw [hkept.listed token hnot] at hearned
      exact hnot (hbefore (.inl hearned))
    · rcases List.mem_cons.mp hmem with rfl | hearlier
      · exact hbefore (.inl hearned)
      · exact hbefore (.inr ⟨step, hearlier, hearned⟩)

end Earned

/-! ## Scheduled payouts -/

/-- What is expected of the flushes of a merchant: those made so far, and the next one. -/
structure PayoutsKept (merchant : Address) (hist : History PayoutAction State) (s : State) :
    Prop where
  spaced : hist.Pairwise fun later earlier => FlushesUnder merchant later →
    FlushesUnder merchant earlier →
      earlier.1.env.now + (later.2.payoutSchedule merchant).cadenceSeconds ≤ later.1.env.now
  complete : ∀ env t, (s.payoutSchedule merchant).IsSet →
    (VaultCall.flushPayouts merchant).exec.run env s = .ok () t →
      ∀ token, EverEarned hist s merchant token →
        Flushed env merchant (s.payoutSchedule merchant).minPayout token s t
  /-- A list that fits into a vector has no more tokens than the counter can count. -/
  counted : ∀ env t, (s.payoutSchedule merchant).IsSet →
    (VaultCall.flushPayouts merchant).exec.run env s = .ok () t →
      (s.merchantTokens merchant).length ≤ u32Max →
        ∃ paid : Finset Address,
          (∀ token, token ∈ paid ↔ t.payoutView merchant token ≠ s.payoutView merchant token) ∧
          (flushPayoutsCounted merchant).run env s = .ok paid.card t
  failed : ∀ env, (∀ t, (VaultCall.flushPayouts merchant).exec.run env s ≠ .ok () t) →
    (VaultCall.flushPayouts merchant).exec.after env s = s

section Kept

variable {env : Env} {s t start : State} {merchant token : Address}
  {hist : History PayoutAction State}

/-- Just the tokens that are listed and due are paid. -/
theorem FlushSpec.mem_paidTokens (h : FlushSpec env merchant s t) :
    token ∈ s.paidTokens merchant ↔
      t.payoutView merchant token ≠ s.payoutView merchant token := by
  have hmem : token ∈ s.paidTokens merchant ↔ token ∈ s.merchantTokens merchant ∧
      s.IsDue merchant (s.payoutSchedule merchant).minPayout token := by
    unfold State.paidTokens State.dueTokens
    rw [Finset.mem_filter, List.mem_toFinset]
  rw [hmem]
  constructor
  · rintro ⟨hlisted, hdue⟩ hsame
    exact (h.listed token hlisted).settled ((State.isDue_of_view hsame).mpr hdue)
  · intro hchanged
    have hlisted : token ∈ s.merchantTokens merchant :=
      not_not.mp fun hnot => hchanged (h.unlisted token hnot)
    exact ⟨hlisted, not_not.mp fun hdue => hchanged ((h.listed token hlisted).left hdue)⟩

theorem failed_flush_after (hfails : ∀ t,
    (VaultCall.flushPayouts merchant).exec.run env s ≠ .ok () t) :
    (VaultCall.flushPayouts merchant).exec.after env s = s := by
  unfold after
  split
  · rename_i t hrun
    exact absurd hrun (hfails t)
  · rfl

end Kept

/-! ## Concrete payouts -/

def PayoutAction.exec : PayoutAction → Vault Unit
  | .call _ made => made.exec
  | .setSchedule _ merchant cadenceSeconds minPayout =>
    doSetPayoutSchedule merchant cadenceSeconds minPayout
  | .other _ => pure ()

/-- The state after the actions, latest first. -/
def payoutsAfter (s : State) : List PayoutAction → State
  | [] => s
  | l :: earlier => l.exec.after l.env (payoutsAfter s earlier)

def payoutHistory (s : State) : List PayoutAction → History PayoutAction State
  | [] => []
  | l :: earlier => (l, payoutsAfter s earlier) :: payoutHistory s earlier

def payoutsSucceed (s : State) : List PayoutAction → Bool
  | [] => true
  | l :: earlier => payoutsSucceed s earlier && l.exec.succeeds l.env (payoutsAfter s earlier)

theorem run_payouts {start s : State} {hist : History PayoutAction State}
    (hrun : Run PayoutStep start hist s) {acts : List PayoutAction}
    (h : payoutsSucceed s acts = true) :
    Run PayoutStep start (payoutHistory s acts ++ hist) (payoutsAfter s acts) := by
  induction acts with
  | nil => exact hrun
  | cons l earlier ih =>
    simp only [payoutsSucceed, Bool.and_eq_true] at h
    have hlast := run_eq_after h.2
    refine (ih h.1).next ?_
    cases l with
    | call env made => exact .call hlast
    | setSchedule env merchant cadenceSeconds minPayout => exact .setSchedule hlast
    | other env => exact .other (Std.Refl.refl _)

private theorem sample_payouts : Run PayoutStep (sampleStart 0)
    [(.other (sampleEnv 1 []), sampleStart 0)] (afterCalls (sampleVault 0)) :=
  Run.start.next (.other ((sample_areas 0).mono (areas_mono rfl)))

private theorem sample_inOrder {hist : History PayoutAction State}
    (htimes : (hist.map (·.1.env.now)).Pairwise (· ≥ ·) ∧ ∀ now ∈ hist.map (·.1.env.now), 0 < now) :
    InLedgerOrder hist :=
  ⟨List.pairwise_map.mp htimes.1, fun _ hmem => htimes.2 _ (List.mem_map_of_mem hmem)⟩

/-- Merchant 1 is paid out every hour once it has 4 units, and has just been paid 10. -/
private def scheduledActions : List PayoutAction :=
  [.call (sampleEnv 61 []) (.chargeSubscription 0 none),
   .setSchedule (sampleEnv 1 [⟨1⟩]) ⟨1⟩ 3600 4,
   .call (sampleEnv 1 [⟨2⟩]) (.depositFunds 0 50 none),
   .call (sampleEnv 1 [⟨2⟩]) (.createSubscription sampleRequest)]

/-- A flush, and another one an hour later. -/
private def flushedActions : List PayoutAction :=
  .call (sampleEnv 3662 []) (.flushPayouts ⟨1⟩) ::
  .call (sampleEnv 3661 []) (.chargeSubscription 0 none) ::
  .call (sampleEnv 62 []) (.flushPayouts ⟨1⟩) :: scheduledActions

/-- Four of the units are disputed while the merchant takes its other address. -/
private def divertedActions : List PayoutAction :=
  .call (sampleEnv 70 [⟨8⟩]) (.resolveDispute ⟨8⟩ 0 false) ::
  .call (sampleEnv 66 [⟨8⟩]) (.rotateMerchantAddress ⟨8⟩ ⟨1⟩ ⟨3⟩ 0) ::
  .call (sampleEnv 65 [⟨8⟩]) (.respondDispute ⟨8⟩ 0 none) ::
  .call (sampleEnv 62 [⟨2⟩]) (.openDispute ⟨2⟩ 0 4 none) :: scheduledActions

end SubscriptionVault
