import SubscriptionVault.Charging.IntervalCharge
import SubscriptionVault.Charging.MerchantPause

/-!
# Runs with pauses

While a pause is in force the merchant must read as paused and every charge must be refused.
A step honours the pauses in force when it leaves each of them something to rest on; in runs
of such steps pausing works.
-/

namespace SubscriptionVault

open Exec

/-! ## Paused boards -/

namespace PauseBoard

variable (b : PauseBoard) (merchant m : Address)

theorem paused_setFlag (flag : Option Bool) :
    (b.setFlag merchant flag).paused m =
      if m = merchant then b.configPaused m || decide (b.version < 3) && flag.getD false
      else b.paused m := by
  by_cases h : m = merchant <;> simp [setFlag, paused, configPaused, flagPaused, h] <;> rfl

theorem paused_setConfig (config : Option MerchantConfig) :
    (b.setConfig merchant config).paused m =
      if m = merchant then config.any (·.isPaused) || b.flagPaused m else b.paused m := by
  by_cases h : m = merchant <;> simp [setConfig, paused, configPaused, flagPaused, h] <;> rfl

theorem paused_move (newMerchant : Address) :
    (b.move merchant newMerchant).paused m =
      if m = merchant then false
      else if m = newMerchant then
        ((b.config merchant).or (b.config newMerchant)).any (·.isPaused) ||
          decide (b.version < 3) && ((b.flag merchant).or (b.flag newMerchant)).getD false
      else b.paused m := by
  by_cases h : m = merchant
  · simp [move, paused, configPaused, flagPaused, h]
  · by_cases h' : m = newMerchant
    · subst h'
      simp [move, paused, configPaused, flagPaused, h]
      rfl
    · simp [move, paused, configPaused, flagPaused, h, h']
      rfl

end PauseBoard

/-! ## Pauses in force -/

/-- Whether the merchant's pause is in force after a call, given whether it was before. -/
def PauseCall.inForceAfter (merchant : Address) (before : Prop) : PauseCall → Prop
  | .pause m => m = merchant ∨ before
  | .unpause m => m ≠ merchant ∧ before
  | _ => before

/-- The merchant called `pause_merchant` and not `unpause_merchant` since. -/
def PauseInForce (merchant : Address) : History PauseAction State → Prop
  | [] => False
  | (.other, _) :: earlier => PauseInForce merchant earlier
  | (.call _ call, _) :: earlier => call.inForceAfter merchant (PauseInForce merchant earlier)

/-- The call leaves every pause in force something to rest on. -/
def PauseCall.Honours (b : PauseBoard) (inForce : Address → Prop) : PauseCall → Prop
  -- The flag the call sets must count, unless it changes nothing.
  | .pause merchant => b.version < 3 ∨ b.paused merchant
  | .unpause _ => True
  -- A rewritten configuration may clear its pause only in front of an effective flag.
  | .initializeConfig merchant _ _ _ _ _ => inForce merchant → b.flagPaused merchant
  | .setConfig merchant config => inForce merchant → config.isPaused ∨ b.flagPaused merchant
  | .updateConfig merchant u => inForce merchant → u.isPaused ≠ some false ∨ b.flagPaused merchant
  -- A paused address is not rotated away, and what is moved onto one keeps it paused.
  | .rotate _ oldMerchant newMerchant _ => ¬inForce oldMerchant ∧ (inForce newMerchant →
      ((b.config oldMerchant).or (b.config newMerchant)).any (·.isPaused) ∨
        (b.version < 3 ∧ ((b.flag oldMerchant).or (b.flag newMerchant)).getD false))
  -- From version 3 on only configurations count.
  | .init _ _ _ _ _ => ∀ m, inForce m → b.configPaused m
  | .migrate _ dryRun => dryRun = false → ∀ m, inForce m → b.configPaused m
  | .migrateConfig _ => ∀ m, inForce m → b.configPaused m

def PauseAction.Honours (b : PauseBoard) (inForce : Address → Prop) : PauseAction → Prop
  | .other => True
  | .call _ made => made.Honours b inForce

/-- Every step honoured the pauses in force when it was taken. -/
def Honoured : History PauseAction State → Prop
  | [] => True
  | (action, u) :: earlier =>
    action.Honours u.pauseBoard (PauseInForce · earlier) ∧ Honoured earlier

section Step

variable {env : Env} {s t : State} {inForce : Address → Prop}

private theorem paused_of_entryFree (h : FiniteStore.AgreeOff entryFree s t)
    (hconfig : ∀ m, inForce m → s.pauseBoard.configPaused m) {m : Address} (hm : inForce m) :
    t.pauseBoard.paused m := by
  have hsame : t.pauseBoard.configPaused m = s.pauseBoard.configPaused m := by
    unfold PauseBoard.configPaused
    rw [(State.pauseBoard_of_entryFree h).1]
  unfold PauseBoard.paused
  rw [hsame, hconfig m hm, Bool.true_or]

/-- A call that honours the pauses in force keeps them. -/
theorem PauseCall.keeps_paused {call : PauseCall} (hrun : call.exec.run env s = .ok () t)
    (hhonours : call.Honours s.pauseBoard inForce)
    (hbefore : ∀ m, inForce m → s.pauseBoard.paused m) {m : Address}
    (hm : call.inForceAfter m (inForce m)) : t.pauseBoard.paused m := by
  cases call with
  | pause merchant =>
    rw [pauseMerchant_effect hrun]
    split
    · rename_i hpaused
      rcases hm with rfl | hm
      · exact hpaused
      · exact hbefore m hm
    · rename_i hactive
      have hversion : s.pauseBoard.version < 3 := hhonours.resolve_right hactive
      rw [PauseBoard.paused_setFlag]
      split
      · simp [hversion]
      · rename_i hne
        exact hbefore m (hm.resolve_left fun h => hne h.symm)
  | unpause merchant =>
    obtain ⟨hne, hm⟩ := hm
    rw [unpauseMerchant_effect hrun]
    split
    · rw [PauseBoard.paused_setFlag, if_neg hne.symm]
      exact hbefore m hm
    · exact hbefore m hm
  | initializeConfig merchant payoutAddress feeBips ops feeAddress redirectUrl =>
    obtain ⟨config, -, hboard⟩ := initializeMerchantConfig_effect hrun
    rw [hboard, PauseBoard.paused_setConfig]
    split
    · rename_i heq
      subst heq
      rw [hhonours hm, Bool.or_true]
    · exact hbefore m hm
  | setConfig merchant config =>
    rw [setMerchantConfig_effect hrun, PauseBoard.paused_setConfig]
    split
    · rename_i heq
      subst heq
      simpa using hhonours hm
    · exact hbefore m hm
  | updateConfig merchant u =>
    obtain ⟨config, hconfig, hboard⟩ := updateMerchantConfig_effect hrun
    rw [hboard, PauseBoard.paused_setConfig]
    split
    · rename_i heq
      subst heq
      have hpaused := hbefore m hm
      rcases hhonours hm with hkeep | hflag
      · cases hset : u.isPaused with
        | none =>
          simpa [PauseBoard.paused, PauseBoard.configPaused, hconfig,
            MerchantConfigUpdate.apply, hset] using hpaused
        | some paused =>
          cases paused with
          | false => exact absurd hset hkeep
          | true => simp [MerchantConfigUpdate.apply, hset]
      · rw [hflag, Bool.or_true]
    · exact hbefore m hm
  | rotate admin oldMerchant newMerchant nonce =>
    obtain ⟨hold, hnew⟩ := hhonours
    rw [doRotateMerchantAddress_effect hrun, PauseBoard.paused_move]
    split
    · rename_i heq
      exact absurd (heq ▸ hm) hold
    · split
      · rename_i heq
        subst heq
        simpa using hnew hm
      · exact hbefore m hm
  | init token tokenDecimals admin minTopup gracePeriod =>
    exact paused_of_entryFree ((doInit_entryFree _ _ _ _ _).ok hrun) hhonours hm
  | migrate admin dryRun =>
    obtain ⟨hagree, hdry⟩ := doMigrate_effect hrun
    cases dryRun with
    | true =>
      rw [hdry rfl]
      exact hbefore m hm
    | false => exact paused_of_entryFree hagree (hhonours rfl) hm
  | migrateConfig admin =>
    exact paused_of_entryFree ((migrateConfigToPersistent_entryFree admin).ok hrun) hhonours hm

end Step

theorem paused_of_inForce {start s : State} {hist : History PauseAction State}
    (hrun : Run PauseStep start hist s) (hhonoured : Honoured hist) {merchant : Address}
    (hforce : PauseInForce merchant hist) : s.pauseBoard.paused merchant := by
  refine hrun.invariant (I := fun hist s => Honoured hist → ∀ merchant,
    PauseInForce merchant hist → s.pauseBoard.paused merchant) ?_ ?_ hhonoured merchant hforce
  · intro _ _ hforce
    cases hforce
  · intro hist s action t ih hstep ⟨hhonours, hearlier⟩ merchant hforce
    cases hstep with
    | call hrun => exact PauseCall.keeps_paused hrun hhonours (ih hearlier) hforce
    | other hboard =>
      rw [hboard]
      exact ih hearlier merchant hforce

/-! ## Refused charges -/

section Refused

variable {env : Env} {s : State} {id : Nat} {sub : Subscription}

/-- A charge of a paused merchant's subscription stops before it has written anything. -/
private theorem run_paused {α : Type} {rest : Subscription → Vault α}
    (hsub : s.subscription id = some sub) (hpaused : s.merchantPaused sub.merchant) :
    ∃ e, (do
      requireNotEmergencyStop
      let sub ← getSubscription id
      checkMerchantStatus sub.merchant ∅
      rest sub : Vault α).run env s = .err e s := by
  by_cases hstop : s.emergencyStop
  · refine ⟨.emergencyStopActive, run_bind_err.mpr (.inl ?_)⟩
    exact run_bind_err.mpr (.inr ⟨s, s, by simp, by simp [hstop]⟩)
  · obtain ⟨status, heffective⟩ := State.effectiveSubscription_of_subscription hsub env.now
    have hopen : requireNotEmergencyStop.run env s = .ok () s := by simpa using hstop
    have hget := run_getSubscription_ok.mpr ⟨heffective, rfl⟩
    have hcheck : (checkMerchantStatus sub.merchant ∅).run env s = .err .merchantPaused s := by
      refine run_bind_err.mpr (.inr ⟨env, s, by simp, run_bind_err.mpr (.inr ⟨_, s, by simp; rfl,
        run_bind_err.mpr (.inl ?_)⟩)⟩)
      exact run_failIf_err.mpr ⟨hpaused, rfl, rfl⟩
    exact ⟨_, run_bind_err.mpr (.inr ⟨_, _, hopen, run_bind_err.mpr (.inr ⟨_, _, hget,
      run_bind_err.mpr (.inl hcheck)⟩)⟩)⟩

theorem chargeOne_refused (hsub : s.subscription id = some sub)
    (hpaused : s.merchantPaused sub.merchant) (key : Option BytesN32) :
    ∃ e, (chargeOne id key none ∅).run env s = .err e s :=
  run_paused hsub hpaused

theorem chargeUsageOne_refused (hsub : s.subscription id = some sub)
    (hpaused : s.merchantPaused sub.merchant) (usageAmount : Int) (reference : Bytes) :
    ∃ e, (chargeUsageOne id usageAmount reference).run env s = .err e s :=
  run_paused hsub hpaused

/-- A one-off charge only looks at the payees' pauses. -/
theorem doChargeOneOff_refused {split : SplitPayees} {payee : Address × Nat}
    (hsplit : s.splitPayees id = some split) (hpayee : payee ∈ split.entries)
    (hpaused : s.merchantPaused payee.1) (merchant : Address) (amount : Int)
    (key : Option BytesN32) (t : State) :
    (doChargeOneOff id merchant amount key).run env s ≠ .ok () t := by
  intro hrun
  simp only [doChargeOneOff, run_bind_ok, run_ask_ok, run_requireAuth_ok, run_getSubscription_ok,
    run_requireNotBlocklisted_ok] at hrun
  obtain ⟨_, _, ⟨rfl, rfl⟩, _, _, ⟨-, rfl⟩, _, _, ⟨-, rfl⟩, _, _, ⟨-, rfl⟩, _, _, ⟨-, rfl⟩, _, _,
    hchecked, -⟩ := hrun
  have hopen := (run_checkSplitPayees_ok.mp hchecked).1 split hsplit payee hpayee
  have hactive : s.merchantPaused payee.1 = false := congrArg Prod.fst hopen.2
  rw [hactive] at hpaused
  cases hpaused

end Refused

/-! ## Pausing works -/

/-- What a merchant is promised about its pause, in the state a history led to. -/
structure PauseEffective (hist : History PauseAction State) (s : State) : Prop where
  paused : ∀ merchant, PauseInForce merchant hist → s.merchantPaused merchant
  interval_refused : ∀ id sub, s.subscription id = some sub → PauseInForce sub.merchant hist →
    ∀ env key, ∃ e, (chargeOne id key none ∅).run env s = .err e s
  batch_refused : ∀ env items results t,
    (executeBatchCharge items).run env s = .ok results t →
      ∃ charged, charged.map ChargedItem.item = items ∧
        charged.map ChargedItem.report = results ∧ Charges env s charged t ∧
        ∀ c ∈ charged, ∀ sub, c.before.subscription c.item.1 = some sub →
          PauseInForce sub.merchant hist → (∃ e, c.result = .error e) ∧ c.after = c.before
  usage_refused : ∀ id sub, s.subscription id = some sub → PauseInForce sub.merchant hist →
    ∀ env usageAmount reference,
      ∃ e, (chargeUsageOne id usageAmount reference).run env s = .err e s
  /-- One-off charges are stopped by a paused payee only. -/
  oneOff_refused : ∀ id sub, s.subscription id = some sub → PauseInForce sub.merchant hist →
    (∃ split payee, s.splitPayees id = some split ∧ payee ∈ split.entries ∧
      s.merchantPaused payee.1) →
    ∀ env merchant amount key t, (doChargeOneOff id merchant amount key).run env s ≠ .ok () t
  /-- Without a pause of the configuration nothing is left of a pause that was lifted. -/
  lifted : ∀ env merchant u earlier, hist = (.call env (.unpause merchant), u) :: earlier →
    (s.merchantConfig merchant).any (·.isPaused) = false → s.merchantPaused merchant = false

private theorem unpaused_of_unpause {env : Env} {s t : State} {merchant : Address}
    (hrun : (unpauseMerchant merchant).run env s = .ok () t)
    (hconfig : t.pauseBoard.configPaused merchant = false) :
    t.pauseBoard.paused merchant = false := by
  rw [unpauseMerchant_effect hrun] at hconfig ⊢
  split at hconfig
  · rename_i hpaused
    rw [if_pos hpaused, PauseBoard.paused_setFlag, if_pos rfl]
    simpa [PauseBoard.setFlag, PauseBoard.configPaused] using hconfig
  · rename_i hactive
    rw [if_neg hactive]
    simpa using hactive

/-- In every run whose steps honour the pauses in force, pausing a merchant works. -/
theorem pause_effective {start s : State} {hist : History PauseAction State}
    (hrun : Run PauseStep start hist s) (hhonoured : Honoured hist) : PauseEffective hist s where
  paused merchant hforce := paused_of_inForce hrun hhonoured hforce
  interval_refused id sub hsub hforce env key :=
    chargeOne_refused hsub (paused_of_inForce hrun hhonoured hforce) key
  batch_refused env items results t hbatch := by
    obtain ⟨charged, hitems, hresults, hcharges⟩ := run_executeBatchCharge_ok.mp hbatch
    refine ⟨charged, hitems, hresults, hcharges, fun c hmem sub hsub hforce => ?_⟩
    obtain ⟨hagree, hitem⟩ := hcharges.of_mem hmem
    have hpaused : c.before.merchantPaused sub.merchant := by
      rw [State.merchantPaused_of_chargeSlots hagree]
      exact paused_of_inForce hrun hhonoured hforce
    obtain ⟨e, hrefused⟩ : ∃ e, (chargeOne c.item.1 c.item.2 none ∅).run env c.before =
        .err e c.before := chargeOne_refused hsub hpaused c.item.2
    rcases run_attempt_ok.mp hitem with ⟨_, -, hok⟩ | ⟨e', hresult, herr⟩
    · rw [hrefused] at hok
      cases hok
    · rw [hrefused] at herr
      obtain ⟨-, hsame⟩ := Outcome.err.inj herr
      exact ⟨⟨e', hresult⟩, hsame.symm⟩
  usage_refused id sub hsub hforce env usageAmount reference :=
    chargeUsageOne_refused hsub (paused_of_inForce hrun hhonoured hforce) usageAmount reference
  oneOff_refused id sub hsub hforce := by
    rintro ⟨split, payee, hsplit, hpayee, hpaused⟩ env merchant amount key t
    exact doChargeOneOff_refused hsplit hpayee hpaused merchant amount key t
  lifted env merchant u earlier hhist hconfig := by
    subst hhist
    cases hrun with
    | next _ hlast =>
      cases hlast with
      | call hunpause => exact unpaused_of_unpause hunpause hconfig

/-- Before schema version 3: version 2 is stored and one subscription of merchant 1 is active. -/
private def beforeMigration : State :=
  (FiniteStore.empty.write (.instanced .schemaVersion) 2).write (.persistent (.sub 0))
    { subscriber := ⟨2⟩, merchant := ⟨1⟩, token := ⟨9⟩, amount := 10, intervalSeconds := 60,
      lastPaymentTimestamp := 0, status := .active, prepaidBalance := 50, usageEnabled := true,
      lifetimeCap := none, lifetimeCharged := 0, startTime := 0, expiresAt := none,
      graceStartTimestamp := none, cancelAt := none, autoRenew := true,
      autoRenewDisabledAt := none, expiresAtLedger := none, subAccountLabel := none,
      prorationEnabled := false, autoPauseThreshold := 0 }

private def merchantOnePauses : PauseAction := .call (sampleEnv 100 [⟨1⟩]) (.pause ⟨1⟩)

theorem pause_effective_before_migration :
    ∃ s, Run PauseStep beforeMigration [(merchantOnePauses, beforeMigration)] s ∧
      PauseEffective [(merchantOnePauses, beforeMigration)] s := by
  have hrun : Run PauseStep beforeMigration [(merchantOnePauses, beforeMigration)]
      ((pauseMerchant ⟨1⟩).after (sampleEnv 100 [⟨1⟩]) beforeMigration) :=
    .next .start (.call (run_eq_after (by decide +kernel)))
  exact ⟨_, hrun, pause_effective hrun ⟨.inl (by decide), trivial⟩⟩

private def freshlyInitialised : State :=
  (doInit ⟨9⟩ 7 ⟨8⟩ 1 0).after (sampleEnv 100 []) FiniteStore.empty

/-- `init` sets version 5, where the flag `pause_merchant` sets is not read. -/
theorem pause_without_effect :
    ∃ hist s, Run PauseStep FiniteStore.empty hist s ∧ PauseInForce ⟨1⟩ hist ∧
      s.merchantPaused ⟨1⟩ = false := by
  have hinit : Run PauseStep FiniteStore.empty
      [(.call (sampleEnv 100 []) (.init ⟨9⟩ 7 ⟨8⟩ 1 0), FiniteStore.empty)] freshlyInitialised :=
    .next .start (.call (run_eq_after (by decide +kernel)))
  have hpause : PauseStep merchantOnePauses freshlyInitialised
      ((pauseMerchant ⟨1⟩).after (sampleEnv 100 [⟨1⟩]) freshlyInitialised) :=
    .call (run_eq_after (by decide +kernel))
  exact ⟨_, _, .next hinit hpause, .inl rfl, by decide +kernel⟩

end SubscriptionVault
