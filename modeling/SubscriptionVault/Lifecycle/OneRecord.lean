import SubscriptionVault.Lifecycle.Runs

/-!
# One subscription through a run

Seen from a single subscription most operations are the same: they leave it alone, or adjust
the record without touching its billing terms or the marks of its last charge. What remains are
charges, plan migrations, and records that are put in its place.
-/

namespace SubscriptionVault

/-- Statuses that a subscription does not leave, except for the archive. -/
def SubscriptionStatus.isTerminal : SubscriptionStatus → Bool
  | .cancelled | .expired | .archived => true
  | _ => false

/-- The record and the marks of the last charge are as they were. -/
structure Book.SameAt (b : Book) (id : Nat) (b' : Book) : Prop where
  record : b'.record id = b.record id
  period : b'.chargedPeriod id = b.chargedPeriod id
  salt : b'.chargeSalt id = b.chargeSalt id

/-- Only the marks are as they were. -/
structure Book.SameMarks (b : Book) (id : Nat) (b' : Book) : Prop where
  period : b'.chargedPeriod id = b.chargedPeriod id
  salt : b'.chargeSalt id = b.chargeSalt id

/-- A change that is no charge and keeps the billing terms. A finished subscription is charged
nothing, and a grace period starts only when a payment is due. -/
structure Subscription.AdjustedTo (sub new : Subscription) (now : Nat) : Prop where
  start : new.startTime = sub.startTime
  interval : new.intervalSeconds = sub.intervalSeconds
  lastPayment : new.lastPaymentTimestamp = sub.lastPaymentTimestamp
  final : sub.status.isTerminal = true →
    (new.status = sub.status ∨ new.status = .archived) ∧
      new.lifetimeCharged = sub.lifetimeCharged
  grace : new.status = .gracePeriod → sub.status = .gracePeriod ∨
    sub.lastPaymentTimestamp + sub.intervalSeconds ≤ now

/-- What an operation may do to the subscription `id`. -/
inductive RecordChange (env : Env) (s : State) (id : Nat) (b' : Book) : Operation → Prop
  | kept {op : Operation} : s.book.SameAt id b' → RecordChange env s id b' op
  | adjusted {op : Operation} {sub new : Subscription} :
      s.book.Reads id sub → sub.AdjustedTo new env.now → b'.record id = some new →
      s.book.SameMarks id b' → RecordChange env s id b' op
  | charged {op : Operation} {sub new : Subscription} :
      s.book.Reads id sub → sub.isChargeable → sub.intervalSeconds ≠ 0 →
      sub.status = .gracePeriod ∨ sub.lastPaymentTimestamp + sub.intervalSeconds ≤ env.now →
      sub.ChargedTo new env.now → new.status ≠ .gracePeriod → b'.record id = some new →
      b'.chargedPeriod id = s.book.chargedPeriod id ∨
        b'.chargedPeriod id = some (sub.periodIndex env.now) →
      b'.chargeSalt id = s.book.chargeSalt id ∨
        sub.lastPaymentTimestamp + sub.intervalSeconds ≤ env.now ∧ b'.chargeSalt id =
          some (env.host.chargeSalt id sub.lastPaymentTimestamp env.sequence) →
      RecordChange env s id b' op
  | replanned {planId : Nat} {plan : PlanTemplate} {sub new : Subscription} :
      s.planTemplate planId = some plan → s.book.Reads id sub →
      new = { sub with
        lifetimeCap := plan.lifetimeCap
        amount := plan.amount
        intervalSeconds := plan.intervalSeconds
        usageEnabled := plan.usageEnabled } →
      b'.record id = some new → s.book.SameMarks id b' →
      RecordChange env s id b' (.replan id planId)
  | created {sub : Subscription} :
      id = s.book.nextId → sub.status = .active → sub.startTime = env.now →
      (sub.lastPaymentTimestamp = env.now ∨ ∃ trial,
        sub.lastPaymentTimestamp = saturatingAddU64 env.now trial) →
      sub.lifetimeCharged = 0 → b'.record id = some sub → s.book.SameMarks id b' →
      RecordChange env s id b' .create
  | restored {summaries : List SubscriptionSummary} {summary : SubscriptionSummary} :
      summary ∈ summaries → summary.subscriptionId = id → b'.record id = some summary.record →
      s.book.SameMarks id b' → RecordChange env s id b' (.restore summaries)

section Views

variable {env : Env} {s : State} {b b' : Book} {id j : Nat} {sub new : Subscription}

/-- The record under one number changes, and parts that are no record or mark. -/
theorem Book.sameAt_of_update (hne : j ≠ id) (hrecord : b'.record = (b.setRecord id new).record)
    (hperiod : b'.chargedPeriod = b.chargedPeriod) (hsalt : b'.chargeSalt = b.chargeSalt) :
    b.SameAt j b' where
  record := by
    rw [hrecord]
    exact Function.update_of_ne hne _ _
  period := by rw [hperiod]
  salt := by rw [hsalt]

/-- An adjustment of one record, seen from any subscription. -/
theorem RecordChange.of_adjusted {op : Operation} (hreads : s.book.Reads id sub)
    (hadjusted : sub.AdjustedTo new env.now)
    (hrecord : b'.record = (s.book.setRecord id new).record)
    (hperiod : b'.chargedPeriod = s.book.chargedPeriod)
    (hsalt : b'.chargeSalt = s.book.chargeSalt) (j : Nat) : RecordChange env s j b' op := by
  by_cases hj : j = id
  · subst hj
    refine .adjusted hreads hadjusted ?_ ⟨by rw [hperiod], by rw [hsalt]⟩
    rw [hrecord]
    exact Function.update_self _ _ _
  · exact .kept (Book.sameAt_of_update hj hrecord hperiod hsalt)

theorem EditsRecord.view {op : Operation} (h : EditsRecord s.book id b') (j : Nat) :
    RecordChange env s j b' op := by
  obtain ⟨sub, new, hreads, hnew, rfl⟩ := h
  refine .of_adjusted hreads ?_ rfl rfl rfl j
  rw [hnew]
  exact ⟨rfl, rfl, rfl, fun _ => ⟨.inl rfl, rfl⟩, .inl⟩

theorem RevivesRecord.view {op : Operation} (h : RevivesRecord s.book id b') (j : Nat) :
    RecordChange env s j b' op := by
  obtain ⟨sub, new, hreads, hbehind, hnew, rfl⟩ := h
  refine .of_adjusted hreads ?_ rfl rfl rfl j
  rw [hnew]
  refine ⟨rfl, rfl, rfl, fun hfinal => ?_, fun hgrace => by cases hgrace⟩
  rcases hbehind with hstatus | hstatus <;> rw [hstatus] at hfinal <;> cases hfinal

theorem archived_of_terminal {current next : SubscriptionStatus}
    (hcan : canTransition current next = true) (hother : current ≠ next)
    (hfinal : current.isTerminal = true) : next = .archived := by
  cases current <;> cases next <;> simp_all [canTransition, SubscriptionStatus.isTerminal]

/-- A change of status along the table of transitions. -/
theorem Subscription.adjustedTo_of_transition
    (hcan : canTransition sub.status new.status = true) (hother : sub.status ≠ new.status)
    (hgrace : new.status ≠ .gracePeriod)
    (hnew : new = { sub with
      status := new.status
      prepaidBalance := new.prepaidBalance
      cancelAt := new.cancelAt }) (now : Nat) : sub.AdjustedTo new now where
  start := by rw [hnew]
  interval := by rw [hnew]
  lastPayment := by rw [hnew]
  final hfinal := ⟨.inr (archived_of_terminal hcan hother hfinal), by rw [hnew]⟩
  grace hstatus := absurd hstatus hgrace

theorem PausesRecord.view {op : Operation} (h : PausesRecord s.book id b') (j : Nat) :
    RecordChange env s j b' op := by
  obtain ⟨sub, hreads, hstatus, hcan, rfl⟩ := h
  have hadjusted : sub.AdjustedTo { sub with status := .paused } env.now :=
    Subscription.adjustedTo_of_transition hcan hstatus (by simp) rfl env.now
  refine .of_adjusted hreads hadjusted ?_ ?_ ?_ j
  all_goals rfl

theorem CancelsRecord.view {op : Operation} (h : CancelsRecord s.book id b') (j : Nat) :
    RecordChange env s j b' op := by
  obtain ⟨sub, hreads, hstatus, hcan, rfl⟩ := h
  have hadjusted : sub.AdjustedTo { sub with status := .cancelled, prepaidBalance := 0 } env.now :=
    Subscription.adjustedTo_of_transition hcan hstatus (by simp) rfl env.now
  refine .of_adjusted hreads hadjusted ?_ ?_ ?_ j
  all_goals split <;> rfl

theorem ArchivesRecord.view {op : Operation} (h : ArchivesRecord env s.book id b') (j : Nat) :
    RecordChange env s j b' op := by
  obtain ⟨sub, hreads, -, -, rfl⟩ := h
  have hadjusted : sub.AdjustedTo { sub with status := .archived } env.now :=
    ⟨rfl, rfl, rfl, fun _ => ⟨.inr rfl, rfl⟩, fun hgrace => by cases hgrace⟩
  exact .of_adjusted hreads hadjusted rfl rfl rfl j

theorem TransfersRecord.view {op : Operation} {«to» : Address}
    (h : TransfersRecord s.book id b' «to») (j : Nat) : RecordChange env s j b' op := by
  obtain ⟨sub, hreads, rfl⟩ := h
  have hadjusted : sub.AdjustedTo { sub with subscriber := «to» } env.now :=
    ⟨rfl, rfl, rfl, fun _ => ⟨.inl rfl, rfl⟩, .inl⟩
  refine .of_adjusted hreads hadjusted ?_ ?_ ?_ j
  all_goals dsimp only; split <;> rfl

theorem ReplansRecord.view {planId : Nat} {plan : PlanTemplate}
    (hplan : s.planTemplate planId = some plan) (h : ReplansRecord s.book id b' plan) (j : Nat) :
    RecordChange env s j b' (.replan id planId) := by
  obtain ⟨sub, hreads, rfl⟩ := h
  by_cases hj : j = id
  · subst hj
    exact .replanned hplan hreads rfl (Function.update_self _ _ _) ⟨rfl, rfl⟩
  · exact .kept (Book.sameAt_of_update hj rfl rfl rfl)

theorem BuysOut.view {op : Operation} (h : BuysOut env s.book id b') (j : Nat) :
    RecordChange env s j b' op := by
  obtain ⟨sub, new, hreads, hgrace, hinterval, hnew, hactive, rfl⟩ := h
  by_cases hj : j = id
  · subst hj
    refine .charged hreads (.inr (.inl hgrace)) hinterval (.inl hgrace) hnew (by simp [hactive])
      (Function.update_self _ _ _) (.inr (Function.update_self _ _ _)) (.inl rfl)
  · exact .kept ⟨Function.update_of_ne hj _ _, Function.update_of_ne hj _ _, rfl⟩

theorem CreatesRecord.view (h : CreatesRecord env s.book b') (j : Nat) :
    RecordChange env s j b' .create := by
  obtain ⟨sub, hactive, hstart, hpaid, hcharged, -, hbook, -⟩ := h
  have hrecord : b'.record = (s.book.setRecord s.book.nextId sub).record := by
    rw [hbook]
    rfl
  have hperiod : b'.chargedPeriod = s.book.chargedPeriod := by
    rw [hbook]
    rfl
  have hsalt : b'.chargeSalt = s.book.chargeSalt := by
    rw [hbook]
    rfl
  by_cases hj : j = s.book.nextId
  · subst hj
    refine .created rfl hactive hstart hpaid hcharged ?_ ⟨by rw [hperiod], by rw [hsalt]⟩
    rw [hrecord]
    exact Function.update_self _ _ _
  · exact .kept (Book.sameAt_of_update hj hrecord hperiod hsalt)

theorem Subscription.SettledTo.chargedTo {amount : Int} {now : Nat}
    (h : sub.SettledTo new amount now) : sub.ChargedTo new now := by
  unfold Subscription.ChargedTo
  rw [h.2]

theorem BooksInterval.view {op : Operation} (h : BooksInterval env s id b') (j : Nat) :
    RecordChange env s j b' op := by
  obtain ⟨sub, new, amount, hdue, -, hsettled, hends⟩ := h
  have hstatus : new.status ≠ .gracePeriod := by
    rw [hsettled.1]
    split <;> simp
  by_cases hj : j = id
  · subst hj
    rcases hends with rfl | rfl
    · exact .charged hdue.reads hdue.chargeable hdue.interval (.inr hdue.elapsed)
        hsettled.chargedTo hstatus (Function.update_self _ _ _) (.inl rfl) (.inl rfl)
    · exact .charged hdue.reads hdue.chargeable hdue.interval (.inr hdue.elapsed)
        hsettled.chargedTo hstatus (Function.update_self _ _ _)
        (.inr (Function.update_self _ _ _)) (.inr ⟨hdue.elapsed, Function.update_self _ _ _⟩)
  · rcases hends with rfl | rfl
    · exact .kept (Book.sameAt_of_update hj rfl rfl rfl)
    · exact .kept ⟨Function.update_of_ne hj _ _, Function.update_of_ne hj _ _,
        Function.update_of_ne hj _ _⟩

theorem IntervalChanges.view {op : Operation} (h : IntervalChanges env s id b') (j : Nat) :
    RecordChange env s j b' op := by
  cases h with
  | unchanged => exact .kept ⟨rfl, rfl, rfl⟩
  | @expired sub hadmitted hexpired hcan =>
    have hadjusted : sub.AdjustedTo { sub with status := .expired } env.now := by
      refine ⟨rfl, rfl, rfl, fun hfinal => ⟨?_, rfl⟩, fun hgrace => by cases hgrace⟩
      cases hstatus : sub.status <;> simp_all [canTransition, SubscriptionStatus.isTerminal]
    exact .of_adjusted (Book.reads_of_effective hadmitted.found) hadjusted rfl rfl rfl j
  | @capped sub hclear hother hcan _ =>
    have hadjusted : sub.AdjustedTo { sub with status := .cancelled } env.now :=
      Subscription.adjustedTo_of_transition hcan hother (by simp) rfl env.now
    exact .of_adjusted (Book.reads_of_effective hclear.found) hadjusted rfl rfl rfl j
  | @cancelled sub hclear hother hcan _ =>
    have hadjusted : sub.AdjustedTo
        { sub with status := .cancelled, prepaidBalance := 0, cancelAt := none } env.now :=
      Subscription.adjustedTo_of_transition hcan hother (by simp) rfl env.now
    exact .of_adjusted (Book.reads_of_effective hclear.found) hadjusted rfl rfl rfl j
  | @short sub new amount e hdue _ _ hnew =>
    have hadjusted : sub.AdjustedTo new env.now := by
      rw [hnew]
      refine ⟨rfl, rfl, rfl, fun hfinal => ?_, fun _ => .inr hdue.elapsed⟩
      rcases hdue.chargeable with h | h | h <;> rw [h] at hfinal <;> cases hfinal
    exact .of_adjusted hdue.reads hadjusted rfl rfl rfl j
  | booked hbooks => exact hbooks.view j

theorem UsageChanges.view {op : Operation} {usageAmount : Int}
    (h : UsageChanges env s id usageAmount b') (j : Nat) : RecordChange env s j b' op := by
  have hlive {new : Subscription} {sub : Subscription} (hactive : sub.status = .active)
      (hnew : new = { sub with
        prepaidBalance := new.prepaidBalance
        lifetimeCharged := new.lifetimeCharged
        status := new.status }) (hstatus : new.status ≠ .gracePeriod) :
      sub.AdjustedTo new env.now := by
    refine ⟨by rw [hnew], by rw [hnew], by rw [hnew], fun hfinal => ?_, fun h => absurd h hstatus⟩
    rw [hactive] at hfinal
    cases hfinal
  cases h with
  | unchanged => exact .kept ⟨rfl, rfl, rfl⟩
  | capped hdue _ =>
    exact .of_adjusted hdue.reads (hlive hdue.active rfl (by simp)) rfl rfl rfl j
  | booked hdue _ hsettled =>
    refine .of_adjusted hdue.reads (hlive hdue.active ?_ ?_) rfl rfl rfl j
    · rw [hsettled.2]
    · rw [hsettled.1]
      split
      · simp
      · split <;> simp
  | unfit hdue =>
    exact .of_adjusted hdue.reads (hlive hdue.active rfl (by simp)) rfl rfl rfl j

/-- Whatever is resumed along the way, a subscription is resumed once at most. -/
theorem ResumesRecords.at_record (h : ResumesRecords b b') (j : Nat) :
    b.SameAt j b' ∨ b.SameMarks j b' ∧ ∃ sub, b.record j = some sub ∧ sub.status = .paused ∧
      b'.record j = some { sub with status := .active } := by
  induction h with
  | done => exact .inl ⟨rfl, rfl, rfl⟩
  | @next b₀ b₁ b₂ id hfirst _ ih =>
    obtain ⟨sub, ⟨stored, hstored, hsub⟩, hpaused, rfl⟩ := hfirst
    by_cases hj : j = id
    · subst hj
      obtain rfl : sub = stored := by
        rcases hsub with hsub | ⟨-, rfl⟩
        · exact hsub
        · cases hpaused
      have hnow : ((b₀.setRecord j { sub with status := .active }).countUp
          sub.subscriber).record j = some { sub with status := .active } :=
        Function.update_self _ _ _
      rcases ih with hsame | ⟨-, other, hother, hstatus, -⟩
      · exact .inr ⟨⟨hsame.period, hsame.salt⟩, sub, hstored, hpaused, hsame.record.trans hnow⟩
      · rw [hnow] at hother
        obtain rfl := Option.some.inj hother
        cases hstatus
    · have hkept : b₀.SameAt j ((b₀.setRecord id { sub with status := .active }).countUp
          sub.subscriber) := Book.sameAt_of_update hj rfl rfl rfl
      rcases ih with hsame | ⟨hmarks, other, hother, hstatus, hafter⟩
      · exact .inl ⟨hsame.record.trans hkept.record, hsame.period, hsame.salt⟩
      · exact .inr ⟨⟨hmarks.period, hmarks.salt⟩, other, hkept.record.symm.trans hother, hstatus,
          hafter⟩

theorem ResumesRecord.chain (h : ResumesRecord b id b') : ResumesRecords b b' := .next h .done

theorem ResumesRecords.view {op : Operation} (h : ResumesRecords s.book b') (j : Nat) :
    RecordChange env s j b' op := by
  rcases h.at_record j with hsame | ⟨hmarks, sub, hsub, hpaused, hafter⟩
  · exact .kept hsame
  · refine .adjusted ⟨sub, hsub, .inl rfl⟩ ?_ hafter hmarks
    refine ⟨rfl, rfl, rfl, fun hfinal => ?_, fun hgrace => by cases hgrace⟩
    rw [hpaused] at hfinal
    cases hfinal

theorem Book.rotated_view {op : Operation} (s : State) (oldMerchant newMerchant : Address)
    (j : Nat) : RecordChange env s j (s.book.rotated oldMerchant newMerchant) op := by
  have hmarks : s.book.SameMarks j (s.book.rotated oldMerchant newMerchant) := ⟨rfl, rfl⟩
  have hrecord : (s.book.rotated oldMerchant newMerchant).record j =
      if j ∈ s.book.merchantSubs oldMerchant then
        (s.book.record j).map (·.rehomed oldMerchant newMerchant) else s.book.record j := rfl
  split at hrecord
  · cases hsub : s.book.record j with
    | none =>
      rw [hsub] at hrecord
      exact .kept ⟨hrecord.trans hsub.symm, rfl, rfl⟩
    | some sub =>
      rw [hsub] at hrecord
      refine .adjusted ⟨sub, hsub, .inl rfl⟩ ?_ hrecord hmarks
      show sub.AdjustedTo (sub.rehomed oldMerchant newMerchant) env.now
      unfold Subscription.rehomed
      split
      · exact ⟨rfl, rfl, rfl, fun _ => ⟨.inl rfl, rfl⟩, .inl⟩
      · exact ⟨rfl, rfl, rfl, fun _ => ⟨.inl rfl, rfl⟩, .inl⟩
  · exact .kept ⟨hrecord, rfl, rfl⟩

theorem Book.restored_view {summaries : List SubscriptionSummary}
    (hbook : b' = { s.book.restored summaries with nextId := b'.nextId }) (j : Nat) :
    RecordChange env s j b' (.restore summaries) := by
  rw [s.book.restored_rest summaries] at hbook
  have hmarks : s.book.SameMarks j b' := by
    rw [hbook]
    exact ⟨rfl, rfl⟩
  have hrecord : b'.record j = (s.book.restored summaries).record j := by rw [hbook]
  rcases s.book.restored_record summaries j with hkept | ⟨summary, hmem, hid, hrestored⟩
  · exact .kept ⟨hrecord.trans hkept, hmarks.period, hmarks.salt⟩
  · exact .restored hmem hid (hrecord.trans hrestored) hmarks

theorem RenumbersBook.view {op : Operation} (h : RenumbersBook s.book b') (j : Nat) :
    RecordChange env s j b' op := by
  have hbook : b' = { s.book with nextId := b'.nextId, schemaVersion := b'.schemaVersion } := h.1
  rw [hbook]
  exact .kept ⟨rfl, rfl, rfl⟩

/-- Every operation changes each subscription in one of the listed ways. -/
theorem Operation.Changes.view {op : Operation} (h : op.Changes env s b') (j : Nat) :
    RecordChange env s j b' op := by
  cases op with
  | create => exact CreatesRecord.view h j
  | deposit =>
    rcases h with h | h
    · exact EditsRecord.view h j
    · exact RevivesRecord.view h j
  | charge => exact IntervalChanges.view h j
  | chargeUsage => exact UsageChanges.view h j
  | buyOut => exact BuysOut.view h j
  | cancel => exact CancelsRecord.view h j
  | pause => exact PausesRecord.view h j
  | resume =>
    rcases h with h | h
    · exact (ResumesRecord.chain h).view j
    · exact RevivesRecord.view h j
  | edit => exact EditsRecord.view h j
  | archive => exact ArchivesRecord.view h j
  | replan =>
    obtain ⟨plan, hplan, h⟩ := h
    exact ReplansRecord.view hplan h j
  | transfer => exact TransfersRecord.view h j
  | unblock => exact ResumesRecords.view h j
  | rotate oldMerchant newMerchant =>
    obtain rfl := h
    exact Book.rotated_view s oldMerchant newMerchant j
  | restore => exact Book.restored_view h.1 j
  | renumber => exact RenumbersBook.view h j
  | other => exact h.elim

/-- A step of a run, seen from one subscription. -/
theorem VaultStep.view {l : VaultAction} {t : State} (h : VaultStep l s t) (j : Nat) :
    RecordChange l.env s j t.book l.operation := by
  rcases h.changes with hsame | hchanges
  · rw [hsame]
    exact .kept ⟨rfl, rfl, rfl⟩
  · exact hchanges.view j

end Views

/-! ## Numbers -/

/-- The version is the current one, and only numbers below the next one are in use. -/
structure Book.Numbered (b : Book) : Prop where
  current : b.schemaVersion = storageVersion
  unused : ∀ id, b.nextId ≤ id → b.record id = none

section Numbers

variable {env : Env} {s t : State} {b' : Book}

theorem Book.Numbered.lt_of_reads {b : Book} {id : Nat} {sub : Subscription} (h : b.Numbered)
    (hreads : b.Reads id sub) : id < b.nextId := by
  by_contra hlarge
  obtain ⟨stored, hstored, -⟩ := hreads
  rw [h.unused id (by omega)] at hstored
  cases hstored

theorem Deployed.book (h : Deployed s) : s.book = Book.blank := by
  obtain ⟨_, _, _, _, _, _, hrun⟩ := h
  exact book_of_deployed hrun

theorem Deployed.numbered (h : Deployed s) : s.book.Numbered := by
  rw [h.book]
  exact ⟨rfl, fun _ _ => rfl⟩

theorem ResumesRecords.numbering {b : Book} (h : ResumesRecords b b') :
    b'.schemaVersion = b.schemaVersion ∧ b'.nextId = b.nextId := by
  induction h with
  | done => exact ⟨rfl, rfl⟩
  | next hfirst _ ih =>
    obtain ⟨sub, -, -, rfl⟩ := hfirst
    exact ih

theorem RecordChange.reads {id : Nat} {op : Operation} (h : RecordChange env s id b' op)
    (hnone : s.book.record id = none) : b'.record id = none ∨
      (op = .create ∧ id = s.book.nextId) ∨ ∃ summaries, op = .restore summaries := by
  have hnever {sub : Subscription} (hreads : s.book.Reads id sub) : False := by
    obtain ⟨stored, hstored, -⟩ := hreads
    rw [hnone] at hstored
    cases hstored
  cases h with
  | kept hsame => exact .inl (hsame.record.trans hnone)
  | adjusted hreads _ _ _ => exact (hnever hreads).elim
  | charged hreads _ _ _ _ _ _ _ _ => exact (hnever hreads).elim
  | replanned _ hreads _ _ _ => exact (hnever hreads).elim
  | created hid _ _ _ _ _ _ => exact .inr (.inl ⟨rfl, hid⟩)
  | restored _ _ _ _ => exact .inr (.inr ⟨_, rfl⟩)

theorem CreatesRecord.nextId (h : CreatesRecord env s.book b')
    (hcurrent : s.book.schemaVersion = storageVersion) : b'.nextId = s.book.nextId + 1 := by
  obtain ⟨_, -, -, -, -, -, -, hnext⟩ := h
  exact hnext (hcurrent ▸ by decide)

/-- Only a creation takes a number. -/
theorem Operation.Changes.numbering {op : Operation} (h : op.Changes env s b')
    (hcurrent : s.book.schemaVersion = storageVersion) :
    b'.schemaVersion = storageVersion ∧
      (b'.nextId = s.book.nextId ∨ op = .create ∧ b'.nextId = s.book.nextId + 1) := by
  have hlate : 3 ≤ s.book.schemaVersion := hcurrent ▸ by decide
  suffices hsame : b'.schemaVersion = s.book.schemaVersion ∧
      (b'.nextId = s.book.nextId ∨ op = .create ∧ b'.nextId = s.book.nextId + 1) from
    ⟨hsame.1.trans hcurrent, hsame.2⟩
  cases op with
  | create =>
    have hnext := CreatesRecord.nextId h hcurrent
    obtain ⟨sub, -, -, -, -, -, hbook, -⟩ := h
    exact ⟨by rw [hbook]; rfl, .inr ⟨rfl, hnext⟩⟩
  | deposit =>
    rcases h with ⟨_, _, -, -, rfl⟩ | ⟨_, _, -, -, -, rfl⟩
    · exact ⟨rfl, .inl rfl⟩
    · exact ⟨rfl, .inl rfl⟩
  | charge =>
    cases h with
    | booked hbooks =>
      obtain ⟨_, _, _, -, -, -, rfl | rfl⟩ := hbooks
      · exact ⟨rfl, .inl rfl⟩
      · exact ⟨rfl, .inl rfl⟩
    | _ => exact ⟨rfl, .inl rfl⟩
  | chargeUsage => cases h <;> exact ⟨rfl, .inl rfl⟩
  | buyOut =>
    obtain ⟨_, _, -, -, -, -, -, rfl⟩ := h
    exact ⟨rfl, .inl rfl⟩
  | cancel =>
    obtain ⟨_, -, -, -, rfl⟩ := h
    split <;> exact ⟨rfl, .inl rfl⟩
  | pause =>
    obtain ⟨_, -, -, -, rfl⟩ := h
    exact ⟨rfl, .inl rfl⟩
  | resume =>
    rcases h with ⟨_, -, -, rfl⟩ | ⟨_, _, -, -, -, rfl⟩
    · exact ⟨rfl, .inl rfl⟩
    · exact ⟨rfl, .inl rfl⟩
  | edit =>
    obtain ⟨_, _, -, -, rfl⟩ := h
    exact ⟨rfl, .inl rfl⟩
  | archive =>
    obtain ⟨_, -, -, -, rfl⟩ := h
    exact ⟨rfl, .inl rfl⟩
  | replan =>
    obtain ⟨_, -, _, -, rfl⟩ := h
    exact ⟨rfl, .inl rfl⟩
  | transfer =>
    obtain ⟨_, -, rfl⟩ := h
    dsimp only
    split <;> exact ⟨rfl, .inl rfl⟩
  | unblock =>
    obtain ⟨hversion, hnext⟩ := ResumesRecords.numbering h
    exact ⟨hversion, .inl hnext⟩
  | rotate =>
    obtain rfl := h
    exact ⟨rfl, .inl rfl⟩
  | restore summaries =>
    refine ⟨?_, .inl (h.2 hlate)⟩
    rw [h.1, s.book.restored_rest summaries]
  | renumber =>
    have hsame := h.2 hcurrent
    exact ⟨by rw [hsame], .inl (by rw [hsame])⟩
  | other => exact h.elim

theorem numbered_of_step {l : VaultAction} (h : s.book.Numbered) (hstep : VaultStep l s t)
    (hplain : ∀ summaries, l.operation ≠ .restore summaries) : t.book.Numbered := by
  rcases hstep.changes with hsame | hchanges
  · rw [hsame]
    exact h
  obtain ⟨hversion, hnext⟩ := hchanges.numbering h.current
  refine ⟨hversion, fun id hid => ?_⟩
  have hfree : s.book.record id = none := h.unused id (by omega)
  rcases (hchanges.view id).reads hfree with hnone | ⟨hcreate, heq⟩ | ⟨summaries, hrestore⟩
  · exact hnone
  · rw [hcreate] at hchanges
    have hcreated : t.book.nextId = s.book.nextId + 1 := CreatesRecord.nextId hchanges h.current
    omega
  · exact absurd hrestore (hplain summaries)

end Numbers

end SubscriptionVault
