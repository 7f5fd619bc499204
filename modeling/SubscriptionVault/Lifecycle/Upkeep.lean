import SubscriptionVault.Lifecycle.Operations

/-!
# Upkeep of the book

The calls that are not about one subscription: the rotation of a merchant address, the restore
of a snapshot, initialisation and migration.
-/

namespace SubscriptionVault

open Exec

/-! ## Merchant rotation -/

/-- The subscription with the new address in place of the old one. -/
def Subscription.rehomed (sub : Subscription) (oldMerchant newMerchant : Address) :
    Subscription :=
  if sub.merchant = oldMerchant then { sub with merchant := newMerchant } else sub

theorem Subscription.rehomed_rehomed (sub : Subscription) (oldMerchant newMerchant : Address) :
    (sub.rehomed oldMerchant newMerchant).rehomed oldMerchant newMerchant =
      sub.rehomed oldMerchant newMerchant := by
  unfold Subscription.rehomed
  grind

/-- The listed records name the new address. -/
def Book.rehome (b : Book) (ids : List Nat) (oldMerchant newMerchant : Address) : Book :=
  { b with record := fun id =>
      if id ∈ ids then (b.record id).map (·.rehomed oldMerchant newMerchant) else b.record id }

/-- Only what the old address has listed moves. The list of the old address is emptied, also
when both addresses are the same. -/
def Book.rotated (b : Book) (oldMerchant newMerchant : Address) : Book :=
  ((b.rehome (b.merchantSubs oldMerchant) oldMerchant newMerchant).setMerchantSubs newMerchant
    (mergeInto (b.merchantSubs newMerchant) (b.merchantSubs oldMerchant))).setMerchantSubs
      oldMerchant []

section Rotation

variable {env : Env} {s t : State} {u : Unit} {oldMerchant newMerchant : Address}

theorem rewriteSubscriptionMerchant_book {id : Nat}
    (hrun : (rewriteSubscriptionMerchant oldMerchant newMerchant id).run env s = .ok u t) :
    t.book = s.book.rehome [id] oldMerchant newMerchant := by
  have hsame (h : (s.subscription id).map (·.rehomed oldMerchant newMerchant) =
      s.subscription id) : s.book = s.book.rehome [id] oldMerchant newMerchant := by
    refine congrArg (fun record => { s.book with record }) (funext fun j => ?_)
    by_cases hj : j = id
    · subst hj
      simpa [State.book] using h.symm
    · simp [State.book, hj]
  obtain ⟨found, hfound, hrun⟩ := run_check_ok (.gets _) hrun
  obtain rfl := (run_gets_ok.mp hfound).1
  rcases run_whenSome_ok.mp hrun with ⟨sub, hsub, hrun⟩ | ⟨hnone, rfl⟩
  · rcases run_when_ok.mp hrun with ⟨hmerchant, hrun⟩ | ⟨hother, rfl⟩
    · rw [book_of_writeSubscription hrun]
      refine congrArg (fun record => { s.book with record }) (funext fun j => ?_)
      by_cases hj : j = id
      · subst hj
        simp [State.book, hsub, Subscription.rehomed, hmerchant]
      · simp [hj]
    · exact hsame (by simp [hsub, Subscription.rehomed, hother])
  · exact hsame (by simp [hnone])

theorem rewriteAll_book {ids : List Nat}
    (hrun : (forEach ids (rewriteSubscriptionMerchant oldMerchant newMerchant)).run env s =
      .ok u t) : t.book = s.book.rehome ids oldMerchant newMerchant := by
  induction ids generalizing s with
  | nil =>
    obtain rfl := run_forEach_nil_ok.mp hrun
    simp [Book.rehome]
  | cons id ids ih =>
    obtain ⟨m, hfirst, hrest⟩ := run_forEach_cons_ok.mp hrun
    rw [ih hrest, rewriteSubscriptionMerchant_book hfirst]
    refine congrArg (fun record => { s.book with record }) (funext fun j => ?_)
    by_cases hj : j = id
    · subst hj
      by_cases hlisted : j ∈ ids
      · simp [Book.rehome, hlisted, Subscription.rehomed_rehomed, Function.comp_def]
      · simp [Book.rehome, hlisted]
    · simp [Book.rehome, hj]

theorem moveMerchantSubs_book {ids : List Nat}
    (hrun : (moveList (.merchantSubs oldMerchant) (.merchantSubs newMerchant) ids).run env s =
      .ok u t) :
    t.book = (s.book.setMerchantSubs newMerchant
      (mergeInto (s.book.merchantSubs newMerchant) ids)).setMerchantSubs oldMerchant [] := by
  obtain ⟨_, s₁, hmerge, hrun⟩ := run_bind_ok.mp hrun
  obtain rfl := run_delete_ok.mp hrun
  rw [State.book_remove_merchantSubs]
  rcases run_when_ok.mp hmerge with ⟨-, hwrite⟩ | ⟨hempty, rfl⟩
  · obtain ⟨existing, hload, hwrite⟩ := run_check_ok Modifies.load hwrite
    obtain rfl := (run_load_ok.mp hload).1
    obtain rfl := run_store_ok.mp hwrite
    rw [State.book_write_merchantSubs]
    rfl
  · obtain rfl := not_not.mp hempty
    have hkept : s.book.setMerchantSubs newMerchant
        (mergeInto (s.book.merchantSubs newMerchant) []) = s.book := by
      unfold Book.setMerchantSubs
      exact congrArg (fun merchantSubs => { s.book with merchantSubs })
        (Function.update_eq_self _ _)
    rw [hkept]

theorem doRotateMerchantAddress_book {admin : Address} {nonce : Nat}
    (hrun : (doRotateMerchantAddress admin oldMerchant newMerchant nonce).run env s = .ok u t) :
    t.book = s.book.rotated oldMerchant newMerchant := by
  obtain ⟨_, -, hrun⟩ := run_check_ok (Modifies.requireAdminAuth _) hrun
  obtain ⟨_, s₁, -, h₁, hrun⟩ := run_quiet_ok (Modifies.checkAndAdvance rfl) hrun
  obtain ⟨tokens, -, hrun⟩ := run_check_ok (.gets _) hrun
  obtain ⟨_, s₂, -, h₂, hrun⟩ := run_quiet_ok (.forEach (fun _ => (moveMerchantToken_areas _ _ _).unbooked rfl) _) hrun
  obtain ⟨_, s₃, -, h₃, hrun⟩ := run_quiet_ok
    ((moveList_areas (l := [.merchantTokens]) _ _ _ rfl rfl).unbooked rfl) hrun
  obtain ⟨_, s₄, -, h₄, hrun⟩ := run_quiet_ok
    ((moveEntry_areas (l := [.merchants]) _ _ rfl rfl).unbooked rfl) hrun
  obtain ⟨_, s₅, -, h₅, hrun⟩ := run_quiet_ok
    ((moveEntry_areas (l := [.merchants]) _ _ rfl rfl).unbooked rfl) hrun
  obtain ⟨_, s₆, -, h₆, hrun⟩ := run_quiet_ok
    ((moveEntry_areas (l := [.merchants]) _ _ rfl rfl).unbooked rfl) hrun
  obtain ⟨ids, hids, hrun⟩ := run_check_ok (.gets _) hrun
  obtain ⟨_, s₇, hrewrite, hrun⟩ := run_bind_ok.mp hrun
  have hbook : s₆.book = s.book := by rw [h₆, h₅, h₄, h₃, h₂, h₁]
  obtain rfl : s₆.book.merchantSubs oldMerchant = ids := (run_gets_ok.mp hids).1
  rw [moveMerchantSubs_book hrun, rewriteAll_book hrewrite, hbook]
  rfl

end Rotation

/-! ## Restore -/

/-- The records of a snapshot, the last one of an id on top. -/
def Book.restored (b : Book) (summaries : List SubscriptionSummary) : Book :=
  summaries.foldl (fun b summary => b.setRecord summary.subscriptionId summary.record) b

section Restore

variable {env : Env} {s t : State} {u : Unit}

theorem restoreRecords_book {summaries : List SubscriptionSummary}
    (hrun : (forEach summaries fun summary =>
      writeSubscription summary.subscriptionId summary.record).run env s = .ok u t) :
    t.book = s.book.restored summaries := by
  induction summaries generalizing s with
  | nil =>
    obtain rfl := run_forEach_nil_ok.mp hrun
    rfl
  | cons summary summaries ih =>
    obtain ⟨m, hfirst, hrest⟩ := run_forEach_cons_ok.mp hrun
    rw [ih hrest, book_of_writeSubscription hfirst]
    rfl

/-- Every restored record is one of the snapshot or was there before. -/
theorem Book.restored_record (b : Book) (summaries : List SubscriptionSummary) (id : Nat) :
    (b.restored summaries).record id = b.record id ∨ ∃ summary ∈ summaries,
      summary.subscriptionId = id ∧ (b.restored summaries).record id = some summary.record := by
  induction summaries generalizing b with
  | nil => exact .inl rfl
  | cons summary summaries ih =>
    rcases ih (b.setRecord summary.subscriptionId summary.record) with hkept | ⟨other, hmem, hrest⟩
    · by_cases hid : id = summary.subscriptionId
      · subst hid
        refine .inr ⟨summary, List.mem_cons_self, rfl, hkept.trans ?_⟩
        simp [Book.setRecord]
      · exact .inl (hkept.trans (by simp [Book.setRecord, hid]))
    · exact .inr ⟨other, List.mem_cons_of_mem _ hmem, hrest⟩

theorem Book.restored_rest (b : Book) (summaries : List SubscriptionSummary) :
    b.restored summaries = { b with record := (b.restored summaries).record } := by
  induction summaries generalizing b with
  | nil => rfl
  | cons summary summaries ih =>
    exact ih (b.setRecord summary.subscriptionId summary.record)

/-- The counter of the instance tier is not the one read from schema version 3 on. -/
theorem book_of_raised {next : Nat}
    (hrun : (store (.instanced .nextId) next).run env s = .ok u t) :
    t.book = { s.book with nextId := t.book.nextId } ∧
      (3 ≤ s.book.schemaVersion → t.book.nextId = s.book.nextId) := by
  obtain rfl := run_store_ok.mp hrun
  have hagree : FiniteStore.AgreeOff {.instanced .nextId} s
      (s.write (.instanced .nextId) next) := s.agreeOff_write next (Set.mem_singleton _)
  have hversion : State.schemaVersion (s.write (.instanced .nextId) next) = s.schemaVersion :=
    State.schemaVersion_of_agreeOff hagree (by simp) (by simp)
  have hsame : s.book.SameBut (State.book (s.write (.instanced .nextId) next)) .numbering :=
    State.book_sameBut (hagree.mono (by rintro k rfl; exact .inr rfl))
  refine ⟨?_, fun hle => ?_⟩
  · refine hsame.trans ?_
    show ({ s.book with
      nextId := (State.book (s.write (.instanced .nextId) next)).nextId
      schemaVersion := State.schemaVersion (s.write (.instanced .nextId) next) } : Book) = _
    rw [hversion]
    rfl
  · have hlate : ¬s.schemaVersion < 3 := Nat.not_lt.mpr hle
    show State.nextSubscriptionId (s.write (.instanced .nextId) next) = s.nextSubscriptionId
    simp [State.nextSubscriptionId, State.config, hversion, hlate]

theorem restoreSnapshotPage_book {admin : Address} {summaries : List SubscriptionSummary}
    {balances : List MerchantBalanceEntry}
    (hrun : (restoreSnapshotPage admin summaries balances).run env s = .ok u t) :
    t.book = { s.book.restored summaries with nextId := t.book.nextId } ∧
      (3 ≤ s.book.schemaVersion → t.book.nextId = s.book.nextId) := by
  obtain ⟨_, -, hrun⟩ := run_check_ok (Modifies.requireAdminAuth _) hrun
  obtain ⟨_, -, hrun⟩ := run_check_ok (.gets _) hrun
  obtain ⟨_, -, hrun⟩ := run_check_ok (.failIf _ _) hrun
  obtain ⟨_, -, hrun⟩ := run_check_ok Modifies.load hrun
  obtain ⟨_, s₁, hrecords, hrun⟩ := run_bind_ok.mp hrun
  obtain ⟨_, s₂, -, h₂, hrun⟩ := run_quiet_ok
    (.forEach (fun _ => Modifies.store (S := unbooked) rfl) _) hrun
  have hbook : s₂.book = s.book.restored summaries := by
    rw [h₂, restoreRecords_book hrecords]
  have hrest := s.book.restored_rest summaries
  rcases run_when_ok.mp hrun with ⟨-, hraise⟩ | ⟨-, rfl⟩
  · obtain ⟨hnext, hkept⟩ := book_of_raised hraise
    rw [hbook] at hnext hkept
    exact ⟨hnext, fun hle => (hkept (by rw [hrest]; exact hle)).trans (by rw [hrest])⟩
  · exact ⟨by rw [hbook], fun _ => by rw [hbook, hrest]⟩

end Restore

/-! ## Initialisation and migration -/

/-- The version and the next id may change, unless the version is the current one. -/
def RenumbersBook (b b' : Book) : Prop :=
  b.SameBut b' .numbering ∧ (b.schemaVersion = storageVersion → b' = b)

section Numbering

variable {env : Env} {s t : State} {u : Unit}

/-- Once the version is the current one, initialisation writes it again. -/
theorem book_of_version (hcurrent : s.schemaVersion = storageVersion) :
    State.book (s.write (.persistent .schemaVersion) storageVersion) = s.book := by
  have hversion : State.schemaVersion (s.write (.persistent .schemaVersion) storageVersion) =
      s.schemaVersion := by
    rw [hcurrent]
    simp [State.schemaVersion]
  have hnext : State.nextSubscriptionId (s.write (.persistent .schemaVersion) storageVersion) =
      s.nextSubscriptionId := by
    simp [State.nextSubscriptionId, State.config, hversion]
  have hsame : s.book.SameBut
      (State.book (s.write (.persistent .schemaVersion) storageVersion)) .numbering :=
    State.book_sameBut (s.agreeOff_write _ (.inr rfl))
  refine hsame.trans ?_
  show ({ s.book with
    nextId := State.nextSubscriptionId (s.write (.persistent .schemaVersion) storageVersion)
    schemaVersion :=
      State.schemaVersion (s.write (.persistent .schemaVersion) storageVersion) } : Book) = _
  rw [hversion, hnext]
  rfl

theorem doInit_writes {token admin : Address} {tokenDecimals gracePeriod : Nat} {minTopup : Int}
    (hrun : (doInit token tokenDecimals admin minTopup gracePeriod).run env s = .ok u t) :
    t.book = State.book (s.write (.persistent .schemaVersion) storageVersion) := by
  obtain ⟨_, -, hrun⟩ := run_check_ok .ask hrun
  obtain ⟨_, -, hrun⟩ := run_check_ok Modifies.getState hrun
  obtain ⟨_, -, hrun⟩ := run_check_ok (.failIf _ _) hrun
  obtain ⟨_, -, hrun⟩ := run_check_ok (.failIf _ _) hrun
  obtain ⟨_, -, hrun⟩ := run_check_ok (.failIf _ _) hrun
  obtain ⟨_, -, hrun⟩ := run_check_ok (.failIf _ _) hrun
  obtain ⟨_, s₁, hversion, hrun⟩ := run_bind_ok.mp hrun
  obtain rfl := run_store_ok.mp hversion
  have hrest : Modifies unbooked (do
      writeConfig .token token
      store (.instanced (.tokenDecimals token)) tokenDecimals
      store (.instanced .acceptedTokens) [token]
      writeConfig .admin admin
      writeConfig .minTopup minTopup
      writeConfig .gracePeriod gracePeriod) :=
    .bind (Modifies.writeConfig rfl rfl) fun _ => .bind (Modifies.store rfl) fun _ =>
      .bind (Modifies.store rfl) fun _ => .bind (Modifies.writeConfig rfl rfl) fun _ =>
      .bind (Modifies.writeConfig rfl rfl) fun _ => Modifies.writeConfig rfl rfl
  exact hrest.book hrun

theorem doInit_book {token admin : Address} {tokenDecimals gracePeriod : Nat} {minTopup : Int}
    (hrun : (doInit token tokenDecimals admin minTopup gracePeriod).run env s = .ok u t) :
    RenumbersBook s.book t.book := by
  rw [doInit_writes hrun]
  exact ⟨State.book_sameBut (s.agreeOff_write _ (.inr rfl)), book_of_version⟩

theorem promoteConfig_numbering {α : Type} {key : DataKey} [Holds DataKey.Val key α]
    (hp : .persistent key ∈ outsideExcept .numbering)
    (hi : .instanced key ∈ outsideExcept .numbering) :
    Modifies (outsideExcept .numbering) (promoteConfig key) :=
  .bind Modifies.load fun _ => .whenSome fun _ => .bind (Modifies.store hp) fun _ =>
    Modifies.delete hi

theorem migrateInternal_numbering :
    Modifies (outsideExcept .numbering) doMigrateConfigToPersistentInternal :=
  .bind (promoteConfig_numbering (.inl rfl) (.inl rfl)) fun _ =>
    .bind (promoteConfig_numbering (.inl rfl) (.inl rfl)) fun _ =>
    .bind (promoteConfig_numbering (.inl rfl) (.inl rfl)) fun _ =>
    .bind (promoteConfig_numbering (.inl rfl) (.inl rfl)) fun _ =>
    .bind (promoteConfig_numbering (.inl rfl) (.inl rfl)) fun _ =>
    .bind (promoteConfig_numbering (.inr rfl) (.inr rfl)) fun _ =>
    .bind (promoteConfig_numbering (.inl rfl) (.inl rfl)) fun _ =>
    .bind (promoteConfig_numbering (.inl rfl) (.inl rfl)) fun _ =>
    .bind (promoteConfig_numbering (.inl rfl) (.inl rfl)) fun _ =>
    .bind (promoteConfig_numbering (.inl rfl) (.inl rfl)) fun _ =>
    .bind (Modifies.store (.inr rfl)) fun _ => Modifies.delete (.inr rfl)

theorem migrateConfigToPersistent_book {admin : Address}
    (hrun : (migrateConfigToPersistent admin).run env s = .ok u t) :
    RenumbersBook s.book t.book := by
  obtain ⟨_, -, hrun⟩ := run_check_ok (Modifies.requireAdminAuth _) hrun
  obtain ⟨stored, hstored, hrun⟩ := run_check_ok (.gets _) hrun
  obtain rfl : s.book.schemaVersion = stored := (run_gets_ok.mp hstored).1
  obtain ⟨_, hold, hrun⟩ := run_check_ok (.failIf _ _) hrun
  have hverify : Modifies (outsideExcept .numbering)
      (doMigrateConfigToPersistentInternal >>= fun _ => verifyMigration 3) :=
    .bind migrateInternal_numbering fun _ => .bind (.gets _) fun _ => .failIf _ _
  refine ⟨State.book_sameBut (hverify.ok hrun), fun hcurrent => ?_⟩
  exact absurd (hcurrent ▸ show 3 < storageVersion by decide) (run_failIf_ok.mp hold).1

theorem doMigrate_book {admin : Address} {dryRun : Bool}
    (hrun : (doMigrate admin dryRun).run env s = .ok u t) : RenumbersBook s.book t.book := by
  obtain ⟨_, -, hrun⟩ := run_check_ok (Modifies.requireAdminAuth _) hrun
  obtain ⟨stored, hstored, hrun⟩ := run_check_ok (.gets _) hrun
  obtain rfl : s.book.schemaVersion = stored := (run_gets_ok.mp hstored).1
  obtain ⟨_, -, hrun⟩ := run_check_ok (.failIf _ _) hrun
  rcases run_when_ok.mp hrun with ⟨⟨-, hother⟩, hrun⟩ | ⟨-, rfl⟩
  · have hmigrate : Modifies (outsideExcept .numbering) (do
        when (s.book.schemaVersion ≤ 2) doMigrateConfigToPersistentInternal
        store (.persistent .schemaVersion) storageVersion
        delete (.instanced .schemaVersion)
        verifyMigration storageVersion) :=
      .bind (.when migrateInternal_numbering) fun _ => .bind (Modifies.store (.inr rfl)) fun _ =>
        .bind (Modifies.delete (.inr rfl)) fun _ => .bind (.gets _) fun _ => .failIf _ _
    exact ⟨State.book_sameBut (hmigrate.ok hrun), fun hcurrent => absurd hcurrent hother⟩
  · exact ⟨rfl, fun _ => rfl⟩

/-- The book of a vault that has just been initialised. -/
def Book.blank : Book where
  record _ := none
  chargedPeriod _ := none
  chargeSalt _ := none
  nextId := 0
  schemaVersion := storageVersion
  activeCount _ := 0
  merchantSubs _ := []
  tokenSubs _ := []
  subscriberSubs _ := []

theorem book_of_deployed {token admin : Address} {tokenDecimals gracePeriod : Nat}
    {minTopup : Int} (hrun : (doInit token tokenDecimals admin minTopup gracePeriod).run env
      FiniteStore.empty = .ok u t) : t.book = Book.blank := by
  rw [doInit_writes hrun]
  simp [State.book, Book.blank, State.schemaVersion, State.nextSubscriptionId, State.config,
    funext_iff, State.subscription, State.subscriberActiveCount, State.merchantSubs,
    State.tokenSubs, State.subscriberSubs]

end Numbering

end SubscriptionVault
