import SubscriptionVault.Framework.KeyIndex
import SubscriptionVault.Lifecycle.SignedMetadata

/-!
# The metadata of a subscription

Values are stored one by one, and the keys of a subscription in a list. Whoever sets or deletes an
entry, by its own authorisation or by a signed payload, changes both together.
-/

namespace SubscriptionVault

open Exec

/-! ## What a call does -/

section Entries

variable {env : Env} {s t : State} {id : Nat} {key value : HostString} {u : Unit}

/-- The metadata of one subscription is now this; all other metadata is what it was. -/
structure MetadataBecomes (id : Nat) (keys : List HostString)
    (value : HostString → Option HostString) (s t : State) : Prop where
  keys : t.metadataKeys = Function.update s.metadataKeys id keys
  values : t.metadataAt = Function.update s.metadataAt id value

/-- What `set` leaves of the metadata. -/
def SetsMetadata (id : Nat) (key value : HostString) (s t : State) : Prop :=
  MetadataBecomes id (listedWith (s.metadataKeys id) key)
    (Function.update (s.metadataAt id) key (some value)) s t

/-- What `delete` leaves of the metadata. -/
def DeletesMetadata (id : Nat) (key : HostString) (s t : State) : Prop :=
  if key ∈ s.metadataKeys id then
    MetadataBecomes id ((s.metadataKeys id).erase key)
      (Function.update (s.metadataAt id) key none) s t
  else s = t

/-- The slots that metadata is not kept in. -/
def metadataFree : Set Slot :=
  {k | ∀ id, k ≠ .persistent (.metadataKeys id) ∧ ∀ key, k ≠ .persistent (.metadata id key)}

theorem nonce_mem_metadataFree {signer : Address} {domain : Nat} :
    .persistent (.adminNonce signer domain) ∈ metadataFree :=
  fun _ => ⟨nofun, fun _ => nofun⟩

theorem State.metadata_of_agreeOff (h : FiniteStore.AgreeOff metadataFree s t) :
    t.metadataKeys = s.metadataKeys ∧ t.metadataAt = s.metadataAt := by
  constructor
  · funext id
    exact congrArg (Option.getD · []) (h.read fun hmem => (hmem id).1 rfl)
  · funext id key
    exact h.read fun hmem => (hmem id).2 key rfl

theorem metadataKeys_write (s : State) (id : Nat) (keys : List HostString) :
    State.metadataKeys (s.write (.persistent (.metadataKeys id)) keys) =
      Function.update s.metadataKeys id keys := by
  funext id'
  by_cases hid : id' = id
  · subst hid
    rw [Function.update_self]
    exact congrArg (Option.getD · []) (FiniteStore.read_write_self _ _)
  · rw [Function.update_of_ne hid]
    exact congrArg (Option.getD · []) (FiniteStore.read_write_of_ne _ _ (by simpa using hid))

theorem metadataAt_family (s : State) (id : Nat) (key : HostString) (o : Option HostString)
    {t : State} (hsame : ∀ id' key', (id', key') ≠ (id, key) →
      t.metadataAt id' key' = s.metadataAt id' key') (hself : t.metadataAt id key = o) :
    t.metadataAt = Function.update s.metadataAt id (Function.update (s.metadataAt id) key o) := by
  funext id' key'
  by_cases hid : id' = id
  · subst hid
    rw [Function.update_self]
    by_cases hkey : key' = key
    · subst hkey
      rw [Function.update_self, hself]
    · rw [Function.update_of_ne hkey]
      exact hsame _ _ fun heq => hkey (Prod.mk.inj heq).2
  · rw [Function.update_of_ne hid]
    exact hsame _ _ fun heq => hid (Prod.mk.inj heq).1

theorem run_applyMetadataStorage (env : Env) (s : State) (id : Nat) (key value : HostString) :
    ∃ t, (applyMetadataStorage id key value).run env s = .ok () t ∧
      SetsMetadata id key value s t := by
  have hread : (gets (·.metadataKeys id) : Vault _).run env s = .ok (s.metadataKeys id) s := rfl
  have hvalues (u : State) (hu : u.metadataAt = s.metadataAt) :
      State.metadataAt (u.write (.persistent (.metadata id key)) value) =
        Function.update s.metadataAt id (Function.update (s.metadataAt id) key (some value)) := by
    refine metadataAt_family s id key _ (fun id' key' hne => ?_) (FiniteStore.read_write_self _ _)
    rw [← hu]
    exact FiniteStore.read_write_of_ne _ _ (by simpa using hne)
  have hkeys (u : State) :
      State.metadataKeys (u.write (.persistent (.metadata id key)) value) = u.metadataKeys := by
    funext id'
    exact congrArg (Option.getD · []) (FiniteStore.read_write_of_ne _ _ (by simp))
  unfold applyMetadataStorage
  by_cases hlisted : key ∈ s.metadataKeys id
  · have hwhen : (when (key ∉ s.metadataKeys id) (store (.persistent (.metadataKeys id))
        (s.metadataKeys id ++ [key])) : Vault Unit).run env s = .ok () s :=
      run_when_ok.mpr (.inr ⟨not_not.mpr hlisted, rfl⟩)
    refine ⟨_, (run_bind_of_ok hread).trans ((run_bind_of_ok hwhen).trans rfl), ⟨?_, hvalues s rfl⟩⟩
    rw [hkeys, listedWith, if_pos hlisted, Function.update_eq_self]
  · have hwhen : (when (key ∉ s.metadataKeys id) (store (.persistent (.metadataKeys id))
        (s.metadataKeys id ++ [key])) : Vault Unit).run env s = .ok () (s.write
          (.persistent (.metadataKeys id)) (s.metadataKeys id ++ [key])) :=
      run_when_ok.mpr (.inl ⟨hlisted, run_store_ok.mpr rfl⟩)
    refine ⟨_, (run_bind_of_ok hread).trans ((run_bind_of_ok hwhen).trans rfl), ⟨?_, hvalues _ ?_⟩⟩
    · rw [hkeys, listedWith, if_neg hlisted]
      exact metadataKeys_write s id _
    · funext id' key'
      exact FiniteStore.read_write_of_ne _ _ (by simp)

/-! ## Checks -/

/-- What the entrypoints and the check of the input ask of a key. -/
def ValidMetadataKey (key : HostString) : Prop :=
  rejectEmptyString key = .ok () ∧ key.bytes.length ≤ maxMetadataKeyLength ∧
    validateUtf8String key = .ok ()

def ValidMetadataValue (value : HostString) : Prop :=
  rejectEmptyString value = .ok () ∧ value.bytes.length ≤ maxMetadataValueLength ∧
    validateUtf8String value = .ok ()

/-- The key is there or there is room for it. -/
def State.HasRoomFor (s : State) (id : Nat) (key : HostString) : Prop :=
  key ∈ s.metadataKeys id ∨ (s.metadataKeys id).length < maxMetadataKeys

theorem run_validateMetadataInput_ok :
    (validateMetadataInput id key value).run env s = .ok u t ↔
      (key.bytes.length ≤ maxMetadataKeyLength ∧ value.bytes.length ≤ maxMetadataValueLength ∧
        validateUtf8String key = .ok () ∧ validateUtf8String value = .ok () ∧
          s.HasRoomFor id key) ∧ s = t := by
  have hroom : ¬(key ∉ s.metadataKeys id ∧ maxMetadataKeys ≤ (s.metadataKeys id).length) ↔
      s.HasRoomFor id key := by
    unfold State.HasRoomFor
    rw [not_and_or, not_not, not_le]
  unfold validateMetadataInput
  simp only [run_bind_ok, run_failIf_ok, run_lift_ok, run_gets_ok, not_lt]
  constructor
  · rintro ⟨_, _, ⟨hkey, rfl⟩, _, _, ⟨hvalue, rfl⟩, _, _, ⟨hkeyText, rfl⟩, _, _, ⟨hvalueText, rfl⟩,
      _, _, ⟨rfl, rfl⟩, hfree, rfl⟩
    exact ⟨⟨hkey, hvalue, hkeyText, hvalueText, hroom.mp hfree⟩, rfl⟩
  · rintro ⟨⟨hkey, hvalue, hkeyText, hvalueText, hfree⟩, rfl⟩
    exact ⟨(), _, ⟨hkey, rfl⟩, (), _, ⟨hvalue, rfl⟩, (), _, ⟨hkeyText, rfl⟩, (), _,
      ⟨hvalueText, rfl⟩, _, _, ⟨rfl, rfl⟩, hroom.mpr hfree, rfl⟩

end Entries

/-! ## Calls -/

/-- The entry that a call sets. -/
def MetadataCall.sets : MetadataCall → Option (Nat × HostString × HostString)
  | .setMetadata id _ key value => some (id, key, value)
  | .setMetadataSigned _ payload _ =>
    some (payload.subscriptionId.toNat, payload.key, payload.value)
  | .deleteMetadata _ _ _ => none

/-- The caller is a party that has authorised the call, or the payload is good: signed by a party,
not run out, and the next of its signer. -/
def MetadataCall.Authorised (host : SigningHost) (env : Env) (s : State) : MetadataCall → Prop
  | .setMetadata id authorizer _ _ | .deleteMetadata id authorizer _ =>
    (env.authorized authorizer ∧ authorizer ≠ env.host.contract) ∧
      ∃ sub, s.effectiveSubscription id env.now = some sub ∧
        (authorizer = sub.subscriber ∨ authorizer = sub.merchant)
  | .setMetadataSigned signerPubkey payload signature =>
    ∃ sub signer, SignedInTime host env s signerPubkey payload signature sub signer ∧
      payload.nonce.toNat < u64Max

section Calls

variable {host : SigningHost} {env : Env} {s t : State} {call : MetadataCall} {id : Nat}
  {authorizer : Address} {key value : HostString} {u : Unit}

theorem SetsMetadata.of_agree {s' : State} (h : SetsMetadata id key value s' t)
    (hagree : FiniteStore.AgreeOff metadataFree s s') : SetsMetadata id key value s t := by
  obtain ⟨hkeys, hvalues⟩ := State.metadata_of_agreeOff hagree
  obtain ⟨hafterKeys, hafterValues⟩ := h
  rw [hkeys] at hafterKeys
  rw [hvalues] at hafterValues
  exact ⟨hafterKeys, hafterValues⟩

/-- A call sets its entry just when it is authorised, both texts are valid and there is room. -/
theorem run_sets_iff (hsets : call.sets = some (id, key, value)) :
    (∃ t, (call.exec host).run env s = .ok () t) ↔
      call.Authorised host env s ∧ ValidMetadataKey key ∧ ValidMetadataValue value ∧
        s.HasRoomFor id key := by
  cases call with
  | setMetadata id authorizer key value =>
    cases hsets
    constructor
    · rintro ⟨t, hrun⟩
      obtain ⟨_, hkey, hrun⟩ := run_check_ok (.lift _) hrun
      obtain ⟨_, hvalue, hrun⟩ := run_check_ok (.lift _) hrun
      obtain ⟨_, hauth, hrun⟩ := run_check_ok (Modifies.requireAuth _) hrun
      obtain ⟨sub, hfound, hrun⟩ := run_check_ok (Modifies.getSubscription _) hrun
      obtain ⟨_, hparty, hrun⟩ := run_check_ok (.failIf _ _) hrun
      obtain ⟨_, hvalid, -⟩ := run_check_ok (validateMetadataInput_keeps _ _ _) hrun
      obtain ⟨⟨hkeySize, hvalueSize, hkeyText, hvalueText, hroom⟩, -⟩ :=
        run_validateMetadataInput_ok.mp hvalid
      have hnot := (run_failIf_ok.mp hparty).1
      exact ⟨⟨(run_requireAuth_ok.mp hauth).1, sub, (run_getSubscription_ok.mp hfound).1, by tauto⟩,
        ⟨(run_lift_ok.mp hkey).1, hkeySize, hkeyText⟩,
        ⟨(run_lift_ok.mp hvalue).1, hvalueSize, hvalueText⟩, hroom⟩
    · rintro ⟨⟨hauth, sub, hfound, hparty⟩, ⟨hkey, hkeySize, hkeyText⟩,
        ⟨hvalue, hvalueSize, hvalueText⟩, hroom⟩
      refine exists_run_seq (run_lift_ok.mpr ⟨hkey, rfl⟩) ?_
      refine exists_run_seq (run_lift_ok.mpr ⟨hvalue, rfl⟩) ?_
      refine exists_run_seq (run_requireAuth_ok.mpr ⟨hauth, rfl⟩) ?_
      refine exists_run_bind (run_getSubscription_ok.mpr ⟨hfound, rfl⟩) ?_
      refine exists_run_seq (run_failIf_ok.mpr ⟨by tauto, rfl⟩) ?_
      refine exists_run_seq (run_validateMetadataInput_ok.mpr
        ⟨⟨hkeySize, hvalueSize, hkeyText, hvalueText, hroom⟩, rfl⟩) ?_
      exact (run_applyMetadataStorage env s id key value).imp fun _ h => h.1
  | setMetadataSigned signerPubkey payload signature =>
    cases hsets
    constructor
    · rintro ⟨t, hrun⟩
      obtain ⟨sub, signer, hsigned, -⟩ := run_setMetadataSigned_ok hrun
      obtain ⟨_, hkey, hrun⟩ := run_check_ok (.lift _) hrun
      obtain ⟨_, hvalue, hrun⟩ := run_check_ok (.lift _) hrun
      obtain ⟨_, -, hrun⟩ := run_check_ok .ask hrun
      obtain ⟨_, -, hrun⟩ := run_check_ok (Modifies.getSubscription _) hrun
      obtain ⟨_, hvalid, hrun⟩ := run_check_ok (validateMetadataInput_keeps _ _ _) hrun
      obtain ⟨_, -, hrun⟩ := run_check_ok (.require _) hrun
      obtain ⟨signer', haccount, hrun⟩ := run_check_ok (.okOr _ _) hrun
      obtain ⟨_, -, hrun⟩ := run_check_ok (.failIf _ _) hrun
      obtain ⟨_, -, hrun⟩ := run_check_ok (.failIf _ _) hrun
      obtain ⟨_, _, hadvance, -⟩ := run_bind_ok.mp hrun
      obtain ⟨next, hnext, -⟩ := run_checkAndAdvance_ok.mp hadvance
      obtain ⟨hexpected, -, hfits⟩ := computeNextNonce_ok.mp hnext
      obtain ⟨⟨hkeySize, hvalueSize, hkeyText, hvalueText, hroom⟩, -⟩ :=
        run_validateMetadataInput_ok.mp hvalid
      exact ⟨⟨sub, signer, hsigned, by omega⟩,
        ⟨(run_lift_ok.mp hkey).1, hkeySize, hkeyText⟩,
        ⟨(run_lift_ok.mp hvalue).1, hvalueSize, hvalueText⟩, hroom⟩
    · rintro ⟨⟨sub, signer, hsigned, hfits⟩, ⟨hkey, hkeySize, hkeyText⟩,
        ⟨hvalue, hvalueSize, hvalueText⟩, hroom⟩
      have hparty := hsigned.party
      have hnext : computeNextNonce (s.nonce signer .metadataSigned) payload.nonce.toNat =
          .ok (payload.nonce.toNat + 1) :=
        computeNextNonce_ok.mpr ⟨hsigned.next, congrArg (· + 1) hsigned.next, by
          have hsame : payload.nonce.toNat = s.nonce signer .metadataSigned := hsigned.next
          omega⟩
      refine exists_run_seq (run_lift_ok.mpr ⟨hkey, rfl⟩) ?_
      refine exists_run_seq (run_lift_ok.mpr ⟨hvalue, rfl⟩) ?_
      refine exists_run_bind (run_ask_ok.mpr ⟨rfl, rfl⟩) ?_
      refine exists_run_bind (run_getSubscription_ok.mpr ⟨hsigned.found, rfl⟩) ?_
      refine exists_run_seq (run_validateMetadataInput_ok.mpr
        ⟨⟨hkeySize, hvalueSize, hkeyText, hvalueText, hroom⟩, rfl⟩) ?_
      refine exists_run_seq (run_require_ok.mpr ⟨hsigned.verified, rfl⟩) ?_
      refine exists_run_bind (run_okOr_ok.mpr ⟨hsigned.account, rfl⟩) ?_
      refine exists_run_seq (run_failIf_ok.mpr ⟨by tauto, rfl⟩) ?_
      refine exists_run_seq (run_failIf_ok.mpr ⟨Nat.not_le.mpr hsigned.unexpired, rfl⟩) ?_
      refine exists_run_seq (run_checkAndAdvance_ok.mpr ⟨_, hnext, rfl⟩) ?_
      exact (run_applyMetadataStorage env _ _ payload.key payload.value).imp fun _ h => h.1
  | deleteMetadata id authorizer key => cases hsets

theorem run_sets_ok (hsets : call.sets = some (id, key, value))
    (hrun : (call.exec host).run env s = .ok () t) : SetsMetadata id key value s t := by
  have happlied {s' : State} (hagree : FiniteStore.AgreeOff metadataFree s s')
      (happly : (applyMetadataStorage id key value).run env s' = .ok () t) :
      SetsMetadata id key value s t := by
    obtain ⟨t', happly', hset⟩ := run_applyMetadataStorage env s' id key value
    cases happly.symm.trans happly'
    exact hset.of_agree hagree
  cases call with
  | setMetadata id authorizer key value =>
    cases hsets
    obtain ⟨_, -, hrun⟩ := run_check_ok (.lift _) hrun
    obtain ⟨_, -, hrun⟩ := run_check_ok (.lift _) hrun
    obtain ⟨_, -, hrun⟩ := run_check_ok (Modifies.requireAuth _) hrun
    obtain ⟨_, -, hrun⟩ := run_check_ok (Modifies.getSubscription _) hrun
    obtain ⟨_, -, hrun⟩ := run_check_ok (.failIf _ _) hrun
    obtain ⟨_, -, hrun⟩ := run_check_ok (validateMetadataInput_keeps _ _ _) hrun
    exact happlied (Std.Refl.refl _) hrun
  | setMetadataSigned signerPubkey payload signature =>
    cases hsets
    obtain ⟨_, -, hrun⟩ := run_check_ok (.lift _) hrun
    obtain ⟨_, -, hrun⟩ := run_check_ok (.lift _) hrun
    obtain ⟨_, -, hrun⟩ := run_check_ok .ask hrun
    obtain ⟨_, -, hrun⟩ := run_check_ok (Modifies.getSubscription _) hrun
    obtain ⟨_, -, hrun⟩ := run_check_ok (validateMetadataInput_keeps _ _ _) hrun
    obtain ⟨_, -, hrun⟩ := run_check_ok (.require _) hrun
    obtain ⟨_, -, hrun⟩ := run_check_ok (.okOr _ _) hrun
    obtain ⟨_, -, hrun⟩ := run_check_ok (.failIf _ _) hrun
    obtain ⟨_, -, hrun⟩ := run_check_ok (.failIf _ _) hrun
    obtain ⟨_, s', hadvance, happly⟩ := run_bind_ok.mp hrun
    obtain ⟨-, rfl⟩ := run_checkAndAdvance_nonce hadvance
    exact happlied (FiniteStore.agreeOff_write s _ nonce_mem_metadataFree) happly
  | deleteMetadata id authorizer key => cases hsets

theorem run_deletes_ok
    (hrun : ((MetadataCall.deleteMetadata id authorizer key).exec host).run env s = .ok () t) :
    DeletesMetadata id key s t := by
  obtain ⟨_, -, hrun⟩ := run_check_ok (.lift _) hrun
  obtain ⟨_, -, hrun⟩ := run_check_ok (Modifies.requireAuth _) hrun
  obtain ⟨_, -, hrun⟩ := run_check_ok (Modifies.getSubscription _) hrun
  obtain ⟨_, -, hrun⟩ := run_check_ok (.failIf _ _) hrun
  obtain ⟨keys, hkeys, hrun⟩ := run_check_ok (.gets _) hrun
  obtain rfl := (run_gets_ok.mp hkeys).1
  unfold DeletesMetadata
  rcases run_when_ok.mp hrun with ⟨hlisted, hrun⟩ | ⟨hunlisted, rfl⟩
  · rw [if_pos hlisted]
    obtain ⟨_, s', hstore, hdelete⟩ := run_bind_ok.mp hrun
    obtain rfl := run_store_ok.mp hstore
    obtain rfl := run_delete_ok.mp hdelete
    constructor
    · rw [← metadataKeys_write]
      funext id'
      exact congrArg (Option.getD · []) (FiniteStore.read_remove_of_ne _ (by simp))
    · refine metadataAt_family s id key _ (fun id' key' hne => ?_) (FiniteStore.read_remove_self _)
      exact (FiniteStore.read_remove_of_ne _ (by simpa using hne)).trans
        (FiniteStore.read_write_of_ne _ _ (by simp))
  · rw [if_neg hunlisted]

end Calls

/-! ## Runs -/

inductive MetadataAction where
  | call (env : Env) (call : MetadataCall)
  /-- Anything that keeps off the metadata. -/
  | other

inductive MetadataStep (host : SigningHost) : MetadataAction → State → State → Prop
  | call {env : Env} {call : MetadataCall} {s t : State} :
      (call.exec host).run env s = .ok () t → MetadataStep host (.call env call) s t
  | other {s t : State} : FiniteStore.AgreeOff metadataFree s t → MetadataStep host .other s t

/-- What a call leaves under a key, if it is about the key. -/
def MetadataCall.leaves (id : Nat) (key : HostString) : MetadataCall → Option (Option HostString)
  | .setMetadata id' _ key' value => if id' = id ∧ key' = key then some (some value) else none
  | .setMetadataSigned _ payload _ =>
    if payload.subscriptionId.toNat = id ∧ payload.key = key then some (some payload.value)
    else none
  | .deleteMetadata id' _ key' => if id' = id ∧ key' = key then some none else none

/-- The value of the last set of a key, unless it was deleted since. -/
def lastSet (id : Nat) (key : HostString) : History MetadataAction State → Option HostString
  | [] => none
  | (.call _ call, _) :: earlier => (call.leaves id key).getD (lastSet id key earlier)
  | (.other, _) :: earlier => lastSet id key earlier

/-- The keys and values of a subscription are in step, and are what was set. -/
structure MetadataKept (id : Nat) (last : HostString → Option HostString) (s : State) : Prop where
  indexes : Indexes maxMetadataKeys (s.metadataKeys id) (s.metadataAt id)
  valid : ∀ key ∈ s.metadataKeys id, ValidMetadataKey key
  value : s.metadataAt id = last

section Runs

variable {host : SigningHost} {start s t : State} {hist : History MetadataAction State}
  {id id' : Nat} {key value : HostString} {last : HostString → Option HostString}
  {call : MetadataCall} {env : Env}

theorem MetadataBecomes.other {keys : List HostString} {values : HostString → Option HostString}
    (h : MetadataBecomes id' keys values s t) (hne : id ≠ id') :
    t.metadataKeys id = s.metadataKeys id ∧ t.metadataAt id = s.metadataAt id := by
  rw [h.keys, h.values, Function.update_of_ne hne, Function.update_of_ne hne]
  exact ⟨rfl, rfl⟩

theorem MetadataBecomes.self {keys : List HostString} {values : HostString → Option HostString}
    (h : MetadataBecomes id keys values s t) :
    t.metadataKeys id = keys ∧ t.metadataAt id = values := by
  rw [h.keys, h.values, Function.update_self, Function.update_self]
  exact ⟨rfl, rfl⟩

theorem MetadataKept.of_same (h : MetadataKept id last s)
    (hsame : t.metadataKeys id = s.metadataKeys id ∧ t.metadataAt id = s.metadataAt id) :
    MetadataKept id last t := by
  obtain ⟨hkeys, hvalues⟩ := hsame
  exact ⟨by rw [hkeys, hvalues]; exact h.indexes, by rw [hkeys]; exact h.valid,
    hvalues.trans h.value⟩

theorem MetadataKept.set (h : MetadataKept id last s) (hset : SetsMetadata id' key value s t)
    (hkey : ValidMetadataKey key) (hroom : s.HasRoomFor id' key) :
    MetadataKept id (fun k => if id' = id ∧ key = k then some value else last k) t := by
  by_cases hid : id' = id
  · subst hid
    obtain ⟨hkeys, hvalues⟩ := MetadataBecomes.self hset
    refine ⟨?_, fun k hk => ?_, ?_⟩
    · rw [hkeys, hvalues]
      exact h.indexes.set hroom value
    · rw [hkeys] at hk
      rcases mem_listedWith.mp hk with hk | rfl
      · exact h.valid k hk
      · exact hkey
    · rw [hvalues, h.value]
      funext k
      by_cases hk : k = key
      · subst hk
        rw [Function.update_self, if_pos ⟨rfl, rfl⟩]
      · rw [Function.update_of_ne hk, if_neg fun hsame => hk hsame.2.symm]
  · simp only [hid, false_and, if_false]
    exact h.of_same (MetadataBecomes.other hset (Ne.symm hid))

theorem MetadataKept.delete (h : MetadataKept id last s) (hdelete : DeletesMetadata id' key s t) :
    MetadataKept id (fun k => if id' = id ∧ key = k then none else last k) t := by
  by_cases hid : id' = id
  · subst hid
    have hvalue : Function.update last key none = fun k =>
        if id' = id' ∧ key = k then none else last k := by
      funext k
      by_cases hk : k = key
      · subst hk
        rw [Function.update_self, if_pos ⟨rfl, rfl⟩]
      · rw [Function.update_of_ne hk, if_neg fun hsame => hk hsame.2.symm]
    rw [← hvalue]
    unfold DeletesMetadata at hdelete
    split at hdelete
    · obtain ⟨hkeys, hvalues⟩ := hdelete.self
      refine ⟨?_, fun k hk => ?_, ?_⟩
      · rw [hkeys, hvalues]
        exact h.indexes.unset
      · rw [hkeys] at hk
        exact h.valid k (List.mem_of_mem_erase hk)
      · rw [hvalues, h.value]
    · rename_i hunlisted
      subst hdelete
      refine ⟨h.indexes, h.valid, ?_⟩
      have hnone := h.indexes.value_of_notMem hunlisted
      rw [h.value] at hnone ⊢
      rw [← hnone, Function.update_eq_self]
  · simp only [hid, false_and, if_false]
    unfold DeletesMetadata at hdelete
    split at hdelete
    · exact h.of_same (hdelete.other (Ne.symm hid))
    · subst hdelete
      exact h

theorem MetadataKept.called (h : MetadataKept id last s)
    (hrun : (call.exec host).run env s = .ok () t) :
    MetadataKept id (fun k => (call.leaves id k).getD (last k)) t := by
  have hleaves (id' : Nat) (key k : HostString) (o : Option HostString) :
      (if id' = id ∧ key = k then some o else none).getD (last k) =
        if id' = id ∧ key = k then o else last k := by
    split <;> rfl
  have hset {id' : Nat} {key value : HostString} (hsets : call.sets = some (id', key, value)) :
      MetadataKept id (fun k => if id' = id ∧ key = k then some value else last k) t := by
    obtain ⟨-, hkey, -, hroom⟩ := (run_sets_iff hsets).mp ⟨t, hrun⟩
    exact h.set (run_sets_ok hsets hrun) hkey hroom
  cases call with
  | setMetadata id' authorizer key value =>
    unfold MetadataCall.leaves
    simp only [hleaves]
    exact hset rfl
  | setMetadataSigned signerPubkey payload signature =>
    unfold MetadataCall.leaves
    simp only [hleaves]
    exact hset rfl
  | deleteMetadata id' authorizer key =>
    unfold MetadataCall.leaves
    simp only [hleaves]
    exact h.delete (run_deletes_ok hrun)

/-- Nothing is stored about the subscription. -/
def State.NoMetadata (s : State) (id : Nat) : Prop :=
  s.metadataKeys id = [] ∧ ∀ key, s.metadataAt id key = none

theorem metadataKept_of_run (hstart : start.NoMetadata id)
    (hrun : Run (MetadataStep host) start hist s) :
    MetadataKept id (fun key => lastSet id key hist) s := by
  induction hrun with
  | start =>
    obtain ⟨hkeys, hvalues⟩ := hstart
    refine ⟨?_, ?_, funext hvalues⟩
    · rw [hkeys]
      refine ⟨List.nodup_nil, Nat.zero_le _, fun key => ?_⟩
      rw [hvalues]
      exact ⟨nofun, nofun⟩
    · rw [hkeys]
      nofun
  | next _ hlast ih =>
    cases hlast with
    | call hcall => exact ih.called hcall
    | other hagree =>
      obtain ⟨hkeys, hvalues⟩ := State.metadata_of_agreeOff hagree
      exact ih.of_same ⟨congrFun hkeys id, congrFun hvalues id⟩

/-- In every run the list of keys has no duplicates and at most as many entries as there is room
for, a key is listed just when it has a value, and what is read is what was set last. A key that
is listed can be set to any valid value by whoever may set it, and no other key as long as the
list is full. A call that fails changes nothing. -/
theorem metadata_store_kept (host : SigningHost) (hstart : start.NoMetadata id)
    (hrun : Run (MetadataStep host) start hist s) :
    ((s.metadataKeys id).Nodup ∧ (s.metadataKeys id).length ≤ maxMetadataKeys) ∧
    (∀ key, key ∈ s.metadataKeys id ↔ (s.metadataAt id key).isSome) ∧
    (∀ env sub, s.effectiveSubscription id env.now = some sub →
      (listMetadataKeys id).run env s = .ok (s.metadataKeys id) s ∧
      ∀ key, (getMetadata id key).run env s =
        (lastSet id key hist).elim (.err .notFound s) (.ok · s)) ∧
    (∀ env call key value, MetadataCall.sets call = some (id, key, value) →
      (key ∈ s.metadataKeys id → call.Authorised host env s → ValidMetadataValue value →
        ∃ t, (call.exec host).run env s = .ok () t) ∧
      (key ∉ s.metadataKeys id → (s.metadataKeys id).length = maxMetadataKeys →
        ∀ t, (call.exec host).run env s ≠ .ok () t)) ∧
    ∀ env call e t, (MetadataCall.exec host call).run env s = .err e t → t = s := by
  have hkept := metadataKept_of_run hstart hrun
  refine ⟨⟨hkept.indexes.nodup, hkept.indexes.fits⟩, hkept.indexes.listed, ?_, ?_,
    fun env call e t herr => (MetadataCall.exec_err herr).symm⟩
  · intro env sub hfound
    have hread : (getSubscription id).run env s = .ok sub s :=
      run_getSubscription_ok.mpr ⟨hfound, rfl⟩
    refine ⟨(run_bind_of_ok hread).trans rfl, fun key => (run_bind_of_ok hread).trans ?_⟩
    have hvalue : (gets (·.metadataAt id key) : Vault _).run env s =
        .ok (lastSet id key hist) s := run_gets_ok.mpr ⟨congrFun hkept.value key, rfl⟩
    refine (run_bind_of_ok hvalue).trans ?_
    cases lastSet id key hist <;> rfl
  · intro env call key value hsets
    refine ⟨fun hlisted hauthorised hvalue => ?_, fun hnew hfull t hset => ?_⟩
    · exact (run_sets_iff hsets).mpr
        ⟨hauthorised, hkept.valid key hlisted, hvalue, .inl hlisted⟩
    · obtain ⟨-, -, -, hroom⟩ := (run_sets_iff hsets).mp ⟨t, hset⟩
      rcases hroom with hlisted | hfree
      · exact hnew hlisted
      · omega

end Runs

private def quietHost : SigningHost where
  networkId := .replicate 32 1
  ed25519Verify _ _ _ := false
  accountAddress _ := none

/-- The text of one byte. -/
private def letter (byte : UInt8) : HostString := ⟨[byte], show 1 < 256 ^ 4 by decide⟩

private def described : State :=
  (VaultCall.createSubscription sampleRequest).exec.after (sampleEnv 0 [⟨2⟩])
    (afterCalls (sampleVault 0))

private def writeLetter (byte : UInt8) : MetadataCall :=
  .setMetadata 0 ⟨2⟩ (letter 107) (letter byte)

/-- The slots of the metadata values. -/
private def Slot.isMetadata : Slot → Bool
  | .persistent (.metadata _ _) => true
  | _ => false

private theorem described_noMetadata : described.NoMetadata 0 := by
  refine ⟨by decide +kernel, fun key => ?_⟩
  have hkeys : ∀ k ∈ described.keys, k.isMetadata = false := by decide +kernel
  have hnone := described.get_eq_none_of_notMem (.persistent (.metadata 0 key))
    fun hmem => Bool.false_ne_true (hkeys _ hmem).symm
  have hempty : (FiniteStore.empty : State).get (.persistent (.metadata 0 key)) = none := rfl
  exact (FiniteStore.read_congr (hnone.trans hempty.symm)).trans FiniteStore.read_empty

/-- After two sets of a key the second value is read. -/
theorem metadata_last_set_read : ∃ (hist : History MetadataAction State) (s : State),
    Run (MetadataStep quietHost) described hist s ∧
      (getMetadata 0 (letter 107)).run (sampleEnv 2 []) s = .ok (letter 119) s := by
  have hfirst : MetadataStep quietHost (.call (sampleEnv 1 [⟨2⟩]) (writeLetter 118)) described
      (((writeLetter 118).exec quietHost).after (sampleEnv 1 [⟨2⟩]) described) :=
    .call (run_eq_after (by decide +kernel))
  have hsecond : MetadataStep quietHost (.call (sampleEnv 1 [⟨2⟩]) (writeLetter 119)) _
      (((writeLetter 119).exec quietHost).after (sampleEnv 1 [⟨2⟩])
        (((writeLetter 118).exec quietHost).after (sampleEnv 1 [⟨2⟩]) described)) :=
    .call (run_eq_after (by decide +kernel))
  have hrun := (Run.start.next hfirst).next hsecond
  have hkept := (metadata_store_kept quietHost described_noMetadata hrun).2.2.1
  obtain ⟨sub, hsub⟩ : ∃ sub, State.effectiveSubscription
      (((writeLetter 119).exec quietHost).after (sampleEnv 1 [⟨2⟩])
        (((writeLetter 118).exec quietHost).after (sampleEnv 1 [⟨2⟩]) described)) 0 2 = some sub :=
    Option.isSome_iff_exists.mp (by decide +kernel)
  exact ⟨_, _, hrun, (hkept (sampleEnv 2 []) sub hsub).2 (letter 107)⟩

end SubscriptionVault
