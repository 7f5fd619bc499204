import SubscriptionVault.Contract.Records
import SubscriptionVault.Framework.Transition

/-!
# The window of idempotency keys

A key is recorded with the time at which it was pushed and counts for as long as the configured
lifetime. The buffer drops what has run out whenever a key is pushed; at any later time the live
part of it is the live part of everything that was ever pushed.
-/

namespace SubscriptionVault

open Exec

/-- A use of the buffer, with its answer. -/
inductive KeyCall where
  | pushed (hashed : BytesN32) (now : Nat)
  | refused (hashed : BytesN32) (now : Nat)
  | checked (hashed : BytesN32) (now : Nat) (answer : Bool)

def KeyCall.time : KeyCall → Nat
  | .pushed _ now | .refused _ now | .checked _ now _ => now

def KeyCall.entry : KeyCall → Option (BytesN32 × Nat)
  | .pushed hashed now => some (hashed, now)
  | _ => none

inductive KeyStep (id : Nat) : KeyCall → State → State → Prop
  | pushed {env : Env} {hashed : BytesN32} {now : Nat} {s t : State} :
      (pushKey id hashed now).run env s = .ok () t → KeyStep id (.pushed hashed now) s t
  | refused {env : Env} {hashed : BytesN32} {now : Nat} {e : Error} {s t : State} :
      (pushKey id hashed now).run env s = .err e t → KeyStep id (.refused hashed now) s t
  | checked {hashed : BytesN32} {now : Nat} {s : State} :
      KeyStep id (.checked hashed now (s.checkKey id hashed now)) s s

/-- The buffer after a push. -/
def IdemRingBuffer.pushed (buf : IdemRingBuffer) (ttl : Nat) (hashed : BytesN32) (now : Nat) :
    IdemRingBuffer where
  entries := buf.retained now ttl ++ [(hashed, now)]
  cursor := 0

/-- The entry counts at this time. -/
def isLive (ttl now : Nat) (entry : BytesN32 × Nat) : Bool := now - entry.2 < ttl

/-- Everything that was pushed in a run, oldest first. -/
def pushedEntries (hist : History KeyCall State) : List (BytesN32 × Nat) :=
  (hist.filterMap (·.1.entry)).reverse

/-- Live entries at a time when nothing later was pushed. -/
def liveEntries (hist : History KeyCall State) (ttl now : Nat) : List (BytesN32 × Nat) :=
  (pushedEntries hist).filter (isLive ttl now)

section Push

variable {env : Env} {s t : State} {id ttl now later : Nat} {hashed : BytesN32} {e : Error}

/-- What is live later is live now. -/
theorem filter_isLive (h : now ≤ later) (entries : List (BytesN32 × Nat)) :
    (entries.filter (isLive ttl now)).filter (isLive ttl later) =
      entries.filter (isLive ttl later) := by
  rw [List.filter_filter]
  apply List.filter_congr
  intro entry _
  simp only [isLive, Bool.and_eq_left_iff_imp, decide_eq_true_eq]
  omega

theorem IdemRingBuffer.retained_eq {buf : IdemRingBuffer} (hcursor : buf.cursor = 0) :
    buf.retained now ttl = buf.entries.filter (isLive ttl now) := by
  have hstart : (if buf.entries.length = idemHistory then buf.cursor % buf.entries.length
      else 0) = 0 := by
    rw [hcursor, Nat.zero_mod, ite_self]
  show (buf.entries.rotate _).filter _ = _
  rw [hstart, List.rotate_zero]
  rfl

theorem run_pushKey_ok {u : Unit} :
    (pushKey id hashed now).run env s = .ok u t ↔
      ((s.idemBuffer id).retained now s.idemTtlSecs).length < idemHistory ∧
      s.write (.instanced (.idemKey id)) ((s.idemBuffer id).pushed s.idemTtlSecs hashed now) =
        t := by
  simp [pushKey, IdemRingBuffer.pushed]

theorem run_pushKey_err :
    (pushKey id hashed now).run env s = .err e t ↔
      idemHistory ≤ ((s.idemBuffer id).retained now s.idemTtlSecs).length ∧
      e = .idemBufferFull ∧ s = t := by
  simp only [pushKey, run_bind_err, run_gets_ok, run_gets_err, run_failIf_ok, run_failIf_err,
    run_store_err]
  constructor
  · rintro (⟨⟨⟩⟩ | ⟨_, _, ⟨rfl, rfl⟩, ⟨⟨⟩⟩ | ⟨_, _, ⟨rfl, rfl⟩, hfull | ⟨_, _, _, ⟨⟩⟩⟩⟩)
    exact ⟨hfull.1, hfull.2.1.symm, hfull.2.2⟩
  · rintro ⟨hfull, rfl, rfl⟩
    exact .inr ⟨_, _, ⟨rfl, rfl⟩, .inr ⟨_, _, ⟨rfl, rfl⟩, .inl ⟨hfull, rfl, rfl⟩⟩⟩

theorem State.idemBuffer_write (s : State) (id : Nat) (buf : IdemRingBuffer) :
    State.idemBuffer (s.write (.instanced (.idemKey id)) buf) id = buf := by
  rw [State.idemBuffer, FiniteStore.read_write_self]
  rfl

/-- The buffer at the end of a run from an empty one. -/
structure HoldsWindow (s : State) (id ttl : Nat) (hist : History KeyCall State) : Prop where
  lifetime : s.idemTtlSecs = ttl
  cursor : (s.idemBuffer id).cursor = 0
  length : (s.idemBuffer id).entries.length ≤ idemHistory
  live : ∀ now, (∀ step ∈ hist, step.1.time ≤ now) →
    (s.idemBuffer id).entries.filter (isLive ttl now) = liveEntries hist ttl now

theorem HoldsWindow.retained {hist : History KeyCall State} (h : HoldsWindow s id ttl hist)
    (hnow : ∀ step ∈ hist, step.1.time ≤ now) :
    (s.idemBuffer id).retained now s.idemTtlSecs = liveEntries hist ttl now := by
  rw [IdemRingBuffer.retained_eq h.cursor, h.lifetime, h.live now hnow]

theorem holdsWindow_of_run {start : State} {hist : History KeyCall State}
    (hempty : start.idemBuffer id = { entries := [], cursor := 0 })
    (hrun : Run (KeyStep id) start hist s) : HoldsWindow s id start.idemTtlSecs hist := by
  induction hrun with
  | start =>
    refine ⟨rfl, by rw [hempty], by rw [hempty]; exact Nat.zero_le _, fun now _ => ?_⟩
    rw [hempty]
    rfl
  | @next earlier u v l _ hlast ih =>
    -- a push that is refused and a check leave the buffer and add no entry
    have hquiet (hentry : l.entry = none) :
        HoldsWindow u id start.idemTtlSecs ((l, u) :: earlier) := by
      refine ⟨ih.lifetime, ih.cursor, ih.length, fun now hnow => ?_⟩
      rw [ih.live now fun step hmem => hnow step (List.mem_cons_of_mem _ hmem)]
      simp only [liveEntries, pushedEntries, List.filterMap_cons, hentry]
    cases hlast with
    | @pushed env hashed now _ _ hpush =>
      obtain ⟨hroom, rfl⟩ := run_pushKey_ok.mp hpush
      have hbuffer := u.idemBuffer_write id ((u.idemBuffer id).pushed u.idemTtlSecs hashed now)
      refine ⟨?_, by rw [hbuffer]; rfl, ?_, fun later hlater => ?_⟩
      · rw [State.idemTtlSecs, FiniteStore.read_write_of_ne _ _ (by simp)]
        exact ih.lifetime
      · rw [hbuffer, IdemRingBuffer.pushed, List.length_append]
        exact hroom
      · have hfirst : now ≤ later := hlater _ List.mem_cons_self
        have hrest := ih.live later fun step hmem => hlater step (List.mem_cons_of_mem _ hmem)
        rw [hbuffer, IdemRingBuffer.pushed, IdemRingBuffer.retained_eq ih.cursor, ih.lifetime,
          List.filter_append, filter_isLive hfirst, hrest]
        simp [liveEntries, pushedEntries, KeyCall.entry, List.filter_append]
    | refused hpush =>
      obtain ⟨-, -, rfl⟩ := run_pushKey_err.mp hpush
      exact hquiet rfl
    | checked => exact hquiet rfl

end Push

theorem mem_liveEntries {hist : History KeyCall State} {ttl now : Nat}
    {entry : BytesN32 × Nat} : entry ∈ liveEntries hist ttl now ↔
      now - entry.2 < ttl ∧ ∃ step ∈ hist, step.1 = .pushed entry.1 entry.2 := by
  rw [liveEntries, List.mem_filter, pushedEntries, List.mem_reverse, List.mem_filterMap, and_comm]
  refine and_congr (by simp [isLive]) (exists_congr fun step => and_congr_right fun _ => ?_)
  obtain ⟨l, u⟩ := step
  cases l with
  | pushed hashed time => simp [KeyCall.entry, Prod.ext_iff]
  | refused => simp [KeyCall.entry]
  | checked => simp [KeyCall.entry]

/-- From an empty buffer and after any pushes and checks, at a time that is not before any of
them: a key is found exactly if a push of it succeeded less than a lifetime ago, the buffer holds
no more entries than it may, a push fails exactly if that many are live, and then it changes
nothing, and a push that succeeds drops no live entry. -/
theorem key_window_exact {start s : State} {hist : History KeyCall State} {id now : Nat}
    (hempty : start.idemBuffer id = { entries := [], cursor := 0 })
    (hrun : Run (KeyStep id) start hist s) (hnow : ∀ step ∈ hist, step.1.time ≤ now) :
    (∀ hashed, s.checkKey id hashed now = true ↔
      ∃ pushedAt, now - pushedAt < start.idemTtlSecs ∧
        ∃ step ∈ hist, step.1 = .pushed hashed pushedAt) ∧
    (s.idemBuffer id).entries.length ≤ idemHistory ∧
    (∀ env hashed e t, (pushKey id hashed now).run env s = .err e t →
      e = .idemBufferFull ∧ t = s) ∧
    (∀ env hashed, (∃ t, (pushKey id hashed now).run env s = .err .idemBufferFull t) ↔
      (liveEntries hist start.idemTtlSecs now).length = idemHistory) ∧
    ∀ env hashed t, (pushKey id hashed now).run env s = .ok () t →
      ∀ entry ∈ (s.idemBuffer id).entries, now - entry.2 < start.idemTtlSecs →
        entry ∈ (t.idemBuffer id).entries := by
  have hholds := holdsWindow_of_run hempty hrun
  have hretained := hholds.retained hnow
  have hfit : (liveEntries hist start.idemTtlSecs now).length ≤ idemHistory := by
    rw [← hholds.live now hnow]
    exact (List.length_filter_le _ _).trans hholds.length
  refine ⟨fun hashed => ?_, hholds.length, fun env hashed e t herr => ?_, fun env hashed => ?_,
    fun env hashed t hpush entry hmem hlive => ?_⟩
  · have hfound : s.checkKey id hashed now = true ↔
        ∃ entry ∈ liveEntries hist start.idemTtlSecs now, entry.1 = hashed := by
      rw [← hholds.live now hnow, State.checkKey, hholds.lifetime]
      simp [isLive, and_assoc]
    rw [hfound]
    constructor
    · rintro ⟨entry, hentry, rfl⟩
      exact ⟨entry.2, mem_liveEntries.mp hentry⟩
    · rintro ⟨pushedAt, hpushed⟩
      exact ⟨(hashed, pushedAt), mem_liveEntries.mpr hpushed, rfl⟩
  · obtain ⟨-, rfl, rfl⟩ := run_pushKey_err.mp herr
    exact ⟨rfl, rfl⟩
  · constructor
    · rintro ⟨t, herr⟩
      have hfull := (run_pushKey_err.mp herr).1
      rw [hretained] at hfull
      omega
    · intro hfull
      exact ⟨s, run_pushKey_err.mpr ⟨by rw [hretained, hfull], rfl, rfl⟩⟩
  · obtain ⟨-, rfl⟩ := run_pushKey_ok.mp hpush
    rw [State.idemBuffer_write]
    have hkept : entry ∈ (s.idemBuffer id).retained now s.idemTtlSecs := by
      rw [IdemRingBuffer.retained_eq hholds.cursor, hholds.lifetime]
      exact List.mem_filter.mpr ⟨hmem, by simpa [isLive] using hlive⟩
    exact List.mem_append_left _ hkept

private def keyedState : State :=
  FiniteStore.empty.write (.instanced (.idemKey 0))
    ((State.idemBuffer FiniteStore.empty 0).pushed (State.idemTtlSecs FiniteStore.empty) ⟨5⟩ 10)

/-- A key that is pushed at 10 counts for the last time a week later, less a second. -/
theorem key_counts_for_a_week : ∃ hist, Run (KeyStep 0) FiniteStore.empty hist keyedState ∧
    keyedState.checkKey 0 ⟨5⟩ (10 + 7 * 24 * 60 * 60 - 1) = true ∧
    keyedState.checkKey 0 ⟨5⟩ (10 + 7 * 24 * 60 * 60) = false := by
  have hpushed : (pushKey 0 ⟨5⟩ 10).run (sampleEnv 10 []) FiniteStore.empty =
      .ok () keyedState := run_pushKey_ok.mpr ⟨by decide, rfl⟩
  have hpush : KeyStep 0 (.pushed ⟨5⟩ 10) FiniteStore.empty keyedState := .pushed hpushed
  have hrun := Run.start.next hpush
  have htimes (now : Nat) (hnow : 10 ≤ now) :
      ∀ step ∈ [(KeyCall.pushed ⟨5⟩ 10, (FiniteStore.empty : State))], step.1.time ≤ now := by
    intro step hmem
    rw [List.mem_singleton.mp hmem]
    exact hnow
  have hwindow (now : Nat) (hnow : 10 ≤ now) :=
    (key_window_exact rfl hrun (htimes now hnow)).1 ⟨5⟩
  refine ⟨_, hrun, (hwindow _ (by decide)).mpr ⟨10, by decide, _, List.mem_cons_self, rfl⟩, ?_⟩
  rw [Bool.eq_false_iff]
  intro hfound
  obtain ⟨pushedAt, hlive, step, hmem, hstep⟩ := (hwindow _ (by decide)).mp hfound
  rw [List.mem_singleton.mp hmem] at hstep
  cases hstep
  exact absurd hlive (by decide)

end SubscriptionVault
