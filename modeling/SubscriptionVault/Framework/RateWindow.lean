import Mathlib

/-!
# Windows of a rate limit

Events come at times, listed latest first. One that finds no window opens one of a fixed width;
the others are counted in the window they find. When no count exceeds a limit, no window that an
event opens holds more events than that.
-/

namespace SubscriptionVault

/-- When a window opened and how many events it has seen. -/
structure RateWindow where
  opened : ℕ
  count : ℕ

/-- The window after one more event. -/
def RateWindow.next (width time : ℕ) : Option RateWindow → RateWindow
  | none => ⟨time, 1⟩
  | some window =>
    if window.opened + width ≤ time then ⟨time, 1⟩ else ⟨window.opened, window.count + 1⟩

/-- The window the events of a log leave. -/
def rateWindow (width : ℕ) : List ℕ → Option RateWindow
  | [] => none
  | time :: earlier => some (RateWindow.next width time (rateWindow width earlier))

/-- An event at `time` finds no window. -/
def OpensWindow (width time : ℕ) (earlier : List ℕ) : Prop :=
  ∀ window, rateWindow width earlier = some window → window.opened + width ≤ time

/-- Every window opened by one of the `recent` events holds at most `most` events. -/
def WindowsHold (width most : ℕ) (recent old : List ℕ) : Prop :=
  ∀ later first earlier, recent = later ++ first :: earlier →
    OpensWindow width first (earlier ++ old) →
    (later ++ [first]).countP (fun time => time < first + width) ≤ most

section Windows

variable {width most time first : ℕ} {recent old later earlier log : List ℕ}

theorem RateWindow.next_opens (h : OpensWindow width time earlier) :
    RateWindow.next width time (rateWindow width earlier) = ⟨time, 1⟩ := by
  cases hwindow : rateWindow width earlier with
  | none => rfl
  | some window => exact if_pos (h window hwindow)

/-- A window opens with an event. -/
theorem opened_mem {window : RateWindow} (h : rateWindow width log = some window) :
    window.opened ∈ log := by
  induction log generalizing window with
  | nil => cases h
  | cons time earlier ih =>
    obtain rfl := Option.some.inj h
    cases hbefore : rateWindow width earlier with
    | none => exact List.mem_cons_self
    | some before =>
      unfold RateWindow.next
      dsimp only
      split
      · exact List.mem_cons_self
      · have hmem : before.opened ∈ earlier := ih hbefore
        exact List.mem_cons_of_mem _ hmem

/-- Behind an event that opens a window, either that window is the current one and has seen
everything since, or the current one opened when it was over. -/
theorem rateWindow_since (hopens : OpensWindow width first earlier)
    (horder : (later ++ first :: earlier).Pairwise fun late early => early ≤ late) :
    ∃ window, rateWindow width (later ++ first :: earlier) = some window ∧
      ((window.opened = first ∧ window.count = later.length + 1) ∨
        first + width ≤ window.opened) := by
  induction later with
  | nil =>
    refine ⟨⟨first, 1⟩, ?_, .inl ⟨rfl, rfl⟩⟩
    exact congrArg some (RateWindow.next_opens hopens)
  | cons time later ih =>
    obtain ⟨hlast, horder⟩ := List.pairwise_cons.mp horder
    obtain ⟨before, hbefore, hsince⟩ := ih horder
    have hpast : before.opened ≤ time := hlast _ (opened_mem hbefore)
    refine ⟨RateWindow.next width time (some before), ?_, ?_⟩
    · rw [List.cons_append, rateWindow, hbefore]
    unfold RateWindow.next
    dsimp only
    split
    · rename_i hover
      rcases hsince with ⟨hopened, -⟩ | hbehind
      · exact .inr (hopened ▸ hover)
      · exact .inr (Nat.le_trans hbehind hpast)
    · rcases hsince with ⟨hopened, hcount⟩ | hbehind
      · exact .inl ⟨hopened, by rw [hcount, List.length_cons]⟩
      · exact .inr hbehind

/-- If the count never exceeds the limit after a recent event, the windows hold no more. -/
theorem windows_hold (horder : (recent ++ old).Pairwise fun late early => early ≤ late)
    (hcount : ∀ later time earlier, recent = later ++ time :: earlier →
      (RateWindow.next width time (rateWindow width (earlier ++ old))).count ≤ most) :
    WindowsHold width most recent old := by
  rintro later first earlier rfl hopens
  -- induction on what came after the window opened
  induction later with
  | nil =>
    have hone := hcount [] first earlier rfl
    rw [RateWindow.next_opens hopens] at hone
    exact Nat.le_trans List.countP_le_length hone
  | cons time later ih =>
    rw [List.append_assoc, List.cons_append, List.cons_append] at horder
    obtain ⟨hlast, hrest⟩ := List.pairwise_cons.mp horder
    have hbefore := ih (by rwa [List.append_assoc, List.cons_append])
      fun later' time' earlier' hlog => hcount (time :: later') time' earlier'
        (congrArg (time :: ·) hlog)
    by_cases hover : first + width ≤ time
    · rw [List.cons_append, List.countP_cons_of_neg (by simpa using hover)]
      exact hbefore
    · obtain ⟨before, hcurrent, hsince⟩ := rateWindow_since hopens hrest
      have hpast : before.opened ≤ time := hlast _ (opened_mem hcurrent)
      rcases hsince with ⟨hopened, hseen⟩ | hbehind
      · have hnext := hcount [] time (later ++ first :: earlier) rfl
        rw [List.append_assoc, List.cons_append, hcurrent, RateWindow.next, hopened,
          if_neg hover, hseen] at hnext
        have hlength : (time :: later ++ [first]).length = later.length + 1 + 1 := by simp
        exact Nat.le_trans List.countP_le_length (hlength ▸ hnext)
      · omega

end Windows

end SubscriptionVault
