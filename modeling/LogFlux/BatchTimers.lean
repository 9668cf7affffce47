import LogFlux.Batch

/-!
# LogFlux.BatchTimers — the flush timers of a `BatchClient`

`startFlushTimerLocked` stops the timer in `bc.timer` before it arms a new one, and `Close` sets
`stopped` before its last flush, which then arms nothing.  So between steps at most one timer is
armed, the one `bc.timer` holds, and none once `Close` has run: a callback that starts after
`Close` is one whose timer had already fired.

* `Reachable.timerInv`: every reachable state keeps `TimerInv`.
-/

namespace LogFlux.Batch

variable {E : Type} (cfg : BatchConfig)

/-- The timers between steps: none armed, or only the one in `bc.timer`; one armed only with
`AutoFlush` on; none once the batcher is stopped. -/
structure TimerInv (bc : BatchClient E) : Prop where
  armed : bc.armed = [] ∨ ∃ t, bc.timer = some t ∧ bc.armed = [t]
  auto : bc.armed ≠ [] → cfg.autoFlush = true
  stopped : bc.stopped = true → bc.armed = []

namespace BatchClient

@[simp] theorem startFlushTimerLocked_stopped (bc : BatchClient E) :
    bc.startFlushTimerLocked.stopped = bc.stopped := stopCurrent_stopped bc

@[simp] theorem startFlushTimerLocked_timer (bc : BatchClient E) :
    bc.startFlushTimerLocked.timer = some bc.nextTimer := by
  simp [startFlushTimerLocked]

theorem startFlushTimerLocked_armed (bc : BatchClient E) :
    bc.startFlushTimerLocked.armed = bc.stopCurrent.armed ++ [bc.nextTimer] := by
  simp [startFlushTimerLocked]

theorem stopCurrent_armed {bc : BatchClient E}
    (h : bc.armed = [] ∨ ∃ t, bc.timer = some t ∧ bc.armed = [t]) : bc.stopCurrent.armed = [] := by
  unfold stopCurrent stopTimer
  rcases h with ha | ⟨t, ht, ha⟩
  · split <;> simp [ha]
  · simp [ht, ha]

theorem flushBatchLocked_armed_of_stopped {bc : BatchClient E} (hs : bc.stopped = true) :
    (bc.flushBatchLocked cfg).1.armed = bc.armed := by
  unfold flushBatchLocked; split <;> simp [hs]

end BatchClient

open BatchClient

namespace TimerInv

variable {cfg} {bc : BatchClient E}

theorem congr {bc' : BatchClient E} (h : TimerInv cfg bc) (ha : bc'.armed = bc.armed)
    (ht : bc'.timer = bc.timer) (hs : bc'.stopped = bc.stopped) : TimerInv cfg bc' :=
  ⟨ha ▸ ht ▸ h.armed, ha ▸ h.auto, ha ▸ hs ▸ h.stopped⟩

theorem of_armed_nil (ha : bc.armed = []) : TimerInv cfg bc :=
  ⟨.inl ha, fun h => absurd ha h, fun _ => ha⟩

theorem startFlushTimerLocked (h : TimerInv cfg bc) (ha : cfg.autoFlush = true)
    (hs : bc.stopped = false) : TimerInv cfg bc.startFlushTimerLocked where
  armed := .inr ⟨_, bc.startFlushTimerLocked_timer,
    by rw [startFlushTimerLocked_armed, stopCurrent_armed h.armed]; rfl⟩
  auto _ := ha
  stopped hs' := by simp [hs] at hs'

theorem flushBatchLocked (h : TimerInv cfg bc) : TimerInv cfg (bc.flushBatchLocked cfg).1 := by
  unfold BatchClient.flushBatchLocked
  split
  · exact h
  · dsimp only
    split
    · rename_i hc
      simp only [Bool.and_eq_true, Bool.not_eq_true'] at hc
      exact TimerInv.startFlushTimerLocked (h.congr rfl rfl rfl) hc.1 hc.2
    · exact h.congr rfl rfl rfl

theorem sendLogEntry (h : TimerInv cfg bc) (e : E) : TimerInv cfg (bc.sendLogEntry cfg e).1 := by
  unfold BatchClient.sendLogEntry
  split
  · exact h
  · dsimp only
    split
    · exact TimerInv.flushBatchLocked (h.congr rfl rfl rfl)
    · exact h.congr rfl rfl rfl

theorem timerCallback (h : TimerInv cfg bc) : TimerInv cfg (bc.timerCallback cfg).1 := by
  unfold BatchClient.timerCallback
  split
  · exact h.flushBatchLocked
  · exact h

theorem close (h : TimerInv cfg bc) : TimerInv cfg (bc.close cfg).1 := by
  have ha : { bc with stopped := true }.stopCurrent.armed = [] := stopCurrent_armed h.armed
  apply of_armed_nil
  unfold BatchClient.close
  dsimp only
  split
  · rw [flushBatchLocked_armed_of_stopped cfg (by simp), ha]
  · exact ha

theorem expire (h : TimerInv cfg bc) (t : Nat) :
    TimerInv cfg { bc with armed := bc.armed.erase t, fired := bc.fired ++ [t] } := by
  rcases h.armed with ha | ⟨t', -, ha⟩
  · exact of_armed_nil (by simp [ha])
  · by_cases htt : t' = t
    · exact of_armed_nil (by simp [ha, htt])
    · exact h.congr (by simp [ha, List.erase_cons, htt]) rfl rfl

end TimerInv

/-- Every step keeps `TimerInv`. -/
theorem step_timerInv {bc bc' : BatchClient E} {op : Op E} {cs : List (ClientCall E)}
    (h : TimerInv cfg bc) (hs : step cfg bc op = some (bc', cs)) : TimerInv cfg bc' := by
  have hr : ∀ r : BatchClient E × List (ClientCall E), some r = some (bc', cs) → TimerInv cfg r.1 →
      TimerInv cfg bc' := by
    rintro r ⟨⟩ hr; exact hr
  cases op with
  | sendLogEntry e => exact hr _ hs (h.sendLogEntry e)
  | flush => exact hr _ hs h.flushBatchLocked
  | expire t =>
    simp only [step] at hs
    split at hs
    · exact hr _ hs (h.expire t)
    · cases hs
  | callback t =>
    simp only [step] at hs
    split at hs
    · exact hr _ hs (TimerInv.timerCallback (h.congr rfl rfl rfl))
    · cases hs
  | close => exact hr _ hs h.close

/-- **The timers of every reachable batcher**: so a callback that starts after `Close` is one
whose timer fired before it. -/
theorem Reachable.timerInv {bc : BatchClient E} (h : Reachable cfg bc) : TimerInv cfg bc := by
  induction h with
  | init h =>
    unfold newBatchClient at h
    split at h
    · cases h
    · cases h
      split
      · rename_i hc
        simp only [Bool.and_eq_true] at hc
        exact (TimerInv.of_armed_nil rfl).startFlushTimerLocked hc.1 rfl
      · exact TimerInv.of_armed_nil rfl
  | step _ hs ih => exact step_timerInv cfg ih hs

/-- The batcher `NewBatchClient(DefaultBatchConfig())` builds, its timer `0` armed. -/
theorem timerInv_default :
    Reachable defaultBatchConfig (⟨[], false, some 0, [0], [], 1⟩ : BatchClient Nat) ∧
      TimerInv defaultBatchConfig (⟨[], false, some 0, [0], [], 1⟩ : BatchClient Nat) :=
  ⟨.init rfl, Reachable.timerInv _ (.init rfl)⟩

end LogFlux.Batch
