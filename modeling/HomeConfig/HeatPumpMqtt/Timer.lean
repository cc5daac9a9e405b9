import HomeConfig.Library.Machine
import HomeConfig.Library.WrapClock
import Mathlib.Data.BitVec

/-! The controller's main loop and its periodic status report. -/
namespace HeatPumpMqtt

open Machine

def sendRoomTempIntervalMs : BitVec 32 := 60000#32

/-- The clock at a real time, in milliseconds. -/
def millis (time : ℕ) : BitVec 32 := BitVec.ofNat 32 time

/-- How long `mqttConnect` blocks: each failed attempt is followed by five seconds. -/
def mqttConnect (failed : List ℕ) (connect : ℕ) : ℕ := (failed.map (· + 5000)).sum + connect

/-- One iteration of `loop`: the durations of the calls it makes. -/
structure Iteration where
  /-- Nothing while the client is connected. -/
  reconnect : Option (List ℕ × ℕ)
  sync : ℕ
  statusChanged : ℕ
  mqttLoop : ℕ
deriving DecidableEq

structure Timer where
  lastTempSend : BitVec 32
  now : ℕ
  /-- When the last periodic send ended. The program does not have it. -/
  sentAt : ℕ
deriving DecidableEq

def setup (start : ℕ) : Timer := ⟨millis start, start, start⟩

/-- The real time when the iteration looks at the clock. -/
def checkedAt (s : Timer) (it : Iteration) : ℕ :=
  s.now + (it.reconnect.elim 0 fun (failed, connect) => mqttConnect failed connect) + it.sync

def sends (s : Timer) (it : Iteration) : Prop :=
  s.lastTempSend + sendRoomTempIntervalMs < millis (checkedAt s it)

instance (s : Timer) (it : Iteration) : Decidable (sends s it) :=
  inferInstanceAs (Decidable (_ < _))

def loop (s : Timer) (it : Iteration) : Timer :=
  let checked := checkedAt s it
  if sends s it then
    let sent := checked + it.statusChanged
    ⟨millis sent, sent + it.mqttLoop, sent⟩
  else { s with now := checked + it.mqttLoop }

def step (s : Timer) (it : Iteration) : Option Timer := some (loop s it)

/-- The real time since the last periodic send stays below a lap of the clock less the
interval. -/
def WithinLap (s : Timer) (it : Iteration) (_ : Timer) : Prop :=
  checkedAt s it - s.sentAt < 2 ^ 32 - 60000

/-- The iteration sends exactly when more than a minute has passed. -/
def OnTime (s : Timer) (it : Iteration) (_ : Timer) : Prop :=
  sends s it ↔ 60000 < checkedAt s it - s.sentAt

/-- The clock has wrapped as often when it is looked at as it will have at the deadline. -/
def SameLap (s : Timer) (it : Iteration) (_ : Timer) : Prop :=
  (s.sentAt + 60000) / 2 ^ 32 = checkedAt s it / 2 ^ 32

/-- The variable shows the last send. -/
structure Recorded (s : Timer) : Prop where
  lastTempSend : s.lastTempSend = millis s.sentAt
  sentAt_le : s.sentAt ≤ s.now

variable {s t : Timer} {it : Iteration}

theorem now_le_checkedAt : s.now ≤ checkedAt s it := by
  unfold checkedAt
  omega

theorem recorded_setup (start : ℕ) : Recorded (setup start) := ⟨rfl, le_rfl⟩

theorem recorded_loop (h : Recorded s) : Recorded (loop s it) := by
  unfold loop
  split
  · exact ⟨rfl, Nat.le_add_right _ _⟩
  · refine ⟨h.lastTempSend, ?_⟩
    have hnow : s.now ≤ checkedAt s it := now_le_checkedAt
    exact (h.sentAt_le.trans hnow).trans (Nat.le_add_right _ _)

theorem toNat_millis (time : ℕ) : (millis time).toNat = time % 2 ^ 32 := BitVec.toNat_ofNat ..

theorem toNat_deadline (time : ℕ) :
    (millis time + sendRoomTempIntervalMs).toNat = (time + 60000) % 2 ^ 32 := by
  have hinterval : sendRoomTempIntervalMs.toNat = 60000 := rfl
  rw [BitVec.toNat_add, toNat_millis, hinterval, Nat.mod_add_mod]

theorem sends_iff (h : Recorded s) :
    sends s it ↔ (s.sentAt + 60000) % 2 ^ 32 < checkedAt s it % 2 ^ 32 := by
  rw [sends, h.lastTempSend, BitVec.lt_def, toNat_deadline, toNat_millis]

theorem onTime_iff_sameLap (h : Recorded s) (hlap : WithinLap s it t) :
    OnTime s it t ↔ SameLap s it t := by
  have hsent : s.sentAt ≤ checkedAt s it := h.sentAt_le.trans now_le_checkedAt
  unfold WithinLap at hlap
  have helapsed : 60000 < checkedAt s it - s.sentAt ↔ s.sentAt + 60000 < checkedAt s it := by
    omega
  rw [OnTime, sends_iff h, helapsed]
  exact WrapClock.lt_iff_lt_iff_same_lap hsent (by norm_num) (by omega)

/-- A run sends on time exactly when every look at the clock falls on the deadline's lap. -/
theorem everyStep_onTime_iff_sameLap (start : ℕ) (its : List Iteration)
    (hlap : EveryStep step WithinLap (setup start) its) :
    EveryStep step OnTime (setup start) its ↔ EveryStep step SameLap (setup start) its := by
  have hboth : EveryStep step (fun s it t => WithinLap s it t ∧ OnTime s it t) (setup start) its ↔
      EveryStep step (fun s it t => WithinLap s it t ∧ SameLap s it t) (setup start) its := by
    apply everyStep_congr (I := Recorded)
    · intro s it t hs _ ht
      obtain rfl := Option.some.inj ht
      exact recorded_loop hs
    · intro s it t hs _
      exact and_congr_right fun hlap => onTime_iff_sameLap hs hlap
    · exact recorded_setup start
  rw [everyStep_and, everyStep_and] at hboth
  simpa [hlap] using hboth

instance : Decidable (WithinLap s it t) := inferInstanceAs (Decidable (_ < _))

instance : Decidable (OnTime s it t) := inferInstanceAs (Decidable (_ ↔ _))

/-- A loop that is busy for a minute, and one more right after it. -/
def busyMinute : List Iteration := [⟨none, 60001, 5, 3⟩, ⟨some ([200], 40), 10, 5, 3⟩]

theorem everyStep_onTime_iff_sameLap_busyMinute :
    EveryStep step OnTime (setup 0) busyMinute ↔ EveryStep step SameLap (setup 0) busyMinute :=
  everyStep_onTime_iff_sameLap 0 busyMinute (by decide)

/-- Half a minute before the clock wraps, every iteration sends. -/
theorem sends_at_once_before_wrap :
    ¬ ∀ (start : ℕ) (its : List Iteration), EveryStep step WithinLap (setup start) its →
      EveryStep step OnTime (setup start) its := by
  intro h
  have honTime := h (2 ^ 32 - 30000) [⟨none, 1, 0, 0⟩] (by decide)
  revert honTime
  decide

end HeatPumpMqtt
