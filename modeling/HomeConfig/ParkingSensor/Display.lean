import HomeConfig.ParkingSensor.Sketch
import Mathlib.Data.List.Induction

/-! What the LEDs show after any number of readings. -/
namespace ParkingSensor

open Arduino

/-- The reading before the next one; zero before the first. -/
def previous (readings : List (BitVec 16)) : BitVec 16 := readings.getLastD 0#16

/-- Some reading differs from its predecessor. -/
def Changed (readings : List (BitVec 16)) : Prop :=
  ∃ before distance behind, readings = before ++ distance :: behind ∧ distance ≠ previous before

/-- The last `MAX_IDENTICAL_READINGS + 1` readings are equal. -/
def Steady (readings : List (BitVec 16)) : Prop :=
  ∃ before distance, readings = before ++ List.replicate 101 distance

/-- Nothing has changed since power-up, or the last change is so many readings ago. -/
inductive Tracks : List (BitVec 16) → Board → Prop where
  | unchanged (n : ℕ) (b : Board) (last : b.sensor.lastDistanceRead = 0#16) :
      Tracks (List.replicate n 0#16) b
  | changed (before : List (BitVec 16)) (distance : BitVec 16) (n : ℕ) (b : Board)
      (new : distance ≠ previous before) (last : b.sensor.lastDistanceRead = distance)
      (count : b.sensor.identicalLastDistanceCount = BitVec.ofNat 16 n)
      (shows : b.Shows (if 100 ≤ n then .none else stateOf distance)) :
      Tracks (before ++ List.replicate (n + 1) distance) b

variable {readings : List (BitVec 16)} {distance : BitVec 16} {b : Board} {n : ℕ}

theorem levels_injective : Function.Injective LedState.levels := by
  intro s t h
  cases s <;> cases t <;> first | rfl | cases h

theorem stateOf_ne_none : stateOf distance ≠ .none := by
  unfold stateOf
  split
  · exact LedState.noConfusion
  · exact LedState.noConfusion

theorem after_concat : after (readings ++ [distance]) = (after readings).step distance := by
  simp [after]

theorem leds_append {b : Board} {as : List Action} (s : Sensor) :
    (⟨s, b.log ++ .wait readFrequency :: as⟩ : Board).leds =
      (level alertLedPin b.leds.1 as, level okLedPin b.leds.2 as) := by
  simp only [Board.leds, level_append, level]

theorem shows_setLedState (s : Sensor) (state : LedState) :
    (⟨s, b.log ++ .wait readFrequency :: setLedState state⟩ : Board).Shows state := by
  rw [Board.Shows, leds_append]
  cases state <;> rfl

/-- The counter stands for the number of repetitions as long as they are few. -/
theorem toInt_ofNat (h : n ≤ 100) : (BitVec.ofNat 16 n).toInt = n := by
  rw [BitVec.toInt_eq_toNat_of_lt]
  · rw [BitVec.toNat_ofNat, Nat.mod_eq_of_lt (by omega)]
  · rw [BitVec.toNat_ofNat, Nat.mod_eq_of_lt (by omega)]
    omega

theorem previous_replicate_zero : previous (List.replicate n 0#16) = 0#16 := by
  cases n with
  | zero => rfl
  | succ n => rw [previous, List.replicate_succ', List.getLastD_concat]

theorem previous_append_replicate {before : List (BitVec 16)} :
    previous (before ++ List.replicate (n + 1) distance) = distance := by
  rw [previous, List.replicate_succ', ← List.append_assoc, List.getLastD_concat]

theorem Tracks.last_eq (h : Tracks readings b) :
    b.sensor.lastDistanceRead = previous readings := by
  cases h with
  | unchanged n b last => rw [last, previous_replicate_zero]
  | changed before distance n b new last count shows => rw [last, previous_append_replicate]

/-- A repeated reading counts, and switches the LEDs off or leaves them as they are. -/
theorem step_of_eq (h : distance = b.sensor.lastDistanceRead) :
    (b.step distance).sensor = ⟨distance, b.sensor.identicalLastDistanceCount + 1#16⟩ ∧
      if maxIdenticalReadings ≤ (b.sensor.identicalLastDistanceCount + 1#16).toInt then
        (b.step distance).Shows .none
      else (b.step distance).leds = b.leds := by
  subst h
  have hloop : loop b.sensor b.sensor.lastDistanceRead =
      (⟨b.sensor.lastDistanceRead, b.sensor.identicalLastDistanceCount + 1#16⟩,
        .wait readFrequency ::
          if maxIdenticalReadings ≤ (b.sensor.identicalLastDistanceCount + 1#16).toInt then
            setLedState .none else []) := if_pos rfl
  rw [Board.step, hloop]
  refine ⟨rfl, ?_⟩
  split
  · exact shows_setLedState _ .none
  · exact leds_append _

theorem step_of_ne (h : distance ≠ b.sensor.lastDistanceRead) :
    (b.step distance).sensor = ⟨distance, 0#16⟩ ∧ (b.step distance).Shows (stateOf distance) := by
  have hloop : loop b.sensor distance =
      (⟨distance, 0#16⟩, .wait readFrequency :: setLedState (stateOf distance)) := if_neg h
  rw [Board.step, hloop]
  exact ⟨rfl, shows_setLedState _ _⟩

/-- From the hundredth repetition on the LEDs are off, whatever the counter wraps to. -/
theorem shows_repeated {state : LedState} (h : distance = b.sensor.lastDistanceRead)
    (hcount : b.sensor.identicalLastDistanceCount = BitVec.ofNat 16 n)
    (hshows : b.Shows (if 100 ≤ n then .none else state)) :
    (b.step distance).Shows (if 100 ≤ n + 1 then .none else state) := by
  obtain ⟨-, hleds⟩ := step_of_eq h
  rw [hcount, BitVec.ofNat_add_ofNat] at hleds
  by_cases hn : 100 ≤ n
  · rw [if_pos hn] at hshows
    rw [if_pos (by omega)]
    split at hleds
    · exact hleds
    · rw [Board.Shows, hleds]
      exact hshows
  · rw [if_neg hn] at hshows
    rw [toInt_ofNat (by omega)] at hleds
    by_cases hnext : 100 ≤ n + 1
    · rw [if_pos (by rw [maxIdenticalReadings]; omega)] at hleds
      rw [if_pos hnext]
      exact hleds
    · rw [if_neg (by rw [maxIdenticalReadings]; omega)] at hleds
      rw [if_neg hnext, Board.Shows, hleds]
      exact hshows

/-- Another reading tracks a new distance. -/
theorem Tracks.step_new (h : Tracks readings b) (hnew : distance ≠ previous readings) :
    Tracks (readings ++ [distance]) (b.step distance) := by
  obtain ⟨hsensor, hshows⟩ := step_of_ne (h.last_eq ▸ hnew)
  exact .changed readings distance 0 _ hnew (by rw [hsensor]) (by rw [hsensor]) hshows

theorem Tracks.step (h : Tracks readings b) :
    Tracks (readings ++ [distance]) (b.step distance) := by
  by_cases hnew : distance ≠ previous readings
  · exact h.step_new hnew
  · have hsame : distance = previous readings := not_not.mp hnew
    have hlast : distance = b.sensor.lastDistanceRead := hsame.trans h.last_eq.symm
    obtain ⟨hsensor, -⟩ := step_of_eq hlast
    cases h with
    | unchanged n b last =>
      obtain rfl : distance = 0#16 := hlast.trans last
      rw [← List.replicate_succ']
      exact .unchanged (n + 1) _ (by rw [hsensor])
    | changed before d n b new last count shows =>
      obtain rfl : distance = d := hlast.trans last
      rw [List.append_assoc, ← List.replicate_succ']
      refine .changed before distance (n + 1) _ new (by rw [hsensor]) ?_ ?_
      · rw [hsensor, count, BitVec.ofNat_add_ofNat]
      · exact shows_repeated hlast count shows

theorem tracks_after : Tracks readings (after readings) := by
  induction readings using List.reverseRecOn with
  | nil => exact .unchanged 0 .boot rfl
  | append_singleton readings distance ih =>
    rw [after_concat]
    exact ih.step

/-! ### What the LEDs show -/

theorem not_changed_replicate : ¬ Changed (List.replicate n 0#16) := by
  rintro ⟨before, distance, behind, h, hnew⟩
  obtain ⟨k, hbefore⟩ : ∃ k, before = List.replicate k 0#16 :=
    ⟨before.length, (List.append_eq_replicate_iff.mp h.symm).2.1⟩
  have hdistance : distance ∈ List.replicate n 0#16 := by
    rw [h]
    simp
  rw [hbefore, previous_replicate_zero] at hnew
  exact hnew (List.eq_of_mem_replicate hdistance)

/-- After the last change the readings are steady when it was repeated a hundred times. -/
theorem steady_iff {before : List (BitVec 16)} (hnew : distance ≠ previous before) :
    Steady (before ++ List.replicate (n + 1) distance) ↔ 100 ≤ n := by
  constructor
  · rintro ⟨before', distance', h⟩
    by_contra hn
    -- a hundred and one equal readings would reach behind the change
    obtain ⟨k, hk⟩ : ∃ k, 101 = (k + 1) + (n + 1) := ⟨99 - n, by omega⟩
    have hsplit : List.replicate 101 distance' =
        List.replicate (k + 1) distance' ++ List.replicate (n + 1) distance' := by
      rw [← List.replicate_add, ← hk]
    rw [hsplit, ← List.append_assoc] at h
    obtain ⟨hbefore, hsame⟩ := List.append_inj' h (by simp)
    have hdistance : distance = distance' := List.replicate_right_injective (by omega) hsame
    rw [hbefore, previous_append_replicate] at hnew
    exact hnew hdistance
  · intro hn
    refine ⟨before ++ List.replicate (n - 100) distance, distance, ?_⟩
    rw [List.append_assoc, ← List.replicate_add]
    congr 2
    omega

/-- What a reading shows that differs from the one before. -/
theorem stateOf_eq_ok (hlow : 50 ≤ distance.toInt) (hhigh : distance.toInt ≤ 75) :
    stateOf distance = .ok :=
  if_pos ⟨hhigh, hlow⟩

theorem stateOf_eq_alert (h : distance.toInt < 50 ∨ 75 < distance.toInt) :
    stateOf distance = .alert := by
  refine if_neg ?_
  rintro ⟨hhigh, hlow⟩
  rw [stateOkMaxDistance] at hhigh
  rw [stateOkMinDistance] at hlow
  omega

/-- From the first change on the LEDs are off exactly while the readings are steady, and
otherwise show whether the last reading is from 50 to 75 cm. -/
theorem shows_iff_steady (h : Changed readings) :
    ((after readings).Shows .none ↔ Steady readings) ∧
      (¬ Steady readings → 50 ≤ (previous readings).toInt → (previous readings).toInt ≤ 75 →
        (after readings).Shows .ok) ∧
      (¬ Steady readings → (previous readings).toInt < 50 ∨ 75 < (previous readings).toInt →
        (after readings).Shows .alert) := by
  have htracks : Tracks readings (after readings) := tracks_after
  generalize after readings = b at htracks
  cases htracks with
  | unchanged n b last => exact (not_changed_replicate h).elim
  | changed before distance n b new last count shows =>
    rw [steady_iff new, previous_append_replicate]
    by_cases hn : 100 ≤ n
    · rw [if_pos hn] at shows
      exact ⟨iff_of_true shows hn, fun hsteady => absurd hn hsteady, fun hsteady => absurd hn hsteady⟩
    · rw [if_neg hn] at shows
      refine ⟨iff_of_false ?_ hn, fun _ hlow hhigh => ?_, fun _ hout => ?_⟩
      · intro hnone
        exact stateOf_ne_none (levels_injective (shows.symm.trans hnone))
      · rwa [stateOf_eq_ok hlow hhigh] at shows
      · rwa [stateOf_eq_alert hout] at shows

/-- A car that comes near and parks at 60 cm: the LEDs warn, then show that all is well, and are off in
the end. -/
theorem shows_iff_steady_parked :
    (after [120#16]).Shows .alert ∧ (after [120#16, 60#16, 60#16]).Shows .ok ∧
      (after (120#16 :: List.replicate 200 60#16)).Shows .none := by
  have hfirst : ∀ behind, Changed (120#16 :: behind) := fun behind => ⟨[], 120#16, behind, rfl, by decide⟩
  have hshort : ∀ readings : List (BitVec 16), readings.length < 101 → ¬ Steady readings := by
    rintro readings hlen ⟨before, distance, rfl⟩
    rw [List.length_append, List.length_replicate] at hlen
    omega
  refine ⟨(shows_iff_steady (hfirst _)).2.2 (hshort _ (by decide)) (by decide),
    (shows_iff_steady (hfirst _)).2.1 (hshort _ (by decide)) (by decide) (by decide),
    (shows_iff_steady (hfirst _)).1.mpr ⟨120#16 :: List.replicate 99 60#16, 60#16, ?_⟩⟩
  rw [List.cons_append, ← List.replicate_add]

end ParkingSensor
