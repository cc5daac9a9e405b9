import HomeConfig.Metlink.NextService

/-! Which answers of the service the sensor can show without raising. -/
namespace Metlink

open Python

variable {py : Runtime}

/-! ### Timestamps -/

/-- The hours and minutes behind the sign, in microseconds. -/
def OffsetReads (py : Runtime) (t : Str) (span : ℤ) : Prop :=
  ∃ hours minutes, py.intOfStr ((t.drop 19).take 3) = some hours ∧
    py.intOfStr (t.drop 23) = some minutes ∧ span = (hours * 60 + minutes) * microsecondsPerMinute

def InRange (microseconds : ℤ) : Prop := 0 ≤ microseconds ∧ microseconds < endOfTime

/-- A date and time in front, and at position 18 either no sign or the sign of an offset
that stays within the years. -/
def TimestampReadable (py : Runtime) (value : Json) : Prop :=
  ∃ t time c, value = .str t ∧
    strptime (Matcher.isoMinutes py) (.str (t.take 16)) = .ok time ∧ t[18]? = some c ∧
    (c = '+' → ∃ span, OffsetReads py t span ∧ InRange (time.microseconds + span)) ∧
    (c = '-' → ∃ span, OffsetReads py t span ∧ InRange (time.microseconds - span))

theorem timedelta_returns {time : DateTime} {span : ℤ}
    (h : InRange (time.microseconds + span) ∨ InRange (time.microseconds - span)) :
    timedelta span = .ok span := by
  have hlower := time.lower
  have hupper := time.upper
  unfold InRange endOfTime microsecondsPerDay microsecondsPerMinute at h
  unfold endOfTime microsecondsPerDay microsecondsPerMinute at hupper
  rw [timedelta, if_pos]
  rw [abs_le]
  unfold microsecondsPerDay microsecondsPerMinute
  omega

theorem add_returns {time : DateTime} {span : ℤ} :
    (∃ later, time.add span = .ok later) ↔ InRange (time.microseconds + span) := by
  by_cases h : 0 ≤ time.microseconds + span ∧ time.microseconds + span < endOfTime
  · simp [DateTime.add, InRange, h]
  · simp only [DateTime.add, InRange, h, dite_false, iff_false]
    rintro ⟨later, hlater⟩
    cases hlater

theorem timedelta_eq_ok {microseconds span : ℤ} :
    timedelta microseconds = .ok span ↔ span = microseconds ∧ timedelta span = .ok span := by
  constructor
  · intro h
    have hspan : span = microseconds := by
      unfold timedelta at h
      split at h
      · exact (Except.ok.inj h).symm
      · cases h
    exact ⟨hspan, by rw [hspan] at h ⊢; exact h⟩
  · rintro ⟨rfl, h⟩
    exact h

theorem offset_eq_ok {t : Str} {span : ℤ} : offset py t = .ok span ↔
    OffsetReads py t span ∧ timedelta span = .ok span := by
  unfold offset OffsetReads
  rcases hhours : py.intOfStr ((t.drop 19).take 3) with _ | hours
  · simp
  · rcases hminutes : py.intOfStr (t.drop 23) with _ | minutes
    · simp
    · simpa using timedelta_eq_ok

/-- The time with the offset put on, or taken off. -/
theorem shift_returns {time : DateTime} {t : Str} {shift : ℤ → ℤ}
    (hshift : ∀ span, shift span = span ∨ shift span = -span) :
    (∃ s, (do
      let span ← offset py t
      let ret ← time.add (shift span)
      return ret.strftime) = .ok s) ↔
      ∃ span, OffsetReads py t span ∧ InRange (time.microseconds + shift span) := by
  simp only [bind_eq_ok, pure_eq, Except.ok.injEq]
  constructor
  · rintro ⟨s, span, hspan, later, hlater, -⟩
    exact ⟨span, (offset_eq_ok.1 hspan).1, add_returns.1 ⟨later, hlater⟩⟩
  · rintro ⟨span, hreads, hrange⟩
    obtain ⟨later, hlater⟩ := add_returns.2 hrange
    have hspan : timedelta span = .ok span := by
      apply timedelta_returns
      rcases hshift span with h | h
      · exact .inl (h ▸ hrange)
      · exact .inr (by rwa [h] at hrange)
    exact ⟨later.strftime, span, offset_eq_ok.2 ⟨hreads, hspan⟩, later, hlater, rfl⟩

theorem prettyTimestamp_returns {value : Json} :
    (∃ s, prettyTimestamp py value = .ok s) ↔ TimestampReadable py value := by
  cases value with
  | str t =>
    rcases htime : strptime (Matcher.isoMinutes py) (.str (t.take 16)) with e | time
    · simp [prettyTimestamp, TimestampReadable, htime]
    · rcases hsign : t[18]? with _ | c
      · simp [prettyTimestamp, TimestampReadable, htime, hsign]
      · have hreadable : TimestampReadable py (.str t) ↔
            (c = '+' → ∃ span, OffsetReads py t span ∧ InRange (time.microseconds + span)) ∧
            (c = '-' → ∃ span, OffsetReads py t span ∧ InRange (time.microseconds - span)) := by
          simp [TimestampReadable, htime, hsign]
        rw [hreadable]
        have hsigns : '-' ≠ '+' := by decide
        by_cases hplus : c = '+'
        · subst hplus
          simp only [prettyTimestamp, htime, hsign, hsigns.symm, forall_true_left,
            IsEmpty.forall_iff, and_true]
          exact shift_returns fun span => .inl rfl
        · by_cases hminus : c = '-'
          · subst hminus
            simp only [prettyTimestamp, htime, hsign, hsigns, forall_true_left,
              IsEmpty.forall_iff, true_and]
            exact shift_returns fun span => .inr rfl
          · simp [prettyTimestamp, htime, hsign, hplus, hminus]
  | _ => simp [prettyTimestamp, TimestampReadable]

/-! ### Services -/

/-- `data.get(key)` -/
def entry (d : Dict) (key : String) : Json := (Dict.get d (text key)).getD .null

/-- `IsRealtime` is set. -/
def RealTime (service : Dict) : Prop := (entry service "IsRealtime").truthy = true

instance (service : Dict) : Decidable (RealTime service) := inferInstanceAs (Decidable (_ = _))

/-- What the sensor reads of a service makes sense: the seconds of a real time service, and
the timestamps that are not left out. The whole minutes are not lost in the rounding. -/
structure ServiceReadable (py : Runtime) (service : Dict) : Prop where
  real : RealTime service → ∃ q r, seconds service = some (.finite q) ∧
    Double.ofRat (q / 60) = .finite r ∧ wholePart r = wholePart (q / 60)
  scheduled : ¬ RealTime service → (entry service "DisplayDeparture").truthy = true →
    TimestampReadable py (entry service "DisplayDeparture")
  expected : ∀ value, Dict.get service (text "ExpectedDeparture") = some value →
    value.truthy = true → TimestampReadable py value

theorem exists_intOfFloat {x : Double} {p : ℤ → Prop} :
    (∃ n, intOfFloat x = .ok n ∧ p n) ↔ ∃ r, x = .finite r ∧ p (wholePart r) := by
  cases x <;> simp [intOfFloat]

theorem exists_notInfinite {x : Double} {p : ℤ → Prop} :
    (∃ y, notInfinite x = .ok y ∧ ∃ n, intOfFloat y = .ok n ∧ p n) ↔
      ∃ r, x = .finite r ∧ p (wholePart r) := by
  cases x <;> simp [notInfinite, intOfFloat]

/-- What holds of `int(seconds / 60)`. -/
theorem exists_minutes {value : Json} {p : ℤ → Prop} :
    (∃ x, trueDivide 60 value = .ok x ∧ ∃ n, intOfFloat x = .ok n ∧ p n) ↔
      ∃ q r, value.number = some (.finite q) ∧ Double.ofRat (q / 60) = .finite r ∧
        p (wholePart r) := by
  cases value with
  | int m => simp [trueDivide, Json.number, exists_notInfinite]
  | bool b => simp [trueDivide, Json.number, exists_notInfinite]
  | float x => cases x <;> simp [trueDivide, Json.number, exists_intOfFloat]
  | _ => simp [trueDivide, Json.number]

variable {number route : Str} {stop service : Dict}

/-- Whole seconds, of any size that a bus may have, give whole minutes. -/
theorem minutes_of_whole {m : ℤ} (hseconds : seconds service = some (.finite m))
    (hm : |m| < 2 ^ 45) : ∃ q r, seconds service = some (.finite q) ∧
      Double.ofRat (q / 60) = .finite r ∧ wholePart r = wholePart (q / 60) := by
  obtain ⟨r, hr, hwhole⟩ := Double.ofRat_div (n := m) (d := 60) (by norm_num) (by norm_num) hm
  exact ⟨m, r, hseconds, hr, hwhole⟩

/-! ### The selected service -/

def OnRoute (py : Runtime) (route : Option Str) (service : Json) : Prop :=
  ∃ d, service = .dict d ∧ Reads py (routeText route) d

def OffRoute (py : Runtime) (route : Option Str) (service : Json) : Prop :=
  ∃ d, service = .dict d ∧ ¬ Reads py (routeText route) d

/-- The first service of the route; each one up to it has to be a dictionary. -/
def Selected (py : Runtime) (route : Option Str) (items : List Json) : Option Json → Prop
  | none => Search.Exhausted (fun _ => OffRoute py route) items
  | some service => ∃ i, Search.First (fun _ => OnRoute py route) (fun _ => OffRoute py route)
      items i service

theorem onRoute_eq_ok {route : Option Str} {service : Json} :
    (onRoute py route service = .ok true ↔ OnRoute py route service) ∧
      (onRoute py route service = .ok false ↔ OffRoute py route service) := by
  cases service with
  | dict d => simp [onRoute_dict, OnRoute, OffRoute]
  | _ => simp [onRoute, routeNumber, Json.get, OnRoute, OffRoute]

theorem firstService_eq_ok {route : Option Str} {items : List Json} {found : Option Json} :
    firstService py route items = .ok found ↔ Selected py route items found := by
  rw [firstService_eq]
  cases found with
  | none =>
    simp only [Search.first_eq_none, onRoute_eq_ok, Selected]
  | some service =>
    simp only [Search.first_eq_some, onRoute_eq_ok, Selected]

theorem nextService_eq_ok {route : Option Str} {found : Option Json} :
    nextService py route (.dict stop) = .ok found ↔
      ∃ items, (entry stop "Services").iterate = .ok items ∧ Selected py route items found := by
  simp only [nextService, Json.get_dict, bind_eq_ok, firstService_eq_ok, entry]
  simp

theorem dict_of_selected {route : Option Str} {items : List Json} {found : Json}
    (h : Selected py route items (some found)) : ∃ d, found = .dict d := by
  obtain ⟨i, hi⟩ := h
  obtain ⟨d, hd, -⟩ := hi.accepted
  exact ⟨d, hd⟩

/-! ### The sensor -/

/-- The feed of the stop has services, and the selected one makes sense. -/
structure StopReadable (py : Runtime) (route : Str) (stop : Dict) : Prop where
  entries : ∀ value, Dict.get stop (text "Stop") = some value → ∃ d, value = .dict d
  services : ∃ items found, (entry stop "Services").iterate = .ok items ∧
    Selected py (some route) items found ∧
    ∀ service, found = some (.dict service) → ServiceReadable py service

def sensorOf (number route : Str) (stop : Dict) : MetlinkSensor := ⟨number, route, .dict stop⟩

/-- The state is the whole number of minutes to the selected service. -/
def ShowsMinutes (py : Runtime) (sensor : MetlinkSensor) : Prop :=
  ∃ service q, sensor.nextService py = .ok (some (.dict service)) ∧
    seconds service = some (.finite q) ∧
    sensor.state py = .ok (some (.minutes (wholePart (q / 60))))

/-- No property raises, and the unit goes with the state. -/
structure Tolerates (py : Runtime) (sensor : MetlinkSensor) : Prop where
  state : ∃ state, sensor.state py = .ok state
  unit : ∃ unit, sensor.unitOfMeasurement py = .ok unit
  attributes : ∃ attributes, sensor.deviceStateAttributes py = .ok attributes
  minutes : sensor.unitOfMeasurement py = .ok (text "min") ↔ ShowsMinutes py sensor

/-! ### Each property -/

theorem expectedDeparture_returns :
    (∃ value, expectedDeparture py (.dict service) = .ok value) ↔
      ∀ value, Dict.get service (text "ExpectedDeparture") = some value → value.truthy = true →
        TimestampReadable py value := by
  rcases hvalue : Dict.get service (text "ExpectedDeparture") with _ | value
  · simp [expectedDeparture, hvalue, Json.truthy]
  · by_cases htruthy : value.truthy = true
    · rcases htime : prettyTimestamp py value with e | time <;>
        simp [expectedDeparture, hvalue, htruthy, htime, ← prettyTimestamp_returns]
    · simp [expectedDeparture, hvalue, htruthy]

theorem attributes_returns :
    (∃ result, attributes py (.dict service) = .ok result) ↔
      ∃ value, expectedDeparture py (.dict service) = .ok value := by
  rcases hdeparture : expectedDeparture py (.dict service) with e | departure <;>
    simp [attributes, hdeparture]

theorem stopEntry_returns (key : Str) :
    (∃ value, stopEntry key (.dict stop) = .ok value) ↔
      ∀ value, Dict.get stop (text "Stop") = some value → ∃ d, value = .dict d := by
  rcases hvalue : Dict.get stop (text "Stop") with _ | value
  · simp [stopEntry, hvalue]
  · cases value <;> simp [stopEntry, hvalue, Json.get]

variable {found : Option Json} {state : Option State}

theorem isRealTime_dict : isRealTime (.dict service) = .ok (entry service "IsRealtime") := rfl

theorem displayDeparture_dict :
    displayDeparture (.dict service) = .ok (entry service "DisplayDeparture") := rfl

theorem departureSeconds_dict :
    departureSeconds (.dict service) = .ok (entry service "DisplayDepartureSeconds") := rfl

theorem number_entry : (entry service "DisplayDepartureSeconds").number = seconds service := by
  unfold entry seconds
  cases Dict.get service (text "DisplayDepartureSeconds") <;> rfl

theorem sensor_nextService_eq_ok : (sensorOf number route stop).nextService py = .ok found ↔
    ∃ items, (entry stop "Services").iterate = .ok items ∧ Selected py (some route) items found :=
  nextService_eq_ok

theorem deviceStateAttributes_returns
    (h : (sensorOf number route stop).nextService py = .ok found) :
    (∃ result, (sensorOf number route stop).deviceStateAttributes py = .ok result) ↔
      (∀ value, Dict.get stop (text "Stop") = some value → ∃ d, value = .dict d) ∧
      ∀ service, found = some service → ∃ result, attributes py service = .ok result := by
  have hentries : ∀ key, (∃ value, stopEntry key (.dict stop) = .ok value) ↔
      ∀ value, Dict.get stop (text "Stop") = some value → ∃ d, value = .dict d :=
    stopEntry_returns
  have hdata : (sensorOf number route stop).metlinkStop = .dict stop := rfl
  rw [MetlinkSensor.deviceStateAttributes, h, hdata]
  rcases hname : stopEntry (text "Name") (.dict stop) with e | stopName
  · simp [← hentries (text "Name"), hname]
  · have hdict := (hentries (text "Name")).1 ⟨_, hname⟩
    obtain ⟨latitude, hlatitude⟩ := (hentries (text "Lat")).2 hdict
    obtain ⟨longitude, hlongitude⟩ := (hentries (text "Long")).2 hdict
    rw [and_iff_right hdict]
    rcases found with _ | service
    · simp [hlatitude, hlongitude]
    · rcases hattributes : attributes py service with e | result <;>
        simp [hlatitude, hlongitude, hattributes]

section Selected

variable (h : (sensorOf number route stop).nextService py = .ok (some (.dict service)))

include h

theorem unitOfMeasurement_of_selected : (sensorOf number route stop).unitOfMeasurement py =
    .ok (if RealTime service then text "min" else text "offline") := by
  rw [MetlinkSensor.unitOfMeasurement, h]
  by_cases htruthy : (entry service "IsRealtime").truthy = true <;>
    simp [RealTime, htruthy, isRealTime_dict]

/-- The three branches of `state`. -/
theorem state_eq_ok : (sensorOf number route stop).state py = .ok state ↔
    (RealTime service ∧ ∃ q r, seconds service = some (.finite q) ∧
      Double.ofRat (q / 60) = .finite r ∧ some (.minutes (wholePart r)) = state) ∨
    (¬ RealTime service ∧ (entry service "DisplayDeparture").truthy = true ∧
      ∃ time, prettyTimestamp py (entry service "DisplayDeparture") = .ok time ∧
        some (.time time) = state) ∨
    (¬ RealTime service ∧ ¬ (entry service "DisplayDeparture").truthy = true ∧ none = state) := by
  rw [MetlinkSensor.state, h]
  by_cases hreal : RealTime service
  · have htruthy : (entry service "IsRealtime").truthy = true := hreal
    simp [isRealTime_dict, htruthy, departureSeconds_dict, hreal, bind_eq_ok, exists_minutes,
      number_entry]
  · have htruthy : ¬ (entry service "IsRealtime").truthy = true := hreal
    by_cases hdeparture : (entry service "DisplayDeparture").truthy = true
    · simp [isRealTime_dict, htruthy, displayDeparture_dict, hdeparture, hreal, bind_eq_ok]
    · simp [isRealTime_dict, htruthy, displayDeparture_dict, hdeparture, hreal]

theorem state_of_real (hreal : RealTime service) :
    (∃ state, (sensorOf number route stop).state py = .ok state) ↔ ∃ q r,
      seconds service = some (.finite q) ∧ Double.ofRat (q / 60) = .finite r := by
  simp [state_eq_ok h, hreal]

theorem state_of_scheduled (hreal : ¬ RealTime service) :
    (∃ state, (sensorOf number route stop).state py = .ok state) ↔
      ((entry service "DisplayDeparture").truthy = true →
        TimestampReadable py (entry service "DisplayDeparture")) := by
  by_cases hdeparture : (entry service "DisplayDeparture").truthy = true <;>
    simp [state_eq_ok h, hreal, hdeparture, ← prettyTimestamp_returns]

theorem state_eq_minutes {n : ℤ} :
    (sensorOf number route stop).state py = .ok (some (.minutes n)) ↔ RealTime service ∧ ∃ q r,
      seconds service = some (.finite q) ∧ Double.ofRat (q / 60) = .finite r ∧
      wholePart r = n := by
  simp [state_eq_ok h]

theorem unit_min_iff :
    (sensorOf number route stop).unitOfMeasurement py = .ok (text "min") ↔ RealTime service := by
  have hne : text "offline" ≠ text "min" := by decide
  rw [unitOfMeasurement_of_selected h]
  by_cases hreal : RealTime service <;> simp [hreal, hne]

theorem showsMinutes_iff :
    ShowsMinutes py (sensorOf number route stop) ↔ RealTime service ∧ ∃ q r,
      seconds service = some (.finite q) ∧ Double.ofRat (q / 60) = .finite r ∧
      wholePart r = wholePart (q / 60) := by
  constructor
  · rintro ⟨service', q, hnext, hq, hstate⟩
    obtain rfl : service = service' := by simpa using h.symm.trans hnext
    obtain ⟨hreal, q', r, hq', hr, hminutes⟩ := (state_eq_minutes h).1 hstate
    obtain rfl : q = q' := by simpa using hq.symm.trans hq'
    exact ⟨hreal, q, r, hq, hr, hminutes⟩
  · rintro ⟨hreal, q, r, hq, hr, hminutes⟩
    exact ⟨service, q, h, hq, (state_eq_minutes h).2 ⟨hreal, q, r, hq, hr, hminutes⟩⟩

theorem tolerates_selected : Tolerates py (sensorOf number route stop) ↔
    (∀ value, Dict.get stop (text "Stop") = some value → ∃ d, value = .dict d) ∧
      ServiceReadable py service := by
  constructor
  · intro htolerates
    obtain ⟨hentries, hattributes⟩ := (deviceStateAttributes_returns h).1 htolerates.attributes
    refine ⟨hentries, ⟨fun hreal => ?_, fun hreal => ?_, ?_⟩⟩
    · have hmin := (unit_min_iff h).2 hreal
      exact ((showsMinutes_iff h).1 (htolerates.minutes.1 hmin)).2
    · exact (state_of_scheduled h hreal).1 htolerates.state
    · exact expectedDeparture_returns.1 (attributes_returns.1 (hattributes _ rfl))
  · rintro ⟨hentries, hservice⟩
    have hattributes := attributes_returns.2 (expectedDeparture_returns.2 hservice.expected)
    refine ⟨?_, ⟨_, unitOfMeasurement_of_selected h⟩, ?_, ?_⟩
    · by_cases hreal : RealTime service
      · obtain ⟨q, r, hq, hr, -⟩ := hservice.real hreal
        exact (state_of_real h hreal).2 ⟨q, r, hq, hr⟩
      · exact (state_of_scheduled h hreal).2 (hservice.scheduled hreal)
    · refine (deviceStateAttributes_returns h).2 ⟨hentries, fun found hfound => ?_⟩
      obtain rfl : .dict service = found := by simpa using hfound
      exact hattributes
    · rw [unit_min_iff h, showsMinutes_iff h]
      constructor
      · intro hreal
        exact ⟨hreal, hservice.real hreal⟩
      · exact fun hshows => hshows.1

end Selected

theorem tolerates_unselected (h : (sensorOf number route stop).nextService py = .ok none) :
    Tolerates py (sensorOf number route stop) ↔
      ∀ value, Dict.get stop (text "Stop") = some value → ∃ d, value = .dict d := by
  have hstate : (sensorOf number route stop).state py = .ok none := by
    rw [MetlinkSensor.state, h]
    rfl
  have hunit : (sensorOf number route stop).unitOfMeasurement py = .ok (text "offline") := by
    rw [MetlinkSensor.unitOfMeasurement, h]
    rfl
  have hne : text "offline" ≠ text "min" := by decide
  have hattributes := deviceStateAttributes_returns h
  constructor
  · intro htolerates
    exact (hattributes.1 htolerates.attributes).1
  · intro hentries
    refine ⟨⟨_, hstate⟩, ⟨_, hunit⟩, hattributes.2 ⟨hentries, by simp⟩, ?_⟩
    constructor
    · intro hmin
      exact absurd (Except.ok.inj (hunit.symm.trans hmin)) hne
    · rintro ⟨service, q, hnext, -⟩
      exact absurd (h.symm.trans hnext) (by simp)

theorem tolerates_iff :
    Tolerates py (sensorOf number route stop) ↔ StopReadable py route stop := by
  constructor
  · intro htolerates
    obtain ⟨unit, hunit⟩ := htolerates.unit
    obtain ⟨found, h, -⟩ := bind_eq_ok.1 hunit
    obtain ⟨items, hitems, hselected⟩ := sensor_nextService_eq_ok.1 h
    rcases found with _ | found
    · exact ⟨(tolerates_unselected h).1 htolerates, items, none, hitems, hselected, by simp⟩
    · obtain ⟨service, rfl⟩ := dict_of_selected hselected
      obtain ⟨hentries, hreadable⟩ := (tolerates_selected h).1 htolerates
      refine ⟨hentries, items, _, hitems, hselected, fun service' hservice => ?_⟩
      obtain rfl : service = service' := by simpa using hservice
      exact hreadable
  · rintro ⟨hentries, items, found, hitems, hselected, hreadable⟩
    have h : (sensorOf number route stop).nextService py = .ok found :=
      sensor_nextService_eq_ok.2 ⟨items, hitems, hselected⟩
    rcases found with _ | found
    · exact (tolerates_unselected h).2 hentries
    · obtain ⟨service, rfl⟩ := dict_of_selected hselected
      exact (tolerates_selected h).2 ⟨hentries, hreadable service rfl⟩

end Metlink
