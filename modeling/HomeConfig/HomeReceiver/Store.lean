import HomeConfig.HomeReceiver.Frames

/-! Which frames change the table of readings. -/
namespace HomeReceiver

open Arduino HomeMonitor

/-- The stations and their rows. -/
inductive Station : List Byte → Fin 3 → Prop where
  | bedroom : Station (ascii "bedroom") stationNameBedroom
  | garage : Station (ascii "garage") stationNameGarage
  | study : Station (ascii "study") stationNameStudy

/-- A frame names a station behind its first two bytes, up to the first colon or, where it
shows no colon, up to its end. -/
def Addressed (frame : List Byte) (row : Fin 3) : Prop :=
  ∃ p q station rest, Station station row ∧ frame = p :: q :: (station ++ rest) ∧
    (rest.head? = some colon ∧ 0#8 ∉ [p, q] ∧ colon ∉ [p, q] ∨
      (rest = [] ∨ rest.head? = some 0#8) ∧ (p = 0#8 ∨ colon ∉ [p, q]))

/-- The cell of a type, by its first letter. -/
def typeCell (type : List Byte) : Option (Fin 3) :=
  if type.head? = some (charByte 't') then some readingTypeTemperature
  else if type.head? = some (charByte 'h') then some readingTypeHumidity
  else none

example : typeCell (ascii "temperature") = some readingTypeTemperature ∧
    typeCell (ascii "humidity") = some readingTypeHumidity := by decide

/-- The table with a new identifier in one row, and a number in one cell of it. -/
def renewed (readings : Readings) (random : ℤ) (row : Fin 3) (cell : Option (Fin 3))
    (number : Single) : Readings :=
  fun row' cell' =>
    if row' ≠ row then readings row' cell'
    else if cell' = readingTypeIdentifier then .ofRat random
    else if cell = some cell' then number
    else readings row' cell'

/-- What happens to a frame: only the row of the station that it names can change, and a
reading with both separators changes the identifier and the cell of its type there. -/
structure Handled (readings : Readings) (random : ℤ) (frame : List Byte) : Prop where
  kept : ∀ row, ¬ Addressed frame row → loop readings random frame row = readings row
  one : ∀ row row', Addressed frame row → Addressed frame row' → row = row'
  stored : ∀ p q station row type value, Station station row →
    0#8 ∉ [p, q] → colon ∉ [p, q] → equalsSign ∉ [p, q] → 0#8 ∉ type → equalsSign ∉ type →
    frame = p :: q :: (station ++ colon :: (type ++ equalsSign :: value)) →
    loop readings random frame = renewed readings random row (typeCell type) (toFloat value)

variable {frame name station type value rest : List Byte} {row cell : Fin 3} {p q : Byte}
  {readings : Readings} {random : ℤ}

theorem Station.facts (h : Station station row) :
    0#8 ∉ station ∧ colon ∉ station ∧ equalsSign ∉ station ∧ 5 ≤ station.length := by
  cases h <;> decide

theorem Station.row_eq {row' : Fin 3} (h : Station name row) (h' : Station name row') :
    row = row' := by
  cases h <;> cases h' <;> rfl

/-! ### What a frame stores -/

theorem loop_of_station (h : Station (parse (recv frame)).stationName row) :
    loop readings random frame = storeStationValue readings random row
      (charAt (parse (recv frame)).readingType 0) (parse (recv frame)).readingValue := by
  have hbg : ascii "bedroom" ≠ ascii "garage" := by decide
  have hbs : ascii "bedroom" ≠ ascii "study" := by decide
  have hgs : ascii "garage" ≠ ascii "study" := by decide
  generalize hname : (parse (recv frame)).stationName = name at h
  cases h with
  | bedroom => simp only [loop, hname, if_true, if_neg hbg, if_neg hbs]
  | garage => simp only [loop, hname, if_true, if_neg hbg.symm, if_neg hgs]
  | study => simp only [loop, hname, if_true, if_neg hbs.symm, if_neg hgs.symm]

theorem loop_of_no_station (h : ∀ row, ¬ Station (parse (recv frame)).stationName row) :
    loop readings random frame = readings := by
  have hbedroom : (parse (recv frame)).stationName ≠ ascii "bedroom" :=
    fun hname => h stationNameBedroom (by rw [hname]; exact .bedroom)
  have hgarage : (parse (recv frame)).stationName ≠ ascii "garage" :=
    fun hname => h stationNameGarage (by rw [hname]; exact .garage)
  have hstudy : (parse (recv frame)).stationName ≠ ascii "study" :=
    fun hname => h stationNameStudy (by rw [hname]; exact .study)
  simp only [loop, if_neg hbedroom, if_neg hgarage, if_neg hstudy]

theorem set_apply (x : Single) (row' cell' : Fin 3) :
    set readings row cell x row' cell' =
      if row' = row ∧ cell' = cell then x else readings row' cell' := by
  by_cases hrow : row' = row
  · subst hrow
    simp only [set, Function.update_self, Function.update_apply, true_and]
  · simp only [set, Function.update_of_ne hrow, hrow, false_and, if_false]

theorem charAt_zero {c : Byte} (hc : c ≠ 0#8) : charAt type 0 = c ↔ type.head? = some c := by
  cases type with
  | nil => simpa [charAt] using hc.symm
  | cons d type => simp [charAt]

theorem storeStationValue_eq :
    storeStationValue readings random row (charAt type 0) value =
      renewed readings random row (typeCell type) (toFloat value) := by
  have ht : charAt type 0 = charByte 't' ↔ type.head? = some (charByte 't') :=
    charAt_zero (by decide)
  have hh : charAt type 0 = charByte 'h' ↔ type.head? = some (charByte 'h') :=
    charAt_zero (by decide)
  have hcells : readingTypeIdentifier ≠ readingTypeTemperature ∧
      readingTypeIdentifier ≠ readingTypeHumidity := by decide
  funext row' cell'
  simp only [storeStationValue, renewed, typeCell, ht, hh]
  split
  · simp only [set_apply]
    grind
  · split
    · simp only [set_apply]
      grind
    · simp only [set_apply]
      grind

/-- A frame touches only the row of the station that is read from it. -/
theorem loop_row_of_not_station (h : ¬ Station (parse (recv frame)).stationName row) :
    loop readings random frame row = readings row := by
  by_cases hother : ∃ row', Station (parse (recv frame)).stationName row'
  · obtain ⟨row', hstation⟩ := hother
    have hrow : row ≠ row' := by
      rintro rfl
      exact h hstation
    rw [loop_of_station hstation, storeStationValue_eq]
    funext cell
    rw [renewed, if_pos hrow]
  · rw [loop_of_no_station (not_exists.mp hother)]

/-! ### Which frames are addressed to a station -/

theorem length_substring_le (s : List Byte) (left right : ℕ) :
    (substring s left right).length ≤ min (max left right) s.length := by
  simp only [substring]
  split
  · exact Nat.zero_le _
  · refine (List.takeWhile_prefix _).length_le.trans ?_
    rw [List.length_drop, List.length_take]
    omega

theorem length_stationName_le : (parse frame).stationName.length ≤ frame.length :=
  (length_substring_le _ _ _).trans (min_le_right _ _)

/-- A colon in the first two bytes swaps the bounds: what is left is too short. -/
theorem not_station_of_early_colon {k : ℕ} (hk : k ≤ 1) (h : indexOf frame colon = k) :
    ¬ Station (parse frame).stationName row := by
  intro hstation
  have hlen := length_substring_le frame 2 (unsignedInt (indexOf frame colon))
  have hfive := hstation.facts.2.2.2
  rw [h, unsignedInt_natCast (by omega)] at hlen
  simp only [parse, h, unsignedInt_natCast (by omega : k < 2 ^ 16)] at hfive
  omega

theorem addressed_of_colon {shown : List Byte} (behind : List Byte) (hlen : frame.length < 2 ^ 16)
    (hframe : frame = shown ++ colon :: behind) (hnul : 0#8 ∉ shown) (hcolon : colon ∉ shown)
    (h : Station (parse frame).stationName row) : Addressed frame row := by
  have hindex : indexOf frame colon = shown.length := by
    rw [hframe]
    exact indexOf_append _ (by decide) hnul hcolon
  match shown, hframe, hnul, hcolon, hindex with
  | [], _, _, _, hindex => exact (not_station_of_early_colon (Nat.zero_le 1) hindex h).elim
  | [p], _, _, _, hindex => exact (not_station_of_early_colon le_rfl hindex h).elim
  | p :: q :: station, hframe, hnul, hcolon, _ =>
    subst hframe
    rw [List.cons_append, List.cons_append] at hlen h ⊢
    rw [stationName_of_colon hlen hnul hcolon] at h
    refine ⟨p, q, station, colon :: behind, h, rfl, .inl ⟨rfl, ?_, ?_⟩⟩
    · exact fun hmem => hnul (List.mem_append_left station hmem)
    · exact fun hmem => hcolon (List.mem_append_left station hmem)

theorem addressed_of_no_colon (hlen : frame.length < 2 ^ 16) (hcolon : colon ∉ cString frame)
    (h : Station (parse frame).stationName row) : Addressed frame row := by
  have hfive := h.facts.2.2.2.trans length_stationName_le
  match frame, hlen, hcolon, h, hfive with
  | p :: q :: behind, hlen, hcolon, h, _ =>
    rw [stationName_of_no_colon hlen hcolon] at h
    have hhead : p = 0#8 ∨ colon ∉ [p, q] := by
      by_cases hp : p = 0#8
      · exact .inl hp
      · right
        intro hmem
        apply hcolon
        rw [mem_cString_cons, mem_cString_cons]
        rcases List.mem_pair.mp hmem with rfl | rfl
        · exact ⟨hp, .inl rfl⟩
        · exact ⟨hp, .inr ⟨by decide, .inl rfl⟩⟩
    rcases eq_cString_append behind with hbehind | ⟨rest, hbehind⟩
    · refine ⟨p, q, cString behind, [], h, ?_, .inr ⟨.inl rfl, hhead⟩⟩
      rw [List.append_nil, ← hbehind]
    · refine ⟨p, q, cString behind, 0#8 :: rest, h, ?_, .inr ⟨.inr rfl, hhead⟩⟩
      rw [← hbehind]

theorem cString_of_behind (hstation : 0#8 ∉ station) (h : rest = [] ∨ rest.head? = some 0#8) :
    cString (station ++ rest) = station := by
  rcases h with rfl | h
  · rw [List.append_nil, cString_eq_self hstation]
  · obtain ⟨rest, rfl⟩ := List.head?_eq_some_iff.mp h
    exact cString_terminated hstation rest

theorem not_mem_frame {c : Byte} (hhead : c ∉ [p, q]) (hstation : c ∉ station) :
    c ∉ p :: q :: station := by
  have hmem : c ∉ [p, q] ++ station := by
    rw [List.mem_append, not_or]
    exact ⟨hhead, hstation⟩
  exact hmem

theorem station_of_addressed (hlen : frame.length < 2 ^ 16) (h : Addressed frame row) :
    Station (parse frame).stationName row := by
  obtain ⟨p, q, station, rest, hstation, rfl, hcase⟩ := h
  obtain ⟨hnul, hcolon, -, -⟩ := hstation.facts
  rcases hcase with ⟨hrest, hpnul, hpcolon⟩ | ⟨hrest, hhead⟩
  · obtain ⟨rest, rfl⟩ := List.head?_eq_some_iff.mp hrest
    rw [stationName_of_colon hlen]
    · exact hstation
    · exact not_mem_frame hpnul hnul
    · exact not_mem_frame hpcolon hcolon
  · have hshown := cString_of_behind hnul hrest
    rw [stationName_of_no_colon hlen, hshown]
    · exact hstation
    · rw [mem_cString_cons, mem_cString_cons, hshown]
      rintro ⟨hp, hmem⟩
      have hhead := hhead.resolve_left hp
      rcases hmem with hmem | ⟨-, hmem | hmem⟩
      · exact hhead (by simp [hmem])
      · exact hhead (by simp [hmem])
      · exact hcolon hmem

theorem addressed_iff (hlen : frame.length < 2 ^ 16) :
    Addressed frame row ↔ Station (parse frame).stationName row := by
  constructor
  · exact station_of_addressed hlen
  · intro h
    by_cases hcolon : colon ∈ cString frame
    · obtain ⟨shown, behind, hshown, hnot⟩ := List.eq_append_cons_of_mem hcolon
      have hnul : 0#8 ∉ shown := by
        intro hmem
        apply nul_not_mem_cString frame
        rw [hshown]
        exact List.mem_append_left _ hmem
      rcases eq_cString_append frame with hframe | ⟨rest, hframe⟩
      · exact addressed_of_colon behind hlen (hframe.trans hshown) hnul hnot h
      · refine addressed_of_colon (behind ++ 0#8 :: rest) hlen ?_ hnul hnot h
        rw [hshown, List.append_assoc, List.cons_append] at hframe
        exact hframe
    · exact addressed_of_no_colon hlen hcolon h

/-! ### The table after a frame -/

theorem parse_of_separators (hstation : Station station row) (hnul : 0#8 ∉ [p, q])
    (hcolon : colon ∉ [p, q]) (hequals : equalsSign ∉ [p, q]) (htype : 0#8 ∉ type)
    (htype' : equalsSign ∉ type)
    (hlen : (p :: q :: (station ++ colon :: (type ++ equalsSign :: value))).length < 2 ^ 16) :
    parse (p :: q :: (station ++ colon :: (type ++ equalsSign :: value))) =
      ⟨station, type, cString value⟩ := by
  obtain ⟨hsnul, hscolon, hsequals, -⟩ := hstation.facts
  have hbefore : colon ∉ p :: q :: station := not_mem_frame hcolon hscolon
  have hfront : ∀ c : Byte, c ∉ [p, q] → c ∉ station → c ≠ colon → c ∉ type →
      c ∉ p :: q :: station ++ colon :: type := by
    intro c hpq hs hc ht hmem
    rcases List.mem_append.mp hmem with hmem | hmem
    · exact not_mem_frame hpq hs hmem
    · exact (List.mem_cons.mp hmem).elim hc ht
  have hnuls := hfront 0#8 hnul hsnul (by decide) htype
  have hsigns := hfront equalsSign hequals hsequals (by decide) htype'
  have hname := stationName_of_colon hlen (not_mem_frame hnul hsnul) hbefore
  have hparsed : (parse (p :: q :: (station ++ colon :: (type ++ equalsSign :: value)))).readingType =
      type := readingType_of_separators hlen hnuls hbefore hsigns
  have hframe : p :: q :: (station ++ colon :: (type ++ equalsSign :: value)) =
      (p :: q :: station ++ colon :: type) ++ equalsSign :: value := by simp
  have hvalue := readingValue_of_equals (hframe ▸ hlen) hnuls hsigns
  rw [← hframe] at hvalue
  exact Reading.ext hname hparsed hvalue

theorem loop_of_separators (hstation : Station station row) (hnul : 0#8 ∉ [p, q])
    (hcolon : colon ∉ [p, q]) (hequals : equalsSign ∉ [p, q]) (htype : 0#8 ∉ type)
    (htype' : equalsSign ∉ type)
    (hlen : (p :: q :: (station ++ colon :: (type ++ equalsSign :: value))).length ≤ maxMessageLen) :
    loop readings random (p :: q :: (station ++ colon :: (type ++ equalsSign :: value))) =
      renewed readings random row (typeCell type) (toFloat value) := by
  have hparse := parse_of_separators hstation hnul hcolon hequals htype htype'
    (hlen.trans_lt (by decide : maxMessageLen < 2 ^ 16))
  have hname : Station (parse (recv (p :: q :: (station ++ colon ::
      (type ++ equalsSign :: value))))).stationName row := by
    rw [recv_of_le hlen, hparse]
    exact hstation
  rw [loop_of_station hname, recv_of_le hlen, hparse, storeStationValue_eq]
  rw [toFloat, cString_eq_self (nul_not_mem_cString value), toFloat]

/-- Every frame that the radio can deliver is handled so, whatever the table holds. -/
theorem loop_handled (hlen : frame.length ≤ maxMessageLen) :
    Handled readings random frame := by
  have hlen' : frame.length < 2 ^ 16 := hlen.trans_lt (by decide)
  constructor
  · intro row h
    apply loop_row_of_not_station
    rw [recv_of_le hlen, ← addressed_iff hlen']
    exact h
  · intro row row' h h'
    exact ((addressed_iff hlen').mp h).row_eq ((addressed_iff hlen').mp h')
  · rintro p q station row type value hstation hnul hcolon hequals htype htype' rfl
    exact loop_of_separators hstation hnul hcolon hequals htype htype' hlen

theorem loop_handled_temperature :
    Handled (fun _ _ => .nan) 7 (ascii "R>study:temperature=21.5") :=
  loop_handled (by decide)

/-- The text of a number: a sign or none, and a digit, perhaps behind a point. -/
def StartsWithNumber (value : List Byte) : Prop :=
  ∃ sign point rest, ∃ d : Byte, (sign = [] ∨ sign = ascii "-" ∨ sign = ascii "+") ∧
    (point = [] ∨ point = ascii ".") ∧ isDigit d ∧ value = sign ++ point ++ d :: rest

/-- A number of a type with a number, from a station. -/
def WellFormed (frame : List Byte) : Prop :=
  ∃ station row type value, Station station row ∧
    (type = ascii "temperature" ∨ type = ascii "humidity") ∧
    StartsWithNumber value ∧ frame = message station type value

/-- A reading of the garage door is not well-formed and yet renews the identifier. -/
theorem door_renews_identifier :
    ¬ WellFormed (ascii "R>garage:primary_garage_door=OPEN") ∧
      loop (fun _ _ => .nan) 7 (ascii "R>garage:primary_garage_door=OPEN") stationNameGarage
        readingTypeIdentifier = .finite 7 := by
  constructor
  · rintro ⟨station, row, type, value, hstation, htype, -, hframe⟩
    have hfront : front station type <+: ascii "R>garage:primary_garage_door=OPEN" :=
      ⟨equalsSign :: value, by rw [hframe, message_eq]⟩
    revert hfront
    rcases htype with rfl | rfl
    · cases hstation <;> decide
    · cases hstation <;> decide
  · have hframe : ascii "R>garage:primary_garage_door=OPEN" = charByte 'R' :: charByte '>' ::
        (ascii "garage" ++ colon :: (ascii "primary_garage_door" ++ equalsSign :: ascii "OPEN")) := by
      decide
    have hrenewed : renewed (fun _ _ => .nan) 7 stationNameGarage none (toFloat (ascii "OPEN"))
        stationNameGarage readingTypeIdentifier = .ofRat 7 := rfl
    have hseven : Single.ofRat ((7 : ℤ) : ℚ) = .finite ((7 : ℤ) : ℚ) :=
      Single.ofRat_intCast (by norm_num)
    have htype : typeCell (ascii "primary_garage_door") = none := by decide
    rw [hframe, loop_of_separators .garage (by decide) (by decide) (by decide) (by decide)
      (by decide) (by decide), htype, hrenewed]
    exact_mod_cast hseven

end HomeReceiver
