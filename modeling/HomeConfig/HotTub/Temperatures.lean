import HomeConfig.Dallas.Temperature
import HomeConfig.HotTub.Sketch

/-! The water temperatures, from the sensors on the wire to the messages. -/
namespace HotTub

open Arduino MySensors Dallas ShiftRegister

def onewireIntakeIndex : ℕ := 0
def onewireOutletIndex : ℕ := 1

/-- What `processTemperatures` reads before it transmits. -/
def processTemperatures (bus : Bus) : Bus × Readings :=
  let (bus, tempAtIntake) := getTempCByIndex onewireIntakeIndex bus
  let (bus, tempAtOutlet) := getTempCByIndex onewireOutletIndex bus
  (bus, ⟨tempAtIntake.toBits, tempAtOutlet.toBits⟩)

/-- The second half of `loop`, down to the wire; `dallasTemp` is what `begin` has left. -/
def loopOnWire (dallasTemp : DallasTemperature) (nodeId : Byte) (n : Node) (bus : Bus) :
    Node × Bus × List (Effect Action) :=
  let (bus, r) := processTemperatures (requestTemperatures dallasTemp bus)
  let (n, effects) := loop nodeId n r
  (n, bus, effects)

variable {bus : Bus} {t : DallasTemperature} {nodeId : Byte} {n : Node} {i fuel : ℕ}

/-- The temperature that belongs to an index: the one that is measured by the sensor in that place of the
order of the addresses, if its address and its new scratchpad are right. -/
def temperatureAt (bus : Bus) (i : ℕ) : Single :=
  match (inOrder bus)[i]? with
  | none => deviceDisconnectedC
  | some d =>
    if Checked d.rom ∧ d.convert.Intact then .finite (d.convert.register.toInt / 16)
    else deviceDisconnectedC

/-- Sensors with a twelve bit register whose temperature is in their range. -/
def InRange (bus : Bus) : Prop := ∀ s ∈ bus, s.rom.getD 0 0#8 ≠ ds18s20Model ∧
  -880 < s.convert.register.toInt ∧ s.convert.register.toInt < 4096

/-- The sensors whose addresses can be right come to the end of their conversions. -/
def Finishes (t : DallasTemperature) (bus : Bus) : Prop :=
  ∀ s ∈ bus, Checked s.rom → s.toDevice.requested t = s.toDevice.convert

theorem shown_requestTemperatures (hfinishes : Finishes t bus) (hrange : InRange bus) :
    shown (requestTemperatures t bus) i = temperatureAt bus i := by
  unfold shown temperatureAt
  rw [inOrder_requestTemperatures, List.getElem?_map]
  cases hd : (inOrder bus)[i]? with
  | none => rfl
  | some d =>
    obtain ⟨s, hs, rfl⟩ := (inOrder_spec bus).1 d (List.mem_of_getElem? hd)
    obtain ⟨hmodel, hlow, hhigh⟩ := hrange s hs
    have hrom : (s.toDevice.requested t).rom = s.rom := rom_requested
    rw [Option.map_some, Option.filter_some, hrom]
    have haddress : validAddress s.rom = true ↔ Checked s.rom := validAddress_iff
    rw [if_congr haddress rfl rfl]
    by_cases hvalid : Checked s.rom
    · rw [if_pos hvalid, Option.elim_some, hfinishes s hs hvalid]
      by_cases hintact : s.convert.Intact
      · dsimp only
        rw [if_pos ⟨hvalid, hintact⟩, tempC_eq (d := s.toDevice.convert) hmodel hintact hlow hhigh]
      · dsimp only
        rw [if_neg (fun h => hintact h.2), Device.tempC, if_neg hintact]
    · dsimp only
      rw [if_neg hvalid, if_neg (fun h => hvalid h.1)]
      rfl

theorem processTemperatures_eq (hfamily : ∀ s ∈ bus, s.rom.getD 0 0#8 ≠ 0#8) (hbus : Distinct bus) :
    (processTemperatures bus).2 =
        ⟨(shown bus onewireIntakeIndex).toBits, (shown bus onewireOutletIndex).toBits⟩ ∧
      SameDevices bus (processTemperatures bus).1 := by
  obtain ⟨hintake, hsame⟩ := getTempCByIndex_eq onewireIntakeIndex hfamily hbus
  obtain ⟨houtlet, hsame'⟩ := getTempCByIndex_eq onewireOutletIndex
    (hsame.forall_mem (P := fun d => d.rom.getD 0 0#8 ≠ 0#8) hfamily) (hsame.distinct hbus)
  have hshown : shown (getTempCByIndex onewireIntakeIndex bus).1 onewireOutletIndex =
      shown bus onewireOutletIndex := by
    unfold shown
    rw [hsame.inOrder_eq]
  rw [hshown] at houtlet
  refine ⟨?_, hsame.trans hsame'⟩
  rw [processTemperatures]
  dsimp only
  rw [hintake, houtlet]

/-- The same sensors, whatever they show, have measured or are busy with. -/
def SameSensors (bus bus' : Bus) : Prop :=
  bus'.map (fun s => (s.rom, s.parasite, s.conversionTime)) =
    bus.map fun s => (s.rom, s.parasite, s.conversionTime)

theorem SameSensors.roms {bus' : Bus} (h : SameSensors bus bus') : bus'.map (·.rom) = bus.map (·.rom) := by
  have hmap : ∀ bus : Bus, bus.map (·.rom) =
      (bus.map fun s => (s.rom, s.parasite, s.conversionTime)).map Prod.fst := by
    intro bus
    rw [List.map_map]
    rfl
  rw [hmap, hmap, h]

/-- What `begin` has found out serves for the sensors later on. -/
theorem finishes_begin {bus₀ : Bus} (hfamily : ∀ s ∈ bus₀, s.rom.getD 0 0#8 ≠ 0#8) (hbus : Distinct bus₀)
    (hfuel : (inOrder bus₀).length < fuel)
    (htimely : ∀ s ∈ bus₀, Checked s.rom → s.toDevice.Timely)
    (hsame : SameSensors bus₀ bus) : Finishes (begin fuel setOneWire bus₀).1 bus := by
  intro s hs hvalid
  have hmem : (s.rom, s.parasite, s.conversionTime) ∈
      bus.map fun s => (s.rom, s.parasite, s.conversionTime) := List.mem_map_of_mem hs
  rw [hsame] at hmem
  obtain ⟨s₀, hs₀, heq⟩ := List.mem_map.mp hmem
  obtain ⟨hrom, heq⟩ := Prod.mk.inj heq
  obtain ⟨hparasite, htime⟩ := Prod.mk.inj heq
  have hvalid₀ : Checked s₀.rom := by rwa [hrom]
  obtain ⟨d, hd, hdrom⟩ := (inOrder_spec bus₀).2.1 s₀ hs₀
  obtain ⟨s₁, hs₁, rfl⟩ := (inOrder_spec bus₀).1 d hd
  obtain rfl : s₁ = s₀ := hbus.eq hs₁ hs₀ hdrom
  have hsensor : s₁.toDevice ∈ sensors bus₀ := List.mem_filter.mpr ⟨hd, decide_eq_true hvalid₀⟩
  obtain ⟨hwait, hpower, hready⟩ :=
    begin_suffices hfamily hbus hfuel hsensor (htimely s₁ hs₀ hvalid₀)
  refine requested_eq hwait ?_ ?_
  · rwa [← hparasite]
  · rwa [← htime]

/-- After `begin`, whatever has happened on the wire since: the second half of `loop` asks the sensors for
new temperatures, waits until they are there and sends them, that of the first sensor in the order of the
addresses as that of the intake. -/
theorem loopOnWire_reports (fuel : ℕ) (bus₀ : Bus) (hfamily : ∀ s ∈ bus₀, s.rom.getD 0 0#8 ≠ 0#8)
    (hbus : Distinct bus₀) (hfuel : (inOrder bus₀).length < fuel)
    (htimely : ∀ s ∈ bus₀, Checked s.rom → s.toDevice.Timely)
    (nodeId : Byte) (n : Node) (hwaiting : n.waiting = true) (bus : Bus) (hsame : SameSensors bus₀ bus)
    (hrange : InRange bus) :
    (loopOnWire (begin fuel setOneWire bus₀).1 nodeId n bus).2.2 =
      (send (.registered nodeId) (msgIntakeTemp.setFloat
        (temperatureAt bus 0).toBits 2#8)).map .transmit ++
      (send (.registered nodeId) (msgOutletTemp.setFloat
        (temperatureAt bus 1).toBits 2#8)).map .transmit ++
      [.device (.wait updateInterval)] := by
  have hfinishes := finishes_begin hfamily hbus hfuel htimely hsame
  generalize (begin fuel setOneWire bus₀).1 = t at hfinishes
  have hroms : (requestTemperatures t bus).map (·.rom) = bus₀.map (·.rom) :=
    (roms_requestTemperatures t bus).trans hsame.roms
  obtain ⟨hread, -⟩ := processTemperatures_eq (family_of_roms hfamily hroms) (hbus.of_roms hroms)
  rw [shown_requestTemperatures hfinishes hrange, shown_requestTemperatures hfinishes hrange] at hread
  have hloop : (loopOnWire t nodeId n bus).2.2 =
      (loop nodeId n (processTemperatures (requestTemperatures t bus)).2).2 := by
    unfold loopOnWire
    generalize processTemperatures (requestTemperatures t bus) = p
    rfl
  have htransmit : ∀ r, (loop nodeId n r).2 =
      transmitTemperatures nodeId r ++ [.device (.wait updateInterval)] := by
    intro r
    rw [loop, if_pos hwaiting]
  rw [hloop, htransmit, hread]
  dsimp only [transmitTemperatures, onewireIntakeIndex, onewireOutletIndex]

/-- The two sensors in the middle of a conversion, with scratchpads that cannot be right. -/
def busySensors : Bus := twoSensors.map fun s =>
  { s with scratchpad := List.replicate 9 1#8, scratchpad_length := rfl, converting := some 100 }

theorem loopOnWire_reports_two :
    (loopOnWire (begin 3 setOneWire twoSensors).1 5#8 ⟨true, true⟩ busySensors).2.2 =
      (send (.registered 5#8) (msgIntakeTemp.setFloat (Single.finite (625 / 16)).toBits 2#8)).map .transmit ++
      (send (.registered 5#8) (msgOutletTemp.setFloat (Single.finite (75 / 2)).toBits 2#8)).map .transmit ++
      [.device (.wait updateInterval)] := by
  have hfamily : ∀ s ∈ twoSensors, s.rom.getD 0 0#8 ≠ 0#8 := by decide
  have hbus : Distinct twoSensors := by
    unfold Distinct
    decide
  have hfuel : (inOrder twoSensors).length < 3 := by decide +kernel
  have htimely : ∀ s ∈ twoSensors, Checked s.rom → s.toDevice.Timely := by decide +kernel
  have hsame : SameSensors twoSensors busySensors := rfl
  have hrange : InRange busySensors := by
    unfold InRange
    decide
  have hintake : temperatureAt busySensors 0 = .finite (625 / 16) := by decide +kernel
  have houtlet : temperatureAt busySensors 1 = .finite (75 / 2) := by decide +kernel
  rw [loopOnWire_reports 3 twoSensors hfamily hbus hfuel htimely 5#8 ⟨true, true⟩ rfl busySensors hsame
    hrange, hintake, houtlet]

end HotTub
