import HomeConfig.Dallas.Crc

/-! The temperature library on top of the wire. -/
namespace Dallas

open Arduino ShiftRegister Slave

def ds18s20Model : Byte := 0x10#8

def temp9Bit : Byte := 0x1f#8
def temp10Bit : Byte := 0x3f#8
def temp11Bit : Byte := 0x5f#8
def temp12Bit : Byte := 0x7f#8

def deviceDisconnectedC : Single := .finite (-127)
def deviceDisconnectedRaw : BitVec 16 := BitVec.ofInt 16 (-7040)

/-- The fields of the library object. -/
structure DallasTemperature where
  parasite : Bool
  bitResolution : ℕ
  devices : ℕ
  waitForConversion : Bool
deriving DecidableEq, Repr

/-- `setOneWire`, also a part of the constructor. -/
def setOneWire : DallasTemperature := ⟨false, 9, 0, true⟩

def validAddress (deviceAddress : List Byte) : Bool :=
  crc8 (deviceAddress.take 7) = deviceAddress.getD 7 0#8

/-- Nine calls of `read`. -/
def readBytes : ℕ → Bus → Bus × List Byte
  | 0, bus => (bus, [])
  | k + 1, bus =>
    let (bus, x) := read bus
    let (bus, xs) := readBytes k bus
    (bus, x :: xs)

/-- `readScratchPad`: the bytes, and whether a sensor was there before and after. -/
def readScratchPad (bus : Bus) (deviceAddress : List Byte) : Bus × List Byte × Bool :=
  match reset bus with
  | (bus, false) => (bus, [], false)
  | (bus, true) =>
    let bus := write (select bus deviceAddress) readScratch
    let (bus, scratchPad) := readBytes 9 bus
    let (bus, b) := reset bus
    (bus, scratchPad, b)

/-- `isConnected`: the scratchpad if it could be read and its check is right. -/
def isConnected (bus : Bus) (deviceAddress : List Byte) : Bus × Option (List Byte) :=
  let (bus, scratchPad, b) := readScratchPad bus deviceAddress
  (bus, if b = true ∧ crc8 (scratchPad.take 8) = scratchPad.getD 8 0#8 then some scratchPad else none)

def readPower (bus : Bus) (deviceAddress : List Byte) : Bus × Bool :=
  let bus := write (select (reset bus).1 deviceAddress) readPowerSupply
  let (bus, bit) := readBit bus
  ((reset bus).1, !bit)

def getResolution (bus : Bus) (deviceAddress : List Byte) : Bus × ℕ :=
  if deviceAddress.getD 0 0#8 = ds18s20Model then (bus, 12)
  else
    match isConnected bus deviceAddress with
    | (bus, none) => (bus, 0)
    | (bus, some scratchPad) =>
      (bus, if scratchPad.getD 4 0#8 = temp12Bit then 12
        else if scratchPad.getD 4 0#8 = temp11Bit then 11
        else if scratchPad.getD 4 0#8 = temp10Bit then 10
        else if scratchPad.getD 4 0#8 = temp9Bit then 9 else 0)

/-- What the loop of `begin` does with a valid address. -/
def takeStock (t : DallasTemperature) (bus : Bus) (deviceAddress : List Byte) : DallasTemperature × Bus :=
  let (bus, parasite) :=
    if t.parasite then (bus, true) else readPower bus deviceAddress
  let (bus, _) := readScratchPad bus deviceAddress
  let (bus, resolution) := getResolution bus deviceAddress
  ({ t with
    parasite
    bitResolution := max t.bitResolution resolution
    devices := (t.devices + 1) % 256 }, bus)

/-- The loop of `begin`. -/
def beginLoop : ℕ → DallasTemperature → OneWire → Bus → DallasTemperature × OneWire × Bus
  | 0, t, w, bus => (t, w, bus)
  | fuel + 1, t, w, bus =>
    match search w bus with
    | (w, bus, none) => (t, w, bus)
    | (w, bus, some deviceAddress) =>
      if validAddress deviceAddress then
        let (t, bus) := takeStock t bus deviceAddress
        beginLoop fuel t w bus
      else beginLoop fuel t w bus

/-- `begin`, with a bound on the passes of its loop. -/
def begin (fuel : ℕ) (t : DallasTemperature) (bus : Bus) : DallasTemperature × OneWire × Bus :=
  beginLoop fuel { t with devices := 0 } resetSearch bus

/-- The loop of `getAddress`. -/
def getAddressLoop (index : ℕ) : ℕ → ℕ → OneWire → Bus → OneWire × Bus × Option (List Byte)
  | 0, _, w, bus => (w, bus, none)
  | fuel + 1, depth, w, bus =>
    if depth ≤ index then
      match search w bus with
      | (w, bus, none) => (w, bus, none)
      | (w, bus, some deviceAddress) =>
        if depth = index ∧ validAddress deviceAddress = true then (w, bus, some deviceAddress)
        else getAddressLoop index fuel (depth + 1) w bus
    else (w, bus, none)

/-- `getAddress`: nothing where it returns false. -/
def getAddress (index : ℕ) (bus : Bus) : OneWire × Bus × Option (List Byte) :=
  getAddressLoop index (index + 1) 0 resetSearch bus

def millisToWaitForConversion (bitResolution : ℕ) : ℕ :=
  if bitResolution = 9 then 94
  else if bitResolution = 10 then 188
  else if bitResolution = 11 then 375
  else 750

/-- `blockTillConversionComplete` without an address: it waits. The wire is still high when `parasite` has
been handed to `write`. -/
def blockTillConversionComplete (t : DallasTemperature) (bus : Bus) : Bus :=
  delay t.parasite (millisToWaitForConversion t.bitResolution) bus

def requestTemperatures (t : DallasTemperature) (bus : Bus) : Bus :=
  let bus := write (skip (reset bus).1) startConvo
  if t.waitForConversion then blockTillConversionComplete t bus else bus

def calculateTemperature (deviceAddress scratchPad : List Byte) : BitVec 16 :=
  let fpTemperature :=
    ((scratchPad.getD 1 0#8).setWidth 16 <<< 11) ||| ((scratchPad.getD 0 0#8).setWidth 16 <<< 3)
  if deviceAddress.getD 0 0#8 = ds18s20Model then
    let countRemain := (scratchPad.getD 6 0#8).toNat
    let countPerC := (scratchPad.getD 7 0#8).toNat
    ((fpTemperature &&& 0xfff0#16) <<< 3) - 16#16 +
      BitVec.ofInt 16 ((((countPerC : ℤ) - countRemain) * 128).tdiv countPerC)
  else fpTemperature

def getTemp (bus : Bus) (deviceAddress : List Byte) : Bus × BitVec 16 :=
  match isConnected bus deviceAddress with
  | (bus, some scratchPad) => (bus, calculateTemperature deviceAddress scratchPad)
  | (bus, none) => (bus, deviceDisconnectedRaw)

def rawToCelsius (raw : BitVec 16) : Single :=
  if raw.toInt ≤ deviceDisconnectedRaw.toInt then deviceDisconnectedC
  else (Single.ofRat raw.toInt).mul (.finite (1 / 128))

def getTempC (bus : Bus) (deviceAddress : List Byte) : Bus × Single :=
  let (bus, raw) := getTemp bus deviceAddress
  (bus, rawToCelsius raw)

def getTempCByIndex (deviceIndex : ℕ) (bus : Bus) : Bus × Single :=
  match getAddress deviceIndex bus with
  | (_, bus, none) => (bus, deviceDisconnectedC)
  | (_, bus, some deviceAddress) => getTempC bus deviceAddress

/-! ### Reading a sensor -/

variable {bus : Bus} {d : Device} {rom : List Byte} {k : ℕ} {xs : List Byte} {w : OneWire}

/-- No address occurs twice. -/
def Distinct (bus : Bus) : Prop := (bus.map (·.rom)).Nodup

theorem Distinct.eq {s t : Slave} (h : Distinct bus) (hs : s ∈ bus) (ht : t ∈ bus)
    (hrom : s.rom = t.rom) : s = t :=
  List.inj_on_of_nodup_map h hs ht hrom

theorem SameDevices.distinct {bus' : Bus} (h : SameDevices bus bus') (hd : Distinct bus) :
    Distinct bus' := by
  have hmap : ∀ bus : Bus, bus.map (·.rom) = (bus.map (·.toDevice)).map (·.rom) := by
    intro bus
    rw [List.map_map]
    rfl
  rw [Distinct, hmap, h, ← hmap]
  exact hd

theorem SameDevices.mem {bus' : Bus} (h : SameDevices bus bus') (hd : ∃ s ∈ bus, s.toDevice = d) :
    ∃ s ∈ bus', s.toDevice = d := by
  have hmem : d ∈ bus.map (·.toDevice) := List.mem_map.mpr hd
  rw [← h] at hmem
  exact List.mem_map.mp hmem

theorem sameDevices_speaking {p : Slave → Prop} [DecidablePred p] {bits : List Bool} :
    SameDevices bus (speaking bus p bits) := by
  rw [SameDevices, speaking, List.map_map]
  apply List.map_congr_left
  intro s _
  dsimp only [Function.comp_apply]
  split <;> rfl

/-- The bytes of a sensor that alone has been selected. -/
theorem readBytes_speaking {p : Slave → Prop} [DecidablePred p] (xs : List Byte) (rest : List Bool)
    (h : ∃ s ∈ bus, p s) : readBytes xs.length (speaking bus p (xs.flatMap (bits 8) ++ rest)) =
      (speaking bus p rest, xs) := by
  induction xs with
  | nil => rfl
  | cons x xs ih =>
    rw [List.length_cons, readBytes, List.flatMap_cons, List.append_assoc, read_speaking h]
    dsimp only
    rw [ih]

/-- The sensor with the address answers a function command, the others are silent. -/
theorem write_select (command : Byte) (answer : Device → List Bool) (hbus : Distinct bus)
    (hd : ∃ s ∈ bus, s.toDevice = d)
    (h : ∀ s : Slave, s.functionCommand (bits 8 command) = s.enter (.sending (answer s.toDevice))) :
    write (select (reset bus).1 d.rom) command = speaking bus (fun s => s.rom = d.rom) (answer d) := by
  obtain ⟨t, ht, rfl⟩ := hd
  rw [select_reset t.rom_length, write_function (fun s => s.rom = t.rom), speaking]
  apply List.map_congr_left
  intro s hs
  split
  · rename_i hrom
    rw [hbus.eq hs ht hrom, h]
  · rfl

theorem exists_rom (hd : ∃ s ∈ bus, s.toDevice = d) : ∃ s ∈ bus, s.rom = d.rom := by
  obtain ⟨s, hs, rfl⟩ := hd
  exact ⟨s, hs, rfl⟩

theorem reset_present (hd : ∃ s ∈ bus, s.toDevice = d) : (reset bus).2 = true := by
  obtain ⟨s, hs, -⟩ := hd
  cases bus with
  | nil => cases hs
  | cons t bus => rfl

theorem readScratchPad_eq (hbus : Distinct bus) (hd : ∃ s ∈ bus, s.toDevice = d) :
    (readScratchPad bus d.rom).2 = (d.scratchpad, true) ∧
      SameDevices bus (readScratchPad bus d.rom).1 := by
  have hwrite := write_select readScratch (fun d => d.scratchpad.flatMap (bits 8)) hbus hd (fun _ => by rw [functionCommand, if_neg (by decide), if_pos rfl])
  have hread := readBytes_speaking d.scratchpad [] (exists_rom hd)
  rw [List.append_nil, d.scratchpad_length] at hread
  have hpresent : reset bus = ((reset bus).1, true) := by rw [← reset_present hd]
  have hsame : SameDevices bus (speaking bus (fun s => s.rom = d.rom) []) := sameDevices_speaking
  rw [readScratchPad, hpresent]
  dsimp only
  rw [hwrite, hread]
  dsimp only
  exact ⟨by rw [reset_present (hsame.mem hd)], hsame.trans sameDevices_reset⟩

/-- The check of the scratchpad is right. -/
def Device.Intact (d : Device) : Prop := Checked d.scratchpad

instance (d : Device) : Decidable d.Intact := inferInstanceAs (Decidable (Checked _))

theorem intact_iff : crc8 (d.scratchpad.take 8) = d.scratchpad.getD 8 0#8 ↔ d.Intact :=
  crc8_take_iff d.scratchpad_length

theorem validAddress_iff : validAddress d.rom = true ↔ Checked d.rom :=
  decide_eq_true_iff.trans (crc8_take_iff d.rom_length)

theorem isConnected_eq (hbus : Distinct bus) (hd : ∃ s ∈ bus, s.toDevice = d) :
    (isConnected bus d.rom).2 = (if d.Intact then some d.scratchpad else none) ∧
      SameDevices bus (isConnected bus d.rom).1 := by
  obtain ⟨hread, hsame⟩ := readScratchPad_eq hbus hd
  rw [isConnected]
  rcases hr : readScratchPad bus d.rom with ⟨bus', scratchPad, b⟩
  rw [hr] at hread hsame
  obtain ⟨rfl, rfl⟩ := Prod.mk.inj hread
  refine ⟨?_, hsame⟩
  dsimp only
  rw [if_congr ((and_iff_right rfl).trans intact_iff) rfl rfl]

/-- The temperature that a sensor shows. -/
def Device.tempC (d : Device) : Single :=
  if d.Intact then rawToCelsius (calculateTemperature d.rom d.scratchpad) else deviceDisconnectedC

theorem getTempC_eq (hbus : Distinct bus) (hd : ∃ s ∈ bus, s.toDevice = d) :
    (getTempC bus d.rom).2 = d.tempC ∧ SameDevices bus (getTempC bus d.rom).1 := by
  obtain ⟨hread, hsame⟩ := isConnected_eq hbus hd
  rw [getTempC, getTemp, Device.tempC]
  rcases hr : isConnected bus d.rom with ⟨bus', scratchPad⟩
  rw [hr] at hread hsame
  dsimp only at hread hsame
  rw [hread]
  by_cases hintact : d.Intact
  · rw [if_pos hintact, if_pos hintact]
    exact ⟨rfl, hsame⟩
  · rw [if_neg hintact, if_neg hintact]
    refine ⟨?_, hsame⟩
    show rawToCelsius deviceDisconnectedRaw = deviceDisconnectedC
    exact if_pos (le_refl deviceDisconnectedRaw.toInt)

/-! ### Finding a sensor -/

theorem getAddressLoop_eq {index depth fuel : ℕ}
    (hdue : BitTrie.Due 64 (addresses bus) w.memory depth) (hrom : w.romNo.length = 8)
    (hfamily : ∀ s ∈ bus, s.rom.getD 0 0#8 ≠ 0#8) (hfuel : depth + fuel = index + 1) (hle : depth ≤ index) :
    (getAddressLoop index fuel depth w bus).2.2 =
        ((inOrder bus)[index]?.map (·.rom)).filter (validAddress ·) ∧
      SameDevices bus (getAddressLoop index fuel depth w bus).2.1 := by
  induction fuel generalizing depth w bus with
  | zero => omega
  | succ fuel ih =>
    obtain ⟨hresult, hdue', hlen, hsame⟩ := search_due hdue hrom hfamily
    rw [getAddressLoop, if_pos hle]
    rcases hr : search w bus with ⟨w', bus', result⟩
    rw [hr] at hresult hdue' hlen hsame
    dsimp only at hresult hdue' hlen hsame
    cases hd : (inOrder bus)[depth]? with
    | none =>
      rw [hd] at hresult
      subst hresult
      have hend := List.getElem?_eq_none_iff.mp hd
      rw [List.getElem?_eq_none (by omega)]
      exact ⟨rfl, hsame⟩
    | some d =>
      rw [hd] at hresult
      subst hresult
      have hlt := (List.getElem?_eq_some_iff.mp hd).1
      rw [if_pos hlt] at hdue'
      dsimp only [Option.map_some]
      by_cases hindex : depth = index
      · subst hindex
        rw [hd, Option.map_some, Option.filter_some]
        by_cases hvalid : validAddress d.rom = true
        · rw [if_pos ⟨rfl, hvalid⟩, if_pos hvalid]
          exact ⟨rfl, hsame⟩
        · rw [if_neg (fun h => hvalid h.2), if_neg hvalid]
          obtain rfl : fuel = 0 := by omega
          exact ⟨rfl, hsame⟩
      · rw [if_neg (fun h => hindex h.1)]
        obtain ⟨hfound, hsame'⟩ := ih hdue' hlen
          (hsame.forall_mem (P := fun d => d.rom.getD 0 0#8 ≠ 0#8) hfamily) (by omega) (by omega)
        rw [hfound, hsame.inOrder_eq]
        exact ⟨rfl, hsame.trans hsame'⟩

theorem getAddress_eq (index : ℕ) (hfamily : ∀ s ∈ bus, s.rom.getD 0 0#8 ≠ 0#8) :
    (getAddress index bus).2.2 = ((inOrder bus)[index]?.map (·.rom)).filter (validAddress ·) ∧
      SameDevices bus (getAddress index bus).2.1 :=
  getAddressLoop_eq due_resetSearch (List.length_replicate) hfamily (Nat.zero_add (index + 1))
    (Nat.zero_le index)

/-- What the library makes of the sensor at an index: nothing stands there, its address is damaged,
or its temperature. -/
def shown (bus : Bus) (index : ℕ) : Single :=
  ((inOrder bus)[index]?.filter fun d => validAddress d.rom).elim deviceDisconnectedC Device.tempC

theorem getTempCByIndex_eq (index : ℕ) (hfamily : ∀ s ∈ bus, s.rom.getD 0 0#8 ≠ 0#8) (hbus : Distinct bus) :
    (getTempCByIndex index bus).2 = shown bus index ∧
      SameDevices bus (getTempCByIndex index bus).1 := by
  obtain ⟨hfound, hsame⟩ := getAddress_eq index hfamily
  unfold getTempCByIndex shown
  rcases hr : getAddress index bus with ⟨w', bus', result⟩
  rw [hr] at hfound hsame
  dsimp only at hfound hsame
  cases hd : (inOrder bus)[index]? with
  | none =>
    rw [hd] at hfound
    subst hfound
    exact ⟨rfl, hsame⟩
  | some d =>
    rw [hd, Option.map_some, Option.filter_some] at hfound
    rw [Option.filter_some]
    by_cases hvalid : validAddress d.rom = true
    · rw [if_pos hvalid] at hfound ⊢
      subst hfound
      have hmem := hsame.mem ((inOrder_spec bus).1 d (List.mem_of_getElem? hd))
      obtain ⟨htemp, hsame'⟩ := getTempC_eq (hsame.distinct hbus) hmem
      exact ⟨htemp, hsame.trans hsame'⟩
    · rw [if_neg hvalid] at hfound ⊢
      subst hfound
      exact ⟨rfl, hsame⟩

/-- A reading that differs a little from the scratchpad of a sensor is not taken for another
temperature: it is found out, or it is the same. -/
theorem getTempCByIndex_garbled (index : ℕ) (bus : Bus) (hfamily : ∀ s ∈ bus, s.rom.getD 0 0#8 ≠ 0#8)
    (hbus : Distinct bus) (hd : (inOrder bus)[index]? = some d) (scratchpad : List Byte)
    (hlen : scratchpad.length = 9) (hcheck : crc8 (scratchpad.take 8) = scratchpad.getD 8 0#8)
    (hnear : Near 8 (scratchpad.flatMap (bits 8)) (d.scratchpad.flatMap (bits 8))) :
    (getTempCByIndex index bus).2 = deviceDisconnectedC ∨
      (getTempCByIndex index bus).2 = rawToCelsius (calculateTemperature d.rom scratchpad) := by
  rw [(getTempCByIndex_eq index hfamily hbus).1, shown, hd, Option.filter_some]
  split
  · rw [Option.elim_some, Device.tempC]
    split
    · rename_i hintact
      refine .inr ?_
      rw [eq_take_append hlen, eq_take_append d.scratchpad_length] at hnear
      have hsame := eq_of_crc8 hnear (by simp [hlen]) hcheck (intact_iff.mpr hintact)
      rw [← eq_take_append hlen, ← eq_take_append d.scratchpad_length] at hsame
      rw [hsame]
    · exact .inl rfl
  · exact .inl rfl

/-- A sensor whose eighty-five degrees have lost a bit on the way. -/
def garbledSensor : Slave :=
  ⟨⟨[0x22#8, 0x11#8, 0x22#8, 0x33#8, 0x44#8, 0x05#8, 0x00#8, 0x12#8],
      [0x50#8, 0x01#8, 0x4b#8, 0x46#8, 0x7f#8, 0xff#8, 0x0c#8, 0x10#8, 0x1c#8],
      [0x51#8, 0x05#8, 0x4b#8, 0x46#8, 0x7f#8, 0xff#8, 0x0c#8, 0x10#8, 0x5f#8], false, 750, none,
      rfl, rfl, rfl⟩,
    .idle⟩

theorem getTempCByIndex_garbled_one : (getTempCByIndex 0 [garbledSensor]).2 = deviceDisconnectedC ∨
    (getTempCByIndex 0 [garbledSensor]).2 = rawToCelsius (calculateTemperature garbledSensor.rom
      [0x50#8, 0x05#8, 0x4b#8, 0x46#8, 0x7f#8, 0xff#8, 0x0c#8, 0x10#8, 0x1c#8]) := by
  have hfamily : ∀ s ∈ [garbledSensor], s.rom.getD 0 0#8 ≠ 0#8 := by decide
  have hd : (inOrder [garbledSensor])[0]? = some garbledSensor.toDevice := by decide +kernel
  exact getTempCByIndex_garbled 0 [garbledSensor] hfamily (List.nodup_singleton _) hd _ rfl
    (by decide +kernel) (.few rfl (by decide +kernel))

/-! ### Values -/

/-- The temperature register: the two lowest bytes of the scratchpad. -/
def Device.register (d : Device) : BitVec 16 := d.scratchpad.getD 1 0#8 ++ d.scratchpad.getD 0 0#8

/-- Sixteenths of a degree, in the range of the sensors. -/
theorem calculateTemperature_toInt (hmodel : d.rom.getD 0 0#8 ≠ ds18s20Model)
    (hlow : -4096 ≤ d.register.toInt) (hhigh : d.register.toInt < 4096) :
    (calculateTemperature d.rom d.scratchpad).toInt = 8 * d.register.toInt := by
  have hshift : calculateTemperature d.rom d.scratchpad = d.register <<< 3 := by
    rw [calculateTemperature, if_neg hmodel, Device.register]
    generalize d.scratchpad.getD 1 0#8 = msb
    generalize d.scratchpad.getD 0 0#8 = lsb
    apply BitVec.eq_of_getLsbD_eq
    intro i hi
    simp only [BitVec.getLsbD_or, BitVec.getLsbD_shiftLeft, BitVec.getLsbD_setWidth, BitVec.getLsbD_append]
    have hsplit : i < 3 ∨ 3 ≤ i ∧ i < 11 ∨ 11 ≤ i := by omega
    rcases hsplit with h | ⟨h, h'⟩ | h
    · simp [h, show i < 11 by omega]
    · simp [h', show ¬ i < 3 by omega, show i - 3 < 8 by omega, hi, show i - 3 < 16 by omega]
    · have hnone : lsb.getLsbD (i - 3) = false := BitVec.getLsbD_of_ge _ _ (by omega)
      simp [show ¬ i < 3 by omega, show ¬ i < 11 by omega, show ¬ i - 3 < 8 by omega, hi, hnone,
        show i - 3 - 8 = i - 11 by omega, show i - 11 < 16 by omega]
  have hregister := BitVec.toInt_eq_toNat_cond d.register
  have hshifted := BitVec.toInt_eq_toNat_cond (d.register <<< 3)
  have hlt := d.register.isLt
  rw [BitVec.toNat_shiftLeft, Nat.shiftLeft_eq] at hshifted
  rw [hshift, hshifted]
  rw [hregister] at hlow hhigh ⊢
  split at hlow <;> split <;> omega

/-- A raw temperature is exact as a `float`. -/
theorem rawToCelsius_eq {raw : BitVec 16} (h : -7040 < raw.toInt) :
    rawToCelsius raw = .finite (raw.toInt / 128) := by
  have hlt : raw.toInt < 32768 := BitVec.toInt_lt
  have hdisconnected : ¬ raw.toInt ≤ deviceDisconnectedRaw.toInt := by
    have hraw : deviceDisconnectedRaw.toInt = -7040 := by decide
    omega
  have hsmall : |raw.toInt| < 2 ^ 24 := by
    rw [abs_lt]
    constructor <;> omega
  have hdyadic : (raw.toInt : ℚ) * (1 / 128) = raw.toInt * 2 ^ (-7 : ℤ) := by norm_num
  have hquotient : (raw.toInt : ℚ) * 2 ^ (-7 : ℤ) = raw.toInt / 128 := by
    rw [← hdyadic]
    ring
  rw [rawToCelsius, if_neg hdisconnected, Single.ofRat_intCast hsmall, Single.mul, hdyadic,
    Single.ofRat_dyadic hsmall (by norm_num) (by norm_num), hquotient]

/-- A sensor with a right check shows its register in sixteenths of a degree. -/
theorem tempC_eq (hmodel : d.rom.getD 0 0#8 ≠ ds18s20Model) (hintact : d.Intact)
    (hlow : -880 < d.register.toInt) (hhigh : d.register.toInt < 4096) :
    d.tempC = .finite (d.register.toInt / 16) := by
  have hraw := calculateTemperature_toInt hmodel (by omega) hhigh
  rw [Device.tempC, if_pos hintact, rawToCelsius_eq (by omega), hraw]
  congr 1
  push_cast
  ring

/-- The older sensors: half degrees, refined by a count. The comment beside the code wants a quarter
of a degree subtracted, the code subtracts an eighth. -/
theorem calculateTemperature_legacy (hmodel : d.rom.getD 0 0#8 = ds18s20Model)
    (hcount : d.scratchpad.getD 7 0#8 = 16#8) (hremain : (d.scratchpad.getD 6 0#8).toNat ≤ 16)
    (hlow : -110 ≤ d.register.toInt) (hhigh : d.register.toInt ≤ 250) :
    ((calculateTemperature d.rom d.scratchpad).toInt : ℚ) / 128 =
      ((d.register.toInt / 2 : ℤ) - 1 / 4 + (16 - (d.scratchpad.getD 6 0#8).toNat) / 16) + 1 / 8 := by
  generalize hr : (d.scratchpad.getD 6 0#8).toNat = r at hremain
  have hquotient : ((((16#8).toNat : ℤ) - r) * 128).tdiv ((16#8).toNat : ℤ) = 8 * (16 - r) := by
    have h16 : ((16#8).toNat : ℤ) = 16 := rfl
    rw [h16, show ((16 : ℤ) - r) * 128 = 16 * (8 * (16 - r)) by ring, Int.mul_tdiv_cancel_left _ (by decide)]
  have hshift : ((((d.scratchpad.getD 1 0#8).setWidth 16 <<< 11) |||
      ((d.scratchpad.getD 0 0#8).setWidth 16 <<< 3)) &&& 0xfff0#16) <<< 3 = (d.register >>> 1) <<< 7 := by
    rw [Device.register]
    generalize d.scratchpad.getD 1 0#8 = msb
    generalize d.scratchpad.getD 0 0#8 = lsb
    have hmask : ∀ j : ℕ, j < 16 → (0xfff0#16).getLsbD j = decide (4 ≤ j) := by decide
    apply BitVec.eq_of_getLsbD_eq
    intro i hi
    simp only [BitVec.getLsbD_shiftLeft, BitVec.getLsbD_and, BitVec.getLsbD_or, BitVec.getLsbD_setWidth,
      BitVec.getLsbD_ushiftRight, BitVec.getLsbD_append]
    by_cases h7 : i < 7
    · by_cases h3 : i < 3
      · simp [h3, h7]
      · simp [h7, hmask (i - 3) (by omega), show ¬ 4 ≤ i - 3 by omega]
    · rw [hmask (i - 3) (by omega), show 1 + (i - 7) = i - 6 by omega]
      by_cases h14 : i < 14
      · simp [h7, hi, show ¬ i < 3 by omega, show i - 3 < 11 by omega, show 4 ≤ i - 3 by omega,
          show i - 6 < 8 by omega, show ¬ i - 3 < 3 by omega, show i - 3 - 3 = i - 6 by omega,
          show i - 6 < 16 by omega, show i - 3 < 16 by omega]
      · have hnone : lsb.getLsbD (i - 6) = false := BitVec.getLsbD_of_ge _ _ (by omega)
        simp [h7, hi, show ¬ i < 3 by omega, show ¬ i - 3 < 11 by omega, show 4 ≤ i - 3 by omega,
          show ¬ i - 6 < 8 by omega, show i - 3 - 3 = i - 6 by omega, hnone,
          show i - 3 - 11 = i - 14 by omega, show i - 6 - 8 = i - 14 by omega,
          show i - 14 < 16 by omega, show i - 3 < 16 by omega]
  have hregister := BitVec.toInt_eq_toNat_cond d.register
  have hlt := d.register.isLt
  have hvalue : (calculateTemperature d.rom d.scratchpad).toInt = 128 * (d.register.toInt / 2) - 16 + 8 * (16 - r) := by
    rw [calculateTemperature, if_pos hmodel, hcount, hr]
    dsimp only
    rw [hquotient, hshift]
    have hsum := BitVec.toInt_eq_toNat_cond
      ((d.register >>> 1) <<< 7 - 16#16 + BitVec.ofInt 16 (8 * (16 - (r : ℤ))))
    rw [hsum]
    rw [BitVec.toNat_add, BitVec.toNat_sub, BitVec.toNat_ofInt, BitVec.toNat_shiftLeft,
      BitVec.toNat_ushiftRight, Nat.shiftLeft_eq, Nat.shiftRight_eq_div_pow, BitVec.toNat_ofNat]
    rw [hregister] at hlow hhigh ⊢
    split at hlow <;> split <;> omega
  rw [hvalue]
  push_cast
  ring

/-- Twenty-five degrees and a quarter. -/
theorem calculateTemperature_legacy_quarter : ∃ d : Device, d.register.toInt = 50 ∧
    ((calculateTemperature d.rom d.scratchpad).toInt : ℚ) / 128 =
      ((d.register.toInt / 2 : ℤ) - 1 / 4 + (16 - (d.scratchpad.getD 6 0#8).toNat) / 16) + 1 / 8 := by
  obtain ⟨d, hd⟩ : ∃ d : Device, d = ⟨0x10#8 :: List.replicate 7 0#8,
    [50#8, 0#8, 0#8, 0#8, 0#8, 0#8, 8#8, 16#8, 0#8], List.replicate 9 0#8, false, 750, none,
    rfl, rfl, rfl⟩ := ⟨_, rfl⟩
  have hregister : d.register.toInt = 50 := by
    rw [hd]
    decide
  refine ⟨d, hregister, calculateTemperature_legacy ?_ ?_ ?_ (by omega) (by omega)⟩
  all_goals
    rw [hd]
    decide

/-! ### Taking stock of the wire -/

/-- The resolution in bits that a sensor reports: two bits of its configuration, between others that
are fixed. -/
def Device.resolution (d : Device) : ℕ :=
  if d.rom.getD 0 0#8 = ds18s20Model then 12
  else if d.Intact ∧ d.scratchpad.getD 4 0#8 &&& 0x9f#8 = 0x1f#8 then
    9 + (d.scratchpad.getD 4 0#8 >>> 5).toNat
  else 0

theorem resolution_of_configuration (c : Byte) :
    (if c = temp12Bit then 12 else if c = temp11Bit then 11 else if c = temp10Bit then 10
      else if c = temp9Bit then 9 else 0) =
      if c &&& 0x9f#8 = 0x1f#8 then 9 + (c >>> 5).toNat else 0 := by
  revert c
  decide

/-- What `begin` makes of one sensor with a right address. -/
def Device.count (t : DallasTemperature) (d : Device) : DallasTemperature :=
  { t with
    parasite := t.parasite || d.parasite
    bitResolution := max t.bitResolution d.resolution
    devices := (t.devices + 1) % 256 }

def Device.enumerate (t : DallasTemperature) (d : Device) : DallasTemperature :=
  if validAddress d.rom then d.count t else t

theorem readPower_eq (hbus : Distinct bus) (hd : ∃ s ∈ bus, s.toDevice = d) :
    (readPower bus d.rom).2 = d.parasite ∧ SameDevices bus (readPower bus d.rom).1 := by
  have hwrite := write_select readPowerSupply (fun d => [!d.parasite]) hbus hd (fun _ => by rw [functionCommand, if_neg (by decide), if_neg (by decide), if_pos rfl])
  have hbit := @readBit_speaking bus [] _ _ (!d.parasite) (exists_rom hd)
  have hsame : SameDevices bus (speaking bus (fun s => s.rom = d.rom) []) := sameDevices_speaking
  rw [readPower]
  dsimp only
  rw [hwrite, hbit]
  exact ⟨Bool.not_not _, hsame.trans sameDevices_reset⟩

theorem getResolution_eq (hbus : Distinct bus) (hd : ∃ s ∈ bus, s.toDevice = d) :
    (getResolution bus d.rom).2 = d.resolution ∧ SameDevices bus (getResolution bus d.rom).1 := by
  obtain ⟨hread, hsame⟩ := isConnected_eq hbus hd
  rw [getResolution, Device.resolution]
  split
  · exact ⟨rfl, rfl⟩
  · rcases hr : isConnected bus d.rom with ⟨bus', scratchPad⟩
    rw [hr] at hread hsame
    dsimp only at hread hsame
    rw [hread]
    by_cases hintact : d.Intact
    · rw [if_pos hintact, if_congr (and_iff_right hintact) rfl rfl]
      exact ⟨resolution_of_configuration _, hsame⟩
    · rw [if_neg hintact, if_neg fun h => hintact h.1]
      exact ⟨rfl, hsame⟩

theorem takeStock_eq {t : DallasTemperature} (hbus : Distinct bus) (hd : ∃ s ∈ bus, s.toDevice = d) :
    (takeStock t bus d.rom).1 = d.count t ∧
      SameDevices bus (takeStock t bus d.rom).2 := by
  obtain ⟨bus₁, hbus₁, hsame₁⟩ : ∃ bus₁, (if t.parasite then (bus, true) else readPower bus d.rom) =
      (bus₁, t.parasite || d.parasite) ∧ SameDevices bus bus₁ := by
    cases hp : t.parasite with
    | true => exact ⟨bus, rfl, rfl⟩
    | false =>
      obtain ⟨hpower, hsame⟩ := readPower_eq hbus hd
      exact ⟨_, Prod.ext rfl hpower, hsame⟩
  obtain ⟨-, hsame₂⟩ := readScratchPad_eq (hsame₁.distinct hbus) (hsame₁.mem hd)
  have hsame₂ := hsame₁.trans hsame₂
  obtain ⟨hresolution, hsame₃⟩ := getResolution_eq (hsame₂.distinct hbus) (hsame₂.mem hd)
  rw [takeStock, hbus₁]
  dsimp only
  rw [hresolution]
  exact ⟨rfl, hsame₂.trans hsame₃⟩

/-- The loop of `begin` takes in the sensors that are still to come. -/
theorem beginLoop_eq {t : DallasTemperature} {fuel : ℕ}
    (hdue : BitTrie.Due 64 (addresses bus) w.memory k) (hrom : w.romNo.length = 8)
    (hfamily : ∀ s ∈ bus, s.rom.getD 0 0#8 ≠ 0#8) (hbus : Distinct bus) (hk : k ≤ (inOrder bus).length)
    (hfuel : (inOrder bus).length < k + fuel) :
    (beginLoop fuel t w bus).1 = ((inOrder bus).drop k).foldl Device.enumerate t ∧
      SameDevices bus (beginLoop fuel t w bus).2.2 := by
  induction fuel generalizing k t w bus with
  | zero => omega
  | succ fuel ih =>
    obtain ⟨hresult, hdue', hlen, hsame⟩ := search_due hdue hrom hfamily
    rw [beginLoop]
    rcases hr : search w bus with ⟨w₁, bus₁, result⟩
    rw [hr] at hresult hdue' hlen hsame
    dsimp only at hresult hdue' hlen hsame
    cases hd : (inOrder bus)[k]? with
    | none =>
      rw [hd] at hresult
      subst hresult
      rw [List.drop_of_length_le (List.getElem?_eq_none_iff.mp hd)]
      exact ⟨rfl, hsame⟩
    | some d =>
      rw [hd] at hresult
      subst hresult
      obtain ⟨hlt, hget⟩ := List.getElem?_eq_some_iff.mp hd
      have hdrop : (inOrder bus).drop k = d :: (inOrder bus).drop (k + 1) := by
        rw [List.drop_eq_getElem_cons hlt, hget]
      rw [if_pos hlt] at hdue'
      -- Whatever the pass does on the wire, the devices stay and the search goes on.
      have hgo : ∀ t₂ bus₂, SameDevices bus bus₂ →
          (beginLoop fuel t₂ w₁ bus₂).1 = ((inOrder bus).drop (k + 1)).foldl Device.enumerate t₂ ∧
            SameDevices bus (beginLoop fuel t₂ w₁ bus₂).2.2 := by
        intro t₂ bus₂ hsame₂
        have hdue₂ : BitTrie.Due 64 (addresses bus₂) w₁.memory (k + 1) := by
          rw [hsame₂.addresses_eq, ← hsame.addresses_eq]
          exact hdue'
        have hnext := ih (t := t₂) hdue₂ hlen
          (hsame₂.forall_mem (P := fun d => d.rom.getD 0 0#8 ≠ 0#8) hfamily) (hsame₂.distinct hbus)
          (by rw [hsame₂.inOrder_eq]; omega) (by rw [hsame₂.inOrder_eq]; omega)
        rw [hsame₂.inOrder_eq] at hnext
        exact ⟨hnext.1, hsame₂.trans hnext.2⟩
      rw [hdrop, List.foldl_cons, Device.enumerate]
      dsimp only [Option.map_some]
      by_cases hvalid : validAddress d.rom = true
      · have hmem := hsame.mem ((inOrder_spec bus).1 d (List.mem_of_getElem? hd))
        obtain ⟨hstock, hsame₂⟩ := takeStock_eq (t := t) (hsame.distinct hbus) hmem
        rw [if_pos hvalid, if_pos hvalid, ← hstock]
        exact hgo _ _ (hsame.trans hsame₂)
      · rw [if_neg hvalid, if_neg hvalid]
        exact hgo t bus₁ hsame

/-- With room for one pass more than there are sensors, the loop of `begin` comes to its end. -/
theorem begin_eq (fuel : ℕ) (t : DallasTemperature) (hfamily : ∀ s ∈ bus, s.rom.getD 0 0#8 ≠ 0#8)
    (hbus : Distinct bus) (hfuel : (inOrder bus).length < fuel) :
    (begin fuel t bus).1 = (inOrder bus).foldl Device.enumerate { t with devices := 0 } ∧
      SameDevices bus (begin fuel t bus).2.2 := by
  have hfuel' : (inOrder bus).length < 0 + fuel := by omega
  have h := beginLoop_eq (t := { t with devices := 0 }) (@due_resetSearch bus)
    List.length_replicate hfamily hbus (Nat.zero_le _) hfuel'
  rwa [List.drop_zero] at h

/-- The sensors whose address can be right, each of them once. -/
def sensors (bus : Bus) : List Device := (inOrder bus).filter fun d => Checked d.rom

theorem foldl_enumerate (t : DallasTemperature) (ds : List Device) :
    ds.foldl Device.enumerate t =
      (ds.filter fun d => validAddress d.rom).foldl Device.count t := by
  induction ds generalizing t with
  | nil => rfl
  | cons d ds ih =>
    rw [List.foldl_cons, ih, List.filter_cons, Device.enumerate]
    split <;> rfl

theorem foldl_count (t : DallasTemperature) (ds : List Device) (ht : t.devices < 256) :
    ∃ r, r = ds.foldl Device.count t ∧ r.waitForConversion = t.waitForConversion ∧
      r.devices = (t.devices + ds.length) % 256 ∧
      (r.parasite = true ↔ t.parasite = true ∨ ∃ d ∈ ds, d.parasite = true) ∧
      t.bitResolution ≤ r.bitResolution ∧ (∀ d ∈ ds, d.resolution ≤ r.bitResolution) ∧
      (r.bitResolution = t.bitResolution ∨ ∃ d ∈ ds, r.bitResolution = d.resolution) := by
  induction ds generalizing t with
  | nil => exact ⟨t, rfl, rfl, (Nat.mod_eq_of_lt ht).symm, by simp⟩
  | cons d ds ih =>
    obtain ⟨r, hr, hwait, hdevices, hparasite, hle, hall, hone⟩ :=
      ih (d.count t) (Nat.mod_lt _ (by decide))
    refine ⟨r, hr, hwait, ?_, ?_, ?_, ?_, ?_⟩
    · rw [hdevices, List.length_cons, Device.count]
      dsimp only
      omega
    · rw [hparasite, Device.count, Bool.or_eq_true, List.exists_mem_cons_iff, or_assoc]
    · exact (le_max_left _ _).trans hle
    · intro e he
      rcases List.mem_cons.mp he with rfl | he
      · exact (le_max_right _ _).trans hle
      · exact hall e he
    · rcases hone with hone | ⟨e, he, hone⟩
      · rcases max_cases t.bitResolution d.resolution with ⟨hmax, -⟩ | ⟨hmax, -⟩
        · exact .inl (hone.trans hmax)
        · exact .inr ⟨d, List.mem_cons_self, hone.trans hmax⟩
      · exact .inr ⟨e, List.mem_cons_of_mem _ he, hone⟩

/-- The milliseconds that a conversion may take: 750 for twelve bits, and half as long for each bit less,
rounded up. -/
def conversionLimit (resolution : ℕ) : ℕ := (750 + 2 ^ (12 - resolution) - 1) / 2 ^ (12 - resolution)

/-- The time that is waited for a resolution is enough for every lower one. -/
theorem conversionLimit_le {r r' : ℕ} (hr : 9 ≤ r) (h : r ≤ r') :
    conversionLimit r ≤ millisToWaitForConversion r' := by
  obtain rfl | rfl | rfl | hmax : r = 9 ∨ r = 10 ∨ r = 11 ∨ 12 ≤ r := by omega
  · unfold millisToWaitForConversion
    split_ifs <;> decide
  · rw [millisToWaitForConversion, if_neg (by omega)]
    split_ifs <;> decide
  · rw [millisToWaitForConversion, if_neg (by omega), if_neg (by omega)]
    split_ifs <;> decide
  · rw [millisToWaitForConversion, if_neg (by omega), if_neg (by omega), if_neg (by omega),
      conversionLimit, Nat.sub_eq_zero_of_le hmax]
    norm_num

theorem resolution_pos_iff : 0 < d.resolution ↔ 9 ≤ d.resolution := by
  unfold Device.resolution
  split_ifs <;> omega

theorem begin_count (fuel : ℕ) (t : DallasTemperature) (hfamily : ∀ s ∈ bus, s.rom.getD 0 0#8 ≠ 0#8)
    (hbus : Distinct bus) (hfuel : (inOrder bus).length < fuel) :
    (begin fuel t bus).1 = (sensors bus).foldl Device.count { t with devices := 0 } := by
  have hvalid : (inOrder bus).filter (fun d => validAddress d.rom) = sensors bus := by
    refine List.filter_congr fun d _ => ?_
    rw [Bool.eq_iff_iff, decide_eq_true_iff]
    exact validAddress_iff
  rw [(begin_eq fuel t hfamily hbus hfuel).1, foldl_enumerate, hvalid]

/-- `begin` counts the sensors, finds out whether one of them takes its power from the data wire,
and makes later conversions wait long enough for each sensor whose resolution could be read. -/
theorem begin_spec (fuel : ℕ) (t : DallasTemperature) (bus : Bus)
    (hfamily : ∀ s ∈ bus, s.rom.getD 0 0#8 ≠ 0#8) (hbus : Distinct bus)
    (hfuel : (inOrder bus).length < fuel) :
    (begin fuel t bus).1.devices = (sensors bus).length % 256 ∧
      ((begin fuel t bus).1.parasite = true ↔
        t.parasite = true ∨ ∃ d ∈ sensors bus, d.parasite = true) ∧
      (∀ d ∈ sensors bus, 0 < d.resolution → conversionLimit d.resolution ≤
        millisToWaitForConversion (begin fuel t bus).1.bitResolution) ∧
      ((begin fuel t bus).1.bitResolution = t.bitResolution ∨
        ∃ d ∈ sensors bus, (begin fuel t bus).1.bitResolution = d.resolution) := by
  obtain ⟨r, hr, -, hdevices, hparasite, -, hall, hone⟩ :=
    foldl_count { t with devices := 0 } (sensors bus) (by decide : 0 < 256)
  rw [begin_count fuel t hfamily hbus hfuel, ← hr]
  refine ⟨?_, hparasite, ?_, hone⟩
  · rw [hdevices, Nat.zero_add]
  · intro d hd hpos
    exact conversionLimit_le (resolution_pos_iff.mp hpos) (hall d hd)

theorem begin_spec_two : (begin 3 setOneWire twoSensors).1.devices = 2 ∧
    (begin 3 setOneWire twoSensors).1.parasite = true := by
  have hfamily : ∀ s ∈ twoSensors, s.rom.getD 0 0#8 ≠ 0#8 := by decide
  have hbus : Distinct twoSensors := by
    unfold Distinct
    decide
  have hfuel : (inOrder twoSensors).length < 3 := by decide +kernel
  obtain ⟨hdevices, hparasite, -⟩ := begin_spec 3 setOneWire twoSensors hfamily hbus hfuel
  refine ⟨?_, hparasite.mpr (.inr ?_)⟩
  · rw [hdevices]
    decide +kernel
  · decide +kernel

/-! ### Conversions -/

variable {t : DallasTemperature}

/-- What a request makes of a sensor. -/
def Device.requested (t : DallasTemperature) (d : Device) : Device :=
  if t.waitForConversion then
    d.startConversion.elapse t.parasite (millisToWaitForConversion t.bitResolution)
  else d.startConversion

/-- With power and time enough for its conversion, a sensor shows what it has measured. -/
theorem requested_eq (hwait : t.waitForConversion = true) (hpower : d.parasite = true → t.parasite = true)
    (htime : d.conversionTime ≤ millisToWaitForConversion t.bitResolution) :
    d.requested t = d.convert := by
  have hpowered : ¬ (d.parasite = true ∧ t.parasite = false) := by
    rintro ⟨hd, ht⟩
    rw [hpower hd] at ht
    cases ht
  rw [Device.requested, if_pos hwait]
  exact (if_neg hpowered).trans (if_pos htime)

theorem rom_elapse (powered : Bool) (millis : ℕ) : (d.elapse powered millis).rom = d.rom := by
  unfold Device.elapse
  split
  · rfl
  · split
    · rfl
    · split
      · rfl
      · rfl

theorem rom_requested : (d.requested t).rom = d.rom := by
  rw [Device.requested]
  split
  · exact rom_elapse _ _
  · rfl

/-- All sensors are asked at once. -/
theorem requestTemperatures_devices (t : DallasTemperature) (bus : Bus) :
    (requestTemperatures t bus).map (·.toDevice) = bus.map fun s => s.toDevice.requested t := by
  have hskip : romCommand (bits 8 skipRom) = .selected [] := by decide
  have hall := @write_function bus (fun _ => True) _ startConvo
  simp only [if_true] at hall
  have hstart : ∀ s : Slave, (s.functionCommand (bits 8 startConvo)).toDevice =
      s.toDevice.startConversion := by
    intro s
    rw [functionCommand, if_pos rfl]
  unfold requestTemperatures blockTillConversionComplete delay
  rw [skip, reset, write_command, hskip, hall]
  unfold Device.requested
  cases t.waitForConversion with
  | true =>
    simp only [if_true, List.map_map]
    apply List.map_congr_left
    intro s _
    simp only [Function.comp_apply, hstart]
  | false =>
    simp only [Bool.false_eq_true, if_false, List.map_map]
    apply List.map_congr_left
    intro s _
    exact hstart s

theorem roms_requestTemperatures (t : DallasTemperature) (bus : Bus) :
    (requestTemperatures t bus).map (·.rom) = bus.map (·.rom) := by
  have hmap : ∀ bus : Bus, bus.map (·.rom) = (bus.map (·.toDevice)).map (·.rom) := by
    intro bus
    rw [List.map_map]
    rfl
  rw [hmap, requestTemperatures_devices, List.map_map]
  apply List.map_congr_left
  intro s _
  exact rom_requested

theorem addresses_of_roms {bus' : Bus} (h : bus'.map (·.rom) = bus.map (·.rom)) :
    addresses bus' = addresses bus := by
  have hmap : ∀ bus : Bus, addresses bus = (bus.map (·.rom)).map romBits := by
    intro bus
    rw [List.map_map]
    rfl
  rw [hmap, hmap, h]

theorem inOrder_requestTemperatures (t : DallasTemperature) (bus : Bus) :
    inOrder (requestTemperatures t bus) = (inOrder bus).map (Device.requested t) := by
  have hfind : ∀ a : List Bool,
      ((requestTemperatures t bus).find? fun s => romBits s.rom = a).map (·.toDevice) =
        ((bus.find? fun s => romBits s.rom = a).map (·.toDevice)).map (Device.requested t) := by
    intro a
    have hleft : ((requestTemperatures t bus).find? fun s => romBits s.rom = a).map (·.toDevice) =
        ((requestTemperatures t bus).map (·.toDevice)).find? fun d => romBits d.rom = a := by
      rw [List.find?_map]
      rfl
    have hsame : ((fun d : Device => decide (romBits d.rom = a)) ∘
        fun s : Slave => s.toDevice.requested t) = fun s : Slave => decide (romBits s.rom = a) := by
      funext s
      simp only [Function.comp_apply, rom_requested]
    rw [hleft, requestTemperatures_devices, List.find?_map, hsame, Option.map_map]
    rfl
  simp only [inOrder, addresses_of_roms (roms_requestTemperatures t bus), hfind]
  rw [List.map_filterMap]

theorem Distinct.of_roms {bus' : Bus} (h : Distinct bus) (hroms : bus'.map (·.rom) = bus.map (·.rom)) :
    Distinct bus' := by
  rwa [Distinct, hroms]

theorem family_of_roms {bus' : Bus} (h : ∀ s ∈ bus, s.rom.getD 0 0#8 ≠ 0#8)
    (hroms : bus'.map (·.rom) = bus.map (·.rom)) : ∀ s ∈ bus', s.rom.getD 0 0#8 ≠ 0#8 := by
  intro s hs
  have hmem : s.rom ∈ bus'.map (·.rom) := List.mem_map_of_mem hs
  rw [hroms] at hmem
  obtain ⟨t, ht, heq⟩ := List.mem_map.mp hmem
  rw [← heq]
  exact h t ht

/-- A conversion takes no longer than the data sheet says for the resolution, which could be read. -/
def Device.Timely (d : Device) : Prop :=
  9 ≤ d.resolution ∧ d.conversionTime ≤ conversionLimit d.resolution

instance (d : Device) : Decidable d.Timely := inferInstanceAs (Decidable (_ ∧ _))

/-- What `begin` has found out is enough for each timely sensor. -/
theorem begin_suffices {fuel : ℕ} (hfamily : ∀ s ∈ bus, s.rom.getD 0 0#8 ≠ 0#8) (hbus : Distinct bus)
    (hfuel : (inOrder bus).length < fuel) (hd : d ∈ sensors bus) (htimely : d.Timely) :
    (begin fuel setOneWire bus).1.waitForConversion = true ∧
      (d.parasite = true → (begin fuel setOneWire bus).1.parasite = true) ∧
      d.conversionTime ≤ millisToWaitForConversion (begin fuel setOneWire bus).1.bitResolution := by
  obtain ⟨r, hr, hwait, -, hparasite, -, hall, -⟩ :=
    foldl_count { setOneWire with devices := 0 } (sensors bus) (by decide : 0 < 256)
  rw [begin_count fuel setOneWire hfamily hbus hfuel, ← hr]
  refine ⟨hwait, fun hpower => hparasite.mpr (.inr ⟨d, hd, hpower⟩), ?_⟩
  exact htimely.2.trans (conversionLimit_le htimely.1 (hall d hd))

end Dallas
