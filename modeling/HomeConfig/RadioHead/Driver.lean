import HomeConfig.RadioHead.Crc

/-! The amplitude shift keying driver: what `send` puts into the transmit buffer, what the
timer interrupt does with it, and how the receiver finds bits, bytes and frames in the samples. -/
namespace RadioHead

open Arduino

def maxPayloadLen : ℕ := 67
def headerLen : ℕ := 4
def maxMessageLen : ℕ := maxPayloadLen - headerLen - 3
def preambleLen : ℕ := 8
def broadcastAddress : Byte := 0xff#8

def rxRampLen : ℕ := 160
def rampInc : ℕ := 20
def rampTransition : ℕ := 80
def rampIncRetard : ℕ := 11
def rampIncAdvance : ℕ := 29

def startSymbol : BitVec 16 := 0xb38#16

/-- The six bit symbols of the sixteen nibbles. -/
def symbols : List Byte :=
  [0x0d#8, 0x0e#8, 0x13#8, 0x15#8, 0x16#8, 0x19#8, 0x1a#8, 0x1c#8,
   0x23#8, 0x25#8, 0x26#8, 0x29#8, 0x2a#8, 0x2c#8, 0x32#8, 0x34#8]

def preamble : List Byte := [0x2a#8, 0x2a#8, 0x2a#8, 0x2a#8, 0x2a#8, 0x2a#8, 0x38#8, 0x2c#8]

inductive Mode where
  | initialising | sleep | idle | tx | rx
deriving DecidableEq, Repr

@[ext]
structure Header where
  headerTo : Byte
  headerFrom : Byte
  headerId : Byte
  headerFlags : Byte
deriving DecidableEq, Repr

/-- The software phase locked loop. -/
structure Pll where
  lastSample : Bool
  integrator : ℕ
  ramp : ℕ
deriving DecidableEq, Repr

structure Driver where
  mode : Mode
  thisAddress : Byte
  promiscuous : Bool
  txHeader : Header
  rxHeader : Header
  rxBad : BitVec 16
  rxGood : BitVec 16
  txGood : BitVec 16
  rxBufFull : Bool
  rxBufValid : Bool
  pll : Pll
  rxActive : Bool
  rxBits : BitVec 16
  rxBitCount : ℕ
  rxBuf : List Byte
  rxCount : Byte
  rxBufLen : ℕ
  txIndex : ℕ
  txBit : ℕ
  txSample : ℕ
  txBuf : List Byte
  txBufLen : ℕ
  txPin : Bool
  pttPin : Bool
deriving DecidableEq, Repr

namespace Driver

/-- The static object as its constructors leave it. -/
def constructed : Driver where
  mode := .initialising
  thisAddress := broadcastAddress
  promiscuous := false
  txHeader := ⟨broadcastAddress, broadcastAddress, 0#8, 0#8⟩
  rxHeader := ⟨0#8, 0#8, 0#8, 0#8⟩
  rxBad := 0#16
  rxGood := 0#16
  txGood := 0#16
  rxBufFull := false
  rxBufValid := false
  pll := ⟨false, 0, 0⟩
  rxActive := false
  rxBits := 0#16
  rxBitCount := 0
  rxBuf := List.replicate maxPayloadLen 0#8
  rxCount := 0#8
  rxBufLen := 0
  txIndex := 0
  txBit := 0
  txSample := 0
  txBuf := preamble ++ List.replicate (2 * maxPayloadLen) 0#8
  txBufLen := 0
  txPin := false
  pttPin := false

/-! ### Modes -/

def setModeIdle (d : Driver) : Driver :=
  if d.mode ≠ .idle then { d with pttPin := false, txPin := false, mode := .idle } else d

def setModeRx (d : Driver) : Driver :=
  if d.mode ≠ .rx then { d with pttPin := false, txPin := false, mode := .rx } else d

def setModeTx (d : Driver) : Driver :=
  if d.mode ≠ .tx then
    { d with txIndex := 0, txBit := 0, txSample := 0, pttPin := true, mode := .tx }
  else d

def init (d : Driver) : Driver := d.setModeIdle

/-! ### Sending -/

/-- Two symbols for a byte, high nibble first. -/
def encode (x : Byte) : List Byte :=
  [symbols.getD (x >>> 4).toNat 0#8, symbols.getD (x &&& 0xf#8).toNat 0#8]

/-- The bytes of a frame in front of the check. -/
def content (header : Header) (data : List Byte) : List Byte :=
  BitVec.ofNat 8 (data.length + 3 + headerLen) :: header.headerTo :: header.headerFrom ::
    header.headerId :: header.headerFlags :: data

/-- The check follows as its complement, low byte first. -/
def checkSymbols (crc : BitVec 16) : List Byte :=
  [symbols.getD ((crc >>> 4) &&& 0xf#16).toNat 0#8, symbols.getD (crc &&& 0xf#16).toNat 0#8,
   symbols.getD ((crc >>> 12) &&& 0xf#16).toNat 0#8, symbols.getD ((crc >>> 8) &&& 0xf#16).toNat 0#8]

/-- The message area of the transmit buffer. -/
def messageArea (header : Header) (data : List Byte) : List Byte :=
  (content header data).flatMap encode ++ checkSymbols (~~~ccitt (content header data))

/-- `send` after it has waited for the transmitter: nothing where it returns false. -/
def send (d : Driver) (data : List Byte) : Option Driver :=
  if data.length > maxMessageLen then none
  else
    let p := messageArea d.txHeader data
    let txBuf := d.txBuf.take preambleLen ++ p ++ d.txBuf.drop (preambleLen + p.length)
    some (setModeTx { d with txBuf, txBufLen := p.length + preambleLen })

def writeTx (d : Driver) (value : Bool) : Driver := { d with txPin := value }

def transmitTimer (d : Driver) : Driver :=
  let d :=
    if d.txSample = 0 then
      if d.txIndex ≥ d.txBufLen then { d.setModeIdle with txGood := d.txGood + 1#16 }
      else
        let d := d.writeTx ((d.txBuf.getD d.txIndex 0#8).getLsbD d.txBit)
        if d.txBit + 1 ≥ 6 then { d with txBit := 0, txIndex := d.txIndex + 1 }
        else { d with txBit := d.txBit + 1 }
    else d
  { d with txSample := if d.txSample + 1 > 7 then 0 else d.txSample + 1 }

/-! ### Receiving -/

/-- A linear search through the half of the table that the symbol can stand in. -/
def symbol6to4 (symbol : Byte) : Byte :=
  let start := ((symbol >>> 2) &&& 8#8).toNat
  match (List.range' start 8).find? fun i => symbol = symbols.getD i 0#8 with
  | some i => BitVec.ofNat 8 i
  | none => 0#8

end Driver

/-- One sample: the loop is advanced, and at the end of its ramp a bit is declared. -/
def Pll.sample (p : Pll) (rxSample : Bool) : Pll × Option Bool :=
  let integrator := if rxSample then p.integrator + 1 else p.integrator
  let ramp := p.ramp +
    if rxSample ≠ p.lastSample then
      if p.ramp < rampTransition then rampIncRetard else rampIncAdvance
    else rampInc
  if ramp ≥ rxRampLen then (⟨rxSample, 0, ramp - rxRampLen⟩, some (5 ≤ integrator))
  else (⟨rxSample, integrator, ramp⟩, none)

namespace Driver

/-- The last twelve bits, the latest one in the highest place. -/
def shiftBit (bits : BitVec 16) (bit : Bool) : BitVec 16 :=
  if bit then (bits >>> 1) ||| 0x800#16 else bits >>> 1

/-- Twelve bits of encoded message are one byte, the low symbol being its high nibble. -/
def decode (bits : BitVec 16) : Byte :=
  (symbol6to4 ((bits &&& 0x3f#16).setWidth 8) <<< 4) ||| symbol6to4 ((bits >>> 6).setWidth 8)

/-- What `receiveTimer` does with a decoded byte. -/
def takeByte (d : Driver) (thisByte : Byte) : Driver :=
  let d := if d.rxBufLen = 0 then { d with rxCount := thisByte } else d
  if d.rxBufLen = 0 ∧ (d.rxCount.toNat < 7 ∨ d.rxCount.toNat > maxPayloadLen) then
    { d with rxActive := false, rxBad := d.rxBad + 1#16 }
  else
    let d := { d with rxBuf := d.rxBuf.set d.rxBufLen thisByte, rxBufLen := d.rxBufLen + 1 }
    let d :=
      if d.rxBufLen ≥ d.rxCount.toNat then
        setModeIdle { d with rxActive := false, rxBufFull := true }
      else d
    { d with rxBitCount := 0 }

/-- What `receiveTimer` does with a bit. -/
def takeBit (d : Driver) (bit : Bool) : Driver :=
  let d := { d with rxBits := shiftBit d.rxBits bit }
  if d.rxActive then
    let d := { d with rxBitCount := d.rxBitCount + 1 }
    if d.rxBitCount ≥ 12 then d.takeByte (decode d.rxBits) else d
  else if d.rxBits = startSymbol then
    { d with rxActive := true, rxBitCount := 0, rxBufLen := 0 }
  else d

def receiveTimer (d : Driver) (rxSample : Bool) : Driver :=
  match d.pll.sample rxSample with
  | (pll, none) => { d with pll }
  | (pll, some bit) => { d with pll }.takeBit bit

def handleTimerInterrupt (d : Driver) (rxSample : Bool) : Driver :=
  if d.mode = .rx then d.receiveTimer rxSample
  else if d.mode = .tx then d.transmitTimer
  else d

def validateRxBuf (d : Driver) : Driver :=
  if ccitt (d.rxBuf.take d.rxBufLen) ≠ 0xf0b8#16 then
    { d with rxBad := d.rxBad + 1#16, rxBufValid := false }
  else
    let d := { d with rxHeader :=
      ⟨d.rxBuf.getD 1 0#8, d.rxBuf.getD 2 0#8, d.rxBuf.getD 3 0#8, d.rxBuf.getD 4 0#8⟩ }
    if d.promiscuous ∨ d.rxHeader.headerTo = d.thisAddress ∨ d.rxHeader.headerTo = broadcastAddress then
      { d with rxGood := d.rxGood + 1#16, rxBufValid := true }
    else d

/-- `available`, and whether it returns true. -/
def available (d : Driver) : Driver × Bool :=
  if d.mode = .tx then (d, false)
  else
    let d := d.setModeRx
    let d := if d.rxBufFull then { d.validateRxBuf with rxBufFull := false } else d
    (d, d.rxBufValid)

/-- `recv` into a buffer of the given length: nothing where it returns false. -/
def recv (d : Driver) (len : ℕ) : Driver × Option (List Byte) :=
  match d.available with
  | (d, false) => (d, none)
  | (d, true) =>
    let messageLen := (d.rxBufLen + 256 - headerLen - 3) % 256
    let len := min len messageLen
    ({ d with rxBufValid := false }, some ((d.rxBuf.drop (headerLen + 1)).take len))

end Driver

end RadioHead
