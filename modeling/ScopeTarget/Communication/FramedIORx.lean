import ScopeTarget.Base.Fifo
import ScopeTarget.Core.ScopeTypes

/-! The receiving half of FramedIO, check by check. A call sees the bytes from
`dataOffset` to the end of the array as one list. The flags the first five checks
return are ignored by their only caller and are left out. -/

namespace FramedIO

def lengthOfLengthField : Nat := 4
def lengthOfChecksumField : Nat := 2

/-- `'['` -/
def startByte : UInt8 := 0x5B
/-- `']'` -/
def endByte : UInt8 := 0x5D

inductive RxFramedIOState where
  | startFlag
  | type
  | length
  | data
  | checksum
  | endFlag
  deriving DecidableEq, Repr

/-- `rxExpectedLength` is a `uint32_t`, the two checksums are `uint16_t`. -/
structure Rx (cap : Nat) where
  input : Fifo cap UInt8
  rxDataReady : Bool
  rxExpectedLength : Nat
  rxType : MessageType
  rxStateByteCount : Nat
  rxChecksum : Nat
  rxChecksumCompare : Nat
  rxFramedIOState : RxFramedIOState
  deriving DecidableEq

variable {cap : Nat}

def resetRx (self : Rx cap) : Rx cap :=
  { self with
    input := .empty
    rxChecksum := 0
    rxDataReady := false
    rxExpectedLength := 0
    rxType := .seNone
    rxStateByteCount := 0
    rxChecksumCompare := 0
    rxFramedIOState := .startFlag }

/-- The receiver of a new FramedIO: `FramedIO_create` ends with `FramedIO_resetRx`. -/
def createRx : Rx cap :=
  { input := .empty
    rxDataReady := false
    rxExpectedLength := 0
    rxType := .seNone
    rxStateByteCount := 0
    rxChecksum := 0
    rxChecksumCompare := 0
    rxFramedIOState := .startFlag }

def checkStartFlag (self : Rx cap) (data : List UInt8) : Rx cap × List UInt8 :=
  if self.rxFramedIOState = .startFlag then
    match data.dropWhile (· ≠ startByte) with
    | [] => (self, [])
    | _ :: rest => ({ self with rxFramedIOState := .type }, rest)
  else (self, data)

def checkType (self : Rx cap) (data : List UInt8) : Rx cap × List UInt8 :=
  if self.rxFramedIOState = .type then
    match data with
    | [] => (self, [])
    | byte :: rest => ({ self with rxType := ⟨byte⟩, rxFramedIOState := .length }, rest)
  else (self, data)

/-- One length byte, most significant first. -/
def addLengthByte (self : Rx cap) (byte : UInt8) : Rx cap :=
  { self with
    rxExpectedLength := (self.rxExpectedLength +
      byte.toNat * 2 ^ ((lengthOfLengthField - self.rxStateByteCount - 1) * 8)) % 2 ^ 32
    rxStateByteCount := self.rxStateByteCount + 1 }

def readLength (self : Rx cap) : List UInt8 → Rx cap × List UInt8
  | [] => (self, [])
  | byte :: rest =>
      if self.rxStateByteCount < lengthOfLengthField then readLength (addLengthByte self byte) rest
      else (self, byte :: rest)

def checkLength (self : Rx cap) (data : List UInt8) : Rx cap × List UInt8 :=
  if self.rxFramedIOState = .length then
    let (self, data) := readLength self data
    if self.rxStateByteCount = lengthOfLengthField then
      ({ self with rxStateByteCount := 0, rxFramedIOState := .data }, data)
    else (self, data)
  else (self, data)

def addDataByte (self : Rx cap) (byte : UInt8) : Rx cap :=
  { self with
    rxChecksum := (self.rxChecksum + byte.toNat) % 2 ^ 16
    input := self.input.write [byte] }

/-- The loop compares what is stored with the announced length, so bytes of an
earlier payload that nobody has read yet count as bytes of this one. -/
def readData (self : Rx cap) : List UInt8 → Rx cap × List UInt8
  | [] => (self, [])
  | byte :: rest =>
      if self.input.used < self.rxExpectedLength then readData (addDataByte self byte) rest
      else (self, byte :: rest)

def checkData (self : Rx cap) (data : List UInt8) : Rx cap × List UInt8 :=
  if self.rxFramedIOState = .data then
    let (self, data) := readData self data
    if self.input.used = self.rxExpectedLength then
      ({ self with rxFramedIOState := .checksum }, data)
    else (self, data)
  else (self, data)

def addChecksumByte (self : Rx cap) (byte : UInt8) : Rx cap :=
  { self with
    rxChecksumCompare := (self.rxChecksumCompare +
      byte.toNat * 2 ^ ((lengthOfChecksumField - self.rxStateByteCount - 1) * 8)) % 2 ^ 16
    rxStateByteCount := self.rxStateByteCount + 1 }

def readChecksum (self : Rx cap) : List UInt8 → Rx cap × List UInt8
  | [] => (self, [])
  | byte :: rest =>
      if self.rxStateByteCount < lengthOfChecksumField then
        readChecksum (addChecksumByte self byte) rest
      else (self, byte :: rest)

/-- What follows the second checksum byte. -/
def compareChecksum (self : Rx cap) : Rx cap :=
  if self.rxChecksumCompare = self.rxChecksum then
    { self with
      rxStateByteCount := 0
      rxFramedIOState := .endFlag
      rxChecksumCompare := 0
      rxChecksum := 0 }
  else resetRx self

def checkChecksum (self : Rx cap) (data : List UInt8) : Rx cap × List UInt8 :=
  if self.rxFramedIOState = .checksum then
    let (self, data) := readChecksum self data
    if self.rxStateByteCount = lengthOfChecksumField then (compareChecksum self, data)
    else (self, data)
  else (self, data)

def acceptFrame (self : Rx cap) : Rx cap :=
  { self with rxFramedIOState := .startFlag, rxDataReady := true, rxExpectedLength := 0 }

def checkEndFlag (self : Rx cap) (data : List UInt8) : Rx cap × List UInt8 × Bool :=
  if self.rxFramedIOState = .endFlag then
    match data with
    | [] => (self, [], false)
    | byte :: rest =>
        if byte = endByte then (acceptFrame self, rest, true) else (resetRx self, rest, false)
  else (self, data, false)

/-- One pass of the do-while body of `FramedIO_putRxData`. -/
def checkAll (self : Rx cap) (data : List UInt8) : Rx cap × List UInt8 × Bool :=
  let pass := checkStartFlag self data
  let pass := checkType pass.1 pass.2
  let pass := checkLength pass.1 pass.2
  let pass := checkData pass.1 pass.2
  let pass := checkChecksum pass.1 pass.2
  checkEndFlag pass.1 pass.2

/-- The do-while loop; `none` when the fuel runs out before the data does. -/
def putLoop : Nat → Rx cap → List UInt8 → Bool → Option (Rx cap × Bool)
  | 0, _, _, _ => none
  | fuel + 1, self, data, frameValid =>
      let pass := checkAll self data
      let frameValid := pass.2.2 || frameValid
      if pass.2.1 = [] then some (pass.1, frameValid)
      else putLoop fuel pass.1 pass.2.1 frameValid

/-- `FramedIO_putRxData`; `none` is a call that never returns. The fuel is enough for
every call that does (`putLoop_eq_feed`), and `dataOffSet`, a `uint32_t`, never gets to
the end of an array of `2^32` bytes or more (`never_ends`). -/
def putRxData (self : Rx cap) (data : List UInt8) : Option (Rx cap × Bool) :=
  if self.rxDataReady then some (self, false)
  else if data.length < 2 ^ 32 then putLoop (data.length + 1) self data false
  else none

/-- The rx runnable, with the type it passes to the observer if it calls it. -/
def runRx (self : Rx cap) : Rx cap × Option MessageType :=
  if self.rxDataReady = false then (self, none)
  else ({ self with rxDataReady := false, rxType := .seNone }, some self.rxType)

end FramedIO
