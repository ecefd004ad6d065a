import HomeIoControl.Crypto
import HomeIoControl.DeviceModel
import HomeIoControl.Frame
import Mathlib.Tactic.Ring

namespace HomeIoControl

/-! ## Payload values -/

def positionPercentMax : UInt8 := 100
def posStop : UInt8 := 0xD2
def posUnknown : UInt8 := 0xD4
def posFavorite : UInt8 := 0xD8
def posVentModifier : UInt8 := 0x03
def statusTiltSelector : UInt8 := 0x20
def originatorUserRemote : UInt8 := 0x01
def executeAcei : UInt8 := 0x63
/-- Highest priority level, extended and valid bits. -/
def executeAceiForceOpen : UInt8 := 0x03
def executePositionLayoutFlag : UInt8 := 0x80
def executePositionProfile : UInt8 := 0x06
def privateGetPositionStatus : UInt8 := 0x02
def statusUpdateAckPayload : List UInt8 := [0x05, 0x00]
def setConfig1StatusBroadcastPayload : List UInt8 := [0xE0, 0x10, 0x0A, 0x08, 0x00]
def identifyParameter : UInt8 := 0xFF

def makePositionPayload (acei position : UInt8) : List UInt8 :=
  [originatorUserRemote, acei, 2 * position, 0x00, executePositionLayoutFlag, posFavorite,
    executePositionProfile, 0x00]

/-- The tilt as the device counts it, in two bytes. -/
def tiltValue (tiltPercent : UInt8) : UInt16 :=
  .ofInt (((100 - (tiltPercent.toNat : ℤ)) * statusPosMax.toNat).tdiv 100)

def makeTiltPayload (mainByte tiltPercent : UInt8) : List UInt8 :=
  let tilt := tiltValue tiltPercent
  [originatorUserRemote, executeAcei, mainByte, 0x00, statusTiltSelector, (tilt >>> 8).toUInt8,
    tilt.toUInt8, 0x00]

/-- A 2W frame between two nodes. -/
def buildFrame (start «end» lowPower : Bool) (src dst : NodeId) (cmd : UInt8)
    (params : List UInt8) : Option IoFrame :=
  setCmd (setSrc (setDst (initFrame true start «end» lowPower) dst) src) cmd params

/-! ## Movement -/

/-- A value that is no percentage is a special command with a shorter payload. -/
def createExecute (own dst : NodeId) (lowPower : Bool) (position : UInt8) : Option IoFrame :=
  let payload :=
    if position ≤ positionPercentMax then makePositionPayload executeAcei position
    else [originatorUserRemote, executeAcei, position, 0x00, 0x00, 0x00]
  buildFrame true false lowPower own dst cmdExecute payload

def createExecutePosition (own dst : NodeId) (lowPower : Bool) (position : UInt8) :
    Option IoFrame :=
  if position > positionPercentMax then none
  else
    buildFrame true false lowPower own dst cmdExecute (makePositionPayload executeAcei position)

/-- Force-open has a builder of its own. -/
def createExecuteCommand (own dst : NodeId) (lowPower : Bool) (cmd : CoverCommand) :
    Option IoFrame :=
  let special (mainByte modifierByte : UInt8) :=
    buildFrame true false lowPower own dst cmdExecute
      [originatorUserRemote, executeAcei, mainByte, modifierByte, 0x00, 0x00]
  match cmd with
  | .stop => special posStop 0x00
  | .favorite => special posFavorite 0x00
  | .vent => special posFavorite posVentModifier
  | .forceOpen => none

def createForceOpen (own dst : NodeId) (lowPower : Bool) (openPosition : UInt8) :
    Option IoFrame :=
  buildFrame true false lowPower own dst cmdExecute
    (makePositionPayload executeAceiForceOpen openPosition)

def createExecuteTilt (own dst : NodeId) (lowPower : Bool) (tiltPercent : UInt8) :
    Option IoFrame :=
  buildFrame true false lowPower own dst cmdExecute (makeTiltPayload posUnknown tiltPercent)

def createExecutePositionAndTilt (own dst : NodeId) (lowPower : Bool)
    (position tiltPercent : UInt8) : Option IoFrame :=
  if position > positionPercentMax then none
  else
    buildFrame true false lowPower own dst cmdExecute (makeTiltPayload (2 * position) tiltPercent)

/-! ## Status, names and configuration -/

def createGetStatus (own dst : NodeId) : Option IoFrame :=
  buildFrame true false true own dst cmdPrivate [privateGetPositionStatus, 0x00, 0x00]

def createGetStatusTilt (own dst : NodeId) : Option IoFrame :=
  buildFrame true false true own dst cmdPrivate
    [privateGetPositionStatus, statusTiltSelector, 0x01, 0x00]

def createGetName (own dst : NodeId) (lowPower : Bool) : Option IoFrame :=
  buildFrame true false lowPower own dst cmdGetName []

/-- The payload is a padded name of sixteen bytes. -/
def createSetName (own dst : NodeId) (payload : List UInt8) : Option IoFrame :=
  buildFrame true false true own dst cmdSetName payload

def createIdentify (own dst : NodeId) : Option IoFrame :=
  buildFrame true false true own dst cmdIdentify [originatorUserRemote, identifyParameter]

def createStatusUpdateResp (own dst : NodeId) : Option IoFrame :=
  buildFrame false true true own dst cmdStatusUpdateResp statusUpdateAckPayload

def createSetConfig1 (own dst : NodeId) : Option IoFrame :=
  buildFrame true false true own dst cmdSetConfig1 setConfig1StatusBroadcastPayload

/-! ## Authentication -/

/-- What an authentication code covers: the command and its payload. -/
def transcript (f : IoFrame) : List UInt8 := f.cmd :: f.payload

/-- The first six payload bytes, zero where the payload is shorter. -/
def hmacField (f : IoFrame) : Challenge := .ofFn fun i => f.data[i]

/-- The challenge is six bytes of hardware randomness. -/
def createChallengeReq (dst src : NodeId) (challenge : Challenge) : Option IoFrame :=
  buildFrame true false true src dst cmdChallengeReq challenge.toList

def createChallengeResp (dst src : NodeId) (challenge : Challenge) (origin : IoFrame)
    (key : AesKey) : Option IoFrame :=
  buildFrame false false true src dst cmdChallengeResp
    (createHmac (transcript origin) challenge key).toList

/-! ## Pairing -/

inductive DiscoveryCommand
  | discover
  | discoverSpe
  | discoverAlt
  deriving DecidableEq, Repr

def DiscoveryCommand.byte : DiscoveryCommand → UInt8
  | .discover => cmdDiscoverReq
  | .discoverSpe => cmdDiscoverSpeReq
  | .discoverAlt => cmdDiscoverAltReq

def broadcastDiscover : NodeId := #v[0x00, 0x00, 0x3B]
def broadcastDiscoverAlt : NodeId := #v[0x00, 0x00, 0x3F]

def resolveDiscoveryDestination (command : DiscoveryCommand) (destinationAuto : Bool)
    (destination : NodeId) : NodeId :=
  if !destinationAuto then destination
  else
    match command with
    | .discover | .discoverSpe => broadcastDiscover
    | .discoverAlt => broadcastDiscoverAlt

/-- Only the sub-device discovery uses the nonce, which is six bytes of hardware randomness. -/
def createDiscoveryRequest (own : NodeId) (command : DiscoveryCommand) (dst : NodeId)
    (lowPower payloadEnabled : Bool) (payload : UInt8) (systemKey : AesKey) (nonce : Challenge) :
    Option IoFrame :=
  let params :=
    match command with
    | .discover => []
    | .discoverSpe =>
      nonce.toList ++ (createHmac (command.byte :: nonce.toList) nonce systemKey).toList
    | .discoverAlt => if payloadEnabled then [payload] else []
  buildFrame true true lowPower own dst command.byte params

def createKeyInit (own dst : NodeId) : Option IoFrame :=
  buildFrame true false true own dst cmdKeyInit []

/-- The key is hidden under the command byte of the frame before. -/
def createKeyTransfer (oldFrame : IoFrame) (dst src : NodeId) (key : AesKey)
    (challenge : Challenge) : Option IoFrame :=
  buildFrame false false true src dst cmdKeyTransfer
    (cryptKey [oldFrame.cmd] challenge key).toList

/-! ## What the builders build -/

/-- The frame carries a command from one node to another and can be transmitted. -/
structure IsCommand (f : IoFrame) (src dst : NodeId) (cmd : UInt8) (params : List UInt8) :
    Prop where
  src_eq : f.src = src
  dst_eq : f.dst = dst
  cmd_eq : f.cmd = cmd
  payload_eq : f.payload = params
  data_eq : f.data = zeroFilled params
  serialize_isSome : (serialize f frameMaxSize).isSome

theorem setLength_and_mask (ctrl n : UInt8) :
    ((ctrl &&& ~~~ctrl0LengthMask) ||| (n &&& ctrl0LengthMask)) &&& ctrl0LengthMask =
      n &&& ctrl0LengthMask := by
  apply UInt8.eq_of_toBitVec_eq
  simp only [UInt8.toBitVec_and, UInt8.toBitVec_or, UInt8.toBitVec_not]
  ext i hi
  simp only [BitVec.getElem_and, BitVec.getElem_or, BitVec.getElem_not]
  cases ctrl0LengthMask.toBitVec[i] <;> simp

theorem ofNat_and_mask {n : ℕ} (h : n < 32) :
    (UInt8.ofNat n &&& ctrl0LengthMask).toNat = n := by
  have hmask : ctrl0LengthMask.toNat = 2 ^ 5 - 1 := by decide
  rw [UInt8.toNat_and, hmask, Nat.and_two_pow_sub_one_eq_mod, UInt8.toNat_ofNat']
  omega

theorem zeroFilled_take {params : List UInt8} (h : params.length ≤ frameMaxDataSize) :
    (zeroFilled params).toList.take params.length = params := by
  simp only [frameMaxDataSize] at h
  apply List.ext_getElem?
  intro i
  rcases Nat.lt_or_ge i params.length with hi | hi
  · rw [List.getElem?_take_of_lt hi, Vector.getElem?_toList, zeroFilled,
      Vector.getElem?_eq_getElem (by omega), Vector.getElem_ofFn, List.getElem?_eq_getElem hi,
      List.getD_eq_getElem?_getD, List.getElem?_eq_getElem hi, Option.getD_some]
  · rw [List.getElem?_eq_none hi, List.getElem?_eq_none]
    rw [List.length_take]
    omega

theorem buildFrame_isCommand {start «end» lowPower : Bool} {src dst : NodeId} {cmd : UInt8}
    {params : List UInt8} {f : IoFrame}
    (h : buildFrame start «end» lowPower src dst cmd params = some f) :
    IsCommand f src dst cmd params := by
  unfold buildFrame setCmd at h
  split_ifs at h with hlen
  obtain rfl := Option.some.inj h
  have hdata : (Vector.ofFn fun i : Fin 23 =>
      params.getD i ((initFrame true start «end» lowPower).data[i])) = zeroFilled params := by
    simp [zeroFilled, initFrame, IoFrame.zero]
  have hlen' : params.length ≤ frameMaxDataSize := by omega
  have hpayload := zeroFilled_take hlen'
  refine ⟨rfl, rfl, rfl, ?_, hdata, ?_⟩
  · simpa only [IoFrame.payload, setSrc, setDst, hdata] using hpayload
  · rw [serialize_eq_some ?_ hlen']
    · rfl
    · simp only [frameMaxDataSize] at hlen'
      simp only [IoFrame.frameLength, setLength_and_mask]
      rw [ofNat_and_mask (by simp only [frameMinSize]; omega)]
      simp only [frameMinSize]
      omega

theorem exists_buildFrame (start «end» lowPower : Bool) (src dst : NodeId) (cmd : UInt8)
    {params : List UInt8} (h : params.length ≤ frameMaxDataSize) :
    ∃ f, buildFrame start «end» lowPower src dst cmd params = some f := by
  unfold buildFrame setCmd
  rw [if_neg (by omega)]
  exact ⟨_, rfl⟩

theorem hmacField_of_payload {f : IoFrame} {challenge : Challenge}
    (h : f.data = zeroFilled challenge.toList) : hmacField f = challenge := by
  apply Vector.ext
  intro i hi
  simp only [hmacField, h, zeroFilled, Vector.getElem_ofFn, Fin.getElem_fin]
  rw [List.getD_eq_getElem?_getD, Vector.getElem?_toList, Vector.getElem?_eq_getElem hi,
    Option.getD_some]

theorem exists_createChallengeResp (dst src : NodeId) (challenge : Challenge) (origin : IoFrame)
    (key : AesKey) :
    ∃ f, createChallengeResp dst src challenge origin key = some f :=
  exists_buildFrame _ _ _ _ _ _ (by simp [frameMaxDataSize])

theorem exists_createChallengeReq (dst src : NodeId) (challenge : Challenge) :
    ∃ f, createChallengeReq dst src challenge = some f :=
  exists_buildFrame _ _ _ _ _ _ (by simp [frameMaxDataSize])

end HomeIoControl
