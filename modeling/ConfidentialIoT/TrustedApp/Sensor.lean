import ConfidentialIoT.TrustedApp.Session

/-!
# `TrustedApp/Sensor.lean` — the Sensor Module and the data path

`open_sensor_pta`, `ta_authenticate_sensor` (CMD 0), `read_sensor_reading`,
`ta_read_and_protect` (CMD 1) and `ta_provision_sensor_secret` (CMD 5).
-/

set_option autoImplicit false

namespace ConfidentialIoT

open Effects

/-- `open_sensor_pta`: open the session to the sensor_link PTA once, and remember it. -/
def openSensorPta : TA Unit := do
  if ¬ (← get).sess.sensorPtaOpen then
    tee .openTASession
    modify (·.onSess fun sess => { sess with sensorPtaOpen := true })

/-! ## CMD 0: `ta_authenticate_sensor` -/

/-- Load the pre-shared secret; whatever goes wrong is `TEE_ERROR_BAD_STATE`. -/
def readSensorSecret : TA Bytes := do
  (tee (.openPersistentObject .sensorPsk)).failWith .badState
  let secret ← (tee (.readObjectData .sensorPsk sensorSecretSize)).failWith .badState
  if secret.length ≠ sensorSecretSize then
    throw .badState
  return secret

/-- Neither `param_types` nor `params` is looked at. -/
def taAuthenticateSensor : TA Unit := do
  modify (·.onSess fun sess => { sess with sensorAuthenticated := false })
  let secret ← readSensorSecret
  openSensorPta
  let challenge ← teeAct (.generateRandom sensorLinkChallengeSize)
  -- the size the PTA reports for the response is not looked at: the comparison is of the buffer
  let (response, _) ← tee (.invokeTACommand .challenge challenge.1 sensorLinkHmacSize)
  tee (.allocateOperation .hmacMac (sensorSecretSize * 8))
  tee (.allocateTransientObject .hmacSha256 (sensorSecretSize * 8))
  tee (.populateTransientObject .hmacSha256 [secret])
  tee (.setOperationKey .hmacMac)
  tee (.macCompareFinal secret challenge.1 response.1)
  modify (·.onSess fun sess => { sess with sensorAuthenticated := true })

/-! ## `read_sensor_reading` -/

/-- `%d` -/
def decimal (v : Int) : Bytes :=
  Bytes.ascii ((if v < 0 then ['-'] else []) ++ Nat.toDigits 10 v.natAbs)

/-- `%s` of a NUL-terminated copy: the text stops at the first NUL. -/
def cString (b : Bytes) : Bytes := b.takeWhile (· ≠ 0)

/-- `{"samples":[{"value":%d,"unit":"%s"}]}` -/
def formatReading (value : Int) (unit : Bytes) : Bytes :=
  Bytes.ascii ['\x7b', '"', 's', 'a', 'm', 'p', 'l', 'e', 's', '"', ':', '[', '\x7b', '"', 'v',
    'a', 'l', 'u', 'e', '"', ':'] ++ decimal value ++
  Bytes.ascii [',', '"', 'u', 'n', 'i', 't', '"', ':', '"'] ++ cString unit ++
  Bytes.ascii ['"', '\x7d', ']', '\x7d']

/-- Pull one framed reading off the PTA and format it into `sess->reading`. -/
def readSensorReading : TA Unit := do
  openSensorPta
  let (payload, size) ← tee (.invokeTACommand .read [] sensorLinkReadingMax)
  if size < sensorLinkReadingValueSize + 1 then
    throw .badFormat
  let value := (BitVec.ofNat 32 (Bytes.ofBE (payload.1.slice 0 4))).toInt
  let unitLen := (payload.1.getD sensorLinkReadingValueSize 0).toNat
  if unitLen > sensorLinkReadingUnitMax ∨ size ≠ sensorLinkReadingValueSize + 1 + unitLen then
    throw .badFormat
  let unit := payload.1.slice (sensorLinkReadingValueSize + 1) unitLen
  let reading := formatReading value unit
  if reading.length ≥ readingMax then
    modify (·.onSess fun sess => { sess with reading := [] })
    throw .overflow
  modify (·.onSess fun sess => { sess with reading := reading })

/-! ## CMD 1: `ta_read_and_protect` -/

/-- The parameter types CMD 1 insists on. -/
def readAndProtectTypes : UInt32 :=
  teeParamTypes .memrefOutput .memrefOutput .valueOutput .none

/-- The two state checks, in source order. -/
def readAndProtectGates : TA Unit := do
  if ¬ (← get).sess.sensorAuthenticated then
    throw .badState
  if ¬ (← get).sess.sessionKeyValid then
    throw .badState

/-- `seq` as 8 bytes, big-endian: the AAD. -/
def seqAad (seq : UInt64) : Bytes := Bytes.toBE seqAadSize seq.toNat

/-- Seal `sess->reading` under the session key. The nonce is drawn straight into the Host's
buffer and `TEE_AEInit` reads it from there. -/
def sealReading (outSize : Nat) (seq : UInt64) : TA Unit := do
  let sess := (← get).sess
  tee (.allocateTransientObject .aes 256)
  tee (.populateTransientObject .aes [sess.sessionKey])
  tee (.allocateOperation .aesGcmEncrypt 256)
  tee (.setOperationKey .aesGcmEncrypt)
  let drawn ← teeAct (.generateRandom 12)
  hostWrite 0 0 drawn.1
  modify (·.setSize 0 12)
  let nonce ← hostRead 0 0 12
  tee (.aeInit sess.sessionKey nonce.1 128 seqAadSize sess.reading.length)
  let (ct, tag) ← tee (.aeEncryptFinal sess.sessionKey nonce.1 (seqAad seq) sess.reading outSize)
  hostWrite 1 0 ct
  hostWrite 1 ct.length tag
  modify (·.setSize 1 (ct.length + tag.length))
  modify (·.onSess fun sess => { sess with sendSeq := seq })
  modify (·.setValue 2 seq.toUInt32 0)

/-- What follows the two gates. -/
def readAndProtectOpen (params : Params) : TA Unit := do
  if (params 0).size < 12 then
    throw .shortBuffer
  readSensorReading
  let sess := (← get).sess
  if (params 1).size < sess.reading.length + 16 then
    throw .shortBuffer
  if sess.sendSeq ≥ 0xffffffff then
    throw .overflow
  sealReading (params 1).size (sess.sendSeq + 1)

def taReadAndProtect (paramTypes : UInt32) : TA Unit := do
  let params := (← get).params
  if paramTypes ≠ readAndProtectTypes then
    throw .badParameters
  readAndProtectGates
  readAndProtectOpen params

/-! ## CMD 5: `ta_provision_sensor_secret` -/

/-- Fetch the secret over the PTA and seal it. First write wins. -/
def fetchSensorSecret : TA Unit := do
  openSensorPta
  let (secret, size) ← tee (.invokeTACommand .fetchSecret [] sensorSecretSize)
  if size ≠ sensorSecretSize then
    throw .communication
  let _ ← createObject .sensorPsk secret.1

def taProvisionSensorSecret (paramTypes : UInt32) : TA Unit := do
  if paramTypes ≠ teeParamTypes .none .none .none .none then
    throw .badParameters
  if ← openObject .sensorPsk then
    return
  fetchSensorSecret

end ConfidentialIoT
