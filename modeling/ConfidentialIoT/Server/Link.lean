import ConfidentialIoT.Lib.Pool
import ConfidentialIoT.Server.Desk
import ConfidentialIoT.Server.Enrolment
import ConfidentialIoT.TrustedApp.Sensor

/-!
# `Server/Link.lean` — `AttestedNetworkDeviceLink`

`_handle_connection` and `_on_data`, one line of the peer at a time, and `register_device`. A
connection keeps the `device_id` of its last hello between two lines. What escapes the handler
ends the connection, through its `finally` block.

`json.loads`, `str`, `repr` and `float` are Python's, and a parameter. The vectors are the lines of
the handshakes of `Server/Desk.lean` and of two readings, and Python on exactly these.
-/

set_option autoImplicit false

namespace ConfidentialIoT

open Effects

structure Runtime where
  /-- `json.loads` -/
  loads : Bytes → Except StdError JsonValue
  /-- `bytes.decode("utf-8")` -/
  utf8 : Bytes → Except StdError Text
  /-- `str(value)` of a value that is no string -/
  str : JsonValue → Except StdError Text
  /-- `repr(value)` -/
  repr : JsonValue → Except StdError Text
  /-- `float(value)` -/
  float : JsonValue → Except StdError UInt64
  /-- a time, as the double it is -/
  ofTime : Time → UInt64
  messages : Messages

/-- `str(value)` -/
def Runtime.toStr (rt : Runtime) : JsonValue → Except StdError Text
  | .str t => .ok t
  | v => rt.str v

/-! ## Replies and verdicts -/

namespace Reply

/-- `{"ok": False, "error": …}` -/
def refused (error : Text) : JsonValue :=
  .obj [("ok".toList, .bool false), ("error".toList, .str error)]

/-- `{"ok": True}` -/
def accepted : JsonValue := .obj [("ok".toList, .bool true)]

/-- `{"type": "error", "error": …}` -/
def error (why : Text) : JsonValue :=
  .obj [("type".toList, .str "error".toList), ("error".toList, .str why)]

def attestChallenge (m : ChallengeMessage) : JsonValue :=
  .obj [("nonce".toList, .str m.nonce), ("server_ecdh_pub".toList, .str m.serverEcdhPub),
    ("server_identity_pub".toList, .str m.serverIdentityPub),
    ("type".toList, .str "attest_challenge".toList)]

def attestRefused (error : Text) : JsonValue :=
  .obj [("type".toList, .str "attest_result".toList), ("ok".toList, .bool false),
    ("error".toList, .str error)]

def attestAccepted (serverSig : Bytes) : JsonValue :=
  .obj [("type".toList, .str "attest_result".toList), ("ok".toList, .bool true),
    ("session_ttl".toList, .int 3600), ("server_sig".toList, .str (b64e serverSig))]

end Reply

namespace Verdict

def disconnected (now : Time) : Verdict :=
  ⟨false, "fail".toList, "device disconnected".toList, now⟩

def noSession (now : Time) : Verdict :=
  ⟨false, "fail".toList, "no valid attested session - attest first".toList, now⟩

def decryptFailed (exc : Text) (now : Time) : Verdict :=
  ⟨true, "fail".toList, "decrypt/verify failed: ".toList ++ exc, now⟩

def replayed (seq : Nat) (now : Time) : Verdict :=
  ⟨true, "fail".toList, "replayed or out-of-order message (seq=".toList ++ Nat.toDigits 10 seq ++
    ")".toList, now⟩

def verified (now : Time) : Verdict :=
  ⟨true, "ok".toList, "attested session, AEAD-verified".toList, now⟩

end Verdict

/-! ## `_on_data` -/

/-- `except (ValueError, TypeError)` around `json.loads`. -/
def loadsCatches : StdError → Bool
  | .valueError | .typeError => true
  | _ => false

/-- `except (KeyError, ValueError, TypeError, InvalidTag)` -/
def decryptCatches : StdError → Bool
  | .keyError _ | .valueError | .typeError | .invalidTag => true
  | _ => false

/-- `except (KeyError, ValueError, TypeError)`: the sample is skipped. -/
def sampleCatches : StdError → Bool
  | .keyError _ | .valueError | .typeError => true
  | _ => false

/-- The fields of a data message, decoded, and its plaintext. -/
def openData (C : CryptoLib) (key : Bytes) (msg : JsonValue) : Except StdError (Nat × Bytes) := do
  let nonce ← b64d (← msg.subscript "nonce".toList)
  let ciphertext ← b64d (← msg.subscript "ciphertext".toList)
  match seqOf (← msg.subscript "seq".toList) with
  | none => throw .valueError
  | some seq => return (seq, ← C.aeadDecrypt key nonce ciphertext (Bytes.toBE seqAadSize seq))

/-- One `Sample(…)`. -/
def readSample (rt : Runtime) (deviceId : Text) (now : Time) (s : JsonValue) :
    Except StdError Sample := do
  let ts ← match ← s.get "ts".toList with
    | some v => rt.float v
    | none => .ok (rt.ofTime now)
  let value ← rt.float (← s.subscript "value".toList)
  let sensorId ← match ← s.get "sensor_id".toList with
    | some v => rt.toStr v
    | none => .ok (deviceId ++ ":sensor".toList)
  let unit ← match ← s.get "unit".toList with
    | some v => rt.toStr v
    | none => .ok "unit".toList
  return ⟨ts, value, sensorId, unit⟩

def readSamples (rt : Runtime) (deviceId : Text) (now : Time) :
    List JsonValue → Except StdError (List Sample)
  | [] => .ok []
  | s :: rest =>
    match readSample rt deviceId now s with
    | .ok sample => (sample :: ·) <$> readSamples rt deviceId now rest
    | .error e => if sampleCatches e then readSamples rt deviceId now rest else .error e

/-- What a `for` loop goes through. A dict gives its keys. -/
def JsonValue.iterate : JsonValue → Except StdError (List JsonValue)
  | .arr items => .ok items
  | .str t => .ok (t.map fun c => .str [c])
  | .obj fields => .ok (fields.map fun f => .str f.1)
  | _ => .error .typeError

/-- `for s in payload.get("samples", []):` -/
def payloadSamples (rt : Runtime) (deviceId : Text) (now : Time) (payload : JsonValue) :
    Except StdError (List Sample) := do
  match ← payload.get "samples".toList with
  | none => return []
  | some samples => readSamples rt deviceId now (← samples.iterate)

/-- What the connection's handler remembers. -/
structure Connection where
  deviceId : Option Text
  closed : Bool
deriving DecidableEq, Repr

/-- A connection that has just been accepted. -/
def Connection.accepted : Connection := ⟨none, false⟩

/-- `if device_id:` -/
def Connection.named (conn : Connection) : Option Text := conn.deviceId.filter fun id => id ≠ []

def onData (rt : Runtime) (C : CryptoLib) (deviceId : Text) (msg : JsonValue) :
    Py Connection Unit := do
  let now ← step .time
  match ← sessionKey deviceId with
  | none => step (.setVerdict deviceId (.noSession now))
  | some key =>
    match openData C key msg with
    | .error e =>
      if ¬ decryptCatches e then
        throw (.std e)
      step (.setVerdict deviceId (.decryptFailed (rt.messages.exc e) now))
    | .ok (seq, plaintext) =>
      if ¬ (← checkAndAdvanceSeq deviceId (.int seq)) then
        step (.setVerdict deviceId (.replayed seq now))
      else
        match rt.loads plaintext with
        | .error e =>
          if ¬ loadsCatches e then
            throw (.std e)
          step (.setVerdict deviceId (.decryptFailed (rt.messages.exc e) now))
        | .ok payload =>
          let samples ← raising (.std (payloadSamples rt deviceId now payload))
          step (.extendBuffer deviceId samples (.verified now))

/-! ## `_handle_connection` -/

/-- `str(msg.get("device_id") or "")` -/
def helloId (rt : Runtime) (msg : JsonValue) : Except StdError Text := do
  match ← msg.get "device_id".toList with
  | some v => if v.truthy then rt.toStr v else return []
  | none => return []

/-- An `AttestationError`'s text. -/
def Runtime.why (rt : Runtime) (failure : AttestationFailure) : Text := failure.message rt.messages

def onHello (rt : Runtime) (identity : Point) (msg : JsonValue) : Py Connection Unit := do
  let deviceId ← raising (.std (helloId rt msg))
  modify fun conn => { conn with deviceId := some deviceId }
  match ← (issueChallenge identity deviceId).outcome with
  | .ok challenge => step (.writeline (Reply.attestChallenge challenge))
  | .error (.attestation failure) =>
    step (.writeline (Reply.error (rt.why failure)))
    modify fun conn => { conn with deviceId := none }
  | .error e => throw e

/-- The subscripts of an `attest_response`, in the order the call evaluates them. -/
def attestResponseOf (msg : JsonValue) : Raises AttestResponse := do
  let deviceEcdhPub ← .std (msg.subscript "device_ecdh_pub".toList)
  let quote ← .std (msg.subscript "quote".toList)
  let signature ← .std (msg.subscript "signature".toList)
  let pcrValues ← .std (msg.subscript "pcr_values".toList)
  let taSig ← .std (msg.subscript "ta_sig".toList)
  return ⟨deviceEcdhPub, quote, signature, pcrValues, taSig⟩

/-- The body of the `try`. -/
def attest (C : CryptoLib) (deviceId : Text) (msg : JsonValue) : Py Connection Bytes := do
  verifyAndDerive C deviceId (← raising (attestResponseOf msg))

def onAttestResponse (rt : Runtime) (C : CryptoLib) (msg : JsonValue) : Py Connection Unit := do
  match (← get).named with
  | none => step (.writeline (Reply.attestRefused "send hello first".toList))
  | some deviceId =>
    match ← (attest C deviceId msg).outcome with
    | .ok serverSig => step (.writeline (Reply.attestAccepted serverSig))
    | .error (.attestation failure) => step (.writeline (Reply.attestRefused (rt.why failure)))
    | .error (.std (.keyError key)) =>
      step (.writeline (Reply.attestRefused (rt.messages.exc (.keyError key))))
    | .error e => throw e

def onDataMessage (rt : Runtime) (C : CryptoLib) (msg : JsonValue) : Py Connection Unit := do
  match (← get).named with
  | none => step (.writeline (Reply.refused "send hello first".toList))
  | some deviceId =>
    onData rt C deviceId msg
    step (.writeline Reply.accepted)

/-- The `type` of a message. -/
inductive MessageType where
  | hello | attestResponse | data
  | unknown (type : Option JsonValue)

def MessageType.of : Option JsonValue → MessageType
  | some (.str t) =>
    if t = "hello".toList then .hello
    else if t = "attest_response".toList then .attestResponse
    else if t = "data".toList then .data
    else .unknown (some (.str t))
  | type => .unknown type

def onMessage (rt : Runtime) (C : CryptoLib) (identity : Point) (msg : JsonValue) :
    Py Connection Unit := do
  match MessageType.of (← raising (.std (msg.get "type".toList))) with
  | .hello => onHello rt identity msg
  | .attestResponse => onAttestResponse rt C msg
  | .data => onDataMessage rt C msg
  | .unknown type =>
    -- a missing type is `None`, as JSON's null is
    let text ← raising (.std (rt.repr (type.getD .null)))
    step (.writeline (Reply.refused ("unknown type ".toList ++ text)))

/-- The body of the `while`, with what `readline` returned. -/
def onLine (rt : Runtime) (C : CryptoLib) (identity : Point) (line : Bytes) :
    Py Connection Unit := do
  match rt.loads line with
  | .error e =>
    if ¬ loadsCatches e then
      throw (.std e)
    step (.writeline (Reply.refused "invalid JSON".toList))
  | .ok msg => onMessage rt C identity msg

/-- The `finally` block. -/
def hangUp : Py Connection Unit := do
  match (← get).named with
  | none => pure ()
  | some deviceId =>
    let now ← step .time
    step (.setVerdict deviceId (.disconnected now))
  modify fun conn => { conn with closed := true }

/-- One turn of the loop: a line, or the end of the input. -/
def handleConnection (rt : Runtime) (C : CryptoLib) (identity : Point) :
    Option Bytes → Py Connection Unit
  | none => hangUp
  | some line => do
    match ← (onLine rt C identity line).outcome with
    | .ok () => pure ()
    | .error _ => hangUp

/-! ## `register_device` -/

/-- What the endpoint makes of a request's body. -/
def enrolmentOf (rt : Runtime) (C : CryptoLib) (body : JsonValue) : Except StdError Submission := do
  let deviceId ← validateDeviceId (← rt.toStr (← body.subscript "device_id".toList))
  let akPubPem ← rt.utf8 (← b64d (← body.subscript "ak_pub_pem_b64".toList))
  let expectedPcr ← rt.toStr (← body.subscript "expected_pcr".toList)
  let pcrBank ← match ← body.get "pcr_bank".toList with
    | some v => rt.toStr v
    | none => .ok "sha256:0".toList
  let taPubRaw ← b64d (← body.subscript "ta_pub_b64".toList)
  if taPubRaw.length ≠ 65 ∨ taPubRaw.head? ≠ some 0x04 then
    throw .valueError
  if (C.fromEncodedPoint taPubRaw).isNone then
    throw .valueError
  return ⟨deviceId, akPubPem, expectedPcr, pcrBank, b64e taPubRaw⟩

/-- The endpoint, up to its reply. -/
def registerDevice (rt : Runtime) (C : CryptoLib) (body : JsonValue) : Py Connection Unit := do
  match enrolmentOf rt C body with
  | .error _ => pure ()
  | .ok s =>
    let _ ← step (.register s.deviceId s.akPubPem s.expectedPcr s.pcrBank s.taPubB64)

/-! ## The server's threads -/

/-- What a thread is given: a line of its connection, its end, or a registration. -/
inductive LinkJob where
  | line (line : Option Bytes)
  | register (body : JsonValue)

def linkJob (rt : Runtime) (C : CryptoLib) (identity : Point) : LinkJob → Py Connection Unit
  | .line line => do
    if (← get).closed then
      return
    handleConnection rt C identity line
  | .register body => registerDevice rt C body

@[reducible] def linkMachine (rt : Runtime) (C : CryptoLib) (identity : Point) : Machine Server where
  Job := LinkJob
  Mem := Connection
  Out := Except PyError Unit × Connection
  code job conn := (linkJob rt C identity job).go conn
  mem out := out.2

/-! ## Lines of flat objects -/

/-- A character of a string, and the escapes of the ones that occur here. -/
def jsonChar (c : Char) : Text :=
  bif c.toNat == 0x0a then ['\\', 'n']
  else bif c.toNat == 0x22 || c.toNat == 0x5c then ['\\', c]
  else [c]

def jsonString (t : Text) : Text := '"' :: (t.flatMap jsonChar ++ ['"'])

/-- A string, a number, or `null`. -/
def jsonScalar : JsonValue → Text
  | .null => "null".toList
  | .str t => jsonString t
  | .int n => if n < 0 then '-' :: Nat.toDigits 10 n.natAbs else Nat.toDigits 10 n.natAbs
  | _ => []

def jsonFields : List (Text × JsonValue) → Text
  | [] => []
  | [(key, value)] => jsonString key ++ ':' :: jsonScalar value
  | (key, value) :: rest => jsonString key ++ ':' :: (jsonScalar value ++ ',' :: jsonFields rest)

/-- The line of an object. -/
def lineOf (fields : List (Text × JsonValue)) : Bytes :=
  Bytes.ascii ('\x7b' :: (jsonFields fields ++ ['\x7d']))

namespace Vectors

/-! ## The device's messages -/

def helloMessage (deviceId : Text) : List (Text × JsonValue) :=
  [("type".toList, .str "hello".toList), ("device_id".toList, .str deviceId)]

def attestMessage (response : AttestResponse) : List (Text × JsonValue) := [
  ("type".toList, .str "attest_response".toList),
  ("device_ecdh_pub".toList, response.deviceEcdhPub), ("quote".toList, response.quote),
  ("signature".toList, response.signature), ("pcr_values".toList, response.pcrValues),
  ("ta_sig".toList, response.taSig)]

def dataMessage (seq : Nat) (iv sealed : Bytes) : List (Text × JsonValue) := [
  ("type".toList, .str "data".toList), ("seq".toList, .int seq),
  ("nonce".toList, .str (b64e iv)), ("ciphertext".toList, .str (b64e sealed))]

/-- The reading of 23 C, as the first message of the session, and of 24 C, as its second. -/
def firstData : List (Text × JsonValue) :=
  dataMessage 1 firstDraw (sealedReading sessionKey firstDraw (Bytes.toBE 8 1)
    (formatReading 23 (Bytes.ascii ['C'])))

def secondData : List (Text × JsonValue) :=
  dataMessage 2 secondDraw (sealedReading sessionKey secondDraw (Bytes.toBE 8 2)
    (formatReading 24 (Bytes.ascii ['C'])))

/-- The device's answer, with a quote of two bytes. -/
def truncatedAnswer : AttestResponse :=
  answer deviceEphemeral.pub.sec1 [0x00, 0x00] quoteSig taSig

def messages : List (List (Text × JsonValue)) := [
  helloMessage deviceName, helloMessage intruderName, firstData, secondData,
  attestMessage genuineAnswer, attestMessage laterAnswer, attestMessage intruderAnswer,
  attestMessage truncatedAnswer]

/-- The plaintext of a reading, parsed. -/
def payloadOf (value : Int) : JsonValue :=
  .obj [("samples".toList, .arr [.obj [("value".toList, .int value), ("unit".toList, .str ['C'])]])]

/-- Python, on these. -/
def python : Runtime where
  loads b :=
    match messages.find? fun fields => lineOf fields = b with
    | some fields => .ok (.obj fields)
    | none =>
      if b = formatReading 23 (Bytes.ascii ['C']) then .ok (payloadOf 23)
      else if b = formatReading 24 (Bytes.ascii ['C']) then .ok (payloadOf 24)
      else .error .valueError
  utf8 _ := .error .valueError
  str
    | .int n => .ok (jsonScalar (.int n))
    | _ => .error .typeError
  repr
    | .null => .ok "None".toList
    | _ => .error .typeError
  float
    | .int 23 => .ok 0x4037000000000000
    | .int 24 => .ok 0x4038000000000000
    | _ => .error .valueError
  ofTime _ := 0
  messages := ⟨fun t => '\'' :: (t ++ ['\'']), fun _ => []⟩

/-- A connection takes a message. -/
def takes (fields : List (Text × JsonValue)) : LinkJob := .line (some (lineOf fields))

/-- A connection ends. -/
def ends : LinkJob := .line none

/-- The link's machine on all of this. -/
@[reducible] def deviceLink : Machine Server := linkMachine python lib serverIdentity.pub

end Vectors

end ConfidentialIoT
