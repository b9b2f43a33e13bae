import Mathlib.Data.List.Infix
import ConfidentialIoT.Host.Report
import ConfidentialIoT.Lib.Keeps

/-!
# `Host/EdgeDevice.lean` — the Host's push loop

`main`'s loop, `edge_ensure_session`, `edge_attest_to_server`, `edge_handshake`, `edge_call_ta`,
`edge_send_sensor_data_to_server` and `edge_reset_connection`. Everything the Host asks of
somebody else is one call: the socket, the clock, the TA and the TPM. A line is the message it
carries; a line that cannot be received and one that cJSON cannot parse end the function in the
same way.

cJSON and the base64 decoder of mbedTLS are third-party, and a parameter. The configuration, the
sensor's pairing before the loop and the messages on `stderr` are left out.
-/

set_option autoImplicit false

namespace ConfidentialIoT

open Effects

/-! ## What the Host calls -/

structure HostLib where
  /-- `cJSON_PrintUnformatted`: the line of a message -/
  printUnformatted : JsonValue → Bytes
  /-- `valueint` of a number that is no integer -/
  valueint : UInt64 → Int
  /-- the characters of a C string, as cJSON prints them -/
  text : Bytes → Text
  /-- `mbedtls_base64_decode`, into a buffer that is large enough -/
  base64Decode : Text → Option Bytes

inductive EdgeAct where
  /-- `net_connect` -/
  | connect
  /-- `send_json_line` on a connection -/
  | send (conn : Nat) (msg : JsonValue)
  /-- `net_recv_line`, then `cJSON_Parse` -/
  | recv (conn : Nat)
  /-- `net_close` -/
  | close (conn : Nat)
  /-- `mono_now` -/
  | monoNow
  /-- the TA's `GENERATE_ATTESTATION_EVIDENCE`: the public key and the evidence block -/
  | generateEvidence (nonce serverPub : Bytes)
  /-- `create_attestation_report` -/
  | attestationReport (transcriptHash : Bytes)
  /-- the TA's `HANDSHAKE_COMPLETE` -/
  | handshakeComplete (serverPub nonce identityPub serverSig : Bytes)
  /-- the TA's `READ_AND_PROTECT`: nonce, ciphertext with tag, sequence number -/
  | readAndProtect

@[reducible] def EdgeAct.Res : EdgeAct → Type
  | .connect => Option Nat
  | .send _ _ => Bool
  | .recv _ => Option JsonValue
  | .close _ => Unit
  | .monoNow => Int
  | .generateEvidence _ _ => Option (Bytes × Bytes)
  | .attestationReport _ => Option AttestationEvidence
  | .handshakeComplete _ _ _ _ => Bool
  | .readAndProtect => Option (Bytes × Bytes × Nat)

@[reducible] def Edge : Sig where
  Err := Empty
  Req := Empty
  Out := nofun
  Act := EdgeAct
  Res := EdgeAct.Res

/-- The globals of `edge_device.c`; the connection is open when there is one. -/
structure EdgeGlobals where
  conn : Option Nat
  attested : Bool
  sessionExpiry : Int
  nonce : Bytes
  serverEcdhPub : Bytes
  serverIdentityPub : Bytes
  serverSig : Bytes
  lastSeq : Nat
deriving DecidableEq, Repr

/-- The globals of a process that has just started. -/
def EdgeGlobals.initial : EdgeGlobals := ⟨none, false, 0, [], [], [], [], 0⟩

/-- A return code other than 0. -/
inductive EdgeError where
  /-- -1 -/
  | failed
  /-- -2 -/
  | notRegistered
deriving DecidableEq, Repr

abbrev EdgeM (α : Type) : Type := Proc Edge EdgeError EdgeGlobals α

def edge (a : EdgeAct) : EdgeM a.Res := Proc.act (S := Edge) a

@[simp] theorem wpP_edge {A : List (Event Edge) → Call Edge → Prop}
    {E : List (Event Edge) → EdgeGlobals → EdgeError → Prop} {a : EdgeAct} {g : EdgeGlobals}
    {tr : List (Event Edge)} {Q : List (Event Edge) → EdgeGlobals → a.Res → Prop} :
    wpP (α := no_index a.Res) A (edge a) Q E g tr ↔
      A tr (.act a) ∧ ∀ b : a.Res, Q (tr ++ [.did a b]) g b := Iff.rfl

/-- `return -1` if there is nothing. -/
def orFail {α : Type} : Option α → EdgeM α
  | some a => pure a
  | none => throw .failed

@[simp] theorem wpP_orFail {A : List (Event Edge) → Call Edge → Prop} {α : Type}
    {E : List (Event Edge) → EdgeGlobals → EdgeError → Prop} {a : Option α} {g : EdgeGlobals}
    {tr : List (Event Edge)} {Q : List (Event Edge) → EdgeGlobals → α → Prop} :
    wpP A (orFail a) Q E g tr ↔ (∀ x, a = some x → Q tr g x) ∧ (a = none → E tr g .failed) := by
  cases a with
  | none => exact ⟨fun h => ⟨nofun, fun _ => h⟩, fun h => h.2 rfl⟩
  | some x => exact ⟨fun h => ⟨fun _ hx => Option.some.inj hx ▸ h, nofun⟩, fun h => h.1 x rfl⟩

/-! ## cJSON and mbedTLS -/

/-- `cJSON_GetObjectItemCaseSensitive`: the first item of that name. -/
def JsonValue.item : JsonValue → Text → Option JsonValue
  | .obj fields, name => fields.lookup name
  | _, _ => none

/-- `valuestring` of an item that `cJSON_IsString`. -/
def stringItem (msg : JsonValue) (name : Text) : Option Text :=
  match msg.item name with
  | some (.str t) => some t
  | _ => none

/-- `mbedtls_base64_decode` into a buffer of `size` bytes. -/
def HostLib.decodeInto (lib : HostLib) (size : Nat) (t : Text) : Option Bytes :=
  (lib.base64Decode t).filter fun b => b.length ≤ size

/-- A string item, decoded into a buffer that it has to fill. -/
def HostLib.decodeExact (lib : HostLib) (size : Nat) (msg : JsonValue) (name : Text) : Option Bytes :=
  ((stringItem msg name).bind (lib.decodeInto size)).filter fun b => b.length = size

abbrev ciotNonceMax : Nat := 64
abbrev ciotEcdhPubSize : Nat := 65
abbrev ciotServerSigSize : Nat := 64
abbrev ciotTranscriptHashSize : Nat := 32
abbrev ciotEvidenceBlockSize : Nat := 96

/-! ## The messages -/

def helloMsg (deviceId : Text) : JsonValue :=
  .obj [("type".toList, .str "hello".toList), ("device_id".toList, .str deviceId)]

def attestResponseMessage (deviceId devicePub : Text) (quote signature pcrValues taSig : Text) :
    JsonValue :=
  .obj [("type".toList, .str "attest_response".toList), ("device_id".toList, .str deviceId),
    ("device_ecdh_pub".toList, .str devicePub), ("quote".toList, .str quote),
    ("signature".toList, .str signature), ("pcr_values".toList, .str pcrValues),
    ("ta_sig".toList, .str taSig)]

def sensorDataMessage (deviceId : Text) (seq : Nat) (nonce ciphertext : Text) : JsonValue :=
  .obj [("type".toList, .str "data".toList), ("device_id".toList, .str deviceId),
    ("seq".toList, .int seq), ("nonce".toList, .str nonce), ("ciphertext".toList, .str ciphertext)]

/-! ## `edge_attest_to_server` -/

/-- A number's `valueint`, which saturates. -/
def HostLib.valueintOf (lib : HostLib) : JsonValue → Option Int
  | .int n => some (max (-2147483648) (min 2147483647 n))
  | .float bits => some (lib.valueint bits)
  | _ => none

/-- `session_ttl`, or 300 when the server gives none. -/
def HostLib.sessionTtl (lib : HostLib) (reply : JsonValue) : Int :=
  match (reply.item "session_ttl".toList).bind lib.valueintOf with
  | some v => if v > 0 then v else 300
  | none => 300

/-- `cJSON_IsTrue(… "ok")` -/
def isOk (reply : JsonValue) : Bool :=
  match reply.item "ok".toList with
  | some (.bool true) => true
  | _ => false

/-- `edge_attest_to_server`'s connection: the open one, or a new one. -/
def openConnection : EdgeM Nat := do
  match (← get).conn with
  | some conn => return conn
  | none =>
    let conn ← orFail (← edge .connect)
    modify fun g => { g with conn := some conn }
    return conn

def sendLine (conn : Nat) (msg : JsonValue) : EdgeM Unit := do
  if ¬ (← edge (.send conn msg)) then
    throw .failed

def recvLine (conn : Nat) : EdgeM JsonValue := do
  orFail (← edge (.recv conn))

/-- An error instead of a challenge. -/
def errorReply (reply : JsonValue) : Option EdgeError :=
  if stringItem reply "type".toList = some "error".toList then
    match stringItem reply "error".toList with
    | some why => if "not registered".toList <:+: why then some .notRegistered else some .failed
    | none => some .failed
  else none

/-- The challenge's three fields, each into its buffer. -/
def readChallenge (lib : HostLib) (challenge : JsonValue) : EdgeM Unit := do
  let nonce ← orFail ((stringItem challenge "nonce".toList).bind (lib.decodeInto ciotNonceMax))
  modify fun g => { g with nonce := nonce }
  let ecdhPub ← orFail (lib.decodeExact ciotEcdhPubSize challenge "server_ecdh_pub".toList)
  modify fun g => { g with serverEcdhPub := ecdhPub }
  let identityPub ← orFail (lib.decodeExact ciotEcdhPubSize challenge "server_identity_pub".toList)
  modify fun g => { g with serverIdentityPub := identityPub }

/-- `ta_handshake_init`, the quote, and their fields of the message. -/
def answerChallenge (lib : HostLib) (deviceId : Text) : EdgeM JsonValue := do
  let g ← get
  let (devicePub, evidence) ← orFail (← edge (.generateEvidence g.nonce g.serverEcdhPub))
  if devicePub.length ≠ ciotEcdhPubSize ∨ evidence.length ≠ ciotEvidenceBlockSize then
    throw .failed
  let report ← orFail (← edge (.attestationReport (evidence.take ciotTranscriptHashSize)))
  let devicePubB64 ← orFail (mbedtlsBase64Encode 128 devicePub)
  let taSigB64 ← orFail (mbedtlsBase64Encode 128 (evidence.drop ciotTranscriptHashSize))
  return attestResponseMessage deviceId devicePubB64 report.quoteB64 report.signatureB64
    (lib.text report.pcrValuesText) taSigB64

/-- What is made of the result; the deadline is set before anything is checked. -/
def readResult (lib : HostLib) (result : JsonValue) : EdgeM Unit := do
  let now ← edge .monoNow
  modify fun g => { g with sessionExpiry := now + lib.sessionTtl result }
  if isOk result then
    let sig ← orFail (lib.decodeExact ciotServerSigSize result "server_sig".toList)
    modify fun g => { g with serverSig := sig, attested := true }
  else
    throw .failed

def edgeAttestToServer (lib : HostLib) (deviceId : Text) : EdgeM Unit := do
  modify fun g => { g with attested := false }
  let conn ← openConnection
  sendLine conn (helloMsg deviceId)
  let challenge ← recvLine conn
  match errorReply challenge with
  | some e => throw e
  | none =>
    readChallenge lib challenge
    let response ← answerChallenge lib deviceId
    sendLine conn response
    let result ← recvLine conn
    readResult lib result

/-! ## The loop -/

def edgeHandshake : EdgeM Unit := do
  let g ← get
  if ¬ g.attested then
    throw .failed
  if ¬ (← edge (.handshakeComplete g.serverEcdhPub g.nonce g.serverIdentityPub g.serverSig)) then
    throw .failed

/-- `edge_ensure_session` -/
def edgeEnsureSession (lib : HostLib) (deviceId : Text) : EdgeM Unit := do
  if (← get).attested then
    -- the clock is only read when there is a session
    let now ← edge .monoNow
    if now < (← get).sessionExpiry then
      return
  edgeAttestToServer lib deviceId
  edgeHandshake

def edgeResetConnection : EdgeM Unit := do
  if let some conn := (← get).conn then
    edge (.close conn)
    modify fun g => { g with conn := none }
  modify fun g => { g with attested := false, sessionExpiry := 0 }

/-- `edge_call_ta`, into `protected_data`. -/
def edgeCallTa : EdgeM Text := do
  let (nonce, ciphertext, seq) ← orFail (← edge .readAndProtect)
  if nonce.length ≠ 12 then
    throw .failed
  modify fun g => { g with lastSeq := seq }
  orFail (mbedtlsBase64Encode 512 (nonce ++ ciphertext))

def edgeSendSensorData (lib : HostLib) (deviceId : Text) (protectedData : Text) : EdgeM Unit := do
  let g ← get
  match g.conn, g.attested with
  | some conn, true =>
    let raw ← orFail ((lib.decodeInto 600 protectedData).filter fun b => 12 ≤ b.length)
    let nonceB64 ← orFail (mbedtlsBase64Encode 32 (raw.take 12))
    let ctB64 ← orFail (mbedtlsBase64Encode 900 (raw.drop 12))
    sendLine conn (sensorDataMessage deviceId g.lastSeq nonceB64 ctB64)
  | _, _ => throw .failed

/-- Where `main`'s loop is. -/
inductive LoopPhase where
  /-- at its top -/
  | ensure
  /-- behind `edge_ensure_session` -/
  | push
deriving DecidableEq, Repr

/-- The next part of the loop, and where it is after it. What comes between two parts, and the
`sleep`, is time that passes. -/
def mainLoop (lib : HostLib) (deviceId : Text) : LoopPhase → EdgeM LoopPhase
  | .ensure => do
    match ← (edgeEnsureSession lib deviceId).outcome with
    | .ok () => return .push
    | .error _ =>
      edgeResetConnection
      return .ensure
  | .push => do
    match ← edgeCallTa.outcome with
    | .error _ => return .ensure
    | .ok protectedData =>
      match ← (edgeSendSensorData lib deviceId protectedData).outcome with
      | .ok () => return .ensure
      | .error _ =>
        edgeResetConnection
        return .ensure

end ConfidentialIoT
