import Mathlib.Data.Fin.VecNotation
import ConfidentialIoT.Tee.Bench
import ConfidentialIoT.TrustedApp.Entry

/-!
# `TrustedApp/Scripted.lean` — concrete sessions, over real values

A script is a list of invocations, each against a bench; `play` runs it and `session_play` says
that what comes out is a session's run like any other, so a concrete execution never has to be
argued about event by event.

The values are one handshake's worth of real P-256, SHA-256, HMAC and HKDF ones, and `crypto` is
the real primitives on exactly these inputs. `bench` is the TEE of a provisioned device holding
them; an execution changes what its storage, its Host or its generators answer.
-/

set_option autoImplicit false

namespace ConfidentialIoT

open Effects

/-! ## Scripts -/

/-- Run one more invocation against a bench. -/
def playOne (st : List Performed × Session) (step : Invocation × Bench) :
    List Performed × Session :=
  let (tr, result, frame) := exec step.2.answer 0 (step.1.program st.2)
  (st.1 ++ [⟨step.1, tr, result⟩], frame.sess)

/-- Run a script in a fresh session. -/
def play (script : List (Invocation × Bench)) : List Performed × Session :=
  script.foldl playOne ([], Session.fresh)

/-- A script that is played is a run of a session. -/
theorem session_play (script : List (Invocation × Bench)) :
    SessionRun (play script).1 (play script).2 := by
  have h : ∀ st : List Performed × Session, SessionRun st.1 st.2 →
      SessionRun (script.foldl playOne st).1 (script.foldl playOne st).2 := by
    induction script with
    | nil => exact fun _ h => h
    | cons step rest ih =>
      intro st h
      apply ih
      exact .invoke ⟨step.1, _, _⟩ h (exec_runs step.2.answer 0 (step.1.program st.2))
  exact h ([], Session.fresh) .opened

theorem play_snoc (script : List (Invocation × Bench)) (step : Invocation × Bench) :
    play (script ++ [step]) = playOne (play script) step := List.foldl_append ..

/-- The execution of one invocation against a bench. -/
def execution (b : Bench) (inv : Invocation) (sess : Session) :
    List (Event Tee) × Except TeeError Unit × Frame :=
  exec b.answer 0 (inv.program sess)

/-- A successful one is an execution of the command. -/
theorem execution_runs {b : Bench} {inv : Invocation} {sess : Session}
    (h : (execution b inv sess).2.1 = .ok ()) :
    Runs (inv.program sess) (execution b inv sess).1 (.ok (), (execution b inv sess).2.2) := by
  rw [← h]
  exact exec_runs b.answer 0 (inv.program sess)

/-- What it finds keeps the contract. -/
theorem execution_correct (b : Bench) (inv : Invocation) (sess : Session) :
    TeeCorrect b.crypto (execution b inv sess).1 :=
  exec_forall b.contract 0 _

/-- So does everything in a script whose benches share their primitives. -/
theorem play_correct {C : Crypto} (script : List (Invocation × Bench))
    (h : ∀ step ∈ script, step.2.crypto = C) : ∀ p ∈ (play script).1, TeeCorrect C p.trace := by
  induction script using List.reverseRecOn with
  | nil => exact fun p hp => absurd hp (by simp [play])
  | append_singleton script step ih =>
    intro p hp
    rw [play_snoc] at hp
    rcases List.mem_append.mp hp with hp | hp
    · exact ih (fun step' hmem => h step' (by simp [hmem])) p hp
    · obtain rfl := List.mem_singleton.mp hp
      rw [← h step (by simp)]
      exact execution_correct step.2 step.1 _

namespace Vectors

/-! ## Keys -/

/-- The keypair a session's GENERATE_ATTESTATION_EVIDENCE draws. -/
def deviceEphemeral : EcKeyPair where
  d := 0xee466c71b44a01a3d63fec6037e3b5bcda134755ce4da35f97695c857979b72a#256
  pub := ⟨0xcedf85e0c960e03c6b6987b75ed4d693929202617872fb9316445bf6370207de#256,
    0xf1c61df208ae81c117cd29544739f6e27e8964451b33b7c039628dadf2002641#256⟩

/-- The keypair another session draws. -/
def secondEphemeral : EcKeyPair where
  d := 0x37b44b32a5d1bd3f49ceb15dbee57df1d77efffc2120273569156ded15fa1bb9#256
  pub := ⟨0xcd2f6a16667f97812db64926c3d427f5a0db3d3265f2e295f3eec6c281b24c48#256,
    0xffc3be4638715a07ed965168fa5299027468766c965da49530c5e5f4b88bfbc9#256⟩

/-- The server's ephemeral keypair for one challenge. -/
def serverEphemeral : EcKeyPair where
  d := 0xa5c43f8e3cde3ff43888a42dc3122444e0813be40131b1eb1998d736fbe7e2e5#256
  pub := ⟨0x0cdfb33d2620ebff5e04357f07340252b58d780663a0678e88051975a2e5a080#256,
    0x8c4f4b361e519d14d3401381f926eca6e9fc77087d71bc92e459f9a720f24b89#256⟩

/-- Its ephemeral keypair for another one. -/
def laterEphemeral : EcKeyPair where
  d := 0xcee69d815e56fed60b3028f0237f52187f1bcb6c4fee71258ae73b27719a9cd9#256
  pub := ⟨0x7455f163eafb36dd63bc638d5d489efac2a7821f541b292bcfa8d8e23cefb3f8#256,
    0xe24ad72464f494108d792081bb4b96063a49cb46ed2ffa78efb9d7b2b81efb08#256⟩

/-- The server's identity keypair. -/
def serverIdentity : EcKeyPair where
  d := 0x391b0b542b3ab68b1f892aa07abd339ac143cb7af1ffb30a440fd52c6a41acb9#256
  pub := ⟨0x81d66f21c5e146aa7acaad356f7d6623373a43bc42c42fe3a2a464b798e753c2#256,
    0x1f4973b711d811415b33d3592a5acec458c6711fd0777880a17c97c25b9f6ec3#256⟩

/-- The TA's sealed identity keypair. -/
def taIdentity : EcKeyPair where
  d := 0xa1b6c81785203cdbe2781fcc6586b25774f02c6e5d44a3a1d8aa6e9b5a0a65bd#256
  pub := ⟨0x7f1c525469cceb2222f3ad187ef2bc13898a6feef8dccab40376d1d35f840753#256,
    0x5230ade9788682cbb4d2b12a66a0ebb7eda8dd360458ac8fa57b3622dbcfc174#256⟩

/-- Keypairs somebody else owns. -/
def rogueEphemeral : EcKeyPair where
  d := 0xacd6504074ab6e31c818c1ab301379a714be375a84edb55abdf311974367aef7#256
  pub := ⟨0x7568a31b855a0583d36d1d442c9d93e3afeee66336e1ecc77b0d461b460c97d1#256,
    0xe850fa6bcbb35448274d2a7de29f48558ddc9351d13d4a1ba8e51e54194a61fd#256⟩

def rogueIdentity : EcKeyPair where
  d := 0xdf6932e9a1733648efa650ef8d72cb1bc2ed8eb8f75dd991a8ab1c4e78f9e2e5#256
  pub := ⟨0x98766218957b63523e993795dd2126df8aef00b44a57ccf2922bc02284de4287#256,
    0x4a4ac8f9ff68143112c32b8f57566ea5ff56656bfbe13b5c73958ae8eabe7345#256⟩

def keys : List EcKeyPair :=
  [deviceEphemeral, secondEphemeral, serverEphemeral, laterEphemeral, serverIdentity, taIdentity,
    rogueEphemeral, rogueIdentity]

/-! ## Inputs -/

/-- The challenge's nonce. -/
def nonce : Bytes :=
  Bytes.toBE 32 0x9f36abd810092d151d084aef61a290eb98d33347fb571af3d8afbbb80d161051

/-- The nonce of a later challenge, and another server's. -/
def secondNonce : Bytes :=
  Bytes.toBE 32 0xce77d80ea7679996ac9b51309469a6f3db709cc094879855f112ec312069e02d

/-- The id the TA identity is sealed under. -/
def deviceId : Bytes := Bytes.ascii ['e', 'd', 'g', 'e', '-', '1']

/-- What the TA's random generator returns. -/
def random : Bytes :=
  Bytes.toBE 32 0xe6dabc4c82e8023a31ec40d12294c44670e97a40a04d0234f2c704d173395033

def sensorPsk : Bytes :=
  Bytes.toBE 32 0xb5e456ac4251fa4e8a78ea74fdb3593409e3b324b4e4132a5fe6a43ebe927682

/-! ## Values of the primitives -/

def sensorResponse : Bytes :=
  Bytes.toBE 32 0xdb0bdb71b22b78f57a8d100e3d80b826020beb7d3a75e678fb670b6d975711ae

def transcriptHash : Bytes :=
  Bytes.toBE 32 0x0bd43d873aac2830c389ffa479878169dce7e69f8c2dcd7f8abfdba930eff597

def serverMsgHash : Bytes :=
  Bytes.toBE 32 0xbad0f06d94d54440a25d7679cff1f9fa196059644cd32dfeff4f1370968d27f5

def taMsgHash : Bytes :=
  Bytes.toBE 32 0xcfc66e1954c3a5de982ac6df65f99594fab94a1dd29440ab21ada4d367fd19b0

def laterTranscriptHash : Bytes :=
  Bytes.toBE 32 0xd6fe7c18e877d0d87ba8e1f82eb2a48a033740f6aea972d95d70e9ce5aa2e03f

def laterServerMsgHash : Bytes :=
  Bytes.toBE 32 0xf5a17e1d6ab2a85063b7560f89be1a0ff432d673a9587658f745f35753dfb05e

def laterTaMsgHash : Bytes :=
  Bytes.toBE 32 0xf5c6c84728eff440ee38b6391a49145601e1704cc23f730ab9d1124f0958351a

def secondTranscriptHash : Bytes :=
  Bytes.toBE 32 0xa6124b75286aaea7d959bc0c89ee2b30d117bfae04e4617ce493c1783f0aff64

def rogueMsgHash : Bytes :=
  Bytes.toBE 32 0x20561c7c4cf5fbdd0ed42dbfaa2a20423bf2e3ae6d447c7ca7060a814698cacc

def secondTaMsgHash : Bytes :=
  Bytes.toBE 32 0x53231ba88ffc514d016a3cdd06fb6b36936c8904deac84697b8d711ab2d6023e

def serverSig : Bytes :=
  Bytes.toBE 32 0x3534a2a02405370863bd5e1f1b4bf71373c932a0dad7f7b66f5b3c6defe79e89 ++
    Bytes.toBE 32 0xb1865289ca2ee8dbb020e2ff48302d2b1130578ecf00cfe94ce5f382a076675d

def taSig : Bytes :=
  Bytes.toBE 32 0xf2b92d155bc4eef6d49f646380eccea97a4e6fc1a710c88124cf53ea7642d9c6 ++
    Bytes.toBE 32 0xf0605a7c22980ceca07ea8b57868b3b67eac0d4d824c8cfff2ef1c91e129d9e0

def laterServerSig : Bytes :=
  Bytes.toBE 64 0x43ff5feeaf39e381b26ce4d9c8f05e3fa77a44d79bb9b4ed9832231d06e4665e916ce33edfc3f8d48dcbccb81081c3cf952bd4c3a6a38de2f4d2acd5610e3f40

def laterTaSig : Bytes :=
  Bytes.toBE 64 0xd1a4cf594260e82b42a5fc7c69d43ea514fad3c1c627cac3b3269c8741f643254c53abf46dc0cb072ccfe9a331d6af156350bd9e15daea40aec4ae007c0d4ff9

def rogueSig : Bytes :=
  Bytes.toBE 32 0x824d9838bfe814bcb4ecf63b6b0b467669c362e7e21772fdac072923e17199c5 ++
    Bytes.toBE 32 0x39492b27b4ddb38e900e0eb32a68b524202ff0b4f51a5e6ffd070ed9253d48e6

def secondTaSig : Bytes :=
  Bytes.toBE 32 0x2a433b6a2f0bd8c8adc708be2fa8609b5a171d3126a71fd42e4684a2ccde2345 ++
    Bytes.toBE 32 0x793f7e83aef74948010da74e9306463b896dd4f8aa4d9b80289190338b5492ad

/-- The device's ephemeral key with the server's, and with the rogue one. -/
def sharedSecret : Bytes :=
  Bytes.toBE 32 0x8912591ee0238a1b03a59c3b4ff0a44a3a3f8f3da170057d1de4e4078ce65428

def rogueSecret : Bytes :=
  Bytes.toBE 32 0x54274b56a0126cd919f9351d92c9a09f0a0cf4d8e257b3fa560f89cbe39448e1

/-- The session keys they give. -/
def sessionKey : Bytes :=
  Bytes.toBE 32 0x464255fefc981da5b42e0b93ae5daec240738db2ec9239ba7c040a6bf7a67a94

def rogueKey : Bytes :=
  Bytes.toBE 32 0xaab7d93ed5d900ec357d01b2a78acfb37d6a0ae1778fbf9ddcbc7a2b5e9c187f

/-- The other session's key with the server's later one, and with the rogue one. -/
def laterSecret : Bytes :=
  Bytes.toBE 32 0x38713296c5f6884e53d6886ca5ccb369cc43a6b0f564a49492c9cc8830098fa0

def laterKey : Bytes :=
  Bytes.toBE 32 0x8c68828a0feb922bc9015689791cb3b5a304349a4752f1cb0998ce02cc6a0b49

def secondSecret : Bytes :=
  Bytes.toBE 32 0x44fdff9ed38032277bfdcdfd6646a112311dcedbb64c69f90253b8e4816859ca

def secondKey : Bytes :=
  Bytes.toBE 32 0xeefe52efc4e21d260107e539335c0e457cc6e894d1621ab3f9790a7abb4ad4bb

/-- The primitives, on the inputs above. -/
def crypto : Crypto where
  sha256 msg := ([
    (transcript nonce serverEphemeral.pub.sec1 deviceEphemeral.pub.sec1, transcriptHash),
    (serverIdentityPreimage nonce serverEphemeral.pub.sec1 deviceEphemeral.pub.sec1, serverMsgHash),
    (taIdentityPreimage nonce serverEphemeral.pub.sec1 deviceEphemeral.pub.sec1 deviceId,
      taMsgHash),
    (transcript secondNonce laterEphemeral.pub.sec1 secondEphemeral.pub.sec1, laterTranscriptHash),
    (serverIdentityPreimage secondNonce laterEphemeral.pub.sec1 secondEphemeral.pub.sec1,
      laterServerMsgHash),
    (taIdentityPreimage secondNonce laterEphemeral.pub.sec1 secondEphemeral.pub.sec1 deviceId,
      laterTaMsgHash),
    (transcript secondNonce rogueEphemeral.pub.sec1 secondEphemeral.pub.sec1, secondTranscriptHash),
    (serverIdentityPreimage secondNonce rogueEphemeral.pub.sec1 secondEphemeral.pub.sec1,
      rogueMsgHash),
    (taIdentityPreimage secondNonce rogueEphemeral.pub.sec1 secondEphemeral.pub.sec1 deviceId,
      secondTaMsgHash)].lookup msg).getD []
  pub d := ((keys.find? (·.d = d)).map (·.pub)).getD default
  ecdh d q := ([
    ((deviceEphemeral.d, serverEphemeral.pub), sharedSecret),
    ((serverEphemeral.d, deviceEphemeral.pub), sharedSecret),
    ((secondEphemeral.d, laterEphemeral.pub), laterSecret),
    ((laterEphemeral.d, secondEphemeral.pub), laterSecret),
    ((deviceEphemeral.d, rogueEphemeral.pub), rogueSecret),
    ((secondEphemeral.d, rogueEphemeral.pub), secondSecret)].lookup (d, q)).getD []
  hkdf ikm salt info len := ([
    ((sharedSecret, nonce, hkdfInfo, 32), sessionKey),
    ((laterSecret, secondNonce, hkdfInfo, 32), laterKey),
    ((rogueSecret, nonce, hkdfInfo, 32), rogueKey),
    ((secondSecret, secondNonce, hkdfInfo, 32), secondKey)].lookup (ikm, salt, info, len)).getD []
  ecdsaVerify q digest sig := [
    (serverIdentity.pub, serverMsgHash, serverSig),
    (taIdentity.pub, taMsgHash, taSig),
    (serverIdentity.pub, laterServerMsgHash, laterServerSig),
    (taIdentity.pub, laterTaMsgHash, laterTaSig),
    (rogueIdentity.pub, rogueMsgHash, rogueSig),
    (taIdentity.pub, secondTaMsgHash, secondTaSig)].contains (q, digest, sig)
  hmac key msg := ([((sensorPsk, random), sensorResponse)].lookup (key, msg)).getD []

/-- Two readings as the sensor frames them: 23 C and 24 C. -/
def firstReading : Bytes := Bytes.toBE 6 0x000000170143

def secondReading : Bytes := Bytes.toBE 6 0x000000180143

/-- What the generator draws for their nonces, and twelve bytes of somebody else's. -/
def firstDraw : Bytes := Bytes.toBE 12 0x9e54adeb5e060e81c0cd524e

def secondDraw : Bytes := Bytes.toBE 12 0xdd8e1c0ca39ed542a39a565e

def staleNonce : Bytes := Bytes.toBE 12 0xbbd3b95701de9229108c3667

/-- AES-256-GCM of the formatted readings, message by message, under each nonce. -/
def aesGcm (k iv aad plain : Bytes) : Bytes × Bytes := ([
    ((sessionKey, firstDraw, seqAad 1, formatReading 23 (Bytes.ascii ['C'])),
      Bytes.toBE 37 0x7249fd3a50e6f7fe0350dc0ce36361a7330b272e32d748f22c9b548be6afb51020a1e45ed6,
      Bytes.toBE 16 0xe2fa303bf103bb08afb7f175311fcd34),
    ((sessionKey, staleNonce, seqAad 1, formatReading 23 (Bytes.ascii ['C'])),
      Bytes.toBE 37 0xd3552c8fc1d8007774dff352addb126fd9bdf12843babc9f95f35ae9b5625e37d571168fb6,
      Bytes.toBE 16 0xff1f4daa6f052036602c70c601ddfa5a),
    ((sessionKey, secondDraw, seqAad 2, formatReading 24 (Bytes.ascii ['C'])),
      Bytes.toBE 37 0x99255a1db5b6a0d36b39c6033f56f34f6e7836ccfae8b9bae57a9f2d3beb463ed9aa4e3a30,
      Bytes.toBE 16 0xbde65bc8047b8c5ba095beb98b8b1cbf),
    ((sessionKey, staleNonce, seqAad 2, formatReading 24 (Bytes.ascii ['C'])),
      Bytes.toBE 37 0xd3552c8fc1d8007774dff352addb126fd9bdf12843babb9f95f35ae9b5625e37d571168fb6,
      Bytes.toBE 16 0x660fcc151b99fc2e226f37eb99afa5a9)].lookup (k, iv, aad, plain)).getD ([], [])

/-- The sealed identity. -/
def identityBlob : Bytes :=
  packTaIdentityBlob (Bytes.toBE 32 taIdentity.d.toNat) (Bytes.toBE 32 taIdentity.pub.x.toNat)
    (Bytes.toBE 32 taIdentity.pub.y.toNat) deviceId

theorem deviceEphemeral_pub : deviceEphemeral.pub = crypto.pub deviceEphemeral.d := by decide +kernel

/-- The TEE of the provisioned device, before any server is pinned. -/
def bench : Bench where
  crypto := crypto
  sign _ _ := taSig
  keypair := deviceEphemeral
  keypair_pub := deviceEphemeral_pub
  random := random
  store
    | .serverPubkey => none
    | .taIdentity => some identityBlob
    | .sensorPsk => some sensorPsk
  host _ _ := []
  pta
    | .challenge, _ => sensorResponse
    | .read, _ => firstReading
    | .fetchSecret, _ => sensorPsk
  gcm := aesGcm

/-! ## Invocations -/

/-- The four buffers of an invocation, the same at every access. -/
def buffers (b₀ b₁ b₂ b₃ : Bytes) (_ : Nat) : Fin 4 → Bytes := ![b₀, b₁, b₂, b₃]

/-- Their sizes. -/
def sizes (n₀ n₁ n₂ n₃ : Nat) : Params := ![⟨n₀, 0, 0⟩, ⟨n₁, 0, 0⟩, ⟨n₂, 0, 0⟩, ⟨n₃, 0, 0⟩]

def authenticateSensor : Invocation where
  cmdId := 0
  paramTypes := teeParamTypes .none .none .none .none
  params := sizes 0 0 0 0

def generateEvidence : Invocation where
  cmdId := 3
  paramTypes := teeParamTypes .memrefOutput .memrefInput .memrefInput .memrefOutput
  params := sizes 65 32 65 96

/-- What the Host passes it: the nonce and the server's point. -/
def evidenceHost : Nat → Fin 4 → Bytes := buffers [] nonce serverEphemeral.pub.sec1 []

def completeHandshake : Invocation where
  cmdId := 4
  paramTypes := teeParamTypes .memrefInput .memrefInput .memrefInput .memrefInput
  params := sizes 65 32 65 64

/-- What the Host passes it: the point, the nonce, the identity key and the signature. -/
def handshakeHost : Nat → Fin 4 → Bytes :=
  buffers serverEphemeral.pub.sec1 nonce serverIdentity.pub.sec1 serverSig

/-- The provisioned device with a Host that passes the challenge on. -/
def evidenceBench : Bench := { bench with host := evidenceHost }

/-- The same with a Host that passes the server's answer on. -/
def handshakeBench : Bench := { bench with host := handshakeHost }

/-- A session with a live ephemeral keypair. -/
def armedSession : Session := (play [(generateEvidence, evidenceBench)]).2

def protect : Invocation where
  cmdId := 1
  paramTypes := readAndProtectTypes
  params := sizes 12 256 0 0

/-- The device with one reading to seal and one nonce to draw, and a Host in whose nonce buffer
`held` is found. -/
def protectBench (reading draw held : Bytes) : Bench := { bench with
  random := draw
  host := buffers held [] [] []
  pta := fun
    | .challenge, _ => sensorResponse
    | .read, _ => reading
    | .fetchSecret, _ => sensorPsk }

/-- Sensor authentication, evidence, handshake: the way to an open data path. -/
def provisionedSession : List (Invocation × Bench) := [
  (authenticateSensor, bench),
  (generateEvidence, evidenceBench),
  (completeHandshake, handshakeBench)]

end Vectors

end ConfidentialIoT
