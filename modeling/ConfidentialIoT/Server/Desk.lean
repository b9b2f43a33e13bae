import ConfidentialIoT.Lib.Pool
import ConfidentialIoT.Server.Verifier
import ConfidentialIoT.Tee.Bench
import ConfidentialIoT.TrustedApp.Scripted

/-!
# `Server/Desk.lean` — a server that answers

An environment for concrete runs of the server: a `Desk` fixes what the clock says, what the
generators draw and how the identity key signs, and everything else is the state's. Its answers
are `ServerStep`s wherever the signature it makes is one.

The vectors are the other half of the handshake of `TrustedApp/Scripted.lean`: the quote and its
signature, the PCR text, the AK and the record that enrols them, for that handshake and for a later
one of the same device. A second device is enrolled by somebody who owns its keys, and answers the
first challenge with the first device's point. `lib` is the package on exactly these inputs.
-/

set_option autoImplicit false

namespace ConfidentialIoT

open Effects

structure Desk where
  clock : Time
  nonce : Bytes
  ephemeral : Scalar
  sign : Bytes → Bytes

/-- Answer a step. -/
def Desk.serve (C : CryptoLib) (d : Desk) (s : ServerState) : (q : Call Server) → q.Ans × ServerState
  | .req r => nomatch r
  | .act (.lookup id) => (s.registry id, s)
  | .act (.register id ak pcr bank ta) =>
    let r := s.register id ak pcr bank ta d.clock
    ((d.clock, r.1), r.2)
  | .act .time => (d.clock, s)
  | .act (.randomBytes n) => (fit n d.nonce, s)
  | .act .p256Generate => ((d.ephemeral, (C.pub d.ephemeral).sec1), s)
  | .act (.setPending id challenge) =>
    ((), { s with pending := Function.update s.pending id (some challenge) })
  | .act (.popPending id) =>
    (s.pending id, { s with pending := Function.update s.pending id none })
  | .act (.ecVerify key message r t) => (C.ecVerify key message r t, s)
  | .act (.storeSession id key) => (d.clock, s.storeSession id key d.clock)
  | .act (.signServerIdentity preimage) => (d.sign preimage, s)
  | .act (.sessionKey id) =>
    let r := s.sessionKey id d.clock
    ((d.clock, r.1), r.2)
  | .act (.advanceSeq id seq) =>
    let r := s.advanceSeq id seq d.clock
    ((d.clock, r.1), r.2)
  | .act (.setVerdict id verdict) =>
    ((), { s with verdict := Function.update s.verdict id (some verdict) })
  | .act (.extendBuffer id samples verdict) => ((), s.extendBuffer id samples verdict)
  | .act (.writeline _) => ((), s)

/-- The signatures the server's identity makes are 64 bytes and verify. -/
def signsRight (C : CryptoLib) (identity : Point) : Event Server → Bool
  | .did (.signServerIdentity preimage) sig =>
    sig.length = 64 && C.ecdsaVerify identity (C.sha256 preimage) sig
  | _ => true

theorem Desk.serve_step {C : CryptoLib} {identity : Point} (d : Desk) (s : ServerState)
    (q : Call Server) (h : signsRight C identity (Event.of q (d.serve C s q).1) = true) :
    ServerStep C identity s (Event.of q (d.serve C s q).1) (d.serve C s q).2 := by
  cases q with
  | req r => cases r
  | act a =>
    cases a with
    | signServerIdentity preimage =>
      simp only [signsRight, Desk.serve, Event.of, Bool.and_eq_true, decide_eq_true_eq] at h
      exact ⟨h.1, h.2, rfl⟩
    | lookup _ | popPending _ | ecVerify _ _ _ _ | p256Generate => exact ⟨rfl, rfl⟩
    | _ => exact rfl

/-- Play a schedule of a server's threads, each job of which is at its own desk. -/
def playServer {M : Machine Server} {ι : Type} [DecidableEq ι] (C : CryptoLib) (identity : Point)
    (desk : ι → M.Job → Desk) (c₀ : Pool.Config M ι ServerState) (turns : List (Pool.Turn M ι)) :
    List (Pool.Label M ι) × Pool.Config M ι ServerState :=
  Pool.play (fun i job _ s q => (desk i job).serve C s q)
    (fun _ l => match l with | .did _ ev => signsRight C identity ev | _ => true) c₀ turns

theorem playServer_run {M : Machine Server} {ι : Type} [DecidableEq ι] (C : CryptoLib)
    (identity : Point) (desk : ι → M.Job → Desk) (c₀ : Pool.Config M ι ServerState)
    (turns : List (Pool.Turn M ι)) :
    Pool.Run (fun _ => ServerStep C identity) Pool.Any c₀ (playServer C identity desk c₀ turns).1
      (playServer C identity desk c₀ turns).2 := by
  refine Pool.Run.mono (Pool.play_run c₀ turns ?_) (fun _ _ _ => trivial)
  intro c i job _ q hok
  exact (desk i job).serve_step c.shared q hok

/-- The same, with only the steps that `ok` admits. -/
def playAdmitted {M : Machine Server} {ι : Type} [DecidableEq ι] (C : CryptoLib) (identity : Point)
    (ok : Pool.Config M ι ServerState → Pool.Label M ι → Bool) (desk : ι → M.Job → Desk)
    (c₀ : Pool.Config M ι ServerState) (turns : List (Pool.Turn M ι)) :
    List (Pool.Label M ι) × Pool.Config M ι ServerState :=
  Pool.play (fun i job _ s q => (desk i job).serve C s q)
    (fun c l => ok c l && match l with | .did _ ev => signsRight C identity ev | _ => true) c₀ turns

theorem playAdmitted_run {M : Machine Server} {ι : Type} [DecidableEq ι] {C : CryptoLib}
    {identity : Point} {ok : Pool.Config M ι ServerState → Pool.Label M ι → Bool}
    {P : Pool.Config M ι ServerState → Pool.Label M ι → Prop} (desk : ι → M.Job → Desk)
    (c₀ : Pool.Config M ι ServerState) (turns : List (Pool.Turn M ι))
    (admits : ∀ c l, ok c l = true → P c l) :
    Pool.Run (fun _ => ServerStep C identity) P c₀ (playAdmitted C identity ok desk c₀ turns).1
      (playAdmitted C identity ok desk c₀ turns).2 := by
  refine Pool.Run.mono (Pool.play_run c₀ turns ?_) ?_
  · intro c i job _ q hok
    exact (desk i job).serve_step c.shared q (Bool.and_eq_true_iff.mp hok).2
  · intro c l hok
    exact admits c l (Bool.and_eq_true_iff.mp hok).1

/-- A thread does a job on its own. -/
def byItself {S : Sig} {M : Machine S} {ι : Type} (thread : ι) (job : M.Job) : List (Pool.Turn M ι) :=
  Pool.Turn.start thread job :: List.replicate 20 (Pool.Turn.call thread) ++ [Pool.Turn.finish thread]

/-! ## An enrolled device, in front of a server -/

namespace Vectors

/-- A text, by its characters' codes. -/
def textOf (n codes : Nat) : Text := (Bytes.toBE n codes).map fun b => Char.ofNat b.toNat

/-! ### The device -/

def deviceName : Text := ['e', 'd', 'g', 'e', '-', '1']

/-- The name the other device is enrolled under. -/
def intruderName : Text := ['e', 'd', 'g', 'e', '-', '2']

def akPem : Text := textOf 178
  0x2d2d2d2d2d424547494e205055424c4943204b45592d2d2d2d2d0a4d466b77457759484b6f5a497a6a3043415159494b6f5a497a6a30444151634451674145634872334e466b5a373348646673394f38372b347a7032334a356c470a59754a787437722f643577426138314f4f7644355442494774514e476d5966756775764e6e796c344661537631554570645a7741302f746245773d3d0a2d2d2d2d2d454e44205055424c4943204b45592d2d2d2d2d0a

def intruderAkPem : Text := textOf 178
  0x2d2d2d2d2d424547494e205055424c4943204b45592d2d2d2d2d0a4d466b77457759484b6f5a497a6a3043415159494b6f5a497a6a30444151634451674145353638673337492f3243704a2f4834646b67547635446958427932390a786b785a516a4f6637636a6d5571675a66656a706e596d4a70673566612f6d644a466977542b6955623574786a54627a6276716d316e315a64773d3d0a2d2d2d2d2d454e44205055424c4943204b45592d2d2d2d2d0a

def pcrValue : Bytes :=
  Bytes.toBE 32 0xaf4ee2a194ce2391c5cf11bddd26b80d71fca89de08dd4da4d29c85dbb042310

/-- Its digest, which is the quote's as long as no other PCR is selected. -/
def pcrDigest : Bytes :=
  Bytes.toBE 32 0x5b08853540a0246f4324c81cee2569eec6de806981c701bace86def3e0551e40

/-- What `tpm2_pcrread sha256:0` prints. -/
def pcrText : Text := textOf 85
  0x20207368613235363a0a2020202030203a203078414634454532413139344345323339314335434631314244444432364238304437314643413839444530384444344441344432394338354442423034323331300a

/-- The same for `sha256:7`, which has the same value. -/
def otherPcrText : Text := textOf 85
  0x20207368613235363a0a2020202037203a203078414634454532413139344345323339314335434631314244444432364238304437314643413839444530384444344441344432394338354442423034323331300a

/-- A quote's body: `bitmap` selects the PCRs. -/
def quoteBody (bitmap extraData : Bytes) : Bytes :=
  Bytes.toBE 8 0xff54434780180022 ++
  Bytes.toBE 34 0x000bcf0744b3ff6904040e83ac934a8d530f1a500539d7ccfc0c06c914476ddbf142 ++
  Bytes.toBE 2 32 ++ extraData ++ Bytes.toBE 25 0x00000000000f42400000000300000001012020031200120000 ++
  Bytes.toBE 7 0x00000001000b03 ++ bitmap ++ Bytes.toBE 2 32 ++ pcrDigest

/-- `TPM2B_ATTEST` -/
def quoteOver (bitmap extraData : Bytes) : Bytes :=
  Bytes.toBE 2 (quoteBody bitmap extraData).length ++ quoteBody bitmap extraData

def pcr0 : Bytes := [0x01, 0x00, 0x00]

def pcr7 : Bytes := [0x80, 0x00, 0x00]

/-- `TPMT_SIGNATURE` -/
def tpmtSignature (sig : Bytes) : Bytes :=
  Bytes.toBE 6 0x0018000b0020 ++ sig.take 32 ++ Bytes.toBE 2 32 ++ sig.drop 32

/-- The AK, over the quote of the first handshake. -/
def quoteSig : Bytes :=
  Bytes.toBE 64 0x4a32f32590654262461093c75e988996b5a2a82f181b4ccb3497345a7c56f129acdaa45014838abf3e77a17bf50bb3fd0571f0170d8aa62784a15a01fd265d39

/-- The AK, over a quote of another PCR that has the same value. -/
def otherPcrSig : Bytes :=
  Bytes.toBE 64 0x2588dde2fdae2498b474cc766f40e61ec1bb2dae31ea342ab396ae3088e03532fb687102d7b3cfb1230dcaa320e3bd8c4b4d95db21d942b064215861c7f93e1d

/-- Another AK, over the same quote. -/
def intruderQuoteSig : Bytes :=
  Bytes.toBE 64 0x4a32f32590654262461093c75e988996b5a2a82f181b4ccb3497345a7c56f129bc85b07d87423173a250160f22ed939b6d3bab558e6504fbab716805c1778d3b

/-- The AK, over the quote of a later handshake. -/
def laterQuoteSig : Bytes :=
  Bytes.toBE 64 0xef7aeec364837c14aecb140c3f49f393fc5c526a9c2e598db01b4ec7302f2c2ce4a8ca6f4a1bee021b9662735e6857fef1da58e0a725dbc5bf4607a57b74da00

/-! ### The other device's answer to the first challenge -/

def intruderTaMsgHash : Bytes :=
  Bytes.toBE 32 0xd4be7e7dc9f4818fcdb7b3af6e6aab78fd800207b7db2757b9e5645fa2561f9e

def intruderTaSig : Bytes :=
  Bytes.toBE 64 0x553b4052ddbc8d0a31be4a54d6ca6977ab7ccc737e1676d8f4000f0511e9e7b0daa7a0cbf998ac9c0381b696a5225b59bd3beb59246f165891ad2a0f19f81355

/-! ### The package -/

/-- The primitives, on these inputs too. -/
def serverCrypto : Crypto where
  sha256 msg := ([
    (pcrValue, pcrDigest),
    (taIdentityPreimage nonce serverEphemeral.pub.sec1 deviceEphemeral.pub.sec1 intruderName.utf8,
      intruderTaMsgHash)].lookup msg).getD (crypto.sha256 msg)
  pub := crypto.pub
  ecdh := crypto.ecdh
  hkdf := crypto.hkdf
  ecdsaVerify q digest sig :=
    decide ((q, digest, sig) = (rogueIdentity.pub, intruderTaMsgHash, intruderTaSig)) ||
      crypto.ecdsaVerify q digest sig
  hmac := crypto.hmac

/-- The plaintexts that were sealed. -/
def plaintexts : List Bytes :=
  [formatReading 23 (Bytes.ascii ['C']), formatReading 24 (Bytes.ascii ['C'])]

/-- A sealed reading, as it travels: ciphertext and tag. -/
def sealedReading (key iv aad plain : Bytes) : Bytes :=
  (aesGcm key iv aad plain).1 ++ (aesGcm key iv aad plain).2

def lib : CryptoLib where
  toCrypto := serverCrypto
  loadPem text := if text = akPem ∨ text = intruderAkPem then .ec else .invalid
  pemVerify text message r s := [
    (akPem, quoteBody pcr0 transcriptHash, quoteSig),
    (akPem, quoteBody pcr7 transcriptHash, otherPcrSig),
    (akPem, quoteBody pcr0 laterTranscriptHash, laterQuoteSig),
    (intruderAkPem, quoteBody pcr0 transcriptHash, intruderQuoteSig)].contains
      (text, message, Bytes.toBE 32 r ++ Bytes.toBE 32 s)
  fromEncodedPoint b := (keys.find? (·.pub.sec1 = b)).map (·.pub)
  fromEncodedPoint_sec1 := by
    intro b q _ h
    obtain ⟨key, hkey, rfl⟩ := Option.map_eq_some_iff.mp h
    simpa using List.find?_some hkey
  aeadDecrypt key iv data aad :=
    match plaintexts.find? fun plain => data ≠ [] ∧ sealedReading key iv aad plain = data with
    | some plain => .ok plain
    | none => .error .invalidTag

/-! ### What is enrolled, and what is sent -/

def deviceRecord : DeviceRecord where
  deviceId := deviceName
  akPubPem := akPem
  expectedPcr := pcrText
  pcrBank := ['s', 'h', 'a', '2', '5', '6', ':', '0']
  createdAt := 0
  taPubB64 := b64e taIdentity.pub.sec1

def intruderRecord : DeviceRecord where
  deviceId := intruderName
  akPubPem := intruderAkPem
  expectedPcr := pcrText
  pcrBank := ['s', 'h', 'a', '2', '5', '6', ':', '0']
  createdAt := 0
  taPubB64 := b64e rogueIdentity.pub.sec1

/-- Both devices. -/
def enrolled : Registry := fun id =>
  if id = deviceName then some deviceRecord
  else if id = intruderName then some intruderRecord
  else none

/-- An answer over the given point, quote and signatures. -/
def answer (devicePub quote quoteSig taSig : Bytes) : AttestResponse where
  deviceEcdhPub := .str (b64e devicePub)
  quote := .str (b64e quote)
  signature := .str (b64e (tpmtSignature quoteSig))
  pcrValues := .str pcrText
  taSig := .str (b64e taSig)

/-- The device's answer to the first challenge, and to the later one. -/
def genuineAnswer : AttestResponse :=
  answer deviceEphemeral.pub.sec1 (quoteOver pcr0 transcriptHash) quoteSig taSig

def laterAnswer : AttestResponse :=
  answer secondEphemeral.pub.sec1 (quoteOver pcr0 laterTranscriptHash) laterQuoteSig laterTaSig

/-- What the other device makes of the first one's point. -/
def intruderAnswer : AttestResponse :=
  answer deviceEphemeral.pub.sec1 (quoteOver pcr0 transcriptHash) intruderQuoteSig intruderTaSig

/-- The device's AK over another PCR, reported as that. -/
def otherPcrAnswer : AttestResponse :=
  { answer deviceEphemeral.pub.sec1 (quoteOver pcr7 transcriptHash) otherPcrSig taSig with
    pcrValues := .str otherPcrText }

/-- The server's generators for the first challenge, and for the later one. -/
def firstDesk : Desk where
  clock := 0
  nonce := nonce
  ephemeral := serverEphemeral.d
  sign _ := serverSig

def laterDesk : Desk where
  clock := 0
  nonce := secondNonce
  ephemeral := laterEphemeral.d
  sign _ := laterServerSig

end Vectors

end ConfidentialIoT
