import ConfidentialIoT.Host.Agreement
import ConfidentialIoT.Host.Expiry
import ConfidentialIoT.Lib.Completion
import ConfidentialIoT.TrustedApp.Gates
import ConfidentialIoT.TrustedApp.Sealed

/-!
# `Host/Binding.lean` — whose key a session has

The Host calls the commands of the TA as it likes, in as many sessions as it likes, and whatever
reaches the server reaches it. What ties the two together are two signatures: the TA's over the
point it has drawn, and the server's over the point it has taken. A session that the server stores
for a device has a key that the TA of that device has drawn for this very challenge
(`session_is_the_devices`), and a session that a TA has is the one that the server has stored for
it (`session_is_the_servers`).

Nothing is assumed of the primitives. What could go wrong is named: a signature that was not made,
two messages with one hash, a keypair that was drawn twice (`Broken`).
-/

set_option autoImplicit false

namespace ConfidentialIoT

open Effects

/-! ## What a TA has signed -/

section

variable {κ : Type} [DecidableEq κ] {C : Crypto} {store : Storage}
  {P : Pool.Config taMachine κ Storage → Pool.Label taMachine κ → Prop}
  {tas : List (Pool.Label taMachine κ)} {c : Pool.Config taMachine κ Storage}

/-- In one command, session `j` has drawn a keypair and signed it, with what it had read. -/
structure Evidenced (C : Crypto) (tas : List (Pool.Label taMachine κ)) (j : κ) (e : EvidenceInputs) :
    Prop where
  signed : ∃ inv pre mid size sig, pre ++ .started j inv :: mid ++ [.did j
      (.ok (.asymmetricSignDigest (blobD e.blob) (blobX e.blob) (blobY e.blob) e.digest size) sig)]
        <+: tas ∧ Pool.NoStart j mid ∧ essential (Pool.eventsOf j mid) = e.upToSignature
  digest : e.digest = C.sha256 e.signedBytes

theorem Evidenced.did {j : κ} {e : EvidenceInputs} (h : Evidenced C tas j e) {ev : Event Tee}
    (hev : ev ∈ e.upToSignature) : .did j ev ∈ tas := by
  obtain ⟨inv, pre, mid, size, sig, hpre, -, hess⟩ := h.signed
  rw [← hess] at hev
  have hmid := Pool.mem_eventsOf.mp (List.mem_filter.mp hev).1
  exact hpre.subset (by simp [hmid])

/-- What a TEE answers keeps the contract. -/
theorem tee_contract (run : Pool.Run (fun _ => TeeStep C) P (justOpened κ store) tas c) {j : κ}
    {ev : Event Tee} (h : .did j ev ∈ tas) : TeeContract C ev := by
  obtain ⟨_, _, _, -, hstep, -⟩ := run.happened h
  exact hstep.1

/-- What it says about storage is so at the end of the run. -/
theorem tee_storage (run : Pool.Run (fun _ => TeeStep C) P (justOpened κ store) tas c) {j : κ}
    {ev : Event Tee} (h : .did j ev ∈ tas) : StorageFact c.shared ev := by
  obtain ⟨pre, post, rfl⟩ := List.append_of_mem h
  have hpre : pre ++ [.did j ev] <+: pre ++ .did j ev :: post := ⟨post, by simp⟩
  obtain ⟨c₁, c₂, post', -, -, step, -, rest⟩ := run.cut hpre
  exact rest.shared (T := fun store => StorageFact store ev)
    (fun _ _ _ _ h => StorageFact.kept h.2) (.of_step step.answered.2)

/-- Whatever a session signs is evidence of a keypair it has drawn. -/
theorem evidenced_of_signed (run : Pool.Run (fun _ => TeeStep C) P (justOpened κ store) tas c)
    {j : κ} {d x y digest sig : Bytes} {size : Nat}
    (h : .did j (.ok (.asymmetricSignDigest d x y digest size) sig) ∈ tas) :
    ∃ e, Evidenced C tas j e ∧ e.digest = digest := by
  obtain ⟨pre, post, rfl⟩ := List.append_of_mem h
  have hpre : pre ++ [.did j (.ok (.asymmetricSignDigest d x y digest size) sig)] <+:
      pre ++ .did j (.ok (.asymmetricSignDigest d x y digest size) sig) :: post := ⟨post, by simp⟩
  obtain ⟨c₁, c₂, post', -, before, step, -, -⟩ := run.cut hpre
  obtain ⟨inv, sess, pre', mid, rest, rfl, hmid, -, hasserted⟩ :=
    before.asserted_at (justOpened_quiet κ store) step fun inv sess =>
      taInvokeCommand_signsOwnKey (C := C) inv sess
  have hcorrect : TeeCorrect C (Pool.eventsOf j mid) := by
    intro ev hev
    exact tee_contract run (j := j) (by simp [Pool.mem_eventsOf.mp hev])
  obtain ⟨e, hess, hdigest, rfl, rfl, rfl⟩ := hasserted hcorrect
  have hhashed : e.digest = C.sha256 e.signedBytes := by
    refine digest_eq hcorrect ?_
    rw [hess]
    simp [EvidenceInputs.upToSignature]
  have hsame : e.digest = digest := hhashed.trans hdigest.symm
  rw [← hsame] at hpre ⊢
  exact ⟨e, ⟨⟨inv, pre', mid, size, sig, hpre, hmid, hess⟩, hhashed⟩, rfl⟩

/-- A session's keypair was drawn in it. -/
theorem keypair_drawn (run : Pool.Run (fun _ => TeeStep C) P (justOpened κ store) tas c) {j : κ}
    {keypair : EcKeyPair} (h : (c.agents j).mem.ecdhKeypair = some keypair) :
    .did j (.ok (.generateKey .ecdhKeypair 256) keypair) ∈ tas := by
  refine run.kept (I := fun (sess : Session) ls => ∀ keypair, sess.ecdhKeypair = some keypair →
    .did j (.ok (.generateKey .ecdhKeypair 256) keypair) ∈ ls) (justOpened_quiet κ store) j
    ?_ ?_ ?_ keypair h
  · rintro keypair ⟨⟩
  · intro sess ls l ih keypair hlive
    exact List.mem_append_left _ (ih keypair hlive)
  · rintro ls c inv sess log ⟨result, frame⟩ run' hruns ih keypair hlive
    have heffect : Effect ⟨inv, log, result⟩ sess frame.sess := Performed.effect hruns
    refine List.mem_append_left _ ?_
    cases heffect with
    | verdict _ hkeep => exact ih keypair (hkeep.symm.trans hlive)
    | rearmed _ _ _ hmints =>
      obtain ⟨-, -, hmem⟩ := hmints keypair hlive
      have hlogged : Pool.Remembers (ls ++ [.returned j inv sess log (result, frame)]) c j log :=
        Or.inr ⟨inv, sess, (result, frame), by simp⟩
      simpa using run'.remembered (justOpened_quiet κ store) hlogged _ hmem
    | consumed _ _ hnone => cases hnone.symm.trans hlive
    | nothing same =>
      simp only [Session.gateFields, Prod.mk.injEq] at same
      exact ih keypair (same.1.symm.trans hlive)

end

/-! ## What the server has stored and signed -/

section

variable {rt : Runtime} {C : CryptoLib} {identity : Point} {ι : Type} [DecidableEq ι]
  {registry : Registry} {ls : List (Pool.Label (linkMachine rt C identity) ι)}
  {c : Pool.Config (linkMachine rt C identity) ι ServerState}

theorem linkMachine_vets (rt : Runtime) (C : CryptoLib) (identity : Point) (job : LinkJob)
    (conn : Connection) : wp (Vetted C fun _ _ => True) ((linkMachine rt C identity).code job conn)
      (fun _ _ => True) [] := by
  refine wp_mono ?_ (fun _ _ _ => trivial) (@linkMachine_code rt C identity job conn)
  intro tr q h
  have other : ∀ {act : ServerAct}, q = .act act → (∀ id challenge, act ≠ .setPending id challenge) →
      (∀ id key, act ≠ .storeSession id key) → Vetted C (fun _ _ => True) tr q := by
    rintro act rfl hpending hstore
    cases act with
    | setPending id challenge => exact absurd rfl (hpending id challenge)
    | storeSession id key => exact absurd rfl (hstore id key)
    | _ => trivial
  cases h with
  | line _ _ call =>
    cases call with
    | issue _ _ call => exact call.vetted
    | verify _ _ _ call => exact call.vetted trivial
    | data _ _ call =>
      cases q with
      | req r => cases r
      | act act =>
        cases act with
        | setPending id challenge => exact call.elim
        | storeSession id key => exact call.elim
        | _ => trivial
    | reply h => exact other h (by simp) (by simp)
  | hangUp _ _ _ _ call =>
    rcases call with h | ⟨now, h⟩
    · exact other h (by simp) (by simp)
    · exact other h (by simp) (by simp)
  | register _ _ h => exact other h (by simp) (by simp)

/-- The server signs for the session that it has just stored. -/
theorem Served.signed {conn conn' : Connection} {job : LinkJob} {tr before after : List (Event Server)}
    {message sig : Bytes} (h : Served rt C identity conn job tr conn')
    (htr : tr = before ++ .did (.signServerIdentity message) sig :: after) :
    ∃ (deviceId : Text) (v : Vetting C deviceId) (key : Bytes) (now : Time),
      before = v.events ++ [.did (.storeSession deviceId key) now] ∧ message = v.serverPreimage ∧
        deviceKey C v.pending v.presented.devicePub = .ok key := by
  have hmem : .did (.signServerIdentity message) sig ∈ tr := by simp [htr]
  cases h with
  | closed _ _ => cases hmem
  | ended _ hangs => cases hangs <;> simp at hmem
  | notEnrolled _ => cases hmem
  | enrolled _ _ => simp at hmem
  | escaped _ h hangs =>
    rcases List.mem_append.mp hmem with hmem | hmem
    · cases h with
      | attest _ _ failure _ =>
        cases failure with
        | field _ => cases hmem
        | verify _ failure =>
          cases failure with
          | notRegistered => simp at hmem
          | noPending _ => simp at hmem
          | answered h => cases h <;> simp at hmem
      | data _ _ escapes => cases escapes <;> simp [dataAdvanced, dataRead] at hmem
      | _ => cases hmem
    · cases hangs <;> simp at hmem
  | handled live h =>
    cases h with
    | challenged _ _ drawn =>
      obtain ⟨record, nonce, -, rfl⟩ := drawn
      simp at hmem
    | attested _ _ v _ now hkey sig' =>
      simp [Vetting.events, Vetting.checks, List.cons_eq_append_iff] at htr
      obtain ⟨rfl, ⟨rfl, -⟩, -⟩ := htr
      exact ⟨_, v, _, now, rfl, rfl, hkey⟩
    | attestRefused _ _ failure _ =>
      cases failure with
      | field _ => simp at hmem
      | verify _ failure =>
        cases failure with
        | notRegistered => simp at hmem
        | noPending _ => simp at hmem
        | answered h => cases h <;> simp at hmem
    | data _ _ handled => cases handled <;> simp [dataAdvanced, dataRead] at hmem
    | _ => simp at hmem

/-- Only an enrolment changes the registry. -/
theorem ServerStep.registry_eq {s s' : ServerState} {ev : Event Server}
    (h : ServerStep C identity s ev s')
    (other : ∀ id ak pcr bank ta r, ev ≠ .did (.register id ak pcr bank ta) r) :
    s'.registry = s.registry := by
  cases ev with
  | ok r b => cases r
  | refused r e => cases r
  | did a b =>
    cases a with
    | register id ak pcr bank ta => exact absurd rfl (other id ak pcr bank ta b)
    | sessionKey id =>
      have hs' := congrArg Prod.snd h
      rw [show s' = _ from hs', ServerState.sessionKey]
      split
      · rfl
      · split <;> rfl
    | advanceSeq id seq =>
      have hs' := congrArg Prod.snd h
      rw [show s' = _ from hs', ServerState.advanceSeq]
      split
      · rfl
      · split
        · rfl
        · split <;> rfl
    | storeSession _ _ | setPending _ _ | setVerdict _ _ | extendBuffer _ _ _ | time | randomBytes _
    | writeline _ =>
      obtain rfl := h
      rfl
    | lookup _ | p256Generate | ecVerify _ _ _ _ | popPending _ =>
      obtain ⟨-, rfl⟩ := h
      rfl
    | signServerIdentity _ =>
      obtain ⟨-, -, rfl⟩ := h
      rfl

/-- What an answered step says is so at the end of the run. -/
theorem server_facts
    (run : Pool.Run (fun _ => ServerStep C identity) Pool.Any (linkStarted rt C identity ι registry)
      ls c) {i : ι} {ev : Event Server} (h : .did i ev ∈ ls) : ServerFact C identity c.shared ev := by
  obtain ⟨pre, post, rfl⟩ := List.append_of_mem h
  have hpre : pre ++ [.did i ev] <+: pre ++ .did i ev :: post := ⟨post, by simp⟩
  obtain ⟨c₁, c₂, post', -, -, step, -, rest⟩ := run.cut hpre
  exact rest.shared (T := fun s => ServerFact C identity s ev)
    (fun _ _ _ _ h => ServerFact.kept h) (.of_step step.answered)

/-- A session that was stored for a device, with what had been checked. -/
structure StoredFor (rt : Runtime) (ls : List (Pool.Label (linkMachine rt C identity) ι))
    (registry : Registry) {deviceId : Text} (v : Vetting C deviceId) (key : Bytes) : Prop where
  stored : ∃ before i now, before ++ [.did i (.did (.storeSession deviceId key) now)] <+: ls
  sound : v.Sound registry key
  verified : ∃ i r s, .did i (.did (.ecVerify (.p256 v.taPub) v.taPreimage r s) true) ∈ ls
  /-- the challenge's keypair was drawn -/
  drawn : ∃ i, .did i (.did .p256Generate (v.pending.serverPriv, v.pending.serverPub)) ∈ ls

/-- What led to a store. -/
theorem storedFor_of_events
    (run : Pool.Run (fun _ => ServerStep C identity) Pool.Any (linkStarted rt C identity ι registry)
      ls c) {i : ι} {deviceId : Text} {v : Vetting C deviceId} {key : Bytes} {now : Time}
    {pre mid : List (Pool.Label (linkMachine rt C identity) ι)}
    (hpre : pre ++ mid ++ [.did i (.did (.storeSession deviceId key) now)] <+: ls)
    (hmid : Pool.eventsOf i mid = v.events)
    (hkey : deviceKey C v.pending v.presented.devicePub = .ok key) :
    StoredFor rt ls c.shared.registry v key := by
  have hdid : ∀ ev ∈ v.events, .did i ev ∈ ls := by
    intro ev hev
    rw [← hmid] at hev
    exact hpre.subset (by simp [Pool.mem_eventsOf.mp hev])
  have hsound : v.Sound c.shared.registry key :=
    Vetting.sound (fun ev hev => server_facts run (hdid ev hev)) hkey
  have hverified : .did i (.did (.ecVerify (.p256 v.taPub) v.taPreimage
      (Bytes.ofBE (v.presented.taSig.slice 0 32)) (Bytes.ofBE (v.presented.taSig.slice 32 32)))
        true) ∈ ls := hdid _ (by simp [Vetting.events, Vetting.checks])
  refine ⟨⟨_, i, now, hpre⟩, hsound, ⟨i, _, _, hverified⟩, ?_⟩
  -- the challenge that was taken had been issued
  obtain ⟨use, rest, hsplit⟩ := List.append_of_mem (hdid (.did (.popPending deviceId)
    (some v.pending)) (by simp [Vetting.events]))
  have hpop : use ++ [.did i (.did (.popPending deviceId) (some v.pending))] <+: ls :=
    ⟨rest, by simp [hsplit]⟩
  obtain ⟨issue, hconsumed⟩ := consumed_of_popped run hpop
  obtain ⟨j, between, rfl, -⟩ := hconsumed.untouched
  have hissue : issue ++ [.did j (.did (.setPending deviceId v.pending) ())] <+: ls := by
    refine List.IsPrefix.trans ⟨between ++ [.did i (.did (.popPending deviceId)
      (some v.pending))], ?_⟩ hpop
    simp
  obtain ⟨_, before, during, rfl, -, hdrawn⟩ :=
    challenge_provenance (linkMachine_vets rt C identity) run hissue
  obtain ⟨record, nonce, -, hevents⟩ := hdrawn
  have hgen : .did .p256Generate (v.pending.serverPriv, v.pending.serverPub) ∈
      Pool.eventsOf j during := by
    rw [hevents]
    simp
  refine ⟨j, ?_⟩
  rw [hsplit]
  simp [Pool.mem_eventsOf.mp hgen]

/-- Every stored session was checked. -/
theorem storedFor_of_stored
    (run : Pool.Run (fun _ => ServerStep C identity) Pool.Any (linkStarted rt C identity ι registry)
      ls c) {before : List (Pool.Label (linkMachine rt C identity) ι)} {i : ι} {deviceId : Text}
    {key : Bytes} {now : Time}
    (h : before ++ [.did i (.did (.storeSession deviceId key) now)] <+: ls) :
    ∃ v : Vetting C deviceId, StoredFor rt ls c.shared.registry v key := by
  obtain ⟨c₁, c₂, post, -, run', step, -, -⟩ := run.cut h
  obtain ⟨job, conn, pre, mid, rest, rfl, -, -, v, -, hevents, hkey⟩ :=
    run'.asserted_at serving_quiet step (linkMachine_vets rt C identity)
  have hpre : pre ++ [.started i job] ++ mid ++ [.did i (.did (.storeSession deviceId key) now)] <+:
      ls := by simpa using h
  exact ⟨v, storedFor_of_events run hpre hevents hkey⟩

/-- Every signature is for a stored session. -/
theorem storedFor_of_signed
    (run : Pool.Run (fun _ => ServerStep C identity) Pool.Any (linkStarted rt C identity ι registry)
      ls c) {i : ι} {message sig : Bytes} (h : .did i (.did (.signServerIdentity message) sig) ∈ ls) :
    ∃ (deviceId : Text) (v : Vetting C deviceId) (key : Bytes),
      StoredFor rt ls c.shared.registry v key ∧ message = v.serverPreimage := by
  obtain ⟨pre, post, hsplit⟩ := List.append_of_mem h
  have hpre : pre ++ [.did i (.did (.signServerIdentity message) sig)] <+: ls :=
    ⟨post, by simp [hsplit]⟩
  obtain ⟨job, conn, before, mid, after, out, rfl, -, hruns⟩ :=
    run.completes server_answers serving_quiet hpre
  obtain ⟨-, hserved⟩ := wp_runs hruns (@linkMachine_code rt C identity job conn)
  obtain ⟨deviceId, v, key, now, hevents, hmessage, hkey⟩ := hserved.signed rfl
  obtain ⟨mid₁, mid₂, rfl, hchecked, hstore⟩ := Pool.eventsOf_eq_append _ hevents
  have hstored : before ++ [.started i job] ++ mid₁ ++ [.did i (.did (.storeSession deviceId key)
      now)] <+: ls := ⟨mid₂ ++ .did i (.did (.signServerIdentity message) sig) :: post, by
        simp [hsplit]⟩
  exact ⟨deviceId, v, key, storedFor_of_events run hstored hchecked hkey, hmessage⟩

end

/-! ## What could go wrong -/

/-- A TA that has sealed its identity under a name, with any number of sessions. -/
structure SealedDevice (C : Crypto) (κ : Type) [DecidableEq κ] (name : Text) where
  store : Storage
  labels : List (Pool.Label taMachine κ)
  now : Pool.Config taMachine κ Storage
  runs : Pool.Run (fun _ => TeeStep C) Pool.Any (justOpened κ store) labels now
  blob : Bytes
  held : now.shared .taIdentity = some blob
  length_blob : blob.length = taIdentityBlobSize
  sealedName : blobDeviceId blob = name.utf8

namespace SealedDevice

variable {C : Crypto} {κ : Type} [DecidableEq κ] {name : Text} (d : SealedDevice C κ name)

def taPub : Point := Point.ofCoords (blobX d.blob) (blobY d.blob)

theorem taPub_sec1 : d.taPub.sec1 = taIdentityBlobToSec1 d.blob :=
  Point.sec1_ofCoords (Bytes.length_slice _ _ _ (by rw [d.length_blob]; decide))
    (Bytes.length_slice _ _ _ (by rw [d.length_blob]; decide))

/-- What is read is what is sealed. -/
theorem evidence_blob {j : κ} {e : EvidenceInputs} (h : Evidenced C d.labels j e) :
    e.blob = d.blob := by
  have hread : .did j (.ok (.readObjectData .taIdentity taIdentityBlobSize) e.blob) ∈ d.labels :=
    h.did (by simp [EvidenceInputs.upToSignature])
  obtain ⟨content, hcontent, htake⟩ := tee_storage d.runs hread
  obtain rfl := Option.some.inj (hcontent.symm.trans d.held)
  rw [htake, List.take_of_length_le (Nat.le_of_eq d.length_blob)]

end SealedDevice

section

variable {rt : Runtime} {C : CryptoLib} {identity : Point} {δ κ ι : Type} [DecidableEq κ]
  [DecidableEq ι] {name : δ → Text} (fleet : (a : δ) → SealedDevice C.toCrypto κ (name a))

/-- What the server has hashed to verify or to sign it. -/
def ServerHashes (ls : List (Pool.Label (linkMachine rt C identity) ι)) (message : Bytes) : Prop :=
  (∃ i q r s ok, .did i (.did (.ecVerify q message r s) ok) ∈ ls) ∨
    ∃ i sig, .did i (.did (.signServerIdentity message) sig) ∈ ls

/-- What a TA has hashed. -/
def TaHashes (tas : List (Pool.Label taMachine κ)) (message : Bytes) : Prop :=
  ∃ j size digest, .did j (.ok (.digestDoFinal message size) digest) ∈ tas

/-- The ways the primitives can fail a run. -/
inductive Broken (ls : List (Pool.Label (linkMachine rt C identity) ι)) : Prop where
  /-- the server takes a signature of a TA that has not signed -/
  | forgedTa {a : δ} {i : ι} {message : Bytes} {r s : Nat}
      (taken : .did i (.did (.ecVerify (.p256 (fleet a).taPub) message r s) true) ∈ ls)
      (never : ∀ j d x y size sig, .did j (.ok (.asymmetricSignDigest d x y (C.sha256 message) size)
        sig) ∉ (fleet a).labels)
  /-- a TA takes a signature of the server, which has not signed -/
  | forgedServer {a : δ} {j : κ} {x y digest sig : Bytes} (key : Point.ofCoords x y = identity)
      (taken : .did j (.ok (.asymmetricVerifyDigest x y digest sig) ()) ∈ (fleet a).labels)
      (never : ∀ i message sig', .did i (.did (.signServerIdentity message) sig') ∈ ls →
        C.sha256 message ≠ digest)
  /-- what a TA has hashed and what the server has hashed have one hash -/
  | collision {a : δ} {message message' : Bytes} (ta : TaHashes (fleet a).labels message)
      (server : ServerHashes ls message') (ne : message ≠ message')
      (same : C.sha256 message = C.sha256 message')
  /-- two TAs have drawn one point -/
  | repeated {a a' : δ} (ne : a ≠ a') {j j' : κ} {keypair keypair' : EcKeyPair}
      (drawn : .did j (.ok (.generateKey .ecdhKeypair 256) keypair) ∈ (fleet a).labels)
      (drawn' : .did j' (.ok (.generateKey .ecdhKeypair 256) keypair') ∈ (fleet a').labels)
      (same : keypair.pub = keypair'.pub)

/-- The TA's pre-image, under the sealed name, says what is in it: the name gives the length of the
nonce away. -/
theorem taIdentityPreimage_named {nonce serverPub devicePub nonce' serverPub' devicePub' id : Bytes}
    (hs : serverPub.length = serverPub'.length) (hd : devicePub.length = devicePub'.length)
    (h : taIdentityPreimage nonce serverPub devicePub id =
      taIdentityPreimage nonce' serverPub' devicePub' id) :
    nonce = nonce' ∧ serverPub = serverPub' ∧ devicePub = devicePub' := by
  have hbytes := List.append_cancel_left h
  have hlen := congrArg List.length hbytes
  simp only [List.length_append] at hlen
  obtain ⟨hnonce, hpoints⟩ := List.append_inj hbytes (by omega)
  obtain ⟨hserver, hdevice⟩ := List.append_inj hpoints hs
  exact ⟨hnonce, hserver, (List.append_inj hdevice hd).1⟩

variable {registry : Registry} {ls : List (Pool.Label (linkMachine rt C identity) ι)}
  {c : Pool.Config (linkMachine rt C identity) ι ServerState}

/-- The device's evidence is about what the server has checked. -/
structure Binds {deviceId : Text} (e : EvidenceInputs) (v : Vetting C deviceId) : Prop where
  nonce : e.nonce.1 = v.pending.nonce
  serverPub : e.serverPub.1 = v.pending.serverPub
  devicePub : e.keypair.pub.sec1 = v.presented.devicePub

/-- A session of an enrolled device is bound to evidence of its TA. -/
theorem bound_or_broken
    (run : Pool.Run (fun _ => ServerStep C identity) Pool.Any (linkStarted rt C identity ι registry)
      ls c) {a : δ} (enrolled : ∀ record, c.shared.registry (name a) = some record →
      record.taPubB64 = b64e (taIdentityBlobToSec1 (fleet a).blob))
    {v : Vetting C (name a)} {key : Bytes} (h : StoredFor rt ls c.shared.registry v key) :
    Broken fleet ls ∨ ∃ j e, Evidenced C.toCrypto (fleet a).labels j e ∧ Binds e v := by
  have hserver : v.pending.serverPub.length = 65 := by
    obtain ⟨i, hdrawn⟩ := h.drawn
    have hfact : v.pending.serverPub = (C.pub v.pending.serverPriv).sec1 := server_facts run hdrawn
    rw [hfact, Point.length_sec1]
  have hkey : v.taPub = (fleet a).taPub := by
    obtain ⟨raw, hraw, hpoint⟩ := h.sound.taPub
    rw [enrolled _ h.sound.registered, b64d_b64e] at hraw
    obtain rfl := Except.ok.inj hraw
    have hlen : (taIdentityBlobToSec1 (fleet a).blob).length = 65 := by
      rw [← (fleet a).taPub_sec1, Point.length_sec1]
    exact Point.sec1_inj
      ((C.fromEncodedPoint_sec1 _ _ hlen hpoint).trans (fleet a).taPub_sec1.symm)
  obtain ⟨i, r, s, hverified⟩ := h.verified
  rw [hkey] at hverified
  by_cases hsigned : ∃ j d x y size sig, .did j (.ok (.asymmetricSignDigest d x y
      (C.sha256 v.taPreimage) size) sig) ∈ (fleet a).labels
  · obtain ⟨j, d, x, y, size, sig, hmem⟩ := hsigned
    obtain ⟨e, hevidenced, hdigest⟩ := evidenced_of_signed (fleet a).runs hmem
    by_cases hsame : e.signedBytes = v.taPreimage
    · right
      rw [EvidenceInputs.signedBytes, (fleet a).evidence_blob hevidenced,
        (fleet a).sealedName] at hsame
      obtain ⟨hnonce, hpub, hdevice⟩ := taIdentityPreimage_named (e.serverPub.2.trans hserver.symm)
        ((Point.length_sec1 _).trans v.presents.length_devicePub.symm) hsame
      exact ⟨j, e, hevidenced, ⟨hnonce, hpub, hdevice⟩⟩
    · left
      have hhashed : .did j (.ok (.digestDoFinal e.signedBytes transcriptHashSize) e.digest) ∈
          (fleet a).labels := hevidenced.did (by simp [EvidenceInputs.upToSignature])
      exact .collision ⟨j, _, _, hhashed⟩ (Or.inl ⟨i, _, r, s, true, hverified⟩) hsame
        (hevidenced.digest.symm.trans hdigest)
  · left
    refine .forgedTa hverified ?_
    intro j d x y size sig hmem
    exact hsigned ⟨j, d, x, y, size, sig, hmem⟩

/-- **A session has a key that the device's TA has drawn for it.** Whatever reaches the server, and
whatever is asked of the TA: when a session is stored for a device that is enrolled with the
identity of its TA, the TA has drawn the device's point in a command that was given this very
challenge's nonce and server point. The key is theirs. -/
theorem session_is_the_devices
    (run : Pool.Run (fun _ => ServerStep C identity) Pool.Any (linkStarted rt C identity ι registry)
      ls c) {a : δ} (enrolled : ∀ record, c.shared.registry (name a) = some record →
      record.taPubB64 = b64e (taIdentityBlobToSec1 (fleet a).blob))
    {before : List (Pool.Label (linkMachine rt C identity) ι)} {i : ι} {key : Bytes} {now : Time}
    (h : before ++ [.did i (.did (.storeSession (name a) key) now)] <+: ls) :
    Broken fleet ls ∨ ∃ (v : Vetting C (name a)) (j : κ) (e : EvidenceInputs),
      StoredFor rt ls c.shared.registry v key ∧ Evidenced C.toCrypto (fleet a).labels j e ∧
      Binds e v ∧ key = C.hkdf (C.ecdh v.pending.serverPriv e.keypair.pub) v.pending.nonce hkdfInfo
        aeadKeyLen := by
  obtain ⟨v, hstored⟩ := storedFor_of_stored run h
  rcases bound_or_broken fleet run enrolled hstored with hbroken | ⟨j, e, hevidenced, hbinds⟩
  · exact Or.inl hbroken
  · obtain ⟨peer, hpeer, hkey⟩ := hstored.sound.key
    have hsec1 := C.fromEncodedPoint_sec1 _ _ v.presents.length_devicePub hpeer
    obtain rfl := Point.sec1_inj (hsec1.trans hbinds.devicePub.symm)
    exact Or.inr ⟨v, j, e, hstored, hevidenced, hbinds, hkey⟩

end

/-! ## What a TA is left with -/

section

variable {C : Crypto} {s : Frame} {tr : List (Event Tee)}

theorem deriveSessionKey_derives (keypair : EcKeyPair) (nonceLen : Nat) :
    wpP (fun _ _ => True) (deriveSessionKey keypair nonceLen)
      (fun tr' s' key => s' = s ∧ ∃ evs x y, ∃ salt : BytesN nonceLen,
        essential tr' = essential tr ++ evs ∧ Derived keypair x y salt evs ∧
        (TeeCorrect C tr' → key = C.hkdf (C.ecdh keypair.d (Point.ofCoords x.1 y.1)) salt.1 hkdfInfo
          sessionKeySize))
      (fun _ _ _ => True) s tr := by
  simp only [deriveSessionKey, wpP_bind, wpP_tee, wpP_teeAct, wpP_hostRead, implies_true,
    and_true, true_and]
  intro _ _ _ x y shared ikm _ _ _ _ _ salt okm key
  refine ⟨_, x, y, salt, ?_, ⟨shared, ikm, okm, rfl⟩, ?_⟩
  · simp [housekeeping]
  · intro hcorrect
    have hshared : shared = C.ecdh keypair.d (Point.ofCoords x.1 y.1) :=
      hcorrect (.did (.deriveEcdh keypair x.1 y.1) shared) (by simp)
    have hikm : ikm = shared := hcorrect (.ok (.getSecretValue shared 32) ikm) (by simp)
    have hokm : okm = C.hkdf ikm salt.1 hkdfInfo sessionKeySize :=
      hcorrect (.did (.deriveHkdf ikm salt.1 hkdfInfo sessionKeySize) okm) (by simp)
    have hkey : key = okm := hcorrect (.ok (.getSecretValue okm sessionKeySize) key) (by simp)
    rw [hkey, hokm, hikm, hshared]

/-- The key a successful HANDSHAKE_COMPLETE derives. -/
def HandshakeAnswers.derived (C : Crypto) (h : HandshakeAnswers) : Bytes :=
  C.hkdf (C.ecdh h.keypair.d (Point.ofCoords h.x.1 h.y.1)) h.salt.1 hkdfInfo sessionKeySize

/-- What a successful HANDSHAKE_COMPLETE did with the session's keypair, and what it left. -/
structure Completed (C : Crypto) (sess : Session) (tr : List (Event Tee)) (frame : Frame)
    (r : HandshakeRecord tr) : Prop where
  live : sess.ecdhKeypair = some r.keypair
  devicePub : r.devicePub.1 = r.keypair.pub.sec1
  left : frame.sess = { sess with
    ecdhKeypair := none
    sessionKey := r.derived C ++ sess.sessionKey.drop (r.derived C).length
    sessionKeyValid := true
    sendSeq := 0 }

theorem taHandshakeComplete_completed (paramTypes : UInt32) (sess : Session) (params : Params) :
    wpP (fun _ _ => True) (taHandshakeComplete paramTypes)
      (fun tr frame _ => TeeCorrect C tr → ∃ r, Completed C sess tr frame r) (fun _ _ _ => True)
      ⟨sess, params⟩ [] := by
  simp only [taHandshakeComplete, wpP_bind, wpP_get, wpP_ofOutcome, wpP_hostRead, wpP_ite,
    wpP_throw, wpP_cleanup, implies_true, true_and, and_true]
  intro keypair hok tag htag
  obtain ⟨-, hlive, -, -, hsig⟩ := handshakeParamsOk_eq_ok.mp hok
  simp only [handshakeOverKey, wpP_bind, hsig]
  apply wpP_use (readPublicPoint_spec keypair fun _ _ _ => trivial)
  · rintro tr₁ s₁ devicePub hpre₁ ⟨rfl, hess₁, hdev, hpoint⟩
    apply wpP_use (authenticateServer_spec (params 1).size devicePub)
    · rintro tr₂ s₂ _ hpre₂ ⟨rfl, keyTag, hashedEvs, keyEvs, nonce, peer, digest, key, hess₂, hkeyTag,
        hhashed, hkey, hlost⟩
      apply wpP_use (deriveSessionKey_derives keypair (params 1).size)
      · rintro tr₃ s₃ okm' hpre₃ ⟨rfl, derivedEvs, x, y, salt, hess₃, hderived, hokm⟩ hcorrect
        obtain rfl := hhashed
        obtain ⟨sig, rfl⟩ := hkey
        obtain ⟨shared, ikm, okm, rfl⟩ := hderived
        refine ⟨{
          peerTag := tag
          keyTag := keyTag
          devicePub := ⟨devicePub, hdev⟩
          nonceLen := (params 1).size
          nonce := nonce
          peer := peer
          digest := digest
          key := key
          sig := sig
          keypair := keypair
          x := x
          y := y
          salt := salt
          shared := shared
          ikm := ikm
          okm := okm
          peerTag_eq := not_not.mp htag
          keyTag_eq := hkeyTag
          lost := hlost.mono hpre₃
          essential_eq := by simp [hess₃, hess₂, hess₁, housekeeping, HandshakeAnswers.events] },
          hlive, ?_, ?_⟩
        · exact hpoint C (hcorrect.of_prefix (hpre₂.trans hpre₃))
        · rw [hokm hcorrect]
          rfl
      · intro _ _ _ _ _
        trivial
    · intro _ _ _ _ _
      trivial
  · intro _ _ _ _ _
    trivial

end

/-! ## Both directions -/

section

variable {C : Crypto} {κ : Type} [DecidableEq κ] {name : Text} (d : SealedDevice C κ name)

/-- What a session's keypair was when a command started, it has drawn. -/
theorem SealedDevice.drawn_of_returned {j : κ} {inv : Invocation} {sess : Session}
    {log : List (Event Tee)} {out : Except TeeError Unit × Frame} {keypair : EcKeyPair}
    (h : .returned j inv sess log out ∈ d.labels) (hlive : sess.ecdhKeypair = some keypair) :
    .did j (.ok (.generateKey .ecdhKeypair 256) keypair) ∈ d.labels := by
  obtain ⟨pre, post, hsplit⟩ := List.append_of_mem h
  have hpre : pre ++ [.returned j inv sess log out] <+: d.labels := ⟨post, by simp [hsplit]⟩
  obtain ⟨c₁, c₂, post', -, run, step, -, -⟩ := d.runs.cut hpre
  obtain ⟨hbusy, -⟩ := step.of_returned
  have hmem : (c₁.agents j).mem.ecdhKeypair = some keypair := by
    rw [hbusy]
    exact hlive
  rw [hsplit]
  exact List.mem_append_left _ (keypair_drawn run hmem)

theorem SealedDevice.did_of_returned {j : κ} {inv : Invocation} {sess : Session}
    {log : List (Event Tee)} {out : Except TeeError Unit × Frame}
    (h : .returned j inv sess log out ∈ d.labels) : ∀ ev ∈ log, .did j ev ∈ d.labels :=
  d.runs.remembered (justOpened_quiet κ d.store) (Or.inr ⟨inv, sess, out, h⟩)

end

section

variable {rt : Runtime} {C : CryptoLib} {identity : Point} {δ κ ι : Type} [DecidableEq κ]
  [DecidableEq ι] {name : δ → Text} (fleet : (a : δ) → SealedDevice C.toCrypto κ (name a))
  {registry : Registry} {ls : List (Pool.Label (linkMachine rt C identity) ι)}
  {c : Pool.Config (linkMachine rt C identity) ι ServerState}

/-- **A session that a TA has is the one that the server has stored for it**, if nobody is enrolled
but these TAs, the Host leaves the buffers of HANDSHAKE_COMPLETE alone, and the key that it verified
under is the server's. -/
theorem session_is_the_servers
    (run : Pool.Run (fun _ => ServerStep C identity) Pool.Any (linkStarted rt C identity ι registry)
      ls c) (enrolled : ∀ deviceId record, c.shared.registry deviceId = some record →
      ∃ a, name a = deviceId ∧ record.taPubB64 = b64e (taIdentityBlobToSec1 (fleet a).blob))
    (ecdh : ∀ i drawn, .did i (.did .p256Generate drawn) ∈ ls → ∀ a j keypair,
      .did j (.ok (.generateKey .ecdhKeypair 256) keypair) ∈ (fleet a).labels →
        C.ecdh keypair.d (C.pub drawn.1) = C.ecdh drawn.1 keypair.pub)
    {a : δ} {j : κ} {inv : Invocation} {sess : Session} {log : List (Event Tee)} {frame : Frame}
    (returned : .returned j inv sess log (.ok (), frame) ∈ (fleet a).labels)
    (hc : Command.ofId inv.cmdId = some .handshakeComplete)
    (point : Unchanged 0 1 log) (nonce : Unchanged 1 0 log)
    (under : ∀ key ∈ verifiedUnder log, Point.ofCoords key.1 key.2 = identity) :
    Broken fleet ls ∨ ∃ before i key now,
      before ++ [.did i (.did (.storeSession (name a) key) now)] <+: ls ∧
      frame.sess.sessionKey = key ++ sess.sessionKey.drop key.length ∧
      frame.sess.sessionKeyValid = true ∧ frame.sess.sendSeq = 0 := by
  have hdid := (fleet a).did_of_returned returned
  have hcorrect : TeeCorrect C.toCrypto log := fun ev hev => tee_contract (fleet a).runs (hdid ev hev)
  have hruns := ((fleet a).runs.logs (justOpened_quiet κ _)).2 j inv sess log _ returned
  simp only [taMachine, Invocation.program, taInvokeCommand, hc] at hruns
  have hpost := wp_runs hruns (taHandshakeComplete_completed (C := C.toCrypto) _ _ _)
  obtain ⟨r, hlive, hdevice, hleft⟩ := hpost hcorrect
  obtain ⟨hx, hy⟩ := r.unchanged_point.mp point
  have hsalt := r.unchanged_nonce.mp nonce
  have hmem : ∀ ev ∈ r.events r.key, ev ∈ log := by
    intro ev hev
    rw [← r.essential_eq] at hev
    exact (List.mem_filter.mp hev).1
  have hhashed : .ok (.digestDoFinal (serverIdentityPreimage r.nonce.1 r.peer.1 r.devicePub.1)
      transcriptHashSize) r.digest ∈ log := hmem _ (by simp [HandshakeAnswers.events])
  have hdigest : r.digest = C.sha256 (serverIdentityPreimage r.nonce.1 r.peer.1 r.devicePub.1) :=
    hcorrect _ hhashed
  have hverified : .ok (.asymmetricVerifyDigest r.key.x r.key.y r.digest r.sig.1) () ∈ log :=
    hmem _ (by simp [HandshakeAnswers.events])
  have hkey : Point.ofCoords r.key.x r.key.y = identity :=
    under (r.key.x, r.key.y) (by simp [verifiedUnder, r.verifiedKeys_eq])
  by_cases hsigned : ∃ i message sig, .did i (.did (.signServerIdentity message) sig) ∈ ls ∧
      C.sha256 message = r.digest
  · obtain ⟨i, message, sig, hsign, hsame⟩ := hsigned
    obtain ⟨deviceId, v, key, hstored, rfl⟩ := storedFor_of_signed run hsign
    by_cases hmessage : serverIdentityPreimage r.nonce.1 r.peer.1 r.devicePub.1 = v.serverPreimage
    · obtain ⟨a', rfl, hta⟩ := enrolled _ _ hstored.sound.registered
      have henrolled : ∀ record, c.shared.registry (name a') = some record →
          record.taPubB64 = b64e (taIdentityBlobToSec1 (fleet a').blob) := by
        intro record hrecord
        obtain rfl := Option.some.inj (hrecord.symm.trans hstored.sound.registered)
        exact hta
      obtain ⟨⟨k, hdrawn⟩, hserver⟩ : (∃ k, .did k (.did .p256Generate (v.pending.serverPriv,
          v.pending.serverPub)) ∈ ls) ∧ v.pending.serverPub = (C.pub v.pending.serverPriv).sec1 := by
        obtain ⟨k, hdrawn⟩ := hstored.drawn
        exact ⟨⟨k, hdrawn⟩, server_facts run hdrawn⟩
      obtain ⟨hnonce, hpeer, hpub⟩ := serverIdentityPreimage_inj
        (r.peer.2.trans (by rw [hserver, Point.length_sec1]))
        (r.devicePub.2.trans v.presents.length_devicePub.symm) hmessage
      rcases bound_or_broken fleet run henrolled hstored with hbroken | ⟨j', e, hevidenced, hbinds⟩
      · exact Or.inl hbroken
      · have hdrew : .did j (.ok (.generateKey .ecdhKeypair 256) r.keypair) ∈ (fleet a).labels :=
          (fleet a).drawn_of_returned returned hlive
        have hdrew' : .did j' (.ok (.generateKey .ecdhKeypair 256) e.keypair) ∈
            (fleet a').labels :=
          hevidenced.did (by simp [EvidenceInputs.upToSignature, EvidenceInputs.upToKey])
        have hpoint : r.keypair.pub = e.keypair.pub :=
          Point.sec1_inj (hdevice.symm.trans (hpub.trans hbinds.devicePub.symm))
        by_cases hne : a = a'
        · right
          subst hne
          obtain ⟨before, i, now, hstore⟩ := hstored.stored
          have hkey : r.derived C.toCrypto = key := by
            obtain ⟨peer, hpeer', rfl⟩ := hstored.sound.key
            have hsec1 := C.fromEncodedPoint_sec1 _ _ v.presents.length_devicePub hpeer'
            obtain rfl := Point.sec1_inj (hsec1.trans (hpub.symm.trans hdevice))
            have hagree : C.ecdh r.keypair.d (C.pub v.pending.serverPriv) =
                C.ecdh v.pending.serverPriv r.keypair.pub := ecdh _ _ hdrawn _ _ _ hdrew
            rw [HandshakeAnswers.derived, hx, hy, hsalt, hnonce, hpeer, hserver, Point.ofCoords_sec1,
              hagree]
            rfl
          refine ⟨before, i, key, now, hstore, ?_, ?_, ?_⟩
          · rw [hleft]
            dsimp only
            rw [hkey]
          · rw [hleft]
          · rw [hleft]
        · exact Or.inl (.repeated hne hdrew hdrew' hpoint)
    · left
      exact .collision (a := a) ⟨j, _, _, hdid _ hhashed⟩ (Or.inr ⟨i, sig, hsign⟩) hmessage
        (hdigest.symm.trans hsame.symm)
  · left
    refine .forgedServer hkey (hdid _ hverified) ?_
    intro i message sig hsign hsame
    exact hsigned ⟨i, message, sig, hsign, hsame⟩

end

/-! ## A run in which nothing is broken -/

namespace Vectors

/-- The TEE in the two commands of a handshake. -/
def benchOf (inv : Invocation) : Bench :=
  match Command.ofId inv.cmdId with
  | some .handshakeComplete => deployedBench handshakeHost
  | _ => deployedBench evidenceHost

def command (inv : Invocation) : List (Pool.Turn taMachine Unit) :=
  Pool.Turn.start () inv :: List.replicate 40 (Pool.Turn.call ()) ++ [Pool.Turn.finish ()]

/-- One session of the TA: the evidence and the handshake. -/
def taRun : List (Pool.Label taMachine Unit) × Pool.Config taMachine Unit Storage :=
  Pool.play (fun _ inv n => (benchOf inv).serve n) (fun _ _ => true) (justOpened Unit bench.store)
    (command generateEvidence ++ command completeHandshake)

theorem taRun_run : Pool.Run (fun _ => TeeStep serverCrypto) Pool.Any (justOpened Unit bench.store)
    taRun.1 taRun.2 := by
  refine Pool.Run.mono (Pool.play_run _ _ ?_) (fun _ _ _ => trivial)
  intro c _ inv n q _
  have hcrypto : (benchOf inv).crypto = serverCrypto := by
    unfold benchOf
    split <;> rfl
  have hstep := (benchOf inv).serve_step n c.shared q
  rwa [hcrypto] at hstep

/-- The device, and nobody else. -/
def onlyDevice : Registry := fun id => if id = deviceName then some deviceRecord else none

/-- The server, while the device attests itself. -/
def linkRun : List (Pool.Label deviceLink Unit) × Pool.Config deviceLink Unit ServerState :=
  playServer lib serverIdentity.pub (fun _ _ => firstDesk)
    (linkStarted python lib serverIdentity.pub Unit onlyDevice)
    (byItself () (takes (helloMessage deviceName)) ++ byItself () (takes (attestMessage genuineAnswer)))

theorem linkRun_run : Pool.Run (fun _ => ServerStep lib serverIdentity.pub) Pool.Any
    (linkStarted python lib serverIdentity.pub Unit onlyDevice) linkRun.1 linkRun.2 :=
  playServer_run ..

/-- The one device there is. -/
def called (_ : Unit) : Text := deviceName

/-- What a TA has hashed, signed and verified. -/
def taHashed : Pool.Label taMachine Unit → Option Bytes
  | .did _ (.ok (.digestDoFinal message _) _) => some message
  | _ => none

def taSigned : Pool.Label taMachine Unit → Option Bytes
  | .did _ (.ok (.asymmetricSignDigest _ _ _ digest _) _) => some digest
  | _ => none

def taVerified : Pool.Label taMachine Unit → Option Bytes
  | .did _ (.ok (.asymmetricVerifyDigest _ _ digest _) _) => some digest
  | _ => none

/-- What the server has verified and signed. -/
def linkVerified : Pool.Label deviceLink Unit → Option Bytes
  | .did _ (.did (.ecVerify _ message _ _) _) => some message
  | _ => none

def linkSigned : Pool.Label deviceLink Unit → Option Bytes
  | .did _ (.did (.signServerIdentity message) _) => some message
  | _ => none

def linkTaken : Pool.Label deviceLink Unit → Option Bytes
  | .did _ (.did (.ecVerify (.p256 _) message _ _) true) => some message
  | _ => none

theorem taSigned_eq {l : Pool.Label taMachine Unit} {digest : Bytes} (h : taSigned l = some digest) :
    ∃ j d x y size sig, l = .did j (.ok (.asymmetricSignDigest d x y digest size) sig) := by
  unfold taSigned at h
  split at h
  · cases h
    exact ⟨_, _, _, _, _, _, rfl⟩
  · cases h

theorem linkSigned_eq {l : Pool.Label deviceLink Unit} {message : Bytes}
    (h : linkSigned l = some message) :
    ∃ i sig, l = .did i (.did (.signServerIdentity message) sig) := by
  unfold linkSigned at h
  split at h
  · cases h
    exact ⟨_, _, rfl⟩
  · cases h

def enrols : Pool.Label deviceLink Unit → Bool
  | .did _ (.did (.register _ _ _ _ _) _) => true
  | _ => false

def taDrawn : Pool.Label taMachine Unit → Option EcKeyPair
  | .did _ (.ok (.generateKey .ecdhKeypair 256) keypair) => some keypair
  | _ => none

def linkDrawn : Pool.Label deviceLink Unit → Option Scalar
  | .did _ (.did .p256Generate drawn) => some drawn.1
  | _ => none

/-- The handshakes that were completed. -/
def completed : Pool.Label taMachine Unit → Option (Invocation × Session × List (Event Tee) × Frame)
  | .returned _ inv sess log (.ok (), frame) =>
    if Command.ofId inv.cmdId = some .handshakeComplete then some (inv, sess, log, frame) else none
  | _ => none

theorem completed_eq {l : Pool.Label taMachine Unit} {inv : Invocation} {sess : Session}
    {log : List (Event Tee)} {frame : Frame} (h : completed l = some (inv, sess, log, frame)) :
    l = .returned () inv sess log (.ok (), frame) ∧
      Command.ofId inv.cmdId = some .handshakeComplete := by
  unfold completed at h
  split at h
  · split at h
    · cases h
      exact ⟨rfl, ‹_›⟩
    · cases h
  · cases h

/-- The Host left the point and the nonce alone, and the key is the server's. -/
def stillUnder (log : List (Event Tee)) : Bool :=
  (readsOf 0 log).all (fun r => r.2 = serverEphemeral.pub.sec1.slice r.1 r.2.length) &&
  (readsOf 1 log).all (fun r => r.2 = nonce.slice r.1 r.2.length) &&
  (verifiedUnder log).all fun key => Point.ofCoords key.1 key.2 = serverIdentity.pub

/-- What is read off the two runs. -/
theorem runs_facts :
    taRun.2.shared .taIdentity = some identityBlob ∧
    (taRun.1.filterMap completed).any (fun x => stillUnder x.2.2.1) = true ∧
    linkRun.1.filterMap linkDrawn = [serverEphemeral.d] ∧
    taRun.1.filterMap taDrawn = [deviceEphemeral] ∧
    (∀ message ∈ linkRun.1.filterMap linkTaken,
      serverCrypto.sha256 message ∈ taRun.1.filterMap taSigned) ∧
    (∀ digest ∈ taRun.1.filterMap taVerified,
      digest ∈ (linkRun.1.filterMap linkSigned).map serverCrypto.sha256) ∧
    (∀ message ∈ taRun.1.filterMap taHashed,
      ∀ message' ∈ linkRun.1.filterMap linkVerified ++ linkRun.1.filterMap linkSigned,
        serverCrypto.sha256 message = serverCrypto.sha256 message' → message = message') ∧
    (∀ l ∈ linkRun.1, enrols l = false) ∧
    storedKeys linkRun.1 = [(called (), sessionKey)] ∧
    lib.ecdh deviceEphemeral.d (lib.pub serverEphemeral.d) =
      lib.ecdh serverEphemeral.d deviceEphemeral.pub := by
  decide +kernel

theorem taRun_held : taRun.2.shared .taIdentity = some identityBlob := runs_facts.1

theorem identityBlob_length : identityBlob.length = taIdentityBlobSize := identityBlob_sealed.1

theorem identityBlob_name (a : Unit) : blobDeviceId identityBlob = (called a).utf8 :=
  identityBlob_sealed.2.1

/-- The one device of the fleet. -/
def fleet (a : Unit) : SealedDevice lib.toCrypto Unit (called a) where
  store := bench.store
  labels := taRun.1
  now := taRun.2
  runs := taRun_run
  blob := identityBlob
  held := taRun_held
  length_blob := identityBlob_length
  sealedName := identityBlob_name a

theorem fleet_labels (a : Unit) : (fleet a).labels = taRun.1 := by
  dsimp only [fleet]

/-- Nothing is broken: every signature that was taken was made, and different messages have
different hashes. -/
theorem linkRun_sound : ¬ Broken fleet linkRun.1 := by
  obtain ⟨-, -, -, -, htaken, hverified, hhashes, -, -⟩ := runs_facts
  intro hbroken
  cases hbroken with
  | forgedTa taken never =>
    obtain ⟨l, hl, hsigned⟩ :=
      List.mem_filterMap.mp (htaken _ (List.mem_filterMap.mpr ⟨_, taken, rfl⟩))
    obtain ⟨j, d, x, y, size, sig, rfl⟩ := taSigned_eq hsigned
    rw [← fleet_labels] at hl
    exact never j d x y size sig hl
  | forgedServer _ taken never =>
    rw [fleet_labels] at taken
    obtain ⟨message, hmem, hsame⟩ :=
      List.mem_map.mp (hverified _ (List.mem_filterMap.mpr ⟨_, taken, rfl⟩))
    obtain ⟨l, hl, hsigned⟩ := List.mem_filterMap.mp hmem
    obtain ⟨i, sig, rfl⟩ := linkSigned_eq hsigned
    exact never i message sig hl hsame
  | collision ta server ne same =>
    obtain ⟨j, size, digest, hta⟩ := ta
    rw [fleet_labels] at hta
    refine ne (hhashes _ (List.mem_filterMap.mpr ⟨_, hta, rfl⟩) _ (List.mem_append.mpr ?_) same)
    rcases server with ⟨i, q, r, s, ok, hmem⟩ | ⟨i, sig, hmem⟩
    · exact Or.inl (List.mem_filterMap.mpr ⟨_, hmem, rfl⟩)
    · exact Or.inr (List.mem_filterMap.mpr ⟨_, hmem, rfl⟩)
  | repeated ne => exact ne rfl

theorem onlyDevice_enrolled (deviceId : Text) (record : DeviceRecord)
    (h : linkRun.2.shared.registry deviceId = some record) : ∃ a, called a = deviceId ∧
      record.taPubB64 = b64e (taIdentityBlobToSec1 (fleet a).blob) := by
  have hkept : linkRun.2.shared.registry = onlyDevice := by
    obtain ⟨-, -, -, -, -, -, -, hnone, -⟩ := runs_facts
    refine linkRun_run.invariant (I := fun ls c => (∀ l ∈ ls, enrols l = false) →
      c.shared.registry = onlyDevice) (fun _ => rfl) ?_ hnone
    intro ls c l c' _ ih step _ hnone
    have hbefore := ih fun l hl => hnone l (List.mem_append_left _ hl)
    cases step with
    | start _ _ => exact hbefore
    | finish _ => exact hbefore
    | call r _ hR =>
      have hother : enrols (.did () (Event.of _ r)) = false := hnone _ (by simp)
      refine (hR.registry_eq ?_).trans hbefore
      intro id ak pcr bank ta answer hev
      rw [hev] at hother
      cases hother
  rw [hkept, onlyDevice] at h
  split at h
  · rename_i hname
    obtain rfl := Option.some.inj h
    exact ⟨(), hname.symm, identityBlob_sealed.2.2⟩
  · cases h

end Vectors

theorem session_is_the_devices_played : ∃ (v : Vetting Vectors.lib (Vectors.called ()))
    (e : EvidenceInputs), Evidenced Vectors.lib.toCrypto Vectors.taRun.1 () e ∧ Binds e v ∧
      Vectors.sessionKey = Vectors.lib.hkdf (Vectors.lib.ecdh v.pending.serverPriv e.keypair.pub)
        v.pending.nonce hkdfInfo aeadKeyLen := by
  obtain ⟨-, -, -, -, -, -, -, -, hkeys, -⟩ := Vectors.runs_facts
  obtain ⟨store, i, now, hstore⟩ := mem_storedKeys hkeys (List.mem_singleton_self _)
  have run := Vectors.linkRun_run
  have sound := Vectors.linkRun_sound
  have enrolled := Vectors.onlyDevice_enrolled
  generalize Vectors.linkRun = played at hstore run sound enrolled
  have henrolled : ∀ record, played.2.shared.registry (Vectors.called ()) = some record →
      record.taPubB64 = b64e (taIdentityBlobToSec1 (Vectors.fleet ()).blob) := by
    intro record hrecord
    obtain ⟨⟨⟩, -, hta⟩ := enrolled _ _ hrecord
    exact hta
  rcases session_is_the_devices Vectors.fleet run (a := ()) henrolled hstore with
    hbroken | ⟨v, j, e, -, hevidenced, hbinds, hkey⟩
  · exact absurd hbroken sound
  · rw [Vectors.fleet_labels] at hevidenced
    exact ⟨v, e, hevidenced, hbinds, hkey⟩

theorem session_is_the_servers_played : ∃ inv sess log frame before i key now,
    .returned () inv sess log (.ok (), frame) ∈ Vectors.taRun.1 ∧
    before ++ [.did i (.did (.storeSession (Vectors.called ()) key) now)] <+: Vectors.linkRun.1 ∧
    frame.sess.sessionKey = key ++ sess.sessionKey.drop key.length ∧
    frame.sess.sessionKeyValid = true := by
  obtain ⟨-, hcompleted, hserver, hdevice, -, -, -, -, -, hshared⟩ := Vectors.runs_facts
  obtain ⟨⟨inv, sess, log, frame⟩, hmem, hstill⟩ := List.any_eq_true.mp hcompleted
  obtain ⟨l, hl, hl'⟩ := List.mem_filterMap.mp hmem
  obtain ⟨rfl, hc⟩ := Vectors.completed_eq hl'
  simp only [Vectors.stillUnder, Bool.and_eq_true, List.all_eq_true, decide_eq_true_eq] at hstill
  obtain ⟨⟨hpoint, hnonce⟩, hunder⟩ := hstill
  have run := Vectors.linkRun_run
  have sound := Vectors.linkRun_sound
  have enrolled := Vectors.onlyDevice_enrolled
  generalize Vectors.linkRun = played at hserver run sound enrolled ⊢
  have ecdh : ∀ i drawn, .did i (.did .p256Generate drawn) ∈ played.1 → ∀ a j keypair,
      .did j (.ok (.generateKey .ecdhKeypair 256) keypair) ∈ (Vectors.fleet a).labels →
        Vectors.lib.ecdh keypair.d (Vectors.lib.pub drawn.1) =
          Vectors.lib.ecdh drawn.1 keypair.pub := by
    intro i drawn hdrawn a j keypair hkeypair
    rw [Vectors.fleet_labels] at hkeypair
    have hd : drawn.1 ∈ played.1.filterMap Vectors.linkDrawn :=
      List.mem_filterMap.mpr ⟨_, hdrawn, rfl⟩
    have hk : keypair ∈ Vectors.taRun.1.filterMap Vectors.taDrawn :=
      List.mem_filterMap.mpr ⟨_, hkeypair, rfl⟩
    rw [hserver, List.mem_singleton] at hd
    rw [hdevice, List.mem_singleton] at hk
    rw [hd, hk]
    exact hshared
  have hreturned : .returned () inv sess log (.ok (), frame) ∈ (Vectors.fleet ()).labels := by
    rw [Vectors.fleet_labels]
    exact hl
  rcases session_is_the_servers Vectors.fleet run enrolled ecdh hreturned hc
    (unchanged_of_content hpoint) (unchanged_of_content hnonce) hunder with
    hbroken | ⟨before, i, key, now, hstored, hkey, hvalid, -⟩
  · exact absurd hbroken sound
  · exact ⟨inv, sess, log, frame, before, i, key, now, hl, hstored, hkey, hvalid⟩

end ConfidentialIoT
