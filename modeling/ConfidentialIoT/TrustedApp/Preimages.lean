import ConfidentialIoT.TrustedApp.Handshake
import ConfidentialIoT.TrustedApp.Identity

/-!
# `TrustedApp/Preimages.lean` — when the signed and quoted byte strings can be told apart

Three byte strings are hashed over a session: the transcript the quote covers, the server's
labelled pre-image, and the TA's, which ends in the sealed `device_id`. None of them carries a
length. The comments on the C and the Python side rest their unambiguity on `device_id` being
the only field of variable length; but CMD 3 and CMD 4 take nonces of 1 to 64 bytes, and a
transcript has no label.

So what decides is the kinds and the two nonce lengths: `Confusable` lists the combinations for
which some two different messages have the same bytes, and `preimages_unambiguous_iff` says the
list is exact. No combination of equal nonce lengths is on it.
-/

set_option autoImplicit false

namespace ConfidentialIoT

open Effects

/-! ## Messages -/

/-- The inputs of a session the TA accepts. -/
structure SessionInputs where
  nonce : Bytes
  serverPub : BytesN ecdhPubkeySize
  devicePub : BytesN ecdhPubkeySize
  nonce_pos : 0 < nonce.length
  nonce_le : nonce.length ≤ nonceMax
  /-- an uncompressed point -/
  tag : devicePub.1.head? = some 0x04

/-- A `device_id` that can be sealed. -/
abbrev SealedId : Type := { id : Bytes // 0 < id.length ∧ id.length ≤ deviceIdMax }

inductive Message where
  | transcript (i : SessionInputs)
  | serverIdentity (i : SessionInputs)
  | taIdentity (i : SessionInputs) (deviceId : SealedId)

inductive MessageKind where
  | transcript | serverIdentity | taIdentity
deriving DecidableEq, Repr

namespace Message

def kind : Message → MessageKind
  | .transcript _ => .transcript
  | .serverIdentity _ => .serverIdentity
  | .taIdentity _ _ => .taIdentity

def inputs : Message → SessionInputs
  | .transcript i => i
  | .serverIdentity i => i
  | .taIdentity i _ => i

/-- The bytes that are hashed. -/
def bytes : Message → Bytes
  | .transcript i => ConfidentialIoT.transcript i.nonce i.serverPub.1 i.devicePub.1
  | .serverIdentity i => serverIdentityPreimage i.nonce i.serverPub.1 i.devicePub.1
  | .taIdentity i deviceId => taIdentityPreimage i.nonce i.serverPub.1 i.devicePub.1 deviceId.1

end Message

/-! ## What the TA hashes -/

/-- Whatever is hashed is one of the messages. -/
def HashesMessage (_ : List (Event Tee)) : Call Tee → Prop
  | .req (.digestDoFinal msg _) => ∃ m : Message, m.bytes = msg
  | _ => True

theorem evidenceParamsOk_sizes {paramTypes : UInt32} {params : Params} {u : Unit}
    (h : evidenceParamsOk paramTypes params = .ok u) :
    0 < (params 1).size ∧ (params 1).size ≤ nonceMax := by
  unfold evidenceParamsOk at h
  split_ifs at h
  omega

/-- A blob that passed the shape check has an id that can be sealed. -/
theorem length_blobDeviceId {blob : Bytes} (hlen : blob.length = taIdentityBlobSize)
    (hle : blobIdLen blob ≤ deviceIdMax) : (blobDeviceId blob).length = blobIdLen blob := by
  apply Bytes.length_slice
  rw [hlen]
  have hle' : blobIdLen blob ≤ 63 := hle
  show 97 + blobIdLen blob ≤ 160
  omega

theorem signTaIdentity_hashes (i : SessionInputs) (s : Frame) (tr : List (Event Tee)) :
    wpP HashesMessage (signTaIdentity i.nonce i.serverPub.1 i.devicePub.1)
      (fun _ _ _ => True) (fun _ _ _ => True) s tr := by
  simp [signTaIdentity, sealedTaIdentity, readTaIdentityBlob, HashesMessage]
  intro blob hshape hpos hle _ _ _
  have hlen := length_blobDeviceId hshape hle
  exact ⟨.taIdentity i ⟨blobDeviceId blob, by omega, by omega⟩, rfl⟩

/-- The point that is read is 65 bytes and starts with `0x04`, whatever the TEE answers. -/
theorem readPublicPoint_shape (obj : EcKeyPair) (s : Frame) (tr : List (Event Tee)) :
    wpP HashesMessage (readPublicPoint obj)
      (fun _ s' pub => s' = s ∧ pub.length = ecdhPubkeySize ∧ pub.head? = some 0x04)
      (fun _ _ _ => True) s tr := by
  rw [readPublicPoint]
  apply wpP_seq (readEcCoordinate_spec obj .publicValueX fun _ _ _ => trivial)
  · rintro tr₁ s₁ x - ⟨rfl, -, hx, -⟩
    apply wpP_seq (readEcCoordinate_spec obj .publicValueY fun _ _ _ => trivial)
    · rintro tr₂ s₂ y - ⟨rfl, -, hy, -⟩
      refine ⟨rfl, ?_, rfl⟩
      rw [List.length_cons, List.length_append, hx, hy]
    · intro _ _ _ _ _
      trivial
  · intro _ _ _ _ _
    trivial

/-- CMD 3 hashes messages of the accepted inputs and nothing else. -/
theorem taGenerateAttestationEvidence_hashes (paramTypes : UInt32) (sess : Session)
    (params : Params) :
    wpP HashesMessage (taGenerateAttestationEvidence paramTypes)
      (fun _ _ _ => True) (fun _ _ _ => True) ⟨sess, params⟩ [] := by
  simp [taGenerateAttestationEvidence, evidenceOverFreshKey, HashesMessage]
  intro _ hok nonce hnonce serverPub hserverPub _ keypair
  have hsizes := evidenceParamsOk_sizes hok
  rw [evidenceFor]
  apply wpP_seq (readPublicPoint_shape keypair _ _)
  · rintro tr s devicePub - ⟨rfl, hlen, htag⟩
    let i : SessionInputs :=
      ⟨nonce, ⟨serverPub, hserverPub⟩, ⟨devicePub, hlen⟩, by omega, by omega, htag⟩
    simp [HashesMessage]
    intro _
    refine ⟨⟨.transcript i, rfl⟩, ?_⟩
    intro hash _ _
    exact signTaIdentity_hashes i _ _
  · intro _ _ _ _ _
    trivial

/-- So does CMD 4, for the nonces CMD 3 takes. -/
theorem serverIdentityDigest_hashes {nonceLen : Nat} {devicePub : Bytes} (hpos : 0 < nonceLen)
    (hle : nonceLen ≤ nonceMax) (hlen : devicePub.length = ecdhPubkeySize)
    (htag : devicePub.head? = some 0x04) (s : Frame) (tr : List (Event Tee)) :
    wpP HashesMessage (serverIdentityDigest nonceLen devicePub)
      (fun _ _ _ => True) (fun _ _ _ => True) s tr := by
  simp [serverIdentityDigest, HashesMessage]
  intro nonce hnonce serverPub hserverPub
  exact ⟨.serverIdentity
    ⟨nonce, ⟨serverPub, hserverPub⟩, ⟨devicePub, hlen⟩, by omega, by omega, htag⟩, rfl⟩

/-! ## Which kinds and nonce lengths collide -/

/-- A message of kind `k` with a nonce of `l` bytes can be read as one of kind `k'` with a nonce
of `l'` bytes: the nonce takes in the other's label, or the id gives up what the nonce takes. -/
def ReadsAs : MessageKind → Nat → MessageKind → Nat → Prop
  | .taIdentity, l, .taIdentity, l' => l < l' ∧ l' < l + deviceIdMax
  | .transcript, l, .taIdentity, l' => l' + taIdentityLabel.length < l
  | .transcript, l, .serverIdentity, l' => l = l' + serverIdentityLabel.length
  | _, _, _, _ => False

def Confusable (k : MessageKind) (l : Nat) (k' : MessageKind) (l' : Nat) : Prop :=
  (0 < l ∧ l ≤ nonceMax) ∧ (0 < l' ∧ l' ≤ nonceMax) ∧ (ReadsAs k l k' l' ∨ ReadsAs k' l' k l)

theorem length_taIdentityLabel : taIdentityLabel.length = 20 := rfl
theorem length_serverIdentityLabel : serverIdentityLabel.length = 24 := rfl

theorem SessionInputs.ext_fields {i j : SessionInputs} (hn : i.nonce = j.nonce)
    (hs : i.serverPub.1 = j.serverPub.1) (hd : i.devicePub.1 = j.devicePub.1) : i = j := by
  obtain ⟨n, s, d, _, _, _⟩ := i
  obtain ⟨n', s', d', _, _, _⟩ := j
  obtain rfl : n = n' := hn
  obtain rfl : s = s' := Subtype.ext hs
  obtain rfl : d = d' := Subtype.ext hd
  rfl

/-- Nonces of one length leave nothing open. -/
theorem SessionInputs.eq_of_transcript {i j : SessionInputs}
    (h : ConfidentialIoT.transcript i.nonce i.serverPub.1 i.devicePub.1 =
      ConfidentialIoT.transcript j.nonce j.serverPub.1 j.devicePub.1) : i = j := by
  have hlen := congrArg List.length h
  simp only [ConfidentialIoT.transcript, List.length_append, i.serverPub.2, i.devicePub.2,
    j.serverPub.2, j.devicePub.2] at hlen
  obtain ⟨hn, hs, hd⟩ := Bytes.append3_inj h (by omega) (by rw [i.serverPub.2, j.serverPub.2])
  exact SessionInputs.ext_fields hn hs hd

/-- The two labels part at their tenth byte. -/
theorem labels_differ {x y : Bytes} : serverIdentityLabel ++ x ≠ taIdentityLabel ++ y := by
  intro h
  have h' := congrArg (List.take 10) h
  rw [List.take_append_of_le_length (by decide), List.take_append_of_le_length (by decide)] at h'
  exact absurd h' (by decide)

namespace Message

theorem length_transcript (i : SessionInputs) :
    (Message.transcript i).bytes.length = i.nonce.length + (65 + 65) := by
  simp only [bytes, ConfidentialIoT.transcript, List.length_append, i.serverPub.2, i.devicePub.2]

theorem length_serverIdentity (i : SessionInputs) :
    (Message.serverIdentity i).bytes.length = 24 + (i.nonce.length + (65 + 65)) := by
  simp only [bytes, serverIdentityPreimage, List.length_append, length_serverIdentityLabel,
    i.serverPub.2, i.devicePub.2]

theorem length_taIdentity (i : SessionInputs) (id : SealedId) :
    (Message.taIdentity i id).bytes.length = 20 + (i.nonce.length + (65 + (65 + id.1.length))) := by
  simp only [bytes, taIdentityPreimage, List.length_append, length_taIdentityLabel,
    i.serverPub.2, i.devicePub.2]

/-- Two messages with the same bytes are one, or their kinds and nonce lengths are on the list. -/
theorem eq_or_readsAs (m m' : Message) (h : m.bytes = m'.bytes) :
    m = m' ∨ ReadsAs m.kind m.inputs.nonce.length m'.kind m'.inputs.nonce.length ∨
      ReadsAs m'.kind m'.inputs.nonce.length m.kind m.inputs.nonce.length := by
  have hlen := congrArg List.length h
  cases m with
  | transcript i =>
    cases m' with
    | transcript j => exact Or.inl (congrArg _ (SessionInputs.eq_of_transcript h))
    | serverIdentity j =>
      rw [length_transcript, length_serverIdentity] at hlen
      refine Or.inr (Or.inl ?_)
      show i.nonce.length = j.nonce.length + serverIdentityLabel.length
      rw [length_serverIdentityLabel]
      omega
    | taIdentity j id =>
      rw [length_transcript, length_taIdentity] at hlen
      refine Or.inr (Or.inl ?_)
      show j.nonce.length + taIdentityLabel.length < i.nonce.length
      rw [length_taIdentityLabel]
      have hid := id.2.1
      omega
  | serverIdentity i =>
    cases m' with
    | transcript j =>
      rw [length_transcript, length_serverIdentity] at hlen
      refine Or.inr (Or.inr ?_)
      show j.nonce.length = i.nonce.length + serverIdentityLabel.length
      rw [length_serverIdentityLabel]
      omega
    | serverIdentity j =>
      exact Or.inl (congrArg _ (SessionInputs.eq_of_transcript (List.append_cancel_left h)))
    | taIdentity j id => exact absurd h labels_differ
  | taIdentity i id =>
    cases m' with
    | transcript j =>
      rw [length_transcript, length_taIdentity] at hlen
      refine Or.inr (Or.inr ?_)
      show i.nonce.length + taIdentityLabel.length < j.nonce.length
      rw [length_taIdentityLabel]
      have hid := id.2.1
      omega
    | serverIdentity j => exact absurd h.symm labels_differ
    | taIdentity j id' =>
      rw [length_taIdentity, length_taIdentity] at hlen
      have hid : 0 < id.1.length ∧ id.1.length ≤ 63 := id.2
      have hid' : 0 < id'.1.length ∧ id'.1.length ≤ 63 := id'.2
      rcases Nat.lt_trichotomy i.nonce.length j.nonce.length with hlt | heq | hgt
      · refine Or.inr (Or.inl ⟨hlt, ?_⟩)
        show j.nonce.length < i.nonce.length + 63
        omega
      · obtain ⟨hn, hs, hd, hids⟩ := Bytes.append4_inj (List.append_cancel_left h) heq
          (by rw [i.serverPub.2, j.serverPub.2]) (by rw [i.devicePub.2, j.devicePub.2])
        rw [SessionInputs.ext_fields hn hs hd, Subtype.ext hids]
        exact Or.inl rfl
      · refine Or.inr (Or.inr ⟨hgt, ?_⟩)
        show i.nonce.length < j.nonce.length + 63
        omega

end Message

/-! ## The list is exact

Where every byte behind the labels is `0x04`, only the lengths are left to differ. -/

/-- `n` times `0x04`. -/
def fours (n : Nat) : Bytes := List.replicate n 0x04

@[simp] theorem length_fours (n : Nat) : (fours n).length = n := List.length_replicate

theorem fours_append (m n : Nat) : fours m ++ fours n = fours (m + n) := by
  rw [fours, fours, fours, List.replicate_append_replicate]

/-- A session with that nonce and points of `0x04`s. -/
def SessionInputs.ofNonce (nonce : Bytes) (hpos : 0 < nonce.length) (hle : nonce.length ≤ nonceMax) :
    SessionInputs where
  nonce := nonce
  serverPub := ⟨fours ecdhPubkeySize, length_fours _⟩
  devicePub := ⟨fours ecdhPubkeySize, length_fours _⟩
  nonce_pos := hpos
  nonce_le := hle
  tag := rfl

/-- A session of `0x04`s. -/
def SessionInputs.ofLength (l : Nat) (hpos : 0 < l) (hle : l ≤ nonceMax) : SessionInputs :=
  .ofNonce (fours l) (by rwa [length_fours]) (by rwa [length_fours])

def SealedId.ofLength (n : Nat) (hpos : 0 < n) (hle : n ≤ deviceIdMax) : SealedId :=
  ⟨fours n, by rwa [length_fours], by rwa [length_fours]⟩

theorem bytes_taIdentity_fours {l n : Nat} (hl : 0 < l) (hl' : l ≤ nonceMax) (hn : 0 < n)
    (hn' : n ≤ deviceIdMax) :
    (Message.taIdentity (.ofLength l hl hl') (.ofLength n hn hn')).bytes =
      taIdentityLabel ++ fours (l + (65 + (65 + n))) := by
  simp only [Message.bytes, taIdentityPreimage, SessionInputs.ofLength, SessionInputs.ofNonce,
    SealedId.ofLength, fours_append]

theorem bytes_serverIdentity_fours {l : Nat} (hl : 0 < l) (hl' : l ≤ nonceMax) :
    (Message.serverIdentity (.ofLength l hl hl')).bytes =
      serverIdentityLabel ++ fours (l + (65 + 65)) := by
  simp only [Message.bytes, serverIdentityPreimage, SessionInputs.ofLength, SessionInputs.ofNonce,
    fours_append]

theorem bytes_transcript_fours {label : Bytes} {l : Nat}
    (hl : 0 < (label ++ fours l).length) (hl' : (label ++ fours l).length ≤ nonceMax) :
    (Message.transcript (.ofNonce (label ++ fours l) hl hl')).bytes = label ++ fours (l + (65 + 65)) := by
  simp only [Message.bytes, ConfidentialIoT.transcript, SessionInputs.ofNonce, fours_append,
    List.append_assoc]

/-- Two different messages of these kinds and nonce lengths with the same bytes. -/
def Collide (k : MessageKind) (l : Nat) (k' : MessageKind) (l' : Nat) : Prop :=
  ∃ m m' : Message, m.kind = k ∧ m'.kind = k' ∧ m.inputs.nonce.length = l ∧
    m'.inputs.nonce.length = l' ∧ m.bytes = m'.bytes ∧ m ≠ m'

theorem Collide.symm {k k' : MessageKind} {l l' : Nat} (h : Collide k l k' l') :
    Collide k' l' k l := by
  obtain ⟨m, m', hk, hk', hl, hl', hbytes, hne⟩ := h
  exact ⟨m', m, hk', hk, hl', hl, hbytes.symm, hne.symm⟩

theorem collide_of_readsAs {k k' : MessageKind} {l l' : Nat} (hl : 0 < l ∧ l ≤ 64)
    (hl' : 0 < l' ∧ l' ≤ 64) (h : ReadsAs k l k' l') : Collide k l k' l' := by
  cases k with
  | serverIdentity => cases h
  | taIdentity =>
    cases k' with
    | transcript => cases h
    | serverIdentity => cases h
    | taIdentity =>
      obtain ⟨hlt, hle⟩ : l < l' ∧ l' < l + 63 := h
      have hid : l' - l + 1 ≤ 63 := by omega
      refine ⟨.taIdentity (.ofLength l hl.1 hl.2) (.ofLength (l' - l + 1) (by omega) hid),
        .taIdentity (.ofLength l' hl'.1 hl'.2) (.ofLength 1 (by decide) (by decide)),
        rfl, rfl, length_fours l, length_fours l', ?_, ?_⟩
      · rw [bytes_taIdentity_fours, bytes_taIdentity_fours]
        congr 2
        omega
      · intro heq
        have hlen := congrArg (fun m : Message => m.inputs.nonce.length) heq
        have : l = l' := (length_fours l).symm.trans (hlen.trans (length_fours l'))
        omega
  | transcript =>
    cases k' with
    | transcript => cases h
    | serverIdentity =>
      obtain rfl : l = l' + 24 := h
      have hlen : (serverIdentityLabel ++ fours l').length = l' + 24 := by
        rw [List.length_append, length_fours, length_serverIdentityLabel, Nat.add_comm]
      have hle : (serverIdentityLabel ++ fours l').length ≤ 64 := by omega
      refine ⟨.transcript (.ofNonce (serverIdentityLabel ++ fours l') (by omega) hle),
        .serverIdentity (.ofLength l' hl'.1 hl'.2), rfl, rfl, hlen, length_fours l', ?_, nofun⟩
      rw [bytes_transcript_fours, bytes_serverIdentity_fours]
    | taIdentity =>
      replace h : l' + 20 < l := h
      have hlen : (taIdentityLabel ++ fours (l - 20)).length = l := by
        rw [List.length_append, length_fours, length_taIdentityLabel]
        omega
      have hle : (taIdentityLabel ++ fours (l - 20)).length ≤ 64 := by omega
      have hid : l - 20 - l' ≤ 63 := by omega
      refine ⟨.transcript (.ofNonce (taIdentityLabel ++ fours (l - 20)) (by omega) hle),
        .taIdentity (.ofLength l' hl'.1 hl'.2) (.ofLength (l - 20 - l') (by omega) hid),
        rfl, rfl, hlen, length_fours l', ?_, nofun⟩
      rw [bytes_transcript_fours, bytes_taIdentity_fours]
      congr 2
      omega

/-- **When the pre-images are unambiguous.** For two kinds and two nonce lengths: equal bytes
imply the same kind, nonce, server key, device key and id, for all messages of these, if and
only if the combination is not on the list. -/
theorem preimages_unambiguous_iff (k : MessageKind) (l : Nat) (k' : MessageKind) (l' : Nat) :
    (∀ m m' : Message, m.kind = k → m'.kind = k' → m.inputs.nonce.length = l →
      m'.inputs.nonce.length = l' → m.bytes = m'.bytes → m = m') ↔ ¬ Confusable k l k' l' := by
  constructor
  · rintro hall ⟨hl, hl', hreads⟩
    obtain ⟨m, m', hk, hk', hn, hn', hbytes, hne⟩ : Collide k l k' l' := by
      rcases hreads with h | h
      · exact collide_of_readsAs hl hl' h
      · exact (collide_of_readsAs hl' hl h).symm
    exact hne (hall m m' hk hk' hn hn' hbytes)
  · rintro hnot m m' rfl rfl rfl rfl hbytes
    rcases m.eq_or_readsAs m' hbytes with heq | hreads
    · exact heq
    · exact absurd ⟨⟨m.inputs.nonce_pos, m.inputs.nonce_le⟩,
        ⟨m'.inputs.nonce_pos, m'.inputs.nonce_le⟩, hreads⟩ hnot

/-- The ids `0x04 0x04` behind a nonce of one byte and `0x04` behind a nonce of two: the TA
signs the same bytes for both. -/
theorem ids_are_confused :
    ∃ m m' : Message, m.kind = .taIdentity ∧ m'.kind = .taIdentity ∧ m.bytes = m'.bytes ∧
      m.inputs.nonce = [0x04] ∧ m'.inputs.nonce = [0x04, 0x04] :=
  ⟨.taIdentity (.ofLength 1 (by decide) (by decide)) (.ofLength 2 (by decide) (by decide)),
    .taIdentity (.ofLength 2 (by decide) (by decide)) (.ofLength 1 (by decide) (by decide)),
    rfl, rfl, by decide, rfl, rfl⟩

end ConfidentialIoT
