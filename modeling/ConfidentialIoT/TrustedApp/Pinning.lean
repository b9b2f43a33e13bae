import ConfidentialIoT.Lib.Pool
import ConfidentialIoT.Tee.Storage
import ConfidentialIoT.TrustedApp.Snapshot

/-!
# `TrustedApp/Pinning.lean` — two first handshakes at once

`TA_FLAGS` is 0: every session the Host opens is a TA instance of its own, and all of them share
secure storage. So the sessions are the agents of a pool, and their storage calls interleave.

`authenticate_server` looks for a pinned key, verifies, and only then creates the object. What
it pins stays pinned (`StorageStep.kept`). But a create that finds the object there counts as
success without a look at what was pinned in the meantime, where `generate_ta_identity`, in the
same place, reads the winner back. So the key a handshake verified under is the pinned one as
long as every such lost create lost to the very key it was creating (`pinning_agrees`), and two
servers' first handshakes that overlap can both succeed (`both_first_uses_succeed`).
-/

set_option autoImplicit false

namespace ConfidentialIoT

open Effects

/-- A session, as an agent: its jobs are invocations, and between two of them it keeps its
`confidential_iot_session`. -/
@[reducible] def taMachine : Machine Tee where
  Job := Invocation
  Mem := Session
  Out := Except TeeError Unit × Frame
  code inv sess := inv.program sess
  mem out := out.2.sess

/-- Any number of sessions of one TA, all of them just opened. -/
def justOpened (ι : Type) (store : Storage) : Pool.Config taMachine ι Storage :=
  ⟨store, fun _ => .idle Session.fresh⟩

theorem justOpened_quiet (ι : Type) (store : Storage) : (justOpened ι store).Quiet :=
  fun _ => ⟨_, rfl⟩

/-- The pinned key, as the TA reads it. -/
def pinnedKey (store : Storage) : Option Bytes :=
  (store .serverPubkey).map (·.take ecdhPubkeySize)

theorem pinnedKey_kept {store store' : Storage} {ev : Event Tee} {key : Bytes}
    (h : StorageStep store ev store') (hkey : pinnedKey store = some key) :
    pinnedKey store' = some key := by
  obtain ⟨content, hcontent, rfl⟩ := Option.map_eq_some_iff.mp hkey
  exact Option.map_eq_some_iff.mpr ⟨content, h.kept hcontent, rfl⟩

/-- The keys a handshake's signatures verified under. -/
def verifiedUnder (log : List (Event Tee)) : List (Bytes × Bytes) :=
  (verifiedKeys log).map fun v => (v.1, v.2.1)

/-- The keys the successful handshakes of a run verified under. -/
def handshakeKeys {ι : Type} (ls : List (Pool.Label taMachine ι)) : List (Bytes × Bytes) :=
  ls.flatMap fun
    | .returned _ inv _ log (.ok (), _) =>
      if Command.ofId inv.cmdId = some .handshakeComplete then verifiedUnder log else []
    | _ => []

theorem mem_handshakeKeys {ι : Type} {ls : List (Pool.Label taMachine ι)} {key : Bytes × Bytes}
    (h : key ∈ handshakeKeys ls) :
    ∃ i inv sess log frame, .returned i inv sess log (.ok (), frame) ∈ ls ∧
      Command.ofId inv.cmdId = some .handshakeComplete ∧ key ∈ verifiedUnder log := by
  obtain ⟨l, hl, hkey⟩ := List.mem_flatMap.mp h
  cases l with
  | started i inv => cases hkey
  | did i ev => cases hkey
  | returned i inv sess log out =>
    obtain ⟨result, frame⟩ := out
    cases result with
    | error e => cases hkey
    | ok _ =>
      by_cases hc : Command.ofId inv.cmdId = some .handshakeComplete
      · exact ⟨i, inv, sess, log, frame, hl, hc, by simpa [hc] using hkey⟩
      · simp [hc] at hkey

/-- The steps without the defect: a create of the server key that loses, loses to that very key;
and during a HANDSHAKE_COMPLETE the Host leaves the presented key alone. -/
def PinsOwnKey {ι : Type} (c : Pool.Config taMachine ι Storage) : Pool.Label taMachine ι → Prop
  | .did _ (.refused (.createPersistentObject .serverPubkey key) .accessConflict) =>
    pinnedKey c.shared = some key
  | .returned _ inv _ log _ =>
    Command.ofId inv.cmdId = some .handshakeComplete → Unchanged 2 0 log
  | _ => True

/-! ## What an event says about the pinned key -/

def PinFact (ev : Event Tee) (store : Storage) : Prop :=
  match ev with
  | .ok (.readObjectData .serverPubkey size) b =>
    size = ecdhPubkeySize → pinnedKey store = some b
  | .ok (.createPersistentObject .serverPubkey key) _ =>
    pinnedKey store = some (key.take ecdhPubkeySize)
  | .refused (.createPersistentObject .serverPubkey key) .accessConflict =>
    pinnedKey store = some key
  | _ => True

theorem PinFact.kept {store store' : Storage} {ev ev' : Event Tee}
    (h : StorageStep store ev' store') (hfact : PinFact ev store) : PinFact ev store' := by
  unfold PinFact at hfact ⊢
  split
  · intro hsize
    exact pinnedKey_kept h (hfact hsize)
  · exact pinnedKey_kept h hfact
  · exact pinnedKey_kept h hfact
  · trivial

/-- An admitted step establishes it. -/
theorem PinFact.of_step {ι : Type} {C : Crypto} {c : Pool.Config taMachine ι Storage} {i : ι}
    {ev : Event Tee} {store' : Storage} (hP : PinsOwnKey c (.did i ev))
    (h : TeeStep C c.shared ev store') : PinFact ev store' := by
  have hstep := h.2
  unfold PinFact
  split
  · rename_i size b
    rintro rfl
    obtain ⟨⟨content, hcontent, rfl⟩, rfl⟩ := hstep
    exact Option.map_eq_some_iff.mpr ⟨content, hcontent, rfl⟩
  · rename_i key _
    obtain ⟨-, rfl⟩ := hstep
    exact Option.map_eq_some_iff.mpr ⟨key, Function.update_self .., rfl⟩
  · obtain ⟨-, rfl⟩ := hstep
    exact hP
  · trivial

section

variable {ι : Type} [DecidableEq ι] {C : Crypto} {store : Storage}
  {ls : List (Pool.Label taMachine ι)} {c : Pool.Config taMachine ι Storage}

/-- What a successful handshake verified under is what its log knows to be pinned. -/
theorem HandshakeRecord.pinned_eq {tr : List (Event Tee)} (r : HandshakeRecord tr)
    (kept : Unchanged 2 0 tr) (facts : ∀ ev ∈ tr, PinFact ev store) :
    pinnedKey store = some (0x04 :: (r.key.x ++ r.key.y)) := by
  have hmem : ∀ ev, ev ∈ r.events r.key → ev ∈ tr := by
    intro ev hev
    rw [← r.essential_eq] at hev
    exact (List.mem_filter.mp hev).1
  cases hkey : r.key with
  | pinned key =>
    have hfact := facts (.ok (.readObjectData .serverPubkey ecdhPubkeySize) key.1)
      (hmem _ (by simp [HandshakeAnswers.events, hkey, KeyUse.lookup]))
    exact (hfact rfl).trans (congrArg some (r.unchanged_pinned hkey kept))
  | firstUse x y key created =>
    have hwhole := (r.unchanged_key hkey).mp kept
    cases created with
    | true =>
      have hfact := facts (.ok (.createPersistentObject .serverPubkey key.1) ())
        (hmem _ (by simp [HandshakeAnswers.events, hkey, KeyUse.pin]))
      have hlen : key.1.take ecdhPubkeySize = key.1 := List.take_of_length_le (by rw [key.2])
      exact hfact.trans (congrArg some (hlen.trans hwhole))
    | false =>
      have hlost := r.lost
      rw [hkey] at hlost
      exact (facts _ hlost).trans (congrArg some hwhole)

/-- A successful HANDSHAKE_COMPLETE of a run has its record. -/
theorem returned_record {P : Pool.Config taMachine ι Storage → Pool.Label taMachine ι → Prop}
    {i : ι} {inv : Invocation} {sess : Session} {log : List (Event Tee)} {frame : Frame}
    (run : Pool.Run (fun _ => TeeStep C) P (justOpened ι store) ls c)
    (hmem : .returned i inv sess log (.ok (), frame) ∈ ls)
    (hc : Command.ofId inv.cmdId = some .handshakeComplete) : Nonempty (HandshakeRecord log) := by
  have runs := (run.logs (justOpened_quiet ι store)).2 i inv sess log _ hmem
  simp only [Invocation.program, taInvokeCommand, hc] at runs
  exact wp_runs runs (taHandshakeComplete_record inv.paramTypes sess inv.params)

end

/-- **Pinning, in any interleaving of any number of sessions.**

* Whatever happens from any configuration on, a stored server key stays what it is.
* In a run whose lost creates lose to their own key, every HANDSHAKE_COMPLETE that has returned
  `TEE_SUCCESS` verified its signature under one key, and that key is the pinned one: when it
  returns, which is the run that ends there, and ever after.
* So no two of them verified under different keys. -/
theorem pinning_agrees {ι : Type} [DecidableEq ι] (C : Crypto) (store : Storage) :
    (∀ (c : Pool.Config taMachine ι Storage) ls c', Pool.Run (fun _ => TeeStep C) Pool.Any c ls c' →
      ∀ key, c.shared .serverPubkey = some key → c'.shared .serverPubkey = some key) ∧
    (∀ (ls : List (Pool.Label taMachine ι)) c,
      Pool.Run (fun _ => TeeStep C) PinsOwnKey (justOpened ι store) ls c →
      (∀ i inv sess log frame, .returned i inv sess log (.ok (), frame) ∈ ls →
        Command.ofId inv.cmdId = some .handshakeComplete →
        ∃ x y, verifiedUnder log = [(x, y)] ∧ pinnedKey c.shared = some (0x04 :: (x ++ y))) ∧
      ∀ key ∈ handshakeKeys ls, ∀ key' ∈ handshakeKeys ls, key = key') := by
  refine ⟨?_, ?_⟩
  · intro c ls c' run key hkey
    exact run.shared (T := fun s => s .serverPubkey = some key) (fun _ _ _ _ h => h.2.kept) hkey
  · intro ls c run
    have facts : ∀ i log, Pool.Remembers ls c i log → ∀ ev ∈ log, PinFact ev c.shared := by
      intro i log
      exact run.facts (F := fun _ => PinFact) (justOpened_quiet ι store)
        (fun _ _ _ _ hP h => .of_step hP h) (fun _ _ _ _ _ _ h => PinFact.kept h.2)
    have agrees : ∀ i inv sess log frame, .returned i inv sess log (.ok (), frame) ∈ ls →
        Command.ofId inv.cmdId = some .handshakeComplete →
        ∃ x y, verifiedUnder log = [(x, y)] ∧ x.length = 32 ∧
          pinnedKey c.shared = some (0x04 :: (x ++ y)) := by
      intro i inv sess log frame hmem hc
      obtain ⟨r⟩ := returned_record run hmem hc
      obtain ⟨_, kept⟩ := run.admitted _ hmem
      refine ⟨r.key.x, r.key.y, by simp [verifiedUnder, r.verifiedKeys_eq], r.key.length_x, ?_⟩
      exact r.pinned_eq (kept hc) (facts i log (Or.inr ⟨inv, sess, _, hmem⟩))
    have pins : ∀ key ∈ handshakeKeys ls,
        key.1.length = 32 ∧ pinnedKey c.shared = some (0x04 :: (key.1 ++ key.2)) := by
      intro key hkey
      obtain ⟨i, inv, sess, log, frame, hmem, hc, hkey⟩ := mem_handshakeKeys hkey
      obtain ⟨x, y, hunder, hlen, hpin⟩ := agrees i inv sess log frame hmem hc
      rw [hunder, List.mem_singleton] at hkey
      rw [hkey]
      exact ⟨hlen, hpin⟩
    refine ⟨?_, ?_⟩
    · intro i inv sess log frame hmem hc
      obtain ⟨x, y, hunder, -, hpin⟩ := agrees i inv sess log frame hmem hc
      exact ⟨x, y, hunder, hpin⟩
    · intro key hkey key' hkey'
      obtain ⟨hlen, hpin⟩ := pins key hkey
      obtain ⟨hlen', hpin'⟩ := pins key' hkey'
      have heq := List.cons.inj (Option.some.inj (hpin.symm.trans hpin'))
      exact Prod.ext_iff.mpr (List.append_inj heq.2 (hlen.trans hlen'.symm))

namespace Vectors

/-- The TEE as the session that draws the second keypair sees it. -/
def secondBench : Bench := { bench with
  sign := fun _ _ => secondTaSig
  keypair := secondEphemeral
  keypair_pub := by decide +kernel }

/-- Two sessions: the Host connects the first to the genuine server and the second to another
one, and leaves every buffer alone. -/
def twoServers (session : Fin 2) (inv : Invocation) : Bench :=
  match session, Command.ofId inv.cmdId with
  | 0, some .handshakeComplete => handshakeBench
  | 0, _ => evidenceBench
  | 1, some .handshakeComplete => { secondBench with
      host := buffers rogueEphemeral.pub.sec1 secondNonce rogueIdentity.pub.sec1 rogueSig }
  | 1, _ => { secondBench with host := buffers [] secondNonce rogueEphemeral.pub.sec1 [] }

/-- Two sessions that the Host connects to one server. -/
def oneServer (session : Fin 2) (inv : Invocation) : Bench :=
  match session, Command.ofId inv.cmdId with
  | 0, some .handshakeComplete => handshakeBench
  | 0, _ => evidenceBench
  | 1, some .handshakeComplete => { secondBench with
      host := buffers laterEphemeral.pub.sec1 secondNonce serverIdentity.pub.sec1 laterServerSig }
  | 1, _ => { secondBench with
      sign := fun _ _ => laterTaSig
      host := buffers [] secondNonce laterEphemeral.pub.sec1 [] }

/-- What is stored on a device that is provisioned and has never met a server. -/
def unpinnedStore : Storage := bench.store

/-- A session runs a command on its own. -/
def alone (session : Fin 2) (inv : Invocation) : List (Pool.Turn taMachine (Fin 2)) :=
  Pool.Turn.start session inv ::
    List.replicate 40 (Pool.Turn.call session) ++ [Pool.Turn.finish session]

/-- The two handshakes overlap: the first has its signature verified when the second runs, and
creates the object after it. -/
def overlapping : List (Pool.Turn taMachine (Fin 2)) :=
  alone 0 generateEvidence ++ alone 1 generateEvidence ++
  Pool.Turn.start 0 completeHandshake :: List.replicate 17 (Pool.Turn.call 0) ++
  alone 1 completeHandshake ++ List.replicate 40 (Pool.Turn.call 0) ++ [Pool.Turn.finish 0]

/-- Play a schedule of the two sessions. -/
def playSessions (benches : Fin 2 → Invocation → Bench)
    (ok : Pool.Config taMachine (Fin 2) Storage → Pool.Label taMachine (Fin 2) → Bool)
    (turns : List (Pool.Turn taMachine (Fin 2))) :
    List (Pool.Label taMachine (Fin 2)) × Pool.Config taMachine (Fin 2) Storage :=
  Pool.play (fun i inv n => (benches i inv).serve n) ok (justOpened (Fin 2) unpinnedStore) turns

theorem playSessions_run {benches : Fin 2 → Invocation → Bench}
    (hcrypto : ∀ i inv, (benches i inv).crypto = crypto)
    (ok : Pool.Config taMachine (Fin 2) Storage → Pool.Label taMachine (Fin 2) → Bool)
    (turns : List (Pool.Turn taMachine (Fin 2))) :
    Pool.Run (fun _ => TeeStep crypto) (fun c l => ok c l = true)
      (justOpened (Fin 2) unpinnedStore) (playSessions benches ok turns).1
        (playSessions benches ok turns).2 := by
  apply Pool.play_run
  intro c i inv n q _
  have hstep := (benches i inv).serve_step n c.shared q
  rwa [hcrypto] at hstep

theorem twoServers_crypto (i : Fin 2) (inv : Invocation) : (twoServers i inv).crypto = crypto := by
  unfold twoServers
  split <;> rfl

theorem oneServer_crypto (i : Fin 2) (inv : Invocation) : (oneServer i inv).crypto = crypto := by
  unfold oneServer
  split <;> rfl

/-- The steps `PinsOwnKey` admits, when what the Host presents is the genuine server's key. -/
def pinsGenuine (c : Pool.Config taMachine (Fin 2) Storage) : Pool.Label taMachine (Fin 2) → Bool
  | .did _ (.refused (.createPersistentObject .serverPubkey key) .accessConflict) =>
    pinnedKey c.shared = some key
  | .returned _ inv _ log _ => Command.ofId inv.cmdId = some .handshakeComplete →
    ∀ r ∈ readsOf 2 log, r.2 = serverIdentity.pub.sec1.slice r.1 r.2.length
  | _ => true

theorem pinsGenuine_admits {c : Pool.Config taMachine (Fin 2) Storage}
    {l : Pool.Label taMachine (Fin 2)} (h : pinsGenuine c l = true) : PinsOwnKey c l := by
  unfold PinsOwnKey
  split
  · exact of_decide_eq_true h
  · intro hc
    exact unchanged_of_content (of_decide_eq_true h hc)
  · trivial

end Vectors

/-- A create that found the object there. -/
def lostCreates {ι : Type} (ls : List (Pool.Label taMachine ι)) : List (ι × Bytes) :=
  ls.filterMap fun
    | .did i (.refused (.createPersistentObject .serverPubkey key) .accessConflict) => some (i, key)
    | _ => none

/-- Two sessions' overlapping first handshakes with one server: the first session's create loses, to
the same key, and both have verified under the one that is pinned. -/
theorem pinning_agrees_played :
    let played := Vectors.playSessions Vectors.oneServer Vectors.pinsGenuine Vectors.overlapping
    lostCreates played.1 = [(0, Vectors.serverIdentity.pub.sec1)] ∧
      handshakeKeys played.1 = List.replicate 2
        (Bytes.toBE 32 Vectors.serverIdentity.pub.x.toNat,
          Bytes.toBE 32 Vectors.serverIdentity.pub.y.toNat) ∧
      pinnedKey played.2.shared = some Vectors.serverIdentity.pub.sec1 := by
  intro played
  have run : Pool.Run (fun _ => TeeStep Vectors.crypto) PinsOwnKey
      (justOpened (Fin 2) Vectors.unpinnedStore) played.1 played.2 :=
    (Vectors.playSessions_run Vectors.oneServer_crypto Vectors.pinsGenuine Vectors.overlapping).mono
      (fun _ _ => Vectors.pinsGenuine_admits)
  obtain ⟨hlost, hkeys⟩ : lostCreates played.1 = [(0, Vectors.serverIdentity.pub.sec1)] ∧
      handshakeKeys played.1 = List.replicate 2
        (Bytes.toBE 32 Vectors.serverIdentity.pub.x.toNat,
          Bytes.toBE 32 Vectors.serverIdentity.pub.y.toNat) := by decide +kernel
  refine ⟨hlost, hkeys, ?_⟩
  have hmem : (Bytes.toBE 32 Vectors.serverIdentity.pub.x.toNat,
      Bytes.toBE 32 Vectors.serverIdentity.pub.y.toNat) ∈ handshakeKeys played.1 := by
    rw [hkeys]
    exact List.mem_cons_self
  obtain ⟨i, inv, sess, log, frame, hret, hc, hunder⟩ := mem_handshakeKeys hmem
  obtain ⟨x, y, hxy, hpin⟩ :=
    ((pinning_agrees Vectors.crypto Vectors.unpinnedStore).2 _ _ run).1 i inv sess log frame hret hc
  rw [hxy, List.mem_singleton] at hunder
  obtain ⟨hx, hy⟩ := Prod.mk.inj hunder
  rw [← hx, ← hy] at hpin
  exact hpin

/-- The race: two sessions, correct TEE services, a Host that leaves every buffer alone; both
first handshakes succeed, under two different keys, one of which is pinned. -/
theorem both_first_uses_succeed :
    ∃ ls c, Pool.Run (fun _ => TeeStep Vectors.crypto) Pool.Any
        (justOpened (Fin 2) Vectors.unpinnedStore) ls c ∧
      handshakeKeys ls = [
        (Bytes.toBE 32 Vectors.rogueIdentity.pub.x.toNat,
          Bytes.toBE 32 Vectors.rogueIdentity.pub.y.toNat),
        (Bytes.toBE 32 Vectors.serverIdentity.pub.x.toNat,
          Bytes.toBE 32 Vectors.serverIdentity.pub.y.toNat)] ∧
      pinnedKey c.shared = some Vectors.rogueIdentity.pub.sec1 := by
  have run := (Vectors.playSessions_run Vectors.twoServers_crypto (fun _ _ => true)
    Vectors.overlapping).mono (fun _ _ _ => trivial)
  exact ⟨_, _, run, by decide +kernel, by decide +kernel⟩

end ConfidentialIoT
