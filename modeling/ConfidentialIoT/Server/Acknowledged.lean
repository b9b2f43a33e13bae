import ConfidentialIoT.Server.Exchange
import ConfidentialIoT.Server.Replies

/-!
# `Server/Acknowledged.lean` — what the reply to a data message says

`_on_data` returns nothing: it gives its verdict to the dashboard, and the handler then writes
`{"ok": true}`, whatever the verdict is. The reply is true of the messages that are accepted
(`acknowledged_iff`) and of no other (`unattested_data_is_acknowledged`).
-/

set_option autoImplicit false

namespace ConfidentialIoT

open Effects

/-- The message was accepted: its number advanced the session's, and its samples were buffered. -/
def Buffers (log : List (Event Server)) : Prop :=
  ∃ deviceId seq t samples verdict, .did (.advanceSeq deviceId seq) (t, true) ∈ log ∧
    .did (.extendBuffer deviceId samples verdict) () ∈ log

/-- The reply tells whether it was. -/
structure Acknowledged (log : List (Event Server)) : Prop where
  ok_iff : repliesOf log = [Reply.accepted] ↔ Buffers log
  refused : ¬ Buffers log → ∃ error, repliesOf log = [Reply.refused error]

section

variable (rt : Runtime) (C : CryptoLib) {identity : Point}

/-- Whether a data message is acceptable, on the time, the key and the sequence check it was
answered with: the device has a session, the message opens under its key, its number is above the
session's, and its plaintext is a JSON document whose samples can be gone through. -/
def acceptable (deviceId : Text) (msg : JsonValue) : List (Event Server) → Bool
  | .did .time now :: .did (.sessionKey _) (_, some key) :: .did (.advanceSeq _ _) (_, true) :: _ =>
    match openData C key msg with
    | .error _ => false
    | .ok (_, plaintext) =>
      match rt.loads plaintext with
      | .error _ => false
      | .ok payload =>
        match payloadSamples rt deviceId now payload with
        | .error _ => false
        | .ok _ => true
  | _ => false

end

section

variable {rt : Runtime} {C : CryptoLib} {identity : Point} {deviceId : Text} {msg : JsonValue}
  {tr : List (Event Server)}

/-- Of what `_on_data` does only the last case is an acceptance. -/
theorem DataHandled.buffers_iff (h : DataHandled rt C deviceId msg tr) (reply : JsonValue) :
    Buffers (tr ++ [.did (.writeline reply) ()]) ↔
      acceptable rt C deviceId msg (tr ++ [.did (.writeline reply) ()]) = true := by
  cases h with
  | noSession now t => simp [Buffers, acceptable]
  | undecrypted now t key h caught => simp [Buffers, dataRead, acceptable]
  | replayed now t key t' h => simp [Buffers, dataAdvanced, dataRead, acceptable]
  | unparsed now t key t' h hload caught =>
    simp [Buffers, dataAdvanced, dataRead, acceptable, h, hload]
  | @accepted now t key seq _ t' h _ hload samples hsamples =>
    constructor
    · intro _
      simp only [dataAdvanced, dataRead, List.cons_append, List.nil_append, acceptable, h, hload,
        hsamples]
    · intro _
      exact ⟨deviceId, seq, t', samples, .verified now, by simp [dataAdvanced, dataRead],
        by simp [dataAdvanced, dataRead]⟩

theorem DataEscapes.not_acceptable (h : DataEscapes rt C deviceId msg tr)
    {more : List (Event Server)} {conn : Connection} (hangs : HangsUp conn more) :
    acceptable rt C deviceId msg (tr ++ more) = false ∧ ¬ Buffers (tr ++ more) ∧
      repliesOf (tr ++ more) = [] := by
  cases h with
  | undecrypted now t key h _ =>
    cases hangs <;> simp [dataRead, acceptable, Buffers, repliesOf]
  | unparsed now t key t' h hload _ =>
    cases hangs <;> simp [dataAdvanced, dataRead, acceptable, h, hload, Buffers, repliesOf]
  | samples now t key t' h hload hsamples =>
    cases hangs <;>
      simp [dataAdvanced, dataRead, acceptable, h, hload, hsamples, Buffers, repliesOf]

end

/-- **When a data message is acknowledged as it should be**: exactly when its connection has not
said hello, or it is acceptable. In every run of any number of connections. -/
theorem acknowledged_iff (rt : Runtime) (C : CryptoLib) (identity : Point) {ι : Type}
    [DecidableEq ι] (registry : Registry) {ls : List (Pool.Label (linkMachine rt C identity) ι)}
    {c : Pool.Config (linkMachine rt C identity) ι ServerState}
    (run : Pool.Run (fun _ => ServerStep C identity) Pool.Any
      (linkStarted rt C identity ι registry) ls c) {i : ι} {line : Bytes} {conn : Connection}
    {log : List (Event Server)} {out : Except PyError Unit × Connection}
    (h : .returned i (.line (some line)) conn log out ∈ ls) (live : conn.closed = false)
    {msg : JsonValue} (parses : Parses rt line msg .data) :
    Acknowledged log ↔ conn.named = none ∨
      ∃ deviceId, conn.named = some deviceId ∧ acceptable rt C deviceId msg log = true := by
  obtain ⟨-, hserved⟩ := returned_served run h
  generalize out.2 = conn' at hserved
  cases hserved with
  | closed _ hclosed => exact absurd hclosed (by simp [live])
  | handled _ handled =>
    cases handled with
    | badJson hload _ => cases parses.loads.symm.trans hload
    | challenged hparses _ _ => cases (parses.unique hparses).2
    | unknownDevice hparses _ => cases (parses.unique hparses).2
    | attestUnnamed hparses _ => cases (parses.unique hparses).2
    | attested hparses _ _ _ _ _ _ => cases (parses.unique hparses).2
    | attestRefused hparses _ _ _ => cases (parses.unique hparses).2
    | unknownType hparses _ => cases (parses.unique hparses).2
    | dataUnnamed _ hname =>
      refine ⟨fun _ => Or.inl hname, fun _ => ⟨?_, fun _ => ⟨_, rfl⟩⟩⟩
      simp [repliesOf, Reply.accepted, Reply.refused, Buffers]
    | @data _ deviceId hparses hname tr handled =>
      obtain ⟨rfl, -⟩ := parses.unique hparses
      have hreplies : repliesOf (tr ++ [.did (.writeline Reply.accepted) ()]) = [Reply.accepted] := by
        rw [repliesOf_append, repliesOf_data handled]
        rfl
      have hbuffers := handled.buffers_iff Reply.accepted
      constructor
      · intro hack
        exact Or.inr ⟨deviceId, hname, hbuffers.mp (hack.ok_iff.mp hreplies)⟩
      · intro hcond
        rcases hcond with hnone | ⟨id, hid, haccept⟩
        · cases hname.symm.trans hnone
        · obtain rfl := Option.some.inj (hname.symm.trans hid)
          have hdone := hbuffers.mpr haccept
          exact ⟨⟨fun _ => hdone, fun _ => hreplies⟩, fun hnot => absurd hdone hnot⟩
  | escaped _ escapes hangs =>
    cases escapes with
    | badJson hload _ => cases parses.loads.symm.trans hload
    | notADict hload htype =>
      obtain rfl := Except.ok.inj (parses.loads.symm.trans hload)
      obtain ⟨v, hget, -⟩ := parses.type
      cases hget.symm.trans htype
    | hello hparses _ => cases (parses.unique hparses).2
    | attest hparses _ _ _ => cases (parses.unique hparses).2
    | unknownType hparses _ => cases (parses.unique hparses).2
    | @data _ deviceId hparses hname tr escapes =>
      obtain ⟨rfl, -⟩ := parses.unique hparses
      obtain ⟨hnot, hunbuffered, hsilent⟩ := escapes.not_acceptable hangs
      constructor
      · intro hack
        obtain ⟨error, hreply⟩ := hack.refused hunbuffered
        rw [hsilent] at hreply
        cases hreply
      · intro hcond
        rcases hcond with hnone | ⟨id, hid, haccept⟩
        · cases hname.symm.trans hnone
        · obtain rfl := Option.some.inj (hname.symm.trans hid)
          rw [hnot] at haccept
          cases haccept

/-- The first time a connection's line was served: what the connection remembered, and what was
done. -/
def servedLine {rt : Runtime} {C : CryptoLib} {identity : Point} {ι : Type} [DecidableEq ι] (i : ι)
    (line : Bytes) (ls : List (Pool.Label (linkMachine rt C identity) ι)) :
    Option (Connection × List (Event Server) × (Except PyError Unit × Connection)) :=
  ls.findSome? fun
    | .returned j (.line (some line')) conn log out =>
      if j = i ∧ line' = line then some (conn, log, out) else none
    | _ => none

theorem mem_of_servedLine {rt : Runtime} {C : CryptoLib} {identity : Point} {ι : Type}
    [DecidableEq ι] {i : ι} {line : Bytes} {ls : List (Pool.Label (linkMachine rt C identity) ι)}
    {conn : Connection} {log : List (Event Server)} {out : Except PyError Unit × Connection}
    (h : servedLine i line ls = some (conn, log, out)) :
    .returned i (.line (some line)) conn log out ∈ ls := by
  obtain ⟨l, hl, hsome⟩ := List.exists_of_findSome?_eq_some h
  split at hsome
  · split at hsome
    · rename_i hsame
      obtain ⟨rfl, rfl⟩ := hsame
      cases hsome
      exact hl
    · cases hsome
  · cases hsome

namespace Vectors

theorem parses_firstData : Parses python (lineOf firstData) (.obj firstData) .data := by
  obtain ⟨hello, hello'⟩ : ¬ lineOf (helloMessage deviceName) = lineOf firstData ∧
      ¬ lineOf (helloMessage intruderName) = lineOf firstData := by decide +kernel
  refine ⟨?_, some (.str "data".toList), rfl, rfl⟩
  simp only [python, messages, List.find?_cons, hello, hello', decide_false, decide_true]

/-- A connection that says hello for the device and sends a reading, without attesting. -/
def unattestedReading :
    List (Pool.Label deviceLink (Fin 1)) × Pool.Config deviceLink (Fin 1) ServerState :=
  playServer lib serverIdentity.pub (fun _ _ => firstDesk)
    (linkStarted python lib serverIdentity.pub (Fin 1) enrolled) (
    byItself 0 (takes (helloMessage deviceName)) ++ byItself 0 (takes firstData))

end Vectors

/-- The device's reading, after it has attested: accepted, and acknowledged. -/
theorem acknowledged_iff_played : ∃ conn log out,
    .returned 0 (.line (some (lineOf Vectors.firstData))) conn log out ∈
      Vectors.oneReading.1 ∧ Acknowledged log ∧ (repliesOf log).map okOf = [some true] := by
  have hplayed : (servedLine 0 (lineOf Vectors.firstData) Vectors.oneReading.1).any (fun x =>
      decide (x.1 = ⟨some Vectors.deviceName, false⟩) &&
        acceptable Vectors.python Vectors.lib Vectors.deviceName (.obj Vectors.firstData) x.2.1 &&
        decide ((repliesOf x.2.1).map okOf = [some true])) = true := by decide +kernel
  have run : Pool.Run _ Pool.Any _ _ _ := Vectors.oneReading_run.mono fun _ _ _ => trivial
  generalize Vectors.oneReading = played at run hplayed ⊢
  obtain ⟨⟨conn, log, out⟩, hserved, hchecks⟩ := (Option.any_eq_true _ _).mp hplayed
  simp only [Bool.and_eq_true, decide_eq_true_eq] at hchecks
  obtain ⟨⟨rfl, haccept⟩, hok⟩ := hchecks
  have hname : Connection.named ⟨some Vectors.deviceName, false⟩ = some Vectors.deviceName := by
    decide
  have hmem := mem_of_servedLine hserved
  exact ⟨_, log, out, hmem, (acknowledged_iff _ _ _ _ run hmem rfl Vectors.parses_firstData).mpr
    (Or.inr ⟨Vectors.deviceName, hname, haccept⟩), hok⟩

/-- A reading went into the buffer. -/
def extendsBuffer : Event Server → Bool
  | .did (.extendBuffer _ _ _) _ => true
  | _ => false

/-- A reading of a device that has not attested: dropped, and acknowledged. -/
theorem unattested_data_is_acknowledged : ∃ conn log out,
    .returned 0 (.line (some (lineOf Vectors.firstData))) conn log out ∈
      Vectors.unattestedReading.1 ∧ conn.closed = false ∧ ¬ Buffers log ∧
    (repliesOf log).map okOf = [some true] ∧ ¬ Acknowledged log := by
  have hplayed : (servedLine 0 (lineOf Vectors.firstData) Vectors.unattestedReading.1).any
      (fun x => !x.1.closed && x.2.1.all (fun ev => !extendsBuffer ev) && decide ((repliesOf x.2.1).map okOf = [some true])) = true := by
    decide +kernel
  obtain ⟨⟨conn, log, out⟩, hserved, hchecks⟩ := (Option.any_eq_true _ _).mp hplayed
  simp only [Bool.and_eq_true, Bool.not_eq_true', decide_eq_true_eq, List.all_eq_true] at hchecks
  obtain ⟨⟨live, hdropped⟩, hok⟩ := hchecks
  have hnot : ¬ Buffers log := by
    rintro ⟨_, _, _, _, _, _, hmem⟩
    cases hdropped _ hmem
  refine ⟨conn, log, out, mem_of_servedLine hserved, live, hnot, hok, ?_⟩
  intro hack
  obtain ⟨error, hreply⟩ := hack.refused hnot
  rw [hreply] at hok
  cases hok

end ConfidentialIoT
