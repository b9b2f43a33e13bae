import ConfidentialIoT.Lib.Dict
import ConfidentialIoT.Lib.Keeps
import ConfidentialIoT.Server.Enrolment

/-!
# `Server/Persistence.lean` — the file behind the registry

`DeviceRecord.to_dict` and `from_dict`, `_load`, `_save`, and the three operations that save.
Python checks no types when it loads, so a stored record is six JSON values, whatever they are;
`Represents` says when a table of them is the registry of `Server/Registry.lean`.

A `_save` is taken apart into the steps a crash can fall between: the directory, the temporary
file, each byte of it, the rename and the mode. The JSON library is a parameter; what is assumed
of it is that it reads back the maps that were written.
-/

set_option autoImplicit false

namespace ConfidentialIoT

open Effects

/-! ## Records -/

/-- A `DeviceRecord` as Python holds it. -/
structure StoredRecord where
  deviceId : JsonValue
  akPubPem : JsonValue
  expectedPcr : JsonValue
  pcrBank : JsonValue
  createdAt : JsonValue
  taPubB64 : JsonValue

/-- `to_dict` -/
def StoredRecord.toDict (r : StoredRecord) : JsonValue := .obj [
  ("device_id".toList, r.deviceId), ("ak_pub_pem".toList, r.akPubPem),
  ("expected_pcr".toList, r.expectedPcr), ("pcr_bank".toList, r.pcrBank),
  ("created_at".toList, r.createdAt), ("ta_pub_b64".toList, r.taPubB64)]

/-- A value with an entry or a member of a set that Python cannot hash. -/
def JsonValue.unhashable : JsonValue → Bool
  | .arr _ => true
  | .obj _ => true
  | _ => false

/-- `from_dict`: unknown keys are dropped, a missing one is a `TypeError` unless it has a
default. -/
def StoredRecord.fromDict : JsonValue → Except StdError StoredRecord
  | .obj fields =>
    let field (key : Text) : Except StdError JsonValue :=
      match JsonValue.field? fields key with
      | some v => .ok v
      | none => .error .typeError
    do
      let deviceId ← field "device_id".toList
      let akPubPem ← field "ak_pub_pem".toList
      let expectedPcr ← field "expected_pcr".toList
      let pcrBank ← field "pcr_bank".toList
      let createdAt ← field "created_at".toList
      let taPubB64 := (JsonValue.field? fields "ta_pub_b64".toList).getD (.str [])
      return ⟨deviceId, akPubPem, expectedPcr, pcrBank, createdAt, taPubB64⟩
  -- `set(data)`, then `data.get` or `data.items`
  | .arr items => if items.any (·.unhashable) then .error .typeError else .error .attributeError
  | .str _ => .error .attributeError
  | _ => .error .typeError

theorem StoredRecord.fromDict_toDict (r : StoredRecord) : fromDict r.toDict = .ok r := rfl

/-! ## Tables -/

/-- `self._records` -/
abbrev DeviceTable : Type := Dict Text StoredRecord

/-- What `_save` writes. -/
def DeviceTable.json (table : DeviceTable) : JsonValue :=
  .obj (table.entries.map fun e => (e.1, e.2.toDict))

/-- What `_load` makes of the file's content. -/
def DeviceTable.ofJson : JsonValue → Except StdError DeviceTable
  | .obj fields => do
    let entries ← (Dict.ofList fields).entries.mapM fun e => do
      return (e.1, ← StoredRecord.fromDict e.2)
    return Dict.ofList entries
  | _ => .error .attributeError

theorem mapM_fromDict (es : List (Text × StoredRecord)) :
    ((es.map fun e => (e.1, e.2.toDict)).mapM fun e => do
      return (e.1, ← StoredRecord.fromDict e.2) : Except StdError (List (Text × StoredRecord))) =
      .ok es := by
  induction es with
  | nil => rfl
  | cons e es ih =>
    rw [List.map_cons, List.mapM_cons, ih]
    rfl

/-- A table survives the encoding of its records. -/
theorem DeviceTable.ofJson_json (table : DeviceTable) : ofJson table.json = .ok table := by
  have hkeys : ((table.entries.map fun e => (e.1, e.2.toDict)).map Prod.fst).Nodup := by
    rw [List.map_map]
    exact table.nodup
  have hread : Dict.ofList (table.entries.map fun e => (e.1, e.2.toDict)) =
      ⟨table.entries.map fun e => (e.1, e.2.toDict), hkeys⟩ := Dict.ofList_entries ⟨_, hkeys⟩
  rw [json, ofJson, hread, mapM_fromDict]
  show Except.ok (Dict.ofList table.entries) = .ok table
  rw [Dict.ofList_entries]

/-! ## Operations -/

/-- What an operation returned or raised. -/
inductive StoredReply where
  | registered (record : StoredRecord) (new : Bool)
  | mismatch (field : KeyMismatch)
  | removed (found : Bool)
  | cleared

/-- Whether an operation that ended so has saved. -/
def StoredReply.saves : StoredReply → Bool
  | .registered _ new => new
  | .mismatch _ => false
  | .removed found => found
  | .cleared => true

/-- The record of a new device; `ofTime` is the double that `time.time()` returns. -/
def Submission.record (ofTime : Time → UInt64) (now : Time) (s : Submission) : StoredRecord :=
  ⟨.str s.deviceId, .str s.akPubPem, .str s.expectedPcr, .str s.pcrBank, .float (ofTime now),
    .str s.taPubB64⟩

/-- A stored value is a given string. -/
def JsonValue.isStr (v : JsonValue) (t : Text) : Bool :=
  match v with
  | .str t' => t' = t
  | _ => false

/-- `register`, `remove` and `clear`, in memory. -/
def DeviceTable.call (ofTime : Time → UInt64) (table : DeviceTable) :
    RegistryCall → StoredReply × DeviceTable
  | .register now s =>
    match table.get? s.deviceId with
    | some existing =>
      if ¬ existing.akPubPem.isStr s.akPubPem then (.mismatch .akPubPem, table)
      else if ¬ existing.taPubB64.isStr s.taPubB64 then (.mismatch .taPubB64, table)
      else (.registered existing false, table)
    | none =>
      (.registered (s.record ofTime now) true, table.set s.deviceId (s.record ofTime now))
  | .remove deviceId =>
    if (table.get? deviceId).isSome then (.removed true, table.erase deviceId)
    else (.removed false, table)
  | .clear => (.cleared, Dict.empty)

/-- The table after a sequence of calls. -/
def DeviceTable.after (ofTime : Time → UInt64) (table : DeviceTable) (ops : List RegistryCall) :
    DeviceTable := ops.foldl (fun table op => (table.call ofTime op).2) table

theorem DeviceTable.after_snoc (ofTime : Time → UInt64) (table : DeviceTable)
    (ops : List RegistryCall) (op : RegistryCall) :
    table.after ofTime (ops ++ [op]) = ((table.after ofTime ops).call ofTime op).2 := by
  rw [after, List.foldl_append]
  rfl

theorem DeviceTable.call_unsaved {ofTime : Time → UInt64} {table : DeviceTable} {op : RegistryCall}
    (h : (table.call ofTime op).1.saves = false) : (table.call ofTime op).2 = table := by
  cases op with
  | clear => cases h
  | remove deviceId =>
    unfold call at h ⊢
    dsimp only at h ⊢
    split at h
    · cases h
    · rename_i hnone
      rw [if_neg hnone]
  | register now s =>
    unfold call at h ⊢
    dsimp only at h ⊢
    cases hid : table.get? s.deviceId with
    | none =>
      rw [hid] at h
      cases h
    | some existing =>
      dsimp only
      split
      · rfl
      · split <;> rfl

/-! ## The registry it stands for -/

/-- A record of `Server/Registry.lean`, as Python holds it. -/
def DeviceRecord.stored (ofTime : Time → UInt64) (r : DeviceRecord) : StoredRecord :=
  ⟨.str r.deviceId, .str r.akPubPem, .str r.expectedPcr, .str r.pcrBank, .float (ofTime r.createdAt),
    .str r.taPubB64⟩

/-- A table and a registry have the same records. -/
def Represents (ofTime : Time → UInt64) (table : DeviceTable) (registry : Registry) : Prop :=
  ∀ id, table.get? id = (registry id).map (·.stored ofTime)

/-- The replies that differ only in how they write a record down. -/
def RegistryReply.stored (ofTime : Time → UInt64) : RegistryReply → StoredReply
  | .registered record new => .registered (record.stored ofTime) new
  | .mismatch field => .mismatch field
  | .removed found => .removed found
  | .cleared => .cleared

/-- **The stored operations are the operations of the registry.** -/
theorem Represents.call {ofTime : Time → UInt64} {table : DeviceTable} {registry : Registry}
    (h : Represents ofTime table registry) (op : RegistryCall) :
    (table.call ofTime op).1 = (registry.call op).1.stored ofTime ∧
      Represents ofTime (table.call ofTime op).2 (registry.call op).2 := by
  cases op with
  | clear => exact ⟨rfl, fun _ => rfl⟩
  | remove deviceId =>
    have hfound : (table.get? deviceId).isSome = (registry deviceId).isSome := by
      rw [h deviceId, Option.isSome_map]
    show (if (table.get? deviceId).isSome then _ else _ : StoredReply × DeviceTable).1 =
        StoredReply.removed (registry.remove deviceId).1 ∧
      Represents ofTime (if (table.get? deviceId).isSome then _ else _ : StoredReply × DeviceTable).2
        (registry.remove deviceId).2
    unfold Registry.remove
    rw [hfound]
    split
    · refine ⟨rfl, ?_⟩
      intro id
      show (table.erase deviceId).get? id = (Function.update registry deviceId none id).map _
      rw [Dict.get?_erase, Function.update_apply]
      split
      · rfl
      · exact h id
    · exact ⟨rfl, h⟩
  | register now s =>
    have hid := h s.deviceId
    cases hreg : registry s.deviceId with
    | none =>
      rw [hreg] at hid
      have htable : table.call ofTime (.register now s) =
          (.registered (s.record ofTime now) true, table.set s.deviceId (s.record ofTime now)) := by
        simp only [DeviceTable.call, hid, Option.map_none]
      simp only [htable, Registry.call, Registry.register, hreg]
      refine ⟨rfl, ?_⟩
      intro id
      rw [Dict.get?_set, Function.update_apply]
      split
      · rfl
      · exact h id
    | some old =>
      rw [hreg] at hid
      have hak : (old.stored ofTime).akPubPem.isStr s.akPubPem = decide (old.akPubPem = s.akPubPem) := rfl
      have hta : (old.stored ofTime).taPubB64.isStr s.taPubB64 = decide (old.taPubB64 = s.taPubB64) := rfl
      simp only [DeviceTable.call, hid, Option.map_some, hak, hta, Registry.call, Registry.register,
        hreg, decide_eq_true_eq]
      by_cases hne : old.akPubPem ≠ s.akPubPem
      · rw [if_pos hne, if_pos hne]
        exact ⟨rfl, h⟩
      · rw [if_neg hne, if_neg hne]
        by_cases hne' : old.taPubB64 ≠ s.taPubB64
        · rw [if_pos hne', if_pos hne']
          exact ⟨rfl, h⟩
        · rw [if_neg hne', if_neg hne']
          exact ⟨rfl, h⟩

/-! ## The disk -/

/-- The two names `_save` uses, once their directory exists: the registry's file, with whether only
its owner may read it, and the temporary one. -/
inductive Disk where
  | missing
  | dir (file : Option (Bytes × Bool)) (tmp : Option Bytes)

/-- What is read under the registry's name. -/
def Disk.content : Disk → Option Bytes
  | .missing => none
  | .dir file _ => file.map Prod.fst

inductive FileStoreAct where
  /-- `os.path.exists`, `open` and `read` -/
  | read
  | makedirs
  /-- `open(tmp, "w")` -/
  | openTmp
  /-- one more byte of the temporary file -/
  | put (b : UInt8)
  | replace
  | chmod
  /-- the operation returns to its caller -/
  | answer (reply : StoredReply)

@[reducible] def FileStoreAct.Res : FileStoreAct → Type
  | .read => Option Bytes
  | _ => Unit

/-- What a `DeviceRegistry` does to its path. -/
def FileStore : Sig where
  Err := Empty
  Req := Empty
  Out := Empty.elim
  Act := FileStoreAct
  Res := FileStoreAct.Res

/-- What a step leaves on the disk. The rename is atomic. -/
def Disk.after (d : Disk) : Event FileStore → Disk
  | .did .makedirs _ => match d with | .missing => .dir none none | d => d
  | .did .openTmp _ => match d with | .dir file _ => .dir file (some []) | d => d
  | .did (.put b) _ => match d with | .dir file (some tmp) => .dir file (some (tmp ++ [b])) | d => d
  | .did .replace _ => match d with | .dir _ (some tmp) => .dir (some (tmp, false)) none | d => d
  | .did .chmod _ => match d with | .dir (some f) tmp => .dir (some (f.1, true)) tmp | d => d
  | .did .read _ => d
  | .did (.answer _) _ => d
  | .ok r _ => r.elim
  | .refused r _ => r.elim

/-- What a history leaves on it. -/
def Disk.afterAll (d : Disk) (tr : List (Event FileStore)) : Disk := tr.foldl Disk.after d

@[simp] theorem Disk.afterAll_snoc (d : Disk) (tr : List (Event FileStore)) (ev : Event FileStore) :
    d.afterAll (tr ++ [ev]) = (d.afterAll tr).after ev := by
  rw [Disk.afterAll, List.foldl_append]
  rfl

/-- A read answers what is there. -/
def Disk.Answers (d : Disk) : Event FileStore → Prop
  | .did .read content => content = d.content
  | _ => True

/-- A history of a disk. -/
def Disk.Had (d : Disk) : List (Event FileStore) → Prop
  | [] => True
  | ev :: tr => d.Answers ev ∧ (d.after ev).Had tr

/-! ## The process -/

/-- `json.dump` and `json.load` -/
structure JsonLib where
  dump : JsonValue → Bytes
  load : Bytes → Except StdError JsonValue

def FileStore.act (a : FileStoreAct) : Prog FileStore a.Res := Prog.perform (S := FileStore) a

def putAll : Bytes → Prog FileStore Unit
  | [] => pure ()
  | b :: bytes => do
    FileStore.act (.put b)
    putAll bytes

section

variable (lib : JsonLib) (ofTime : Time → UInt64)

/-- `_save` -/
def save (table : DeviceTable) : Prog FileStore Unit := do
  FileStore.act .makedirs
  FileStore.act .openTmp
  putAll (lib.dump table.json)
  FileStore.act .replace
  FileStore.act .chmod

/-- `_load`, of what was read. -/
def loadContent : Option Bytes → Except StdError DeviceTable
  | none => .ok Dict.empty
  | some content => do DeviceTable.ofJson (← lib.load content)

/-- The calls a process makes of its registry, one after the other. -/
def callEach : List RegistryCall → DeviceTable → Prog FileStore DeviceTable
  | [], table => pure table
  | op :: ops, table => do
    let r := table.call ofTime op
    if r.1.saves then
      save lib r.2
    FileStore.act (.answer r.1)
    callEach ops r.2

/-- A process that has loaded the file, or failed to. -/
def loaded (ops : List RegistryCall) :
    Except StdError DeviceTable → Prog FileStore (Except StdError DeviceTable)
  | .error e => pure (.error e)
  | .ok table => Except.ok <$> callEach lib ofTime ops table

/-- The life of a process: `DeviceRegistry()`, and its calls. -/
def life (ops : List RegistryCall) : Prog FileStore (Except StdError DeviceTable) := do
  loaded lib ofTime ops (loadContent lib (← FileStore.act .read))

/-- What a `DeviceRegistry()` finds on a disk. -/
def Disk.load (d : Disk) : Except StdError DeviceTable := loadContent lib d.content

/-- How many calls have returned. -/
def answered (tr : List (Event FileStore)) : Nat :=
  tr.countP fun | .did (.answer _) _ => true | _ => false

/-- No call is under way. -/
def AtRest (tr : List (Event FileStore)) : Prop :=
  ∃ tr₀ ev, tr = tr₀ ++ [ev] ∧ ∀ a b, ev = .did a b → a = .read ∨ ∃ reply, a = .answer reply

/-- The library reads back a table it has written. -/
def RoundTrips (table : DeviceTable) : Prop := lib.load (lib.dump table.json) = .ok table.json

end

/-! ## One save -/

section

variable {lib : JsonLib} {ofTime : Time → UInt64} {d : Disk} {tr : List (Event FileStore)}

theorem answered_snoc (tr : List (Event FileStore)) (ev : Event FileStore) :
    answered (tr ++ [ev]) = answered tr +
      match ev with | .did (.answer _) _ => 1 | _ => 0 := by
  rw [answered, List.countP_append, ← answered]
  cases ev with
  | ok r _ => exact r.elim
  | refused r _ => exact r.elim
  | did a b => cases a <;> rfl

theorem atRest_snoc (tr : List (Event FileStore)) {a : FileStoreAct} {b : a.Res}
    (h : AtRest (tr ++ [.did a b])) : a = .read ∨ ∃ reply, a = .answer reply := by
  obtain ⟨tr₀, ev, heq, hev⟩ := h
  obtain rfl := List.singleton_inj.mp (List.append_inj' heq rfl).2
  exact hev a b rfl

/-- In the middle of a save: the registry's file is the old one or the new one. -/
structure Saving (d : Disk) (tr₀ : List (Event FileStore)) (bytes : Bytes)
    (tr : List (Event FileStore)) : Prop where
  answered : answered tr = answered tr₀
  content : (d.afterAll tr).content = (d.afterAll tr₀).content ∨
    (d.afterAll tr).content = some bytes
  busy : tr = tr₀ ∨ ¬ AtRest tr

variable {A : List (Event FileStore) → Call FileStore → Prop} {tr₀ : List (Event FileStore)} {bytes : Bytes}

/-- Every byte goes to the temporary file. -/
theorem putAll_spec (hA : ∀ tr c, Saving d tr₀ bytes tr → A tr c) (rest : Bytes)
    {file : Option (Bytes × Bool)} {tmp : Bytes} (hdisk : d.afterAll tr = .dir file (some tmp))
    (hfile : file.map Prod.fst = (d.afterAll tr₀).content) (hans : answered tr = answered tr₀)
    (hbusy : ¬ AtRest tr) :
    wp A (putAll rest) (fun tr' _ => d.afterAll tr' = .dir file (some (tmp ++ rest)) ∧
      answered tr' = answered tr₀ ∧ ¬ AtRest tr') tr := by
  induction rest generalizing tmp tr with
  | nil =>
    refine ⟨?_, hans, hbusy⟩
    rw [hdisk, List.append_nil]
  | cons b rest ih =>
    refine ⟨hA tr _ ⟨hans, Or.inl ?_, Or.inr hbusy⟩, ?_⟩
    · rw [hdisk]
      exact hfile
    · intro u
      refine wp_conseq (@ih _ (tmp ++ [b]) ?_ ?_ ?_) ?_
      · rw [Disk.afterAll_snoc, hdisk]
        rfl
      · rw [answered_snoc]
        exact hans
      · intro hrest
        rcases atRest_snoc (a := .put b) tr hrest with h | ⟨_, h⟩ <;> cases h
      · intro tr' _ h'
        rwa [List.append_assoc] at h'

theorem save_spec (table : DeviceTable)
    (hA : ∀ tr c, Saving d tr₀ (lib.dump table.json) tr → A tr c) :
    wp A (save lib table) (fun tr _ => (d.afterAll tr).content = some (lib.dump table.json) ∧
      answered tr = answered tr₀ ∧ ¬ AtRest tr) tr₀ := by
  have hnot : ∀ {tr : List (Event FileStore)} {a : FileStoreAct} {b : a.Res},
      (a = .makedirs ∨ a = .openTmp ∨ a = .replace ∨ a = .chmod) → ¬ AtRest (tr ++ [.did a b]) := by
    intro tr a b ha hrest
    rcases atRest_snoc tr hrest with rfl | ⟨_, rfl⟩ <;> simp at ha
  refine ⟨hA _ _ ⟨rfl, Or.inl rfl, Or.inl rfl⟩, ?_⟩
  intro u
  -- the directory exists now
  obtain ⟨file, tmp, hdisk, hfile⟩ : ∃ file tmp, d.afterAll (tr₀ ++ [.did .makedirs u]) =
      .dir file tmp ∧ file.map Prod.fst = (d.afterAll tr₀).content := by
    rw [Disk.afterAll_snoc]
    cases d.afterAll tr₀ with
    | missing => exact ⟨none, none, rfl, rfl⟩
    | dir file tmp => exact ⟨file, tmp, rfl, rfl⟩
  have hans : answered (tr₀ ++ [.did .makedirs u]) = answered tr₀ := answered_snoc tr₀ _
  have hbusy : ¬ AtRest (tr₀ ++ [.did .makedirs u]) := hnot (Or.inl rfl)
  refine ⟨hA _ _ ⟨hans, Or.inl ?_, Or.inr hbusy⟩, ?_⟩
  · show (d.afterAll (tr₀ ++ [.did .makedirs u])).content = _
    rw [hdisk]
    exact hfile
  intro u'
  -- the temporary file is empty, whatever an interrupted save left in it
  have hopen : d.afterAll (tr₀ ++ [.did .makedirs u] ++ [.did .openTmp u']) =
      .dir file (some []) := by
    rw [Disk.afterAll_snoc, hdisk]
    rfl
  show wp A (putAll (lib.dump table.json) >>= fun _ => FileStore.act .replace >>= fun _ =>
    FileStore.act .chmod) _ (tr₀ ++ [.did .makedirs u] ++ [.did .openTmp u'])
  rw [wp_bind]
  refine wp_conseq (putAll_spec hA (lib.dump table.json) hopen hfile ?_ ?_) ?_
  · exact (answered_snoc _ _).trans hans
  · exact hnot (Or.inr (Or.inl rfl))
  intro tr₂ _ ⟨hdisk₂, hans₂, hbusy₂⟩
  refine ⟨hA _ _ ⟨hans₂, Or.inl ?_, Or.inr hbusy₂⟩, ?_⟩
  · rw [hdisk₂]
    exact hfile
  intro v
  have hreplaced : d.afterAll (tr₂ ++ [.did .replace v]) =
      .dir (some (lib.dump table.json, false)) none := by
    rw [Disk.afterAll_snoc, hdisk₂]
    rfl
  have hans₃ : answered (tr₂ ++ [.did .replace v]) = answered tr₀ :=
    (answered_snoc _ _).trans hans₂
  refine ⟨hA _ _ ⟨hans₃, Or.inr ?_, Or.inr (hnot (by simp))⟩, ?_⟩
  · show (d.afterAll (tr₂ ++ [.did .replace v])).content = _
    rw [hreplaced]
    rfl
  intro v'
  refine ⟨?_, (answered_snoc _ _).trans hans₃, hnot (by simp)⟩
  show (d.afterAll (tr₂ ++ [.did .replace v] ++ [.did .chmod v'])).content = _
  rw [Disk.afterAll_snoc, hreplaced]
  rfl

/-! ## A life -/

/-- The disk holds the table as it is after `n` of the calls. -/
def HoldsAfter (lib : JsonLib) (ofTime : Time → UInt64) (d : Disk) (table : DeviceTable)
    (ops : List RegistryCall) (n : Nat) : Prop :=
  d.load lib = .ok (table.after ofTime (ops.take n))

/-- What holds at every point of a life: the file is the table before the call that is under way
or after it, and while none is it is the table in memory. -/
structure Safe (lib : JsonLib) (ofTime : Time → UInt64) (d : Disk) (table : DeviceTable)
    (ops : List RegistryCall) (tr : List (Event FileStore)) : Prop where
  either : HoldsAfter lib ofTime (d.afterAll tr) table ops (answered tr) ∨
    HoldsAfter lib ofTime (d.afterAll tr) table ops (answered tr + 1)
  rest : AtRest tr → HoldsAfter lib ofTime (d.afterAll tr) table ops (answered tr)

variable {table : DeviceTable}

/-- Reading back what was written. -/
theorem load_written {t : DeviceTable} (hjson : RoundTrips lib t)
    (hcontent : d.content = some (lib.dump t.json)) : d.load lib = .ok t := by
  rw [Disk.load, hcontent]
  show (lib.load (lib.dump t.json) >>= DeviceTable.ofJson) = .ok t
  rw [hjson, ok_bind, DeviceTable.ofJson_json]

/-- From any point between two calls: the calls before are done, and the file is the table. -/
theorem callEach_spec {all : List RegistryCall}
    (hjson : ∀ n, RoundTrips lib (table.after ofTime (all.take n))) (ops : List RegistryCall)
    (done : List RegistryCall) (hall : all = done ++ ops) (hans : answered tr = done.length)
    (hload : (d.afterAll tr).load lib = .ok (table.after ofTime done)) :
    wp (fun tr _ => Safe lib ofTime d table all tr)
      (callEach lib ofTime ops (table.after ofTime done))
      (fun tr out => Safe lib ofTime d table all tr ∧ out = table.after ofTime all ∧
        (d.afterAll tr).load lib = .ok out) tr := by
  induction ops generalizing done tr with
  | nil =>
    rw [List.append_nil] at hall
    subst hall
    have htake : ∀ n, all.length ≤ n → all.take n = all := fun n h => List.take_of_length_le h
    have hnow : HoldsAfter lib ofTime (d.afterAll tr) table all (answered tr) := by
      rw [HoldsAfter, htake _ hans.ge]
      exact hload
    exact ⟨⟨Or.inl hnow, fun _ => hnow⟩, rfl, hload⟩
  | cons op ops ih =>
    have hdone : all.take done.length = done := by
      rw [hall, List.take_left]
    have hnext : all.take (done.length + 1) = done ++ [op] := by
      have hsplit : all = (done ++ [op]) ++ ops := by simp [hall]
      rw [hsplit, List.take_left' (by simp)]
    have hhere : HoldsAfter lib ofTime (d.afterAll tr) table all (answered tr) := by
      rw [HoldsAfter, hans, hdone]
      exact hload
    have hjson' : RoundTrips lib (table.after ofTime (done ++ [op])) := hnext ▸ hjson _
    rw [DeviceTable.after_snoc] at hjson'
    -- what follows the save, or the lack of one
    have hanswer : ∀ tr', answered tr' = answered tr → Safe lib ofTime d table all tr' →
        (d.afterAll tr').load lib = .ok (((table.after ofTime done).call ofTime op).2) →
        wp (fun tr _ => Safe lib ofTime d table all tr)
          (FileStore.act (.answer ((table.after ofTime done).call ofTime op).1) >>= fun _ =>
            callEach lib ofTime ops ((table.after ofTime done).call ofTime op).2)
          (fun tr out => Safe lib ofTime d table all tr ∧ out = table.after ofTime all ∧
            (d.afterAll tr).load lib = .ok out) tr' := by
      intro tr' hans' hsafe hload'
      refine ⟨hsafe, ?_⟩
      intro u
      show wp _ (callEach lib ofTime ops ((table.after ofTime done).call ofTime op).2) _
        (tr' ++ [.did (.answer _) u])
      rw [← DeviceTable.after_snoc] at hload' ⊢
      refine ih (done ++ [op]) (by simp [hall]) ?_ ?_
      · rw [answered_snoc, hans', hans, List.length_append, List.length_singleton]
      · rw [Disk.afterAll_snoc]
        exact hload'
    rw [callEach]
    dsimp only
    cases hsaves : ((table.after ofTime done).call ofTime op).1.saves with
    | false =>
      rw [if_neg Bool.false_ne_true]
      refine hanswer tr rfl ⟨Or.inl hhere, fun _ => hhere⟩ ?_
      rw [DeviceTable.call_unsaved hsaves]
      exact hload
    | true =>
      rw [if_pos rfl, wp_bind]
      refine wp_conseq (save_spec (d := d) _ ?_) ?_
      · intro tr' c hsaving
        have heither : HoldsAfter lib ofTime (d.afterAll tr') table all (answered tr') ∨
            HoldsAfter lib ofTime (d.afterAll tr') table all (answered tr' + 1) := by
          rw [hsaving.answered]
          rcases hsaving.content with hold | hnew
          · left
            rw [HoldsAfter, Disk.load, hold]
            exact hhere
          · right
            rw [HoldsAfter, hans, hnext, DeviceTable.after_snoc]
            exact load_written hjson' hnew
        refine ⟨heither, ?_⟩
        intro hrest
        rcases hsaving.busy with rfl | hbusy
        · exact hhere
        · exact absurd hrest hbusy
      · intro tr' _ ⟨hcontent, hans', hbusy⟩
        have hload' := load_written hjson' hcontent
        refine hanswer tr' hans' ⟨Or.inr ?_, fun h => absurd h hbusy⟩ hload'
        rw [HoldsAfter, hans', hans, hnext, DeviceTable.after_snoc]
        exact hload'

/-- **At every point of a life**, finished or not. -/
theorem life_safe {ops : List RegistryCall} {rest : Prog FileStore (Except StdError DeviceTable)}
    (hload : d.load lib = .ok table)
    (hjson : ∀ n, RoundTrips lib (table.after ofTime (ops.take n)))
    (h : Steps (life lib ofTime ops) tr rest) (had : d.Had tr) :
    Safe lib ofTime d table ops tr ∧ ∀ out, rest = .ret out →
      out = .ok (table.after ofTime ops) ∧ (d.afterAll tr).load lib = .ok (table.after ofTime ops) := by
  generalize hlife : life lib ofTime ops = p at h
  cases h with
  | refl =>
    subst hlife
    have hnow : HoldsAfter lib ofTime d table ops 0 := hload
    exact ⟨⟨Or.inl hnow, fun _ => hnow⟩, nofun⟩
  | call r h =>
    cases hlife
    obtain ⟨hanswer, -⟩ := had
    have hcontent : r = d.content := hanswer
    subst hcontent
    have hfound : loadContent lib d.content = .ok table := hload
    have hstart : wp (fun tr _ => Safe lib ofTime d table ops tr)
        (loaded lib ofTime ops (.ok table))
        (fun tr out => Safe lib ofTime d table ops tr ∧ out = .ok (table.after ofTime ops) ∧
          (d.afterAll tr).load lib = .ok (table.after ofTime ops))
        ([] ++ [.did .read d.content]) := by
      rw [loaded, ← bind_pure_comp, wp_bind]
      refine wp_conseq (callEach_spec hjson ops [] rfl rfl hload) ?_
      rintro tr' t ⟨hsafe, rfl, hload'⟩
      exact ⟨hsafe, rfl, hload'⟩
    rw [← hfound] at hstart
    have hend := wp_steps h hstart
    cases rest with
    | ret out =>
      refine ⟨hend.1, ?_⟩
      rintro _ ⟨⟩
      exact hend.2
    | call c k => exact ⟨hend.1, nofun⟩

/-! ## One life after the other -/

/-- Processes on one path, each cut off wherever its history ends. -/
def Lives (lib : JsonLib) (ofTime : Time → UInt64) :
    Disk → List (List RegistryCall × List (Event FileStore)) → Disk → Prop
  | d, [], d' => d' = d
  | d, (ops, tr) :: lives, d' => (∃ rest, Steps (life lib ofTime ops) tr rest) ∧ d.Had tr ∧
    Lives lib ofTime (d.afterAll tr) lives d'

/-- What they leave of a table: the calls that returned, and in each life perhaps the one that was
under way. -/
def Survived (ofTime : Time → UInt64) :
    DeviceTable → List (List RegistryCall × List (Event FileStore)) → DeviceTable → Prop
  | table, [], table' => table' = table
  | table, (ops, tr) :: lives, table' => ∃ n, (n = answered tr ∨ n = answered tr + 1) ∧
    (AtRest tr → n = answered tr) ∧ Survived ofTime (table.after ofTime (ops.take n)) lives table'

/-- The tables that processes with these calls can come to write. -/
def Maps (ofTime : Time → UInt64) : DeviceTable → List (List RegistryCall) → DeviceTable → Prop
  | _, [], _ => False
  | table, ops :: later, t => ∃ n, t = table.after ofTime (ops.take n) ∨
    Maps ofTime (table.after ofTime (ops.take n)) later t

/-- Later lives start from a table of the earlier ones. -/
theorem lives_load {lives : List (List RegistryCall × List (Event FileStore))} {d' : Disk}
    {last : List RegistryCall} (hload : d.load lib = .ok table)
    (hjson : ∀ t, Maps ofTime table (lives.map Prod.fst ++ [last]) t → RoundTrips lib t)
    (hlives : Lives lib ofTime d lives d') :
    ∃ table', Survived ofTime table lives table' ∧ d'.load lib = .ok table' ∧
      ∀ n, RoundTrips lib (table'.after ofTime (last.take n)) := by
  induction lives generalizing d table with
  | nil =>
    obtain rfl := hlives
    exact ⟨table, rfl, hload, fun n => hjson _ ⟨n, Or.inl rfl⟩⟩
  | cons l lives ih =>
    obtain ⟨ops, tr⟩ := l
    obtain ⟨⟨rest, h⟩, had, hlater⟩ := hlives
    have hsafe := (life_safe hload (fun n => hjson _ ⟨n, Or.inl rfl⟩) h had).1
    -- the number of calls the file has seen
    obtain ⟨n, hn, hrest, hfile⟩ : ∃ n, (n = answered tr ∨ n = answered tr + 1) ∧
        (AtRest tr → n = answered tr) ∧ HoldsAfter lib ofTime (d.afterAll tr) table ops n := by
      by_cases hidle : AtRest tr
      · exact ⟨_, Or.inl rfl, fun _ => rfl, hsafe.rest hidle⟩
      · rcases hsafe.either with hold | hnew
        · exact ⟨_, Or.inl rfl, fun _ => rfl, hold⟩
        · exact ⟨_, Or.inr rfl, fun h => absurd h hidle, hnew⟩
    obtain ⟨table', hsurvived, hload', hjson'⟩ :=
      ih hfile (fun t ht => hjson t ⟨n, Or.inr ht⟩) hlater
    exact ⟨table', ⟨n, hn, hrest, hsurvived⟩, hload', hjson'⟩

/-- Nothing is read. -/
abbrev NoRead (_ : List (Event FileStore)) (c : Call FileStore) : Prop := c ≠ .act .read

theorem had_of_noRead {tr : List (Event FileStore)} (h : ∀ ev ∈ tr, ev.call ≠ .act .read) (d : Disk) :
    d.Had tr := by
  induction tr generalizing d with
  | nil => trivial
  | cons ev tr ih =>
    refine ⟨?_, ih (fun ev' hev => h ev' (by simp [hev])) _⟩
    have hev := h ev (by simp)
    cases ev with
    | ok r _ => exact r.elim
    | refused r _ => exact r.elim
    | did a b =>
      cases a with
      | read => exact absurd rfl hev
      | _ => trivial

theorem putAll_noRead (rest : Bytes) {Q : List (Event FileStore) → Unit → Prop}
    (hQ : ∀ tr, Q tr ()) (tr : List (Event FileStore)) : wp NoRead (putAll rest) Q tr := by
  induction rest generalizing tr with
  | nil => exact hQ tr
  | cons b rest ih => exact ⟨nofun, fun _ => ih _⟩

theorem save_noRead (table : DeviceTable) {Q : List (Event FileStore) → Unit → Prop}
    (hQ : ∀ tr, Q tr ()) (tr : List (Event FileStore)) : wp NoRead (save lib table) Q tr := by
  refine ⟨nofun, fun u => ⟨nofun, fun u' => ?_⟩⟩
  show wp NoRead (putAll (lib.dump table.json) >>= fun _ => FileStore.act .replace >>= fun _ =>
    FileStore.act .chmod) Q (tr ++ [.did .makedirs u] ++ [.did .openTmp u'])
  rw [wp_bind]
  exact putAll_noRead _ (fun _ => ⟨nofun, fun _ => ⟨nofun, fun _ => hQ _⟩⟩) _

theorem callEach_noRead (ops : List RegistryCall) (table : DeviceTable)
    {Q : List (Event FileStore) → DeviceTable → Prop} (hQ : ∀ tr t, Q tr t)
    (tr : List (Event FileStore)) : wp NoRead (callEach lib ofTime ops table) Q tr := by
  induction ops generalizing table tr with
  | nil => exact hQ tr table
  | cons op ops ih =>
    rw [callEach]
    dsimp only
    cases (table.call ofTime op).1.saves with
    | false =>
      rw [if_neg Bool.false_ne_true]
      exact ⟨nofun, fun _ => ih _ _⟩
    | true =>
      rw [if_pos rfl, wp_bind]
      exact save_noRead _ (fun _ => ⟨nofun, fun _ => ih _ _⟩) tr

/-- A life reads once, so its history is one of any disk that gave it what it read. -/
theorem life_had {ops : List RegistryCall} {rest : Prog FileStore (Except StdError DeviceTable)}
    (h : Steps (life lib ofTime ops) tr rest) (hread : tr.head? = some (.did .read d.content)) :
    d.Had tr := by
  obtain ⟨tr', rfl⟩ : ∃ tr', tr = .did .read d.content :: tr' := by
    cases tr with
    | nil => cases hread
    | cons ev tr' =>
      cases hread
      exact ⟨tr', rfl⟩
  refine ⟨rfl, had_of_noRead ?_ _⟩
  intro ev hev
  obtain ⟨pre, post, rfl⟩ := List.append_of_mem hev
  obtain ⟨c, k, r, hlife, hr, hrest⟩ := steps_cons h
  cases hlife
  have hnot : wp NoRead (loaded lib ofTime ops (loadContent lib r)) (fun _ _ => True) [] := by
    cases loadContent lib r with
    | error e => trivial
    | ok table =>
      rw [loaded, ← bind_pure_comp, wp_bind]
      exact callEach_noRead ops table (fun _ _ => trivial) []
  exact wp_asserts_mem hrest hnot

/-- **The registry survives.** Any number of processes have used the path, each cut off anywhere,
in a save or not; then comes one more. It starts with the table the earlier ones left; at every
point of its life the file is its table before the call under way or after it, and the table in
memory when no call is; and when it has made all its calls, the file is the table it has. -/
theorem registry_survives {lives : List (List RegistryCall × List (Event FileStore))} {d' : Disk}
    {ops : List RegistryCall} {rest : Prog FileStore (Except StdError DeviceTable)}
    (hload : d.load lib = .ok table)
    (hjson : ∀ t, Maps ofTime table (lives.map Prod.fst ++ [ops]) t → RoundTrips lib t)
    (hlives : Lives lib ofTime d lives d') (h : Steps (life lib ofTime ops) tr rest)
    (had : d'.Had tr) :
    ∃ table', Survived ofTime table lives table' ∧ d'.load lib = .ok table' ∧
      Safe lib ofTime d' table' ops tr ∧ ∀ out, rest = .ret out →
        out = .ok (table'.after ofTime ops) ∧ (d'.afterAll tr).load lib = out := by
  obtain ⟨table', hsurvived, hload', hjson'⟩ := lives_load hload hjson hlives
  obtain ⟨hsafe, hend⟩ := life_safe hload' hjson' h had
  refine ⟨table', hsurvived, hload', hsafe, ?_⟩
  intro out hout
  obtain ⟨rfl, hfile⟩ := hend out hout
  exact ⟨rfl, hfile⟩

end

/-! ## Played -/

/-- The lines of one device. -/
def edge01Lines : List Char := [
  "  \"iot-edge-01\": \x7b\n".toList, "    \"device_id\": \"iot-edge-01\",\n".toList,
  "    \"ak_pub_pem\": \"pem-a\",\n".toList, "    \"expected_pcr\": \"pcr-a\",\n".toList,
  "    \"pcr_bank\": \"sha256:0\",\n".toList, "    \"created_at\": 0.0,\n".toList,
  "    \"ta_pub_b64\": \"ta-a\"\n".toList, "  \x7d\n\x7d".toList].flatten

/-- The file of one device, as `json.dump` with `indent=2` writes it. -/
@[irreducible] def edge01Text : Bytes := 0x7b :: 0x0a :: Bytes.ascii edge01Lines

theorem edge01Text_ne : edge01Text ≠ [0x7b, 0x7d] := by
  unfold edge01Text
  intro h
  have hsecond : (0x0a : UInt8) = 0x7d := (List.cons.inj (List.cons.inj h).2).1
  exact absurd hsecond (by decide)

/-- The table of that device. -/
def edge01Table : DeviceTable :=
  DeviceTable.after (fun _ => 0) Dict.empty [.register 0 (edge01 "pcr-a".toList)]

/-- `json` on the two tables of this example. -/
def edge01Json : JsonLib where
  dump
    | .obj [] => [0x7b, 0x7d]
    | _ => edge01Text
  load text :=
    if text = [0x7b, 0x7d] then .ok (.obj [])
    else if text = edge01Text then .ok edge01Table.json
    else .error .valueError

/-- Nothing is in the file yet. -/
def emptyPath (_ : Nat) : (c : Call FileStore) → c.Ans
  | .req r => r.elim
  | .act .read => (none : Option Bytes)
  | .act .makedirs | .act .openTmp | .act (.put _) | .act .replace | .act .chmod
  | .act (.answer _) => ()

/-- The history of a process that enrols the device. -/
def edge01Life : List (Event FileStore) :=
  (exec emptyPath 0 (life edge01Json (fun _ => 0) [.register 0 (edge01 "pcr-a".toList)])).1

/-- How its calls end. -/
def edge01Out : Except StdError DeviceTable :=
  (exec emptyPath 0 (life edge01Json (fun _ => 0) [.register 0 (edge01 "pcr-a".toList)])).2

/-- The device's only call leaves one table, however often it is made. -/
theorem edge01_maps {t : DeviceTable}
    (h : Maps (fun _ => 0) Dict.empty [[.register 0 (edge01 "pcr-a".toList)],
      [.register 0 (edge01 "pcr-a".toList)]] t) : t = Dict.empty ∨ t = edge01Table := by
  have hfirst : ∀ n, DeviceTable.after (fun _ => 0) Dict.empty
      ([.register 0 (edge01 "pcr-a".toList)].take n) = Dict.empty ∨ DeviceTable.after (fun _ => 0)
        Dict.empty ([.register 0 (edge01 "pcr-a".toList)].take n) = edge01Table := by
    intro n
    cases n with
    | zero => exact Or.inl rfl
    | succ n =>
      right
      rw [List.take_succ_cons, List.take_nil]
      rfl
  have hagain : ∀ n, DeviceTable.after (fun _ => 0) edge01Table
      ([.register 0 (edge01 "pcr-a".toList)].take n) = edge01Table := by
    intro n
    cases n with
    | zero => rfl
    | succ n =>
      rw [List.take_succ_cons, List.take_nil]
      rfl
  obtain ⟨n, rfl | ⟨n', rfl | hno⟩⟩ := h
  · exact hfirst n
  · rcases hfirst n with hn | hn
    · rw [hn]
      exact hfirst n'
    · rw [hn, hagain n']
      exact Or.inr rfl
  · exact hno.elim

theorem edge01_roundTrips {t : DeviceTable} (h : t = Dict.empty ∨ t = edge01Table) :
    RoundTrips edge01Json t := by
  unfold RoundTrips
  rcases h with rfl | rfl
  · show edge01Json.load ([0x7b, 0x7d]) = .ok (.obj [])
    simp only [edge01Json, if_true]
  · show edge01Json.load edge01Text = .ok edge01Table.json
    exact (if_neg edge01Text_ne).trans (if_pos rfl)

/-- The first process dies with two bytes in the temporary file; the second enrols the device. -/
theorem registry_survives_interrupted :
    ∃ table', Survived (fun _ => 0) Dict.empty
        [([.register 0 (edge01 "pcr-a".toList)], edge01Life.take 5)] table' ∧
      (Disk.missing.afterAll (edge01Life.take 5)).load edge01Json = .ok table' ∧
      Safe edge01Json (fun _ => 0) (Disk.missing.afterAll (edge01Life.take 5)) table'
        [.register 0 (edge01 "pcr-a".toList)] edge01Life ∧
      edge01Out = .ok (table'.after (fun _ => 0) [.register 0 (edge01 "pcr-a".toList)]) ∧
      ((Disk.missing.afterAll (edge01Life.take 5)).afterAll edge01Life).load edge01Json =
        edge01Out := by
  have hrun : Runs (life edge01Json (fun _ => 0) [.register 0 (edge01 "pcr-a".toList)]) edge01Life
      edge01Out := exec_runs emptyPath 0 _
  have hload : Disk.missing.load edge01Json = .ok Dict.empty := rfl
  obtain ⟨cut, hcut⟩ := steps_take hrun 5
  have hfirst : Disk.missing.Had (edge01Life.take 5) := life_had hcut rfl
  have hsecond : (Disk.missing.afterAll (edge01Life.take 5)).Had edge01Life := by
    have hempty : (Disk.missing.afterAll (edge01Life.take 5)).content = none := by decide +kernel
    refine life_had hrun ?_
    rw [hempty]
    rfl
  have hlives : Lives edge01Json (fun _ => 0) .missing
      [([.register 0 (edge01 "pcr-a".toList)], edge01Life.take 5)]
      (Disk.missing.afterAll (edge01Life.take 5)) := ⟨⟨cut, hcut⟩, hfirst, rfl⟩
  obtain ⟨table', hsurvived, hload', hsafe, hend⟩ :=
    registry_survives hload (fun t ht => edge01_roundTrips (edge01_maps ht)) hlives hrun hsecond
  exact ⟨table', hsurvived, hload', hsafe, hend edge01Out rfl⟩

end ConfidentialIoT
