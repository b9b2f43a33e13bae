import ConfidentialIoT.Lib.Eval
import ConfidentialIoT.Server.Persistence

/-!
# `Server/FailedSave.lean` — a registry whose file cannot be written

`register`, `remove` and `clear` with a `_save` each of whose steps may raise: the directory, the
temporary file, every byte of it, its close, the rename and the mode. All three change
`self._records` first and save afterwards, and nothing undoes the change. So a call whose save
raised leaves the registry as it was only if it had nothing to change: `clear`, of no records.
-/

set_option autoImplicit false

namespace ConfidentialIoT

open Effects

/-! ## A save that can raise -/

/-- The steps of `_save`. -/
inductive SaveStep where
  | makedirs
  | openTmp
  | put (b : UInt8)
  /-- the end of the `with`: what was buffered is written -/
  | close
  | replace
  | chmod

/-- What a step raises: an `OSError`, or what `json.dump` raises itself. -/
inductive SaveError where
  | os (errno : Nat)
  | std (e : StdError)

/-- The file system as `_save` meets it. -/
def SaveDisk : Sig where
  Err := SaveError
  Req := SaveStep
  Out _ := Unit
  Act := Empty
  Res := Empty.elim

/-- What a step that went through leaves on the disk. -/
def Disk.saved (d : Disk) : SaveStep → Disk
  | .makedirs => d.after (.did .makedirs ())
  | .openTmp => d.after (.did .openTmp ())
  | .put b => d.after (.did (.put b) ())
  | .close => d
  | .replace => d.after (.did .replace ())
  | .chmod => d.after (.did .chmod ())

/-- A step that raised may have left anything in the temporary file, but nothing under the
registry's own name. -/
def SaveTurn (d : Disk) (ev : Event SaveDisk) (d' : Disk) : Prop :=
  match ev with
  | .ok step _ => d' = d.saved step
  | .refused _ _ => d'.content = d.content
  | .did a _ => a.elim

/-- A method of a `DeviceRegistry`; the local state is `self._records`. -/
abbrev RegistryMethod (α : Type) : Type := Proc SaveDisk SaveError DeviceTable α

namespace DeviceRegistry

def attempt (step : SaveStep) : RegistryMethod Unit := Proc.attempt (S := SaveDisk) step

/-- `f.write`, a byte at a time -/
def writeAll : Bytes → RegistryMethod Unit
  | [] => pure ()
  | b :: bytes => do
    attempt (.put b)
    writeAll bytes

section

variable (lib : JsonLib) (ofTime : Time → UInt64)

/-- `_save` -/
def save : RegistryMethod Unit := do
  let records ← get
  attempt .makedirs
  attempt .openTmp
  writeAll (lib.dump records.json)
  attempt .close
  attempt .replace
  attempt .chmod

/-- `register` -/
def register (now : Time) (s : Submission) : RegistryMethod StoredReply := do
  match (← get).get? s.deviceId with
  | some existing =>
    if ¬ existing.akPubPem.isStr s.akPubPem then return .mismatch .akPubPem
    else if ¬ existing.taPubB64.isStr s.taPubB64 then return .mismatch .taPubB64
    else return .registered existing false
  | none =>
    let record := s.record ofTime now
    -- `self._records[device_id] = record`, before the save
    modify fun records => records.set s.deviceId record
    save lib
    return .registered record true

/-- `remove` -/
def remove (deviceId : Text) : RegistryMethod StoredReply := do
  if ((← get).get? deviceId).isSome then
    modify fun records => records.erase deviceId
    save lib
    return .removed true
  else return .removed false

/-- `clear` -/
def clear : RegistryMethod StoredReply := do
  modify fun _ => Dict.empty
  save lib
  return .cleared

def call : RegistryCall → RegistryMethod StoredReply
  | .register now s => register lib ofTime now s
  | .remove deviceId => remove lib deviceId
  | .clear => clear lib

end

end DeviceRegistry

/-! ## What a call leaves -/

/-- No step has raised. -/
def Unrefused (tr : List (Event SaveDisk)) : Prop := ∀ ev ∈ tr, ∃ step, ev = .ok step ()

/-- Nor was any of them the rename. -/
def Unreplaced (tr : List (Event SaveDisk)) : Prop :=
  ∀ ev ∈ tr, ∃ step, ev = .ok step () ∧ step ≠ .replace

/-- A save stopped at the last step of the history; only the mode is set after the rename. -/
def Stopped (tr : List (Event SaveDisk)) (e : SaveError) : Prop :=
  ∃ before step, tr = before ++ [.refused step e] ∧ Unrefused before ∧
    (step ≠ .chmod → Unreplaced before)

/-- `_save` raised, at `os.replace` or before it. -/
def SaveRaised (tr : List (Event SaveDisk)) : Prop :=
  ∃ step e, Event.refused step e ∈ tr ∧ step ≠ .chmod

theorem Unreplaced.snoc {tr : List (Event SaveDisk)} (h : Unreplaced tr) {step : SaveStep}
    (hstep : step ≠ .replace) (u : Unit) : Unreplaced (tr ++ [.ok step u]) := by
  intro ev hev
  rcases List.mem_append.mp hev with hev | hev
  · exact h ev hev
  · exact ⟨step, List.mem_singleton.mp hev, hstep⟩

theorem Unrefused.snoc {tr : List (Event SaveDisk)} (h : Unrefused tr) (step : SaveStep)
    (u : Unit) : Unrefused (tr ++ [.ok step u]) := by
  intro ev hev
  rcases List.mem_append.mp hev with hev | hev
  · exact h ev hev
  · exact ⟨step, List.mem_singleton.mp hev⟩

theorem Unreplaced.unrefused {tr : List (Event SaveDisk)} (h : Unreplaced tr) : Unrefused tr := by
  intro ev hev
  obtain ⟨step, heq, -⟩ := h ev hev
  exact ⟨step, heq⟩

theorem Unrefused.not_raised {tr : List (Event SaveDisk)} (h : Unrefused tr) :
    ¬ SaveRaised tr := by
  rintro ⟨step, e, hmem, -⟩
  obtain ⟨step', heq⟩ := h _ hmem
  cases heq

section

variable {lib : JsonLib} {ofTime : Time → UInt64} {op : RegistryCall} {table table' : DeviceTable}
  {d d' : Disk} {tr : List (Event SaveDisk)} {r : Except SaveError StoredReply}

/-- One step before the rename: it raises there, or the save goes on. -/
theorem wpP_attempt_save {step : SaveStep} {Q : List (Event SaveDisk) → DeviceTable → Unit → Prop}
    (h : Unreplaced tr) (hstep : step ≠ .replace)
    (next : ∀ tr', Unreplaced tr' → Q tr' table ()) :
    wpP (fun _ _ => True) (DeviceRegistry.attempt step) Q
      (fun tr' table' e => table' = table ∧ Stopped tr' e) table tr := by
  refine wpP_attempt.mpr ⟨trivial, ?_, ?_⟩
  · intro u
    exact next _ (h.snoc hstep u)
  · intro e
    exact ⟨rfl, tr, step, rfl, h.unrefused, fun _ => h⟩

theorem writeAll_spec (bytes : Bytes) (h : Unreplaced tr) :
    wpP (fun _ _ => True) (DeviceRegistry.writeAll bytes)
      (fun tr' table' _ => table' = table ∧ Unreplaced tr')
      (fun tr' table' e => table' = table ∧ Stopped tr' e) table tr := by
  induction bytes generalizing tr with
  | nil => exact ⟨rfl, h⟩
  | cons b bytes ih =>
    unfold DeviceRegistry.writeAll
    rw [wpP_bind]
    exact wpP_attempt_save h nofun fun tr' h' => ih h'

/-- `_save` touches no record, and where it raises it has not yet renamed. -/
theorem save_stops : wpP (fun _ _ => True) (DeviceRegistry.save lib)
    (fun tr' table' _ => table' = table ∧ Unrefused tr')
    (fun tr' table' e => table' = table ∧ Stopped tr' e) table [] := by
  unfold DeviceRegistry.save
  simp only [wpP_bind, wpP_get]
  refine wpP_attempt_save (by rintro _ ⟨⟩) (by rintro ⟨⟩) ?_
  intro tr₁ h₁
  refine wpP_attempt_save h₁ (by rintro ⟨⟩) ?_
  intro tr₂ h₂
  refine wpP_conseq (writeAll_spec _ h₂) ?_ fun _ _ _ h => h
  rintro tr₃ _ _ ⟨rfl, h₃⟩
  refine wpP_attempt_save h₃ (by rintro ⟨⟩) ?_
  intro tr₄ h₄
  -- the rename, which undoes nothing if it raises, and then the mode
  refine wpP_attempt.mpr ⟨trivial, ?_, fun e => ⟨rfl, tr₄, _, rfl, h₄.unrefused, fun _ => h₄⟩⟩
  intro u
  have h₅ : Unrefused (tr₄ ++ [.ok .replace u]) := h₄.unrefused.snoc _ u
  refine wpP_attempt.mpr ⟨trivial, ?_, fun e => ⟨rfl, _, _, rfl, h₅, fun h => absurd rfl h⟩⟩
  intro u'
  exact ⟨rfl, h₅.snoc _ u'⟩

/-- The save that ends a mutator: the records are what the mutator made of them. -/
theorem saved_spec {reply : StoredReply} (f : DeviceTable → DeviceTable)
    (hcall : table.call ofTime op = (reply, f table)) (hsaves : reply.saves = true) :
    wpP (fun _ _ => True) (do modify f; DeviceRegistry.save lib; return reply)
      (fun tr' table' reply' => (reply', table') = table.call ofTime op ∧ Unrefused tr')
      (fun tr' table' e => (table.call ofTime op).1.saves = true ∧
        table' = (table.call ofTime op).2 ∧ Stopped tr' e) table [] := by
  rw [hcall]
  simp only [wpP_bind, wpP_modify, wpP_pure]
  refine wpP_conseq save_stops ?_ ?_
  · rintro tr' _ _ ⟨rfl, h⟩
    exact ⟨rfl, h⟩
  · rintro tr' _ e ⟨rfl, h⟩
    exact ⟨hsaves, rfl, h⟩

/-- A mutator returns what the call returns; if it raises, the records have changed all the same. -/
theorem call_stops : wpP (fun _ _ => True) (DeviceRegistry.call lib ofTime op)
    (fun tr' table' reply => (reply, table') = table.call ofTime op ∧ Unrefused tr')
    (fun tr' table' e => (table.call ofTime op).1.saves = true ∧
      table' = (table.call ofTime op).2 ∧ Stopped tr' e) table [] := by
  cases op with
  | clear => exact saved_spec (fun _ => Dict.empty) rfl rfl
  | remove deviceId =>
    unfold DeviceRegistry.call DeviceRegistry.remove
    rw [wpP_bind, wpP_get]
    by_cases hfound : (table.get? deviceId).isSome
    · have hcall : table.call ofTime (.remove deviceId) = (.removed true, table.erase deviceId) :=
        if_pos hfound
      rw [if_pos hfound]
      exact saved_spec (fun records => records.erase deviceId) hcall rfl
    · have hcall : table.call ofTime (.remove deviceId) = (.removed false, table) := if_neg hfound
      rw [if_neg hfound, hcall]
      exact ⟨rfl, nofun⟩
  | register now s =>
    unfold DeviceRegistry.call DeviceRegistry.register
    rw [wpP_bind, wpP_get]
    cases hid : table.get? s.deviceId with
    | none =>
      have hcall : table.call ofTime (.register now s) =
          (.registered (s.record ofTime now) true, table.set s.deviceId (s.record ofTime now)) := by
        simp only [DeviceTable.call, hid]
      exact saved_spec (fun records => records.set s.deviceId (s.record ofTime now)) hcall rfl
    | some existing =>
      simp only [DeviceTable.call, hid]
      by_cases hak : existing.akPubPem.isStr s.akPubPem
      · by_cases hta : existing.taPubB64.isStr s.taPubB64
        · simp only [hak, hta, not_true_eq_false, if_false]
          exact ⟨rfl, nofun⟩
        · simp only [hak, hta, not_true_eq_false, if_false]
          exact ⟨rfl, nofun⟩
      · simp only [hak]
        exact ⟨rfl, nofun⟩

/-- Every step but the rename leaves the registry's file. -/
theorem SaveTurn.content {ev : Event SaveDisk} (h : SaveTurn d ev d')
    (hev : (∃ step, ev = .ok step () ∧ step ≠ .replace) ∨ ∃ step e, ev = .refused step e) :
    d'.content = d.content := by
  rcases hev with ⟨step, rfl, hne⟩ | ⟨step, e, rfl⟩
  · subst h
    cases step with
    | close => rfl
    | replace => exact absurd rfl hne
    | makedirs => cases d <;> rfl
    | openTmp => cases d <;> rfl
    | put b =>
      cases d with
      | missing => rfl
      | dir file tmp => cases tmp <;> rfl
    | chmod =>
      cases d with
      | missing => rfl
      | dir file tmp => cases file <;> rfl
  · exact h

theorem Stopped.content {e : SaveError} (h : Stopped tr e) (hraised : SaveRaised tr)
    (hthrough : Through SaveTurn d tr d') : d'.content = d.content := by
  obtain ⟨before, step, rfl, hall, hbefore⟩ := h
  -- the step that raised is the last one
  have hstep : step ≠ .chmod := by
    obtain ⟨step', e', hmem, hne⟩ := hraised
    rcases List.mem_append.mp hmem with hmem | hmem
    · exact absurd ⟨step', e', hmem, hne⟩ hall.not_raised
    · cases List.mem_singleton.mp hmem
      exact hne
  refine hthrough.keeps ?_
  intro ev hev t t' hturn
  rcases List.mem_append.mp hev with hev | hev
  · exact hturn.content (Or.inl (hbefore hstep ev hev))
  · exact hturn.content (Or.inr ⟨step, e, List.mem_singleton.mp hev⟩)

/-- **What a failed save leaves.** The call raises; the records are the changed ones, the file is
the old one. -/
theorem failed_save_leaves (hrun : EvalsP SaveTurn (DeviceRegistry.call lib ofTime op) table d tr r
    table' d') (hraised : SaveRaised tr) :
    (∃ e, r = .error e) ∧ (table.call ofTime op).1.saves = true ∧
      table' = (table.call ofTime op).2 ∧ d'.content = d.content := by
  have hends := hrun.sound call_stops
  cases r with
  | ok reply => exact absurd hraised hends.2.not_raised
  | error e =>
    obtain ⟨hsaves, htable, hstopped⟩ := hends
    exact ⟨⟨e, rfl⟩, hsaves, htable, hstopped.content hraised hrun.through⟩

/-! ## The iff -/

/-- `==` of two dictionaries. -/
def DeviceTable.Same (table table' : DeviceTable) : Prop := ∀ id, table.get? id = table'.get? id

/-- The call failed, and nothing else happened. -/
structure LeftAsItWas (lib : JsonLib) (ofTime : Time → UInt64) (op : RegistryCall)
    (table table' : DeviceTable) (d' : Disk) (r : Except SaveError StoredReply) : Prop where
  raised : ∃ e, r = .error e
  memory : table'.Same table
  file : ∃ found, d'.load lib = .ok found ∧ found.Same table'
  /-- a retry is answered like the first attempt, and has the same effect -/
  retry : (table'.call ofTime op).1 = (table.call ofTime op).1 ∧
    (table'.call ofTime op).2.Same (table.call ofTime op).2
  /-- a restart finds what there was -/
  restart : ∃ found, d'.load lib = .ok found ∧ found.Same table

/-- The calls that save: a device that is there goes, one that is not comes, or all go. -/
theorem saving_cases (hsaves : (table.call ofTime op).1.saves = true) :
    (∃ id, op = .remove id ∧ (table.get? id).isSome = true ∧
      table.call ofTime op = (.removed true, table.erase id)) ∨
    (∃ now s, op = .register now s ∧ table.get? s.deviceId = none ∧
      table.call ofTime op = (.registered (s.record ofTime now) true,
        table.set s.deviceId (s.record ofTime now))) ∨
    (op = .clear ∧ table.call ofTime op = (.cleared, Dict.empty)) := by
  cases op with
  | clear => exact Or.inr (Or.inr ⟨rfl, rfl⟩)
  | remove deviceId =>
    unfold DeviceTable.call at hsaves
    dsimp only at hsaves
    by_cases hfound : (table.get? deviceId).isSome
    · exact Or.inl ⟨deviceId, rfl, hfound, if_pos hfound⟩
    · rw [if_neg hfound] at hsaves
      cases hsaves
  | register now s =>
    cases hid : table.get? s.deviceId with
    | none =>
      refine Or.inr (Or.inl ⟨now, s, rfl, hid, ?_⟩)
      simp only [DeviceTable.call, hid]
    | some existing =>
      simp only [DeviceTable.call, hid] at hsaves
      split at hsaves
      · cases hsaves
      · split at hsaves <;> cases hsaves

/-- A saving call that changes nothing is a `clear` of no records. -/
theorem saved_same_iff (hsaves : (table.call ofTime op).1.saves = true) :
    (table.call ofTime op).2.Same table ↔ op = .clear ∧ table = Dict.empty := by
  constructor
  · intro hsame
    rcases saving_cases hsaves with ⟨id, rfl, hfound, hcall⟩ | ⟨now, s, rfl, hid, hcall⟩ |
      ⟨rfl, hcall⟩
    · have hgone := hsame id
      rw [hcall, Dict.get?_erase, if_pos rfl] at hgone
      rw [← hgone] at hfound
      cases hfound
    · have hstored := hsame s.deviceId
      rw [hcall, Dict.get?_set, if_pos rfl, hid] at hstored
      cases hstored
    · rw [hcall] at hsame
      exact ⟨rfl, Dict.eq_empty fun id => (hsame id).symm⟩
  · rintro ⟨rfl, rfl⟩ id
    rfl

/-- **A failed save leaves the registry as it was** only where the call had nothing to change. -/
theorem failed_save_iff (hrun : EvalsP SaveTurn (DeviceRegistry.call lib ofTime op) table d tr r
    table' d') (hraised : SaveRaised tr) :
    LeftAsItWas lib ofTime op table table' d' r ↔ (op = .clear ∧ table = Dict.empty) ∧
      ∃ found, d.load lib = .ok found ∧ found.Same table := by
  obtain ⟨herror, hsaves, rfl, hcontent⟩ := failed_save_leaves hrun hraised
  have hload : d'.load lib = d.load lib := congrArg (loadContent lib) hcontent
  constructor
  · intro h
    rw [← hload]
    exact ⟨(saved_same_iff hsaves).mp h.memory, h.restart⟩
  · rintro ⟨hclear, hfound⟩
    obtain ⟨rfl, rfl⟩ := hclear
    rw [← hload] at hfound
    exact ⟨herror, fun _ => rfl, hfound, ⟨rfl, fun _ => rfl⟩, hfound⟩

/-- Nor does a retry repair it: the records say that the work is done, and nothing is saved. -/
theorem retry_unsaved (hop : op ≠ .clear) (hsaves : (table.call ofTime op).1.saves = true) :
    ((table.call ofTime op).2.call ofTime op).1.saves = false := by
  rcases saving_cases hsaves with ⟨id, rfl, hfound, hcall⟩ | ⟨now, s, rfl, hid, hcall⟩ |
    ⟨rfl, hcall⟩
  · have hgone : ((table.erase id).get? id).isSome = false := by
      rw [Dict.get?_erase, if_pos rfl]
      rfl
    rw [hcall]
    simp only [DeviceTable.call, hgone]
    rfl
  · have hstored : (table.set s.deviceId (s.record ofTime now)).get? s.deviceId =
        some (s.record ofTime now) := by
      rw [Dict.get?_set, if_pos rfl]
    have hak : (s.record ofTime now).akPubPem.isStr s.akPubPem = true := decide_eq_true rfl
    have hta : (s.record ofTime now).taPubB64.isStr s.taPubB64 = true := decide_eq_true rfl
    rw [hcall]
    simp only [DeviceTable.call, hstored, hak, hta, not_true_eq_false, if_false]
    rfl
  · exact absurd rfl hop

end

/-! ## Played -/

/-- A file system that refuses some steps. -/
def refusing (refuses : SaveStep → Bool) (d : Disk) : (c : Call SaveDisk) → c.Ans × Disk
  | .req step => if refuses step then (.error (.os 28), d) else (.ok (), d.saved step)
  | .act a => a.elim

theorem refusing_turn (refuses : SaveStep → Bool) (d : Disk) (c : Call SaveDisk) :
    SaveTurn d (Event.of c (refusing refuses d c).1) (refusing refuses d c).2 := by
  cases c with
  | act a => exact a.elim
  | req step =>
    by_cases h : refuses step
    · have hanswer : refusing refuses d (.req step) = (.error (.os 28), d) := if_pos h
      rw [hanswer]
      rfl
    · have hanswer : refusing refuses d (.req step) = (.ok (), d.saved step) := if_neg h
      rw [hanswer]
      rfl

/-- A call in front of it. -/
def refused (refuses : SaveStep → Bool) (op : RegistryCall) :
    List (Event SaveDisk) × (Except SaveError StoredReply × DeviceTable) × Disk :=
  serve (refusing refuses) ((DeviceRegistry.call edge01Json (fun _ => 0) op).go Dict.empty) .missing

theorem refused_evals (refuses : SaveStep → Bool) (op : RegistryCall) :
    EvalsP SaveTurn (DeviceRegistry.call edge01Json (fun _ => 0) op) Dict.empty .missing
      (refused refuses op).1 (refused refuses op).2.1.1 (refused refuses op).2.1.2
      (refused refuses op).2.2 := by
  have hall : (refused refuses op).1.all (fun _ => true) = true := List.all_eq_true.mpr fun _ _ => rfl
  exact serve_evals (fun d c _ => refusing_turn refuses d c) hall

/-- The disk is full, and a registry without records is cleared. -/
theorem failed_save_full_disk : LeftAsItWas edge01Json (fun _ => 0) .clear Dict.empty
    (refused (fun step => step matches .put _) .clear).2.1.2
    (refused (fun step => step matches .put _) .clear).2.2
    (refused (fun step => step matches .put _) .clear).2.1.1 := by
  have hraised : SaveRaised (refused (fun step => step matches .put _) .clear).1 :=
    ⟨.put 0x7b, .os 28, .tail _ (.tail _ (.head _)), nofun⟩
  exact (failed_save_iff (refused_evals _ _) hraised).mpr ⟨⟨rfl, rfl⟩, _, rfl, fun _ => rfl⟩

/-- The temporary file cannot be opened, and a device enrols. -/
theorem enrolled_in_memory_only : ¬ ∀ (lib : JsonLib) (ofTime : Time → UInt64) op table d tr r table'
    d', EvalsP SaveTurn (DeviceRegistry.call lib ofTime op) table d tr r table' d' →
    SaveRaised tr → LeftAsItWas lib ofTime op table table' d' r := by
  intro left
  let op : RegistryCall := .register 0 (edge01 "pcr-a".toList)
  have hraised : SaveRaised (refused (fun step => step matches .openTmp) op).1 :=
    ⟨.openTmp, .os 28, .tail _ (.head _), nofun⟩
  have h := left _ _ _ _ _ _ _ _ _ (refused_evals _ op) hraised
  -- the records have the device, which they had not before
  cases h.memory "iot-edge-01".toList

end ConfidentialIoT
