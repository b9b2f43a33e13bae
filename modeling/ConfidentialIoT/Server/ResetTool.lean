import ConfidentialIoT.Lib.Pool
import ConfidentialIoT.Server.Enrolment

/-!
# `Server/ResetTool.lean` — two programs that write one file

The server loads `device_registry.json` when it starts and never again; `reset_registry` loads
it, removes what it is told to, and exits. Each keeps a private copy and writes the whole of it
back, and nothing keeps one of them from writing between the other's load and save. A load and
a save are one step each here (`Server/Persistence.lean` takes a save apart).
-/

set_option autoImplicit false

namespace ConfidentialIoT

open Effects

/-! ## The programs -/

inductive RegistryFileAct where
  | load
  /-- `_save`, called from an operation; the file only sees the registry. -/
  | save (op : RegistryCall) (registry : Registry)

@[reducible] def RegistryFileAct.Res : RegistryFileAct → Type
  | .load => Registry
  | .save _ _ => Unit

/-- What the two programs do to the file. -/
def RegistryFile : Sig where
  Err := Empty
  Req := Empty
  Out := Empty.elim
  Act := RegistryFileAct
  Res := RegistryFileAct.Res

def RegistryFile.load : Prog RegistryFile Registry := Prog.perform (S := RegistryFile) .load

def RegistryFile.save (op : RegistryCall) (registry : Registry) : Prog RegistryFile Unit :=
  Prog.perform (S := RegistryFile) (.save op registry)

/-- Whether an operation that ended so has saved: `register` returns early for a device that is
enrolled already and `remove` for one that is not. -/
def RegistryReply.saves : RegistryReply → Bool
  | .registered _ new => new
  | .mismatch _ => false
  | .removed found => found
  | .cleared => true

/-- An operation of `DeviceRegistry`: the private copy first, then the file. -/
def operate (copy : Registry) (op : RegistryCall) : Prog RegistryFile (RegistryReply × Registry) := do
  let r := copy.call op
  if r.1.saves then
    RegistryFile.save op r.2
  return r

/-- The loop over `args.device_ids`; the ids that were enrolled are collected. -/
def removeEach : List Text → Registry → List Text → Prog RegistryFile (List Text × Registry)
  | [], copy, removed => pure (removed, copy)
  | deviceId :: deviceIds, copy, removed => do
    let (reply, copy') ← operate copy (.remove deviceId)
    removeEach deviceIds copy' (if reply = .removed true then removed ++ [deviceId] else removed)

/-- What is asked of a process. -/
inductive RegistryJob where
  /-- the server starts -/
  | serve
  | register (now : Time) (submitted : Submission)
  /-- `reset_registry ID…` -/
  | reset (deviceIds : List Text)
  /-- `reset_registry --all` -/
  | resetAll

/-- What a process says when it is done. -/
inductive Said where
  | started
  | reply (reply : RegistryReply)
  /-- the ids the tool prints as removed -/
  | removed (ids : Text → Prop)

structure RegistryOut where
  copy : Registry
  said : Said

def registryCode (copy : Registry) : RegistryJob → Prog RegistryFile RegistryOut
  | .serve => do
    let copy ← RegistryFile.load
    return ⟨copy, .started⟩
  | .register now submitted => do
    let (reply, copy') ← operate copy (.register now submitted)
    return ⟨copy', .reply reply⟩
  | .reset deviceIds => do
    let copy ← RegistryFile.load
    let (removed, copy') ← removeEach deviceIds copy []
    return ⟨copy', .removed (· ∈ removed)⟩
  | .resetAll => do
    let copy ← RegistryFile.load
    let (_, copy') ← operate copy .clear
    -- the records are listed before they are cleared
    return ⟨copy', .removed fun id => ∃ key record, copy key = some record ∧ record.deviceId = id⟩

/-- A process and the copy it keeps between two jobs. -/
def registryProcess : Machine RegistryFile where
  Job := RegistryJob
  Mem := Registry
  Out := RegistryOut
  code job copy := registryCode copy job
  mem := RegistryOut.copy

/-- The processes. -/
inductive Process where
  | server
  | tool (n : Nat)
deriving DecidableEq

/-- A load reads the file, a save replaces it. -/
inductive FileStep : Process → Registry → Event RegistryFile → Registry → Prop where
  | load (i : Process) (file : Registry) : FileStep i file (.did .load file) file
  | save (i : Process) (file : Registry) (op : RegistryCall) (registry : Registry) :
      FileStep i file (.did (.save op registry) ()) registry

abbrev RegistryConfig : Type := Pool.Config registryProcess Process Registry

abbrev RegistryLabel : Type := Pool.Label registryProcess Process

/-! ## What no update being lost means -/

/-- A process writes a removal of an id. -/
def Drops (id : Text) : RegistryLabel → Prop
  | .did _ (.did (.save op _) _) => op.drops id
  | _ => False

/-- A process writes an enrolment of an id. -/
def Enrols (id : Text) : RegistryLabel → Prop
  | .did _ (.did (.save (.register _ submitted) _) _) => submitted.deviceId = id
  | _ => False

/-- What a server that starts now finds in the file. -/
structure NoLostUpdate (ls : List RegistryLabel) (file : Registry) : Prop where
  /-- A device whose removal the tool reported was removed by this run of it, and is absent unless
  it was newly enrolled after that. -/
  removed : ∀ pre i job copy log copy' ids post id,
    ls = pre ++ .returned i job copy log ⟨copy', .removed ids⟩ :: post → ids id →
    ∃ before op registry mid, pre = before ++ .did i (.did (.save op registry) ()) :: mid ∧
      Pool.NoStart i mid ∧ op.drops id ∧
      (file id = none ∨ (∃ e ∈ mid, Enrols id e) ∨ ∃ e ∈ post, Enrols id e)
  /-- A device whose enrolment the server answered with success is present unless it was removed
  after the answer, or between the answer and its own save. -/
  enrolled : ∀ pre i now submitted copy log copy' record new post,
    ls = pre ++ .returned i (.register now submitted) copy log
      ⟨copy', .reply (.registered record new)⟩ :: post →
    file submitted.deviceId ≠ none ∨ (∃ d ∈ post, Drops submitted.deviceId d) ∨
      ∃ before registry mid, pre = before ++
          .did i (.did (.save (.register now submitted) registry) ()) :: mid ∧
        Pool.NoStart i mid ∧ ∃ d ∈ mid, Drops submitted.deviceId d

/-! ## Private copies -/

/-- A load and a save leave the private copy and the file the same. -/
def synced (_ : Registry) : Event RegistryFile → Registry
  | .did .load file => file
  | .did (.save _ registry) _ => registry
  | .ok r _ => r.elim
  | .refused r _ => r.elim

/-- What a process last loaded or saved. -/
def lastSynced (copy : Registry) (log : List (Event RegistryFile)) : Registry :=
  log.foldl synced copy

@[simp] theorem lastSynced_snoc (copy : Registry) (log : List (Event RegistryFile))
    (ev : Event RegistryFile) : lastSynced copy (log ++ [ev]) = synced (lastSynced copy log) ev := by
  rw [lastSynced, List.foldl_append]
  rfl

def copyOf : Pool.Agent registryProcess → Registry
  | .idle copy => copy
  | .busy _ copy log _ => lastSynced copy log

/-- A process that saves, or answers that a device is enrolled already, has a copy of what the
file holds. -/
def UpToDate (c : RegistryConfig) : RegistryLabel → Prop
  | .did i (.did (.save _ _) _) => copyOf (c.agents i) = c.shared
  | .returned i (.register _ _) _ _ ⟨_, .reply (.registered _ false)⟩ =>
    copyOf (c.agents i) = c.shared
  | _ => True

/-! ## One process -/

/-- An operation that does not save has not changed the copy. -/
theorem Registry.call_unsaved {registry : Registry} {op : RegistryCall}
    (h : (registry.call op).1.saves = false) : (registry.call op).2 = registry := by
  cases op with
  | clear => cases h
  | remove deviceId =>
    show (registry.remove deviceId).2 = registry
    have hfound : (registry.remove deviceId).1 = false := h
    unfold Registry.remove at hfound ⊢
    split at hfound
    · cases hfound
    · rename_i hnone
      rw [if_neg hnone]
  | register now s =>
    rcases registry.call_register_cases now s with ⟨_, _, _, hr⟩ | ⟨_, _, _, _, hr⟩ | ⟨_, _, _, hr⟩
    · rw [hr]
    · rw [hr]
    · rw [hr] at h
      cases h

/-- What is written is the copy after the operation that writes it. -/
def SavesCopy (copy : Registry) (log : List (Event RegistryFile)) : Call RegistryFile → Prop
  | .act (.save op registry) => registry = ((lastSynced copy log).call op).2
  | _ => True

section

variable {copy : Registry} {log : List (Event RegistryFile)}

theorem operate_spec (op : RegistryCall) :
    wp (SavesCopy copy) (operate (lastSynced copy log) op)
      (fun log' r => r = (lastSynced copy log).call op ∧ r.2 = lastSynced copy log' ∧
        log <+: log' ∧ (r.1.saves = true → .did (.save op r.2) () ∈ log')) log := by
  unfold operate
  cases hsaves : ((lastSynced copy log).call op).1.saves with
  | true =>
    rw [if_pos hsaves]
    refine ⟨rfl, ?_⟩
    intro _
    refine ⟨rfl, ?_, List.prefix_append _ _, fun _ => List.mem_append_right _ (List.mem_singleton.mpr rfl)⟩
    rw [lastSynced_snoc]
    rfl
  | false =>
    rw [if_neg (by rw [hsaves]; exact Bool.false_ne_true)]
    exact ⟨rfl, Registry.call_unsaved hsaves, List.prefix_rfl, fun h => by rw [hsaves] at h; cases h⟩

/-- Every id the loop collects was removed by it. -/
theorem removeEach_spec (deviceIds : List Text) (removed : List Text)
    (hremoved : ∀ id ∈ removed, ∃ registry, .did (.save (.remove id) registry) () ∈ log) :
    wp (SavesCopy copy) (removeEach deviceIds (lastSynced copy log) removed)
      (fun log' r => r.2 = lastSynced copy log' ∧
        ∀ id ∈ r.1, ∃ registry, .did (.save (.remove id) registry) () ∈ log') log := by
  induction deviceIds generalizing log removed with
  | nil => exact ⟨rfl, hremoved⟩
  | cons deviceId deviceIds ih =>
    rw [removeEach, wp_bind]
    refine wp_conseq (operate_spec (.remove deviceId)) ?_
    intro log₁ r ⟨hr, hcopy, hlog, hsaved⟩
    obtain ⟨reply, copy'⟩ := r
    obtain rfl : copy' = lastSynced copy log₁ := hcopy
    refine ih _ ?_
    intro id hid
    have hearlier : id ∈ removed → ∃ registry, .did (.save (.remove id) registry) () ∈ log₁ := by
      intro hmem
      obtain ⟨registry, hev⟩ := hremoved id hmem
      exact ⟨registry, hlog.subset hev⟩
    by_cases hfound : reply = .removed true
    · rw [if_pos hfound] at hid
      rcases List.mem_append.mp hid with hid | hid
      · exact hearlier hid
      · obtain rfl := List.mem_singleton.mp hid
        exact ⟨_, hsaved (by rw [hfound]; rfl)⟩
    · rw [if_neg hfound] at hid
      exact hearlier hid

end

/-- What a process has in its log when it says that it is done. -/
def SaidSo (job : RegistryJob) (copy : Registry) (log : List (Event RegistryFile)) :
    RegistryOut → Prop
  | ⟨copy', .removed ids⟩ => copy' = lastSynced copy log ∧
    ∀ id, ids id → ∃ op registry, op.drops id ∧ .did (.save op registry) () ∈ log
  | ⟨copy', .reply (.registered _ true)⟩ => copy' = lastSynced copy log ∧
    ∀ now submitted, job = .register now submitted →
      ∃ registry, .did (.save (.register now submitted) registry) () ∈ log
  | ⟨copy', .reply (.registered record false)⟩ => copy' = lastSynced copy log ∧
    ∀ now submitted, job = .register now submitted →
      lastSynced copy log submitted.deviceId = some record
  | ⟨copy', _⟩ => copy' = lastSynced copy log

theorem registryCode_spec (job : RegistryJob) (copy : Registry) :
    wp (SavesCopy copy) (registryCode copy job) (SaidSo job copy) [] := by
  cases job with
  | serve => exact ⟨trivial, fun _ => rfl⟩
  | reset deviceIds =>
    refine ⟨trivial, fun file => ?_⟩
    show wp _ (removeEach deviceIds file [] >>= fun r => pure (RegistryOut.mk r.2 (.removed (· ∈ r.1)))) _ _
    rw [wp_bind]
    refine wp_conseq (@removeEach_spec copy [.did .load file] deviceIds [] nofun) ?_
    intro log ⟨removed, copy'⟩ ⟨hcopy, hremoved⟩
    refine ⟨hcopy, ?_⟩
    intro id hid
    obtain ⟨registry, hev⟩ := hremoved id hid
    exact ⟨.remove id, registry, rfl, hev⟩
  | resetAll =>
    refine ⟨trivial, fun file => ?_⟩
    show wp _ (operate file .clear >>= fun r => pure (RegistryOut.mk r.2 (.removed fun id =>
      ∃ key record, file key = some record ∧ record.deviceId = id))) _ _
    rw [wp_bind]
    refine wp_conseq (@operate_spec copy [.did .load file] .clear) ?_
    rintro log ⟨reply, copy'⟩ ⟨hr, hcopy, -, hsaved⟩
    refine ⟨hcopy, ?_⟩
    intro id _
    obtain ⟨rfl, -⟩ := Prod.mk.inj hr
    exact ⟨.clear, copy', trivial, hsaved rfl⟩
  | register now submitted =>
    rw [registryCode, wp_bind]
    refine wp_conseq (@operate_spec copy [] (.register now submitted)) ?_
    rintro log ⟨reply, copy'⟩ ⟨hr, hcopy, -, hsaved⟩
    rcases copy.call_register_cases now submitted with ⟨_, _, hid, h⟩ | ⟨old, hid, _, _, h⟩ |
      ⟨new, hid, _, h⟩
    · obtain ⟨rfl, rfl⟩ := Prod.mk.inj (hr.trans h)
      exact hcopy
    · obtain ⟨rfl, rfl⟩ := Prod.mk.inj (hr.trans h)
      refine ⟨hcopy, ?_⟩
      intro now' submitted' heq
      cases heq
      rw [← hcopy]
      exact hid
    · obtain ⟨rfl, rfl⟩ := Prod.mk.inj (hr.trans h)
      refine ⟨hcopy, ?_⟩
      intro now' submitted' heq
      cases heq
      exact ⟨_, hsaved rfl⟩

/-! ## Runs -/

/-- An id's enrolment is in the file: it was just written, or found there. -/
def Stands (id : Text) : RegistryLabel → Prop
  | .did _ (.did (.save (.register _ submitted) _) _) => submitted.deviceId = id
  | .returned _ (.register _ submitted) _ _ ⟨_, .reply (.registered _ false)⟩ =>
    submitted.deviceId = id
  | _ => False

/-- What a step does to one id. -/
structure FileEffect (id : Text) (l : RegistryLabel) (file file' : Registry) : Prop where
  dropped : Drops id l → file' id = none
  stands : Stands id l → file' id ≠ none
  absent : file id = none → file' id = none ∨ Enrols id l
  present : file id ≠ none → file' id ≠ none ∨ Drops id l

/-- A step that is no save, and no answer about a device that is enrolled already, changes
nothing. -/
theorem FileEffect.idle {id : Text} {l : RegistryLabel} {file : Registry} (hdrops : ¬ Drops id l)
    (hstands : ¬ Stands id l) : FileEffect id l file file :=
  ⟨fun h => absurd h hdrops, fun h => absurd h hstands, Or.inl, Or.inl⟩

theorem Registry.call_dropped {registry : Registry} {op : RegistryCall} {id : Text}
    (h : op.drops id) : (registry.call op).2 id = none := by
  cases op with
  | clear => rfl
  | register now s => exact absurd h not_false
  | remove deviceId =>
    obtain rfl : deviceId = id := h
    show (registry.remove deviceId).2 deviceId = none
    unfold Registry.remove
    split
    · exact Function.update_self ..
    · rename_i hnone
      exact Option.not_isSome_iff_eq_none.mp hnone

/-- After a registration, answered however, the device is enrolled. -/
theorem Registry.call_stored (registry : Registry) (now : Time) (s : Submission) :
    (registry.call (.register now s)).2 s.deviceId ≠ none := by
  rcases registry.call_register_cases now s with ⟨_, _, hid, h⟩ | ⟨_, hid, _, _, h⟩ | ⟨_, _, _, h⟩
  · rw [h]
    exact hid.trans_ne (Option.some_ne_none _)
  · rw [h]
    exact hid.trans_ne (Option.some_ne_none _)
  · rw [h]
    exact (Function.update_self ..).trans_ne (Option.some_ne_none _)

/-- Only a registration of the id brings a record in. -/
theorem Registry.call_absent {registry : Registry} {op : RegistryCall} {id : Text}
    (hid : registry id = none) (hop : ∀ now s, op = .register now s → s.deviceId ≠ id) :
    (registry.call op).2 id = none := by
  cases op with
  | clear => rfl
  | remove deviceId =>
    show (registry.remove deviceId).2 id = none
    unfold Registry.remove
    split
    · by_cases hne : id = deviceId
      · rw [hne]
        exact Function.update_self ..
      · exact (Function.update_of_ne hne ..).trans hid
    · exact hid
  | register now s =>
    have hne : s.deviceId ≠ id := hop now s rfl
    rcases registry.call_register_cases now s with ⟨_, _, _, h⟩ | ⟨_, _, _, _, h⟩ | ⟨_, _, _, h⟩
    · rw [h]
      exact hid
    · rw [h]
      exact hid
    · rw [h]
      exact (Function.update_of_ne hne.symm ..).trans hid

/-- A save of what an operation makes of the file itself. -/
theorem FileEffect.save {id : Text} {i : Process} {op : RegistryCall} {file : Registry} :
    FileEffect id (.did i (.did (.save op (file.call op).2) ())) file (file.call op).2 where
  dropped := Registry.call_dropped
  stands hstands := by
    cases op with
    | clear => exact absurd hstands not_false
    | remove deviceId => exact absurd hstands not_false
    | register now s =>
      obtain rfl : s.deviceId = id := hstands
      exact Registry.call_stored file now s
  absent hid := by
    by_cases henrols : Enrols id (.did i (.did (.save op (file.call op).2) ()))
    · exact Or.inr henrols
    · refine Or.inl (Registry.call_absent hid ?_)
      rintro now s rfl
      exact henrols
  present hid := by
    by_cases hdrops : op.drops id
    · exact Or.inr hdrops
    · obtain ⟨record, hrecord⟩ := Option.ne_none_iff_exists'.mp hid
      left
      rw [Registry.call_kept hrecord hdrops]
      exact Option.some_ne_none _

section

variable {c₀ c c' : RegistryConfig} {ls : List RegistryLabel} {l : RegistryLabel}
  {P : RegistryConfig → RegistryLabel → Prop}

theorem registry_saves (run : Pool.Run FileStep P c₀ ls c) (quiet : c₀.Quiet) {i : Process}
    {job : RegistryJob} {m : Registry} {log : List (Event RegistryFile)} {op : RegistryCall}
    {registry : Registry} {k : Unit → Prog RegistryFile RegistryOut}
    (hbusy : c.agents i = .busy job m log (.call (.act (.save op registry)) k)) :
    registry = ((lastSynced m log).call op).2 :=
  wp_asserts ((run.logs quiet).1 _ _ _ _ _ hbusy) (registryCode_spec job m)

/-- What a process that returns says is so. -/
theorem registry_said (run : Pool.Run FileStep P c₀ ls c) (quiet : c₀.Quiet) {i : Process}
    {job : RegistryJob} {m : Registry} {log : List (Event RegistryFile)} {out : RegistryOut}
    (hbusy : c.agents i = .busy job m log (.ret out)) : SaidSo job m log out :=
  wp_runs ((run.logs quiet).1 _ _ _ _ _ hbusy) (registryCode_spec job m)

theorem FileEffect.answered {id : Text} {i : Process} {file file' : Registry} {ev : Event RegistryFile}
    (h : FileStep i file ev file') (hsave : ∀ op registry, ev = .did (.save op registry) () →
      registry = (file.call op).2) : FileEffect id (.did i ev) file file' := by
  cases h with
  | load => exact .idle not_false not_false
  | save op =>
    have hregistry := hsave op file' rfl
    rw [hregistry]
    exact .save

/-- An admitted step does to the file what its label says. -/
theorem effect_step (run : Pool.Run FileStep UpToDate c₀ ls c) (quiet : c₀.Quiet)
    (step : Pool.Step FileStep c l c') (admitted : UpToDate c l) (id : Text) :
    FileEffect id l c.shared c'.shared := by
  cases l with
  | started i job =>
    cases step with
    | start job hidle => exact .idle not_false not_false
  | did i ev =>
    refine .answered step.answered ?_
    rintro op registry rfl
    obtain ⟨job, m, log, k, hbusy⟩ := step.of_did
    have hcopy : copyOf (c.agents i) = c.shared := admitted
    rw [hbusy] at hcopy
    rw [← hcopy]
    exact registry_saves run quiet hbusy
  | returned i job m log out =>
    obtain ⟨hbusy, -⟩ := step.of_returned
    have hsame : c'.shared = c.shared := by
      cases step with
      | finish _ => rfl
    rw [hsame]
    by_cases hstands : Stands id (.returned i job m log out)
    · -- the answer says that the device is enrolled already, and the copy is up to date
      refine ⟨fun h => absurd h not_false, fun _ => ?_, Or.inl, Or.inl⟩
      have hsaid := registry_said run quiet hbusy
      match job, out, hstands with
      | .register now submitted, ⟨copy', .reply (.registered record false)⟩, hid =>
        have hcopy : copyOf (c.agents i) = c.shared := admitted
        obtain ⟨-, hfound⟩ := hsaid
        have hrecord := hfound now submitted rfl
        rw [hbusy] at hcopy
        rw [← hcopy, ← show submitted.deviceId = id from hid]
        exact hrecord.trans_ne (Option.some_ne_none _)
    · exact .idle not_false hstands

/-- What stands behind every removal and every enrolment that was written. -/
structure Upheld (ls : List RegistryLabel) (file : Registry) : Prop where
  dropped : ∀ pre l post id, ls = pre ++ l :: post → Drops id l →
    file id = none ∨ ∃ e ∈ post, Enrols id e
  stands : ∀ pre l post id, ls = pre ++ l :: post → Stands id l →
    file id ≠ none ∨ ∃ d ∈ post, Drops id d

theorem Upheld.snoc {file file' : Registry} (h : Upheld ls file)
    (heffect : ∀ id, FileEffect id l file file') : Upheld (ls ++ [l]) file' := by
  refine ⟨?_, ?_⟩
  · intro pre l' post id hsplit hdrops
    rcases History.snoc_eq_split.mp hsplit with ⟨-, rfl, rfl⟩ | ⟨post', rfl, rfl⟩
    · exact Or.inl ((heffect id).dropped hdrops)
    · rcases h.dropped pre l' post' id rfl hdrops with hnone | ⟨e, he, henrols⟩
      · rcases (heffect id).absent hnone with hnone' | henrols
        · exact Or.inl hnone'
        · exact Or.inr ⟨l, by simp, henrols⟩
      · exact Or.inr ⟨e, List.mem_append_left _ he, henrols⟩
  · intro pre l' post id hsplit hstands
    rcases History.snoc_eq_split.mp hsplit with ⟨-, rfl, rfl⟩ | ⟨post', rfl, rfl⟩
    · exact Or.inl ((heffect id).stands hstands)
    · rcases h.stands pre l' post' id rfl hstands with hsome | ⟨d, hd, hdrops⟩
      · rcases (heffect id).present hsome with hsome' | hdrops
        · exact Or.inl hsome'
        · exact Or.inr ⟨l, by simp, hdrops⟩
      · exact Or.inr ⟨d, List.mem_append_left _ hd, hdrops⟩

theorem upheld (run : Pool.Run FileStep UpToDate c₀ ls c) (quiet : c₀.Quiet) :
    Upheld ls c.shared := by
  refine run.invariant (I := fun ls c => Upheld ls c.shared) ⟨?_, ?_⟩ ?_
  · intro pre l post id h
    simp at h
  · intro pre l post id h
    simp at h
  · intro ls c l c' run ih step admitted
    exact ih.snoc (effect_step run quiet step admitted)

/-- An event a process remembers when it returns is in the run, and it has started nothing
since. -/
theorem remembered_at (run : Pool.Run FileStep P c₀ ls c) (quiet : c₀.Quiet) {i : Process}
    {job : RegistryJob} {m : Registry} {log : List (Event RegistryFile)}
    {rest : Prog RegistryFile RegistryOut} (hbusy : c.agents i = .busy job m log rest)
    {ev : Event RegistryFile} (hev : ev ∈ log) :
    ∃ before mid : List RegistryLabel, ls = before ++ .did i ev :: mid ∧ Pool.NoStart i mid := by
  obtain ⟨pre, mid, rfl, hstart, rfl⟩ := run.since_started quiet hbusy
  obtain ⟨a, b, hsplit⟩ := List.append_of_mem hev
  obtain ⟨before, after, rfl, -, -⟩ := Pool.eventsOf_eq_append a hsplit
  refine ⟨pre ++ .started i job :: before, after, by simp, ?_⟩
  intro l hl
  exact hstart l (by simp [hl])

/-- The process that returns in a run, just before it does. -/
theorem returned_at {pre post : List RegistryLabel} {i : Process} {job : RegistryJob}
    {m : Registry} {log : List (Event RegistryFile)} {out : RegistryOut}
    (run : Pool.Run FileStep P c₀ (pre ++ .returned i job m log out :: post) c) :
    ∃ c₁, c₁.agents i = .busy job m log (.ret out) ∧ Pool.Run FileStep P c₀ pre c₁ := by
  obtain ⟨c₁, before, rest⟩ := run.split
  obtain ⟨c₂, step, -, -⟩ := rest.first
  exact ⟨c₁, step.of_returned.1, before⟩

/-- **No update is lost while every writer is up to date.** In every run in which a process only
saves, or answers that a device is enrolled already, while the file holds what that process last
loaded or saved: a server that starts afterwards finds neither a device whose removal was reported
and that was not newly enrolled since, nor misses one whose enrolment was answered with success
and that was not removed since. -/
theorem no_lost_update (quiet : c₀.Quiet) (run : Pool.Run FileStep UpToDate c₀ ls c) :
    NoLostUpdate ls c.shared := by
  have hup := upheld run quiet
  refine ⟨?_, ?_⟩
  · rintro pre i job m log copy' ids post id rfl hid
    obtain ⟨c₁, hbusy, before⟩ := returned_at run
    obtain ⟨-, hsaved⟩ := registry_said before quiet hbusy
    obtain ⟨op, registry, hdrops, hev⟩ := hsaved id hid
    obtain ⟨front, mid, rfl, hmid⟩ := remembered_at before quiet hbusy hev
    refine ⟨front, op, registry, mid, rfl, hmid, hdrops, ?_⟩
    rcases hup.dropped front (.did i (.did (.save op registry) ())) _ id
      (List.append_assoc front (_ :: mid) (_ :: post)) hdrops with hnone | ⟨e, he, henrols⟩
    · exact Or.inl hnone
    · rcases List.mem_append.mp he with he | he
      · exact Or.inr (Or.inl ⟨e, he, henrols⟩)
      · rcases List.mem_cons.mp he with rfl | he
        · exact absurd henrols not_false
        · exact Or.inr (Or.inr ⟨e, he, henrols⟩)
  · rintro pre i now submitted m log copy' record new post rfl
    obtain ⟨c₁, hbusy, before⟩ := returned_at run
    have hsaid := registry_said before quiet hbusy
    cases new with
    | false =>
      rcases hup.stands pre _ post submitted.deviceId rfl rfl with hsome | hdropped
      · exact Or.inl hsome
      · exact Or.inr (Or.inl hdropped)
    | true =>
      obtain ⟨-, hsaved⟩ := hsaid
      obtain ⟨registry, hev⟩ := hsaved now submitted rfl
      obtain ⟨front, mid, rfl, hmid⟩ := remembered_at before quiet hbusy hev
      rcases hup.stands front (.did i (.did (.save (.register now submitted) registry) ())) _
        submitted.deviceId (List.append_assoc front (_ :: mid) (_ :: post)) rfl with
        hsome | ⟨d, hd, hdrops⟩
      · exact Or.inl hsome
      · rcases List.mem_append.mp hd with hd | hd
        · exact Or.inr (Or.inr ⟨front, registry, mid, rfl, hmid, d, hd, hdrops⟩)
        · rcases List.mem_cons.mp hd with rfl | hd
          · exact absurd hdrops not_false
          · exact Or.inr (Or.inl ⟨d, hd, hdrops⟩)

end

/-! ## Played -/

/-- Another device. -/
def edge02 : Submission := { edge01 "pcr-a".toList with deviceId := "iot-edge-02".toList }

/-- The file answers, whatever the process. -/
def fileAnswers (_ : Process) (_ : RegistryJob) (_ : Nat) (file : Registry) :
    (q : Call RegistryFile) → q.Ans × Registry
  | .act .load => (file, file)
  | .act (.save _ registry) => ((), registry)
  | .req r => r.elim

/-- Nobody has started, and the file has one device. -/
def oneDevice : RegistryConfig where
  shared := ((Registry.call fun _ => none) (.register 0 (edge01 "pcr-a".toList))).2
  agents := fun _ => .idle fun _ => none

theorem oneDevice_quiet : oneDevice.Quiet := fun _ => ⟨_, rfl⟩

/-- The server starts; the tool removes the device; the server, which is still running, enrols
another. -/
def rebuildTurns : List (Pool.Turn registryProcess Process) :=
  [.start .server RegistryJob.serve, .call .server, .finish .server,
    .start (.tool 0) (RegistryJob.reset ["iot-edge-01".toList]), .call (.tool 0), .call (.tool 0),
    .finish (.tool 0), .start .server (RegistryJob.register 1 edge02), .call .server,
    .finish .server]

def rebuild : List RegistryLabel × RegistryConfig :=
  Pool.play fileAnswers (fun _ _ => true) oneDevice rebuildTurns

theorem rebuild_run : Pool.Run FileStep Pool.Any oneDevice rebuild.1 rebuild.2 := by
  refine (Pool.play_run oneDevice _ ?_).mono fun _ _ _ => trivial
  intro c i job n q _
  cases q with
  | req r => exact r.elim
  | act a =>
    cases a with
    | load => exact .load i c.shared
    | save op registry => exact .save i c.shared op registry

instance (id : Text) : DecidablePred (Enrols id)
  | .did _ (.did (.save (.register _ s) _) _) => inferInstanceAs (Decidable (s.deviceId = id))
  | .did _ (.did (.save (.remove _) _) _) => isFalse not_false
  | .did _ (.did (.save .clear _) _) => isFalse not_false
  | .did _ (.did .load _) => isFalse not_false
  | .started _ _ => isFalse not_false
  | .returned _ _ _ _ _ => isFalse not_false

/-- The removal is reported, the device is never enrolled again, and a restarted server finds
it. -/
theorem removed_device_comes_back :
    ∃ ls c, Pool.Run FileStep Pool.Any oneDevice ls c ∧ ¬ NoLostUpdate ls c.shared := by
  refine ⟨_, _, rebuild_run, ?_⟩
  intro h
  have hnever : ∀ e ∈ rebuild.1, ¬ Enrols "iot-edge-01".toList e := by decide +kernel
  have hthere : rebuild.2.shared "iot-edge-01".toList ≠ none := by decide +kernel
  have hsplit : rebuild.1 = rebuild.1.take 6 ++ rebuild.1.drop 6 := (List.take_append_drop ..).symm
  obtain ⟨before, op, registry, mid, hpre, -, -, hnone | ⟨e, he, henrols⟩ | ⟨e, he, henrols⟩⟩ :=
    h.removed (rebuild.1.take 6) (.tool 0) _ _ _ _ _ (rebuild.1.drop 7) "iot-edge-01".toList rfl
      (List.mem_singleton.mpr rfl)
  · exact hthere hnone
  · refine hnever e ?_ henrols
    rw [hsplit, hpre]
    simp [he]
  · exact hnever e (List.mem_of_mem_drop he) henrols

def edge02Record : DeviceRecord where
  deviceId := edge02.deviceId
  akPubPem := edge02.akPubPem
  expectedPcr := edge02.expectedPcr
  pcrBank := edge02.pcrBank
  createdAt := 1
  taPubB64 := edge02.taPubB64

/-- What the server writes when it has enrolled the other device. -/
def bothDevices : Registry := (oneDevice.shared.call (.register 1 edge02)).2

/-- The server starts and is asked to enrol another device; the tool is started to remove the first
one. The tool loads the file after the server has saved, and the server answers before the tool
saves. -/
theorem no_lost_update_played :
    ∃ ls c, Pool.Run FileStep UpToDate oneDevice ls c ∧
      (∃ copy log copy' record, .returned .server (.register 1 edge02) copy log
        ⟨copy', .reply (.registered record true)⟩ ∈ ls) ∧
      (∃ copy log copy' ids, .returned (.tool 0) (.reset ["iot-edge-01".toList]) copy log
        ⟨copy', .removed ids⟩ ∈ ls ∧ ids "iot-edge-01".toList) ∧
      NoLostUpdate ls c.shared ∧ c.shared "iot-edge-01".toList = none ∧
      c.shared "iot-edge-02".toList ≠ none := by
  have nothing : Pool.Run FileStep UpToDate oneDevice [] oneDevice := .nil
  have serves := nothing.snoc (.start (i := .server) RegistryJob.serve rfl) (by exact trivial)
  have read := serves.snoc (.call (i := .server) (q := .act RegistryFileAct.load) oneDevice.shared
    rfl (.load .server oneDevice.shared)) (by exact trivial)
  have ready := read.snoc (.finish (i := .server) rfl) (by exact trivial)
  have asked := ready.snoc (.start (i := .server) (RegistryJob.register 1 edge02) rfl)
    (by exact trivial)
  have started := asked.snoc
    (.start (i := .tool 0) (RegistryJob.reset ["iot-edge-01".toList]) rfl) (by exact trivial)
  have saved := started.snoc (.call (i := .server)
    (q := .act (RegistryFileAct.save (.register 1 edge02) bothDevices)) () rfl
    (.save .server oneDevice.shared _ bothDevices)) (by exact rfl)
  have loaded := saved.snoc (.call (i := .tool 0) (q := .act RegistryFileAct.load) bothDevices rfl
    (.load (.tool 0) bothDevices)) (by exact trivial)
  have answered : Pool.Run FileStep UpToDate oneDevice (_ ++ [.returned .server
      (.register 1 edge02) _ _ ⟨bothDevices, .reply (.registered edge02Record true)⟩]) _ :=
    loaded.snoc (.finish rfl) (by exact trivial)
  have removed := answered.snoc (.call (i := .tool 0)
    (q := .act (RegistryFileAct.save (.remove "iot-edge-01".toList)
      (bothDevices.remove "iot-edge-01".toList).2)) () rfl
    (.save (.tool 0) bothDevices _ _)) (by exact rfl)
  have reported : Pool.Run FileStep UpToDate oneDevice (_ ++ [.returned (.tool 0)
      (.reset ["iot-edge-01".toList]) _ _ ⟨_, .removed (· ∈ ["iot-edge-01".toList])⟩]) _ :=
    removed.snoc (.finish rfl) (by exact trivial)
  refine ⟨_, _, reported, ?_, ?_, no_lost_update oneDevice_quiet reported, ?_, ?_⟩
  · exact ⟨_, _, _, _, List.mem_append_left _ (List.mem_append_left _
      (List.mem_append_right _ (List.mem_singleton_self _)))⟩
  · exact ⟨_, _, _, _, List.mem_append_right _ (List.mem_singleton_self _), List.mem_singleton_self _⟩
  · show (bothDevices.remove "iot-edge-01".toList).2 "iot-edge-01".toList = none
    decide +kernel
  · show (bothDevices.remove "iot-edge-01".toList).2 "iot-edge-02".toList ≠ none
    decide +kernel

end ConfidentialIoT
