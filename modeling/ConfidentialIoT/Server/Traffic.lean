import ConfidentialIoT.Server.Handler

/-!
# `Server/Traffic.lean` — runs of the link

Any number of connections, whose handlers interleave their steps. What a job did is one of the
executions of `Server/Handler.lean`; what a connection remembers comes from the jobs it has
returned from.
-/

set_option autoImplicit false

namespace ConfidentialIoT

open Effects

/-- The link's server, just started: no connection has named a device. -/
@[reducible] def linkStarted (rt : Runtime) (C : CryptoLib) (identity : Point) (ι : Type)
    (registry : Registry) : Pool.Config (linkMachine rt C identity) ι ServerState :=
  serving (linkMachine rt C identity) registry fun _ => Connection.accepted

section

variable {rt : Runtime} {C : CryptoLib} {identity : Point}

theorem linkMachine_code (job : LinkJob) (conn : Connection) :
    wp (JobCall rt C conn job) ((linkMachine rt C identity).code job conn)
      (fun tr out => out.1 = .ok () ∧ Served rt C identity conn job tr out.2) [] := by
  refine wp_conseq (linkJob_spec job conn) ?_
  rintro tr ⟨result, conn'⟩ h
  cases result with
  | ok _ => exact ⟨rfl, h⟩
  | error e => exact h.elim

variable {ι : Type} [DecidableEq ι] {registry : Registry}
  {P : Pool.Config (linkMachine rt C identity) ι ServerState →
    Pool.Label (linkMachine rt C identity) ι → Prop}
  {ls : List (Pool.Label (linkMachine rt C identity) ι)}
  {c : Pool.Config (linkMachine rt C identity) ι ServerState}

/-- A job that has returned is one of the executions written down. -/
theorem returned_served
    (run : Pool.Run (fun _ => ServerStep C identity) P (linkStarted rt C identity ι registry) ls c)
    {i : ι} {job : LinkJob} {conn : Connection} {log : List (Event Server)}
    {out : Except PyError Unit × Connection} (h : .returned i job conn log out ∈ ls) :
    out.1 = .ok () ∧ Served rt C identity conn job log out.2 :=
  wp_runs ((run.logs serving_quiet).2 i job conn log out h) (linkMachine_code job conn)

/-- Handling a line does not end a connection. -/
theorem Handled.closed_eq {conn conn' : Connection} {line : Bytes} {tr : List (Event Server)}
    (h : Handled rt C identity conn line tr conn') : conn'.closed = conn.closed := by
  cases h <;> rfl

/-- Why a connection was closed: its input has ended, or an exception has escaped its handler. -/
inductive Ended (rt : Runtime) (C : CryptoLib) (identity : Point) (i : ι)
    (ls : List (Pool.Label (linkMachine rt C identity) ι)) : Prop where
  | input {conn : Connection} {log : List (Event Server)}
      {out : Except PyError Unit × Connection} (h : .returned i (.line none) conn log out ∈ ls)
  | exception {line : Bytes} {conn : Connection} {log pre : List (Event Server)}
      {out : Except PyError Unit × Connection}
      (h : .returned i (.line (some line)) conn log out ∈ ls) (live : conn.closed = false)
      (hpre : pre <+: log) (escapes : Escapes rt C conn line pre)

omit [DecidableEq ι] in
theorem Ended.mono {i : ι} {ls ls' : List (Pool.Label (linkMachine rt C identity) ι)}
    (h : Ended rt C identity i ls) (hsub : ls ⊆ ls') : Ended rt C identity i ls' := by
  cases h with
  | input h => exact .input (hsub h)
  | exception h live hpre escapes => exact .exception (hsub h) live hpre escapes

/-- A closed connection has ended. -/
theorem ended_of_closed
    (run : Pool.Run (fun _ => ServerStep C identity) P (linkStarted rt C identity ι registry) ls c)
    {i : ι} (hclosed : (c.agents i).mem.closed = true) : Ended rt C identity i ls := by
  refine run.kept (I := fun (conn : Connection) ls => conn.closed = true → Ended rt C identity i ls) serving_quiet i
    nofun ?_ ?_ hclosed
  · intro conn ls l ih hclosed
    exact (ih hclosed).mono (List.subset_append_left _ _)
  · intro ls c job conn log out _ runs ih hclosed
    obtain ⟨-, hserved⟩ := wp_runs runs (linkMachine_code job conn)
    have hmem : Pool.Label.returned i job conn log out ∈ ls ++ [.returned i job conn log out] := by
      simp
    by_cases hconn : conn.closed = true
    · exact (ih hconn).mono (List.subset_append_left _ _)
    · change out.2.closed = true at hclosed
      generalize out.2 = conn' at hserved hclosed
      cases hserved with
      | closed line h => exact absurd h hconn
      | handled _ h => exact absurd (h.closed_eq ▸ hclosed) hconn
      | escaped live h _ => exact .exception hmem live (List.prefix_append ..) h
      | ended _ _ => exact .input hmem
      | notEnrolled _ => exact absurd hclosed hconn
      | enrolled _ _ => exact absurd hclosed hconn

/-- What a job changes of what the connection remembers: its device, to one whose challenge it has
filed, or to none; or that it is open. -/
theorem Served.remembers {conn conn' : Connection} {job : LinkJob} {tr : List (Event Server)}
    (h : Served rt C identity conn job tr conn') :
    conn'.deviceId = conn.deviceId ∨
    (∃ line msg deviceId, job = .line (some line) ∧ Parses rt line msg .hello ∧
      helloId rt msg = .ok deviceId ∧
      ((conn'.deviceId = some deviceId ∧ ∃ challenge record,
          .did (.setPending deviceId challenge) () ∈ tr ∧ .did (.lookup deviceId) (some record) ∈ tr) ∨
        conn'.deviceId = none ∧ .did (.lookup deviceId) none ∈ tr)) := by
  cases h with
  | closed _ _ => exact Or.inl rfl
  | ended _ _ => exact Or.inl rfl
  | notEnrolled _ => exact Or.inl rfl
  | enrolled _ _ => exact Or.inl rfl
  | escaped _ _ _ => exact Or.inl rfl
  | @handled line _ _ _ h =>
    cases h with
    | @challenged msg deviceId challenge _ h hid drawn =>
      obtain ⟨record, nonce, -, rfl⟩ := drawn
      exact Or.inr ⟨line, msg, deviceId, rfl, h, hid, Or.inl ⟨rfl, challenge, record, by simp, by simp⟩⟩
    | @unknownDevice msg deviceId h hid =>
      exact Or.inr ⟨line, msg, deviceId, rfl, h, hid, Or.inr ⟨rfl, by simp⟩⟩
    | _ => exact Or.inl rfl

end

end ConfidentialIoT
