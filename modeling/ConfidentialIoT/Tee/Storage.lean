import Mathlib.Logic.Function.Basic
import ConfidentialIoT.Tee.Bench

/-!
# `Tee/Storage.lean` — secure storage, shared by every session of the TA

What one storage call answers, given what is stored, and what is stored after it. An open for
reading says `TEE_ERROR_ITEM_NOT_FOUND` only if the object is not there; a create without
`TEE_DATA_FLAG_OVERWRITE` succeeds only if it was not, and says `TEE_ERROR_ACCESS_CONFLICT` only
if it was. Any call may fail for other reasons and then changes nothing. The TA has no other
calls on storage (it deletes nothing and writes no existing object), so `StorageStep.kept` is all
there is to know about an object's life.
-/

set_option autoImplicit false

namespace ConfidentialIoT

open Effects

abbrev Storage : Type := ObjectId → Option Bytes

def StorageStep (store : Storage) : Event Tee → Storage → Prop
  | .ok (.openPersistentObject id) _, store' => (store id).isSome ∧ store' = store
  | .refused (.openPersistentObject id) e, store' =>
    (e = .itemNotFound → store id = none) ∧ store' = store
  | .ok (.readObjectData id size) b, store' =>
    (∃ content, store id = some content ∧ b = content.take size) ∧ store' = store
  | .ok (.createPersistentObject id data) _, store' =>
    store id = none ∧ store' = Function.update store id (some data)
  | .refused (.createPersistentObject id _) e, store' =>
    (e = .accessConflict → (store id).isSome) ∧ store' = store
  | _, store' => store' = store

/-- Only a create changes storage. -/
theorem StorageStep.cases {store store' : Storage} {ev : Event Tee}
    (h : StorageStep store ev store') :
    store' = store ∨ ∃ id data, ev = .ok (.createPersistentObject id data) () ∧
      store id = none ∧ store' = Function.update store id (some data) := by
  cases ev with
  | did a b => exact Or.inl h
  | ok r b =>
    cases r with
    | createPersistentObject id data => exact Or.inr ⟨id, data, rfl, h⟩
    | openPersistentObject id => exact Or.inl h.2
    | readObjectData id size => exact Or.inl h.2
    | _ => exact Or.inl h
  | refused r e =>
    cases r with
    | createPersistentObject id data => exact Or.inl h.2
    | openPersistentObject id => exact Or.inl h.2
    | _ => exact Or.inl h

/-- **What is stored stays as it is.** -/
theorem StorageStep.kept {store store' : Storage} {ev : Event Tee} {id : ObjectId} {b : Bytes}
    (h : StorageStep store ev store') (hid : store id = some b) : store' id = some b := by
  rcases h.cases with rfl | ⟨id', data, -, hnone, rfl⟩
  · exact hid
  · by_cases heq : id = id'
    · rw [← heq, hid] at hnone
      cases hnone
    · rw [Function.update_of_ne heq, hid]

/-- What an event says about storage. -/
def StorageFact (store : Storage) : Event Tee → Prop
  | .ok (.openPersistentObject id) _ => (store id).isSome
  | .ok (.readObjectData id size) b => ∃ content, store id = some content ∧ b = content.take size
  | .ok (.createPersistentObject id data) _ => store id = some data
  | .refused (.createPersistentObject id _) .accessConflict => (store id).isSome
  | _ => True

/-- It is so when the event has happened. -/
theorem StorageFact.of_step {store store' : Storage} {ev : Event Tee}
    (h : StorageStep store ev store') : StorageFact store' ev := by
  cases ev with
  | did a b => trivial
  | ok r b =>
    cases r with
    | openPersistentObject id =>
      obtain ⟨hsome, rfl⟩ := h
      exact hsome
    | readObjectData id size =>
      obtain ⟨hread, rfl⟩ := h
      exact hread
    | createPersistentObject id data =>
      obtain ⟨-, rfl⟩ := h
      exact Function.update_self ..
    | _ => trivial
  | refused r e =>
    cases r with
    | createPersistentObject id data =>
      cases e with
      | accessConflict =>
        obtain ⟨hsome, rfl⟩ := h
        exact hsome rfl
      | _ => trivial
    | _ => trivial

/-- And it stays so. -/
theorem StorageFact.kept {store store' : Storage} {ev ev' : Event Tee}
    (h : StorageStep store ev' store') (hfact : StorageFact store ev) : StorageFact store' ev := by
  have isSome_kept : ∀ id, (store id).isSome → (store' id).isSome := by
    intro id hsome
    obtain ⟨b, hb⟩ := Option.isSome_iff_exists.mp hsome
    rw [h.kept hb]
    rfl
  unfold StorageFact at hfact ⊢
  split
  · exact isSome_kept _ hfact
  · obtain ⟨content, hcontent, hb⟩ := hfact
    exact ⟨content, h.kept hcontent, hb⟩
  · exact h.kept hfact
  · exact isSome_kept _ hfact
  · trivial

/-- A correct TEE over its storage: what the API promises, and what storage does. -/
def TeeStep (C : Crypto) (store : Storage) (ev : Event Tee) (store' : Storage) : Prop :=
  TeeContract C ev ∧ StorageStep store ev store'

/-! ## A bench over storage -/

/-- What is stored after an event. -/
def stored (store : Storage) : Event Tee → Storage
  | .ok (.createPersistentObject id data) _ => Function.update store id (some data)
  | _ => store

/-- A bench that answers out of the storage it is given. -/
def Bench.serve (b : Bench) (n : Nat) (store : Storage) (c : Call Tee) : c.Ans × Storage :=
  let r := { b with store := store }.answer n c
  (r, stored store (Event.of c r))

theorem Bench.serve_step (b : Bench) (n : Nat) (store : Storage) (c : Call Tee) :
    TeeStep b.crypto store (Event.of c (b.serve n store c).1) (b.serve n store c).2 := by
  refine ⟨Bench.contract { b with store := store } n c, ?_⟩
  cases c with
  | act a => exact rfl
  | req r =>
    cases r <;> simp only [Bench.serve, Bench.answer, Bench.request]
    case openPersistentObject id =>
      split
      · exact ⟨‹_›, rfl⟩
      · exact ⟨fun _ => by simpa using ‹¬ (store id).isSome = true›, rfl⟩
    case readObjectData id size =>
      split
      · exact ⟨⟨_, ‹_›, rfl⟩, rfl⟩
      · exact rfl
    case createPersistentObject id data =>
      split
      · exact ⟨fun _ => ‹_›, rfl⟩
      · exact ⟨by simpa using ‹¬ (store id).isSome = true›, rfl⟩
    all_goals first | exact rfl | (split <;> exact rfl)

end ConfidentialIoT
