import ConfidentialIoT.Sensor.Daemon

/-!
# `Sensor/Latch.lean` — the secret is served at most once

Three flags guard the secret: `g_secret_served` and `g_secret_window_closed` live as long as the
process, `authenticated` as long as a connection. The first of them is set only after a write
that may fail, so it is not the flag alone that makes the service one-shot: a write that fails
also ends the connection, and the end of a connection closes the window.

`Watch` is what an observer of the daemon's calls has counted; the invariants relate the flags
to it.
-/

set_option autoImplicit false

namespace ConfidentialIoT

open Effects

/-! ## The observer -/

/-- A buffer that is the header of a frame of a type. -/
def Opens (type : FrameType) (buf : Bytes) : Prop :=
  buf.length = frameHdrSize ∧ hdrType buf = type.byte

instance (type : FrameType) (buf : Bytes) : Decidable (Opens type buf) :=
  inferInstanceAs (Decidable (_ ∧ _))

/-- What has been seen of the process: connections accepted and closed, SECRET frames with a
payload and CHALLENGE_RESPONSE frames begun; what was read since the last `select`, and the
buffer that has only been written in part. -/
structure Watch where
  accepted : Nat
  closed : Nat
  secrets : Nat
  answers : Nat
  heard : Option (Nat × Bytes)
  unfinished : Option (Nat × Bytes × Nat)

namespace Watch

def start : Watch := ⟨0, 0, 0, 0, none, none⟩

/-- Nothing was read or left half written. -/
def settled (w : Watch) : Watch := { w with heard := none, unfinished := none }

/-- A write begins a frame when it starts at the header's first byte. -/
def began (w : Watch) (buf : Bytes) (sent : Nat) : Watch :=
  { w.settled with
    secrets := w.secrets + if sent = 0 ∧ Opens .secret buf ∧ hdrLen buf ≠ 0 then 1 else 0
    answers := w.answers + if sent = 0 ∧ Opens .challengeResponse buf then 1 else 0 }

def add (w : Watch) : Event Daemon → Watch
  | .ok .accept _ => { w.settled with accepted := w.accepted + 1 }
  | .ok (.select fd) ready => { w.settled with heard := bif ready then some (fd, []) else none }
  | .ok (.read fd _) chunk =>
    { w.settled with heard := w.heard.bind fun h =>
        if h.1 = fd then some (fd, h.2 ++ chunk.1) else none }
  | .ok (.write fd buf sent) n =>
    { w.began buf sent with
      unfinished := if 0 < n.1 ∧ sent + n.1 < buf.length then some (fd, buf, sent + n.1) else none }
  | .refused (.write _ buf sent) _ => w.began buf sent
  | .did (.close _) _ => { w.settled with closed := w.closed + 1 }
  | .ok (.hmac _ _) _ | .refused _ _ | .did .time _ => w.settled

end Watch

/-- What an observer of a history has seen. -/
def watch (tr : List (Event Daemon)) : Watch := tr.foldl Watch.add .start

@[simp] theorem watch_nil : watch [] = .start := rfl

@[simp] theorem watch_snoc (tr : List (Event Daemon)) (ev : Event Daemon) :
    watch (tr ++ [ev]) = (watch tr).add ev := by
  rw [watch, List.foldl_append]
  rfl

/-- The call that begins a SECRET frame with a payload. -/
def BeginsSecret (fd : Nat) (c : Call Daemon) : Prop :=
  ∃ buf, c = .req (.write fd buf 0) ∧ Opens .secret buf ∧ hdrLen buf ≠ 0

/-- `write_full` at work: the events go on writing `buf` from `sent`, until all of it is out or a
write fails. -/
inductive Sending (fd : Nat) (buf : Bytes) : Nat → List (Event Daemon) → Prop where
  | sent {sent : Nat} {evs : List (Event Daemon)} (h : buf.length ≤ sent) : Sending fd buf sent evs
  | cut {sent : Nat} : Sending fd buf sent []
  | failed {sent : Nat} {e : Errno} {evs : List (Event Daemon)} :
      Sending fd buf sent (.refused (.write fd buf sent) e :: evs)
  | stuck {sent : Nat} {n : { n : Nat // n ≤ buf.length - sent }} {evs : List (Event Daemon)}
      (h : n.1 = 0) : Sending fd buf sent (.ok (.write fd buf sent) n :: evs)
  | more {sent : Nat} {n : { n : Nat // n ≤ buf.length - sent }} {evs : List (Event Daemon)}
      (h : Sending fd buf (sent + n.1) evs) :
      Sending fd buf sent (.ok (.write fd buf sent) n :: evs)

/-! ## What a call must be -/

/-- A well-formed SECRET_REQUEST. -/
abbrev secretRequest : Bytes := frameHdr .secretRequest 0

/-- What is asserted of every call the daemon makes. -/
structure Allowed (w : Watch) (c : Call Daemon) : Prop where
  begins : ∀ fd, BeginsSecret fd c →
    w.accepted = 1 ∧ w.closed = 0 ∧ w.answers = 0 ∧ w.secrets = 0
  answers : ∀ fd, w.heard = some (fd, secretRequest) →
    c = .req (.write fd (frameHdr .secret 0) 0) ∨ BeginsSecret fd c
  finishes : ∀ fd buf sent, w.unfinished = some (fd, buf, sent) → c = .req (.write fd buf sent)

/-- No request is waiting for its answer, no buffer for its rest. -/
structure Free (w : Watch) : Prop where
  heard : ∀ fd, w.heard ≠ some (fd, secretRequest)
  finished : w.unfinished = none

theorem Free.settled {w : Watch} : Free w.settled := ⟨nofun, rfl⟩

theorem Free.start : Free (watch []) := ⟨nofun, rfl⟩

theorem Free.began {w : Watch} {buf : Bytes} {sent : Nat} : Free (w.began buf sent) := ⟨nofun, rfl⟩

theorem Free.allowed {w : Watch} {c : Call Daemon} (h : Free w) (hc : ∀ fd, ¬ BeginsSecret fd c) :
    Allowed w c where
  begins fd hb := absurd hb (hc fd)
  answers fd hheard := absurd hheard (h.heard fd)
  finishes fd buf sent hun := by
    rw [h.finished] at hun
    cases hun

/-- A write of anything but the header of a SECRET frame with a payload. -/
theorem not_beginsSecret {fd fd' sent : Nat} {buf : Bytes}
    (h : ¬ (sent = 0 ∧ Opens .secret buf ∧ hdrLen buf ≠ 0)) :
    ¬ BeginsSecret fd (.req (.write fd' buf sent)) := by
  intro ⟨buf', heq, hopens, hlen⟩
  cases heq
  exact h ⟨rfl, hopens, hlen⟩

/-- The same counts. -/
structure Watch.Same (w w' : Watch) : Prop where
  accepted : w'.accepted = w.accepted
  closed : w'.closed = w.closed
  secrets : w'.secrets = w.secrets

/-- What goes out later than a frame's first byte begins nothing. -/
theorem Watch.began_later {w : Watch} {buf : Bytes} {sent : Nat} (h : sent ≠ 0) :
    w.began buf sent = w.settled := by
  unfold Watch.began
  rw [if_neg fun hb => h hb.1, if_neg fun hb => h hb.1]
  rfl

/-- Neither does what is not a header. -/
theorem Watch.began_payload {w : Watch} {buf : Bytes} {sent : Nat}
    (h : buf.length ≠ frameHdrSize) : w.began buf sent = w.settled := by
  unfold Watch.began
  rw [if_neg fun hb => h hb.2.1.1, if_neg fun hb => h hb.2.1]
  rfl

/-- The assertion of this module. -/
abbrev Watched (tr : List (Event Daemon)) (c : Call Daemon) : Prop := Allowed (watch tr) c

/-! ## Reading and writing -/

section

variable {fd : Nat} {g : Globals} {tr : List (Event Daemon)}

/-- While fewer than `len` bytes are in, what was heard is not a request. -/
theorem readLoop_spec {len : Nat} {f : Bytes}
    (hnot : ∀ got : Bytes, got.length < len → f ++ got ≠ secretRequest) (fuel : Nat) (got : Bytes)
    (hfuel : len ≤ got.length + fuel) (hgot : got.length ≤ len)
    (hheard : (watch tr).heard = some (fd, f ++ got)) (hun : (watch tr).unfinished = none) :
    wpP Watched (readLoop fd len fuel got)
      (fun tr' g' b => g' = g ∧ b.length = len ∧
        watch tr' = { watch tr with heard := some (fd, f ++ b) })
      (fun tr' g' _ => g' = g ∧ Free (watch tr') ∧ (watch tr').answers = (watch tr).answers ∧
        (watch tr).Same (watch tr')) g tr := by
  induction fuel generalizing got tr with
  | zero =>
    show _ ∧ _ ∧ _
    refine ⟨rfl, by omega, ?_⟩
    rw [← hheard]
  | succ fuel ih =>
    have hfree : got.length < len → Free (watch tr) := by
      intro hlt
      refine ⟨?_, hun⟩
      intro fd' heq
      rw [hheard] at heq
      exact hnot got hlt (Prod.mk.inj (Option.some.inj heq)).2
    simp only [readLoop, wpP_ite, wpP_bind, wpP_sys, wpP_throw, wpP_pure, true_and]
    refine ⟨?_, ?_⟩
    · intro hlt
      refine ⟨(hfree hlt).allowed (by rintro _ ⟨_, ⟨⟩, _⟩), ?_, ?_⟩
      · intro chunk
        have hnext : watch (tr ++ [.ok (.read fd (len - got.length)) chunk]) =
            { watch tr with heard := some (fd, f ++ (got ++ chunk.1)) } := by
          rw [watch_snoc]
          show ({ heard := _, unfinished := none, .. } : Watch) = _
          rw [hheard, ← hun]
          simp [Watch.settled]
        refine ⟨?_, ?_⟩
        · intro hempty
          rw [hnext, hempty, List.append_nil, ← hheard]
          exact ⟨hfree hlt, rfl, rfl, rfl, rfl⟩
        · intro hsome
          have hpos : 0 < chunk.1.length := List.length_pos_iff.mpr hsome
          have hle : chunk.1.length ≤ len - got.length := chunk.2
          refine wpP_conseq (ih (got ++ chunk.1) ?_ ?_ ?_ ?_) ?_ ?_
          · rw [List.length_append]
            omega
          · rw [List.length_append]
            omega
          · rw [hnext]
          · rw [hnext]
            exact hun
          · intro tr' g' b h'
            rw [hnext] at h'
            exact h'
          · intro tr' g' e h'
            rw [hnext] at h'
            exact ⟨h'.1, h'.2.1, h'.2.2.1, h'.2.2.2.accepted, h'.2.2.2.closed, h'.2.2.2.secrets⟩
      · intro e
        rw [watch_snoc]
        exact ⟨.settled, rfl, rfl, rfl, rfl⟩
    · intro hfull
      refine ⟨by omega, ?_⟩
      rw [← hheard]

/-- Once begun, a buffer is written to its end or the write fails; only its first write counts. -/
theorem writeLoop_spec {buf : Bytes} (fuel sent : Nat) (hfuel : buf.length ≤ sent + fuel)
    (hlt : sent < buf.length) (hallowed : Watched tr (.req (.write fd buf sent))) :
    wpP Watched (writeLoop fd buf fuel sent)
      (fun tr' g' _ => g' = g ∧ watch tr' = (watch tr).began buf sent)
      (fun tr' g' _ => g' = g ∧ watch tr' = (watch tr).began buf sent) g tr := by
  induction fuel generalizing sent tr with
  | zero => exact absurd hfuel (by omega)
  | succ fuel ih =>
    simp only [writeLoop, wpP_ite, wpP_bind, wpP_sys, wpP_throw, wpP_pure, true_and]
    refine ⟨?_, fun h => absurd hlt h⟩
    intro _
    refine ⟨hallowed, ?_, ?_⟩
    · intro n
      rw [watch_snoc]
      refine ⟨?_, ?_⟩
      · intro hzero
        show ({ (watch tr).began buf sent with unfinished := _ } : Watch) = _
        rw [if_neg (by omega)]
        rfl
      · intro hpos
        by_cases hmore : sent + n.1 < buf.length
        · have hnext : (watch tr).add (.ok (.write fd buf sent) n) =
              { (watch tr).began buf sent with unfinished := some (fd, buf, sent + n.1) } := by
            show ({ (watch tr).began buf sent with unfinished := _ } : Watch) = _
            rw [if_pos ⟨by omega, hmore⟩]
          have hlater : ¬ sent + n.1 = 0 := by omega
          refine wpP_conseq (ih (sent + n.1) (by omega) hmore ?_) ?_ ?_
          · show Allowed (watch (tr ++ [_])) _
            rw [watch_snoc, hnext]
            refine ⟨?_, (by rintro _ ⟨⟩), ?_⟩
            · intro fd' hb
              exact absurd hb (not_beginsSecret fun h => hlater h.1)
            · intro fd' buf' sent' heq
              cases heq
              rfl
          · intro tr' g' _ h'
            rw [watch_snoc, hnext] at h'
            exact ⟨h'.1, h'.2.trans (Watch.began_later hlater)⟩
          · intro tr' g' _ h'
            rw [watch_snoc, hnext] at h'
            exact ⟨h'.1, h'.2.trans (Watch.began_later hlater)⟩
        · have hdone : (watch tr).add (.ok (.write fd buf sent) n) = (watch tr).began buf sent := by
            show ({ (watch tr).began buf sent with unfinished := _ } : Watch) = _
            rw [if_neg (by omega)]
            rfl
          cases fuel with
          | zero =>
            refine ⟨rfl, ?_⟩
            rw [watch_snoc, hdone]
          | succ fuel =>
            simp only [writeLoop, wpP_ite, wpP_pure, true_and]
            refine ⟨fun h => absurd h hmore, fun _ => ?_⟩
            rw [watch_snoc, hdone]
    · intro e
      rw [watch_snoc]
      rfl

theorem writeFull_spec {buf : Bytes} (hbuf : buf ≠ [])
    (hallowed : Watched tr (.req (.write fd buf 0))) :
    wpP Watched (writeFull fd buf)
      (fun tr' g' _ => g' = g ∧ watch tr' = (watch tr).began buf 0)
      (fun tr' g' _ => g' = g ∧ watch tr' = (watch tr).began buf 0) g tr :=
  writeLoop_spec _ _ (by omega) (List.length_pos_iff.mpr hbuf) hallowed

/-- A frame counts for what its header announces: the payloads this program writes are never as
long as a header. -/
theorem writeFrame_spec {type : FrameType} {payload : Bytes} (hlen : payload.length ≠ frameHdrSize)
    (hallowed : Watched tr (.req (.write fd (frameHdr type payload.length) 0))) :
    wpP Watched (writeFrame fd type payload)
      (fun tr' g' _ => g' = g ∧ watch tr' = (watch tr).began (frameHdr type payload.length) 0)
      (fun tr' g' _ => g' = g ∧ watch tr' = (watch tr).began (frameHdr type payload.length) 0)
      g tr := by
  simp only [writeFrame, wpP_bind, wpP_ite, wpP_pure]
  refine wpP_conseq (writeFull_spec (List.cons_ne_nil _ _) hallowed) ?_ fun _ _ _ h => h
  rintro tr' g' _ ⟨hg, hw⟩
  refine ⟨?_, fun _ => ⟨hg, hw⟩⟩
  intro hsome
  have hmay : Watched tr' (.req (.write fd payload 0)) := by
    rw [Watched, hw]
    exact Free.began.allowed fun _ => not_beginsSecret fun h => hlen h.2.1.1
  have hkept : (watch tr').began payload 0 = (watch tr).began (frameHdr type payload.length) 0 := by
    rw [Watch.began_payload hlen, hw]
    rfl
  subst hg
  refine wpP_conseq (writeFull_spec hsome hmay) ?_ ?_
  · intro _ _ _ h
    rwa [hkept] at h
  · intro _ _ _ h
    rwa [hkept] at h

end

/-! ## The invariants -/

/-- A connection is open. -/
structure Serving (g : Globals) (authenticated : Bool) (w : Watch) : Prop where
  once : w.secrets ≤ 1
  window : g.secretWindowClosed = false → w.accepted = 1 ∧ w.closed = 0
  unserved : g.secretWindowClosed = false → g.secretServed = false → w.secrets = 0
  unanswered : g.secretWindowClosed = false → authenticated = false → w.answers = 0

/-- No connection is open. -/
structure Between (g : Globals) (w : Watch) : Prop where
  once : w.secrets ≤ 1
  window : g.secretWindowClosed = false →
    w.accepted = 0 ∧ w.closed = 0 ∧ w.secrets = 0 ∧ w.answers = 0

/-- What a process between two passes and its observer have in common. -/
def Watching (g : Globals) (w : Watch) : Stage → Prop
  | .accepting => Between g w
  | .serving c => Serving g c.authenticated w
  | .exited => w.secrets ≤ 1

section

variable {g : Globals} {auth : Bool} {w w' : Watch} {fd : Nat} {tr : List (Event Daemon)}

/-- Reading changes no count. -/
theorem Serving.same (h : Serving g auth w) (hsame : w.Same w') (ha : w'.answers = w.answers) :
    Serving g auth w' where
  once := by
    rw [hsame.secrets]
    exact h.once
  window hopen := by
    rw [hsame.accepted, hsame.closed]
    exact h.window hopen
  unserved hopen hserved := by
    rw [hsame.secrets]
    exact h.unserved hopen hserved
  unanswered hopen hauth := by
    rw [ha]
    exact h.unanswered hopen hauth

/-- Once authenticated, the count of answers no longer matters. -/
theorem Serving.authenticated (h : Serving g auth w) (hsame : w.Same w') : Serving g true w' where
  once := by
    rw [hsame.secrets]
    exact h.once
  window hopen := by
    rw [hsame.accepted, hsame.closed]
    exact h.window hopen
  unserved hopen hserved := by
    rw [hsame.secrets]
    exact h.unserved hopen hserved
  unanswered _ := nofun

/-- The only frame that counts as a secret is a SECRET frame with a payload. -/
theorem Watch.began_same {type : FrameType} {len : Nat} (h : type ≠ .secret ∨ len = 0) :
    w.Same (w.began (frameHdr type len) 0) where
  accepted := rfl
  closed := rfl
  secrets := by
    show w.secrets + _ = w.secrets
    rw [if_neg, Nat.add_zero]
    rintro ⟨-, hopens, hlen⟩
    rcases h with htype | rfl
    · exact htype (FrameType.byte_inj hopens.2)
    · exact hlen (hdrLen_frameHdr type (by decide))

/-- Only a CHALLENGE_RESPONSE counts as an answer. -/
theorem Watch.began_answers {type : FrameType} {len : Nat} (h : type ≠ .challengeResponse) :
    (w.began (frameHdr type len) 0).answers = w.answers := by
  show w.answers + _ = w.answers
  rw [if_neg, Nat.add_zero]
  rintro ⟨-, hopens⟩
  exact h (FrameType.byte_inj hopens.2)

/-! ## Handlers -/

/-- Not a SECRET frame with a payload. -/
theorem not_beginsSecret_hdr {type : FrameType} {len fd' : Nat} (h : type ≠ .secret ∨ len = 0) :
    ¬ BeginsSecret fd' (.req (.write fd (frameHdr type len) 0)) := by
  apply not_beginsSecret
  rintro ⟨-, hopens, hlen⟩
  rcases h with htype | rfl
  · exact htype (FrameType.byte_inj hopens.2)
  · exact hlen (hdrLen_frameHdr type (by decide))

theorem handleChallenge_spec {len : Nat} {hdr : Bytes} (hhdr : hdr.length = frameHdrSize)
    (htype : hdrType hdr = FrameType.challenge.byte) (hheard : (watch tr).heard = some (fd, hdr))
    (hun : (watch tr).unfinished = none) :
    wpP Watched (handleChallenge fd len)
      (fun tr' g' _ => g' = g ∧ Free (watch tr') ∧ (watch tr).Same (watch tr'))
      (fun tr' g' _ => g' = g ∧ Free (watch tr') ∧ (watch tr).Same (watch tr')) g tr := by
  have hother : ∀ got : Bytes, hdr ++ got ≠ secretRequest := by
    intro got heq
    obtain ⟨a, b, c, rfl⟩ := List.length_eq_three.mp hhdr
    cases (List.cons.inj heq).1
    have hbyte : FrameType.secretRequest.byte = FrameType.challenge.byte := htype
    cases FrameType.byte_inj hbyte
  have hfree : Free (watch tr) := by
    refine ⟨?_, hun⟩
    intro fd' heq
    rw [hheard] at heq
    apply hother []
    rw [List.append_nil]
    exact (Prod.mk.inj (Option.some.inj heq)).2
  simp only [handleChallenge, readFull, wpP_bind, wpP_ite, wpP_throw, wpP_get, wpP_sys, true_and]
  refine ⟨fun _ => ⟨hfree, rfl, rfl, rfl⟩, ?_⟩
  intro _
  refine wpP_conseq (readLoop_spec (f := hdr) (fun got _ => hother got) _ [] (by simp) (by simp)
    (by rw [List.append_nil]; exact hheard) hun) ?_ ?_
  · rintro tr₁ _ challenge ⟨rfl, -, hw⟩
    have hfree₁ : Free (watch tr₁) := by
      rw [hw]
      refine ⟨?_, hun⟩
      intro fd' heq
      exact hother challenge (Prod.mk.inj (Option.some.inj heq)).2
    have hsame₁ : (watch tr).Same (watch tr₁) := by
      rw [hw]
      exact ⟨rfl, rfl, rfl⟩
    refine ⟨hfree₁.allowed (by rintro _ ⟨_, ⟨⟩, _⟩), ?_, ?_⟩
    · intro response
      refine ⟨?_, ?_⟩
      · intro _
        rw [watch_snoc]
        exact ⟨rfl, .settled, hsame₁.accepted, hsame₁.closed, hsame₁.secrets⟩
      · intro hlen
        rw [not_not] at hlen
        have hother : FrameType.challengeResponse ≠ .secret := (by rintro ⟨⟩)
        refine wpP_conseq (writeFrame_spec (by rw [hlen]; decide) ?_) ?_ ?_
        · show Allowed (watch (tr₁ ++ [_])) _
          rw [watch_snoc]
          exact Free.settled.allowed fun _ => not_beginsSecret_hdr (Or.inl hother)
        all_goals
          rintro tr₂ _ _ ⟨rfl, hw₂⟩
          have hsame₂ : (watch tr₁).Same ((watch tr₁).began (frameHdr .challengeResponse response.length) 0) :=
            Watch.began_same (Or.inl hother)
          rw [watch_snoc] at hw₂
          rw [hw₂]
          exact ⟨rfl, .began, hsame₂.accepted.trans hsame₁.accepted,
            hsame₂.closed.trans hsame₁.closed, hsame₂.secrets.trans hsame₁.secrets⟩
    · intro e
      rw [watch_snoc]
      exact ⟨rfl, .settled, hsame₁.accepted, hsame₁.closed, hsame₁.secrets⟩
  · rintro tr₁ _ e ⟨rfl, hfree₁, -, hsame₁⟩
    exact ⟨rfl, hfree₁, hsame₁⟩

/-- The answer to a request is a SECRET frame; a refused one changes no count. -/
theorem handleSecretRequest_spec {len : Nat} {hdr : Bytes} (hhdr : hdr.length = frameHdrSize)
    (htype : hdrType hdr = FrameType.secretRequest.byte) (hlen : hdrLen hdr = len)
    (hheard : (watch tr).heard = some (fd, hdr)) (hun : (watch tr).unfinished = none)
    (hserving : Serving g auth (watch tr)) :
    wpP Watched (handleSecretRequest fd len auth)
      (fun tr' g' _ => Free (watch tr') ∧ Serving g' auth (watch tr'))
      (fun tr' _ _ => Free (watch tr') ∧ (watch tr').secrets ≤ 1) g tr := by
  simp only [handleSecretRequest, wpP_bind, wpP_ite, wpP_throw, wpP_get, wpP_modify]
  refine ⟨?_, ?_⟩
  · intro hbad
    refine ⟨⟨?_, hun⟩, hserving.once⟩
    intro fd' heq
    rw [hheard] at heq
    have hreq : hdr = secretRequest := (Prod.mk.inj (Option.some.inj heq)).2
    rw [hreq] at hlen
    exact hbad (hlen.symm.trans (hdrLen_frameHdr _ (by decide)))
  · intro hzero
    obtain rfl : len = 0 := not_not.mp hzero
    have hreq : hdr = secretRequest := by
      rw [frameHdr_fields hhdr, htype, hlen]
      rfl
    -- whatever is written next must be the answer to this request
    have hanswer : ∀ c : Call Daemon, (c = .req (.write fd (frameHdr .secret 0) 0) ∨
        BeginsSecret fd c) → (∀ fd, BeginsSecret fd c → (watch tr).accepted = 1 ∧
          (watch tr).closed = 0 ∧ (watch tr).answers = 0 ∧ (watch tr).secrets = 0) →
        Watched tr c := by
      intro c hc hbegins
      refine ⟨hbegins, ?_, ?_⟩
      · intro fd' heq
        rw [hheard] at heq
        obtain rfl := (Prod.mk.inj (Option.some.inj heq)).1
        exact hc
      · intro fd' buf sent heq
        rw [hun] at heq
        cases heq
    refine ⟨?_, ?_⟩
    · intro _
      have hsame : (watch tr).Same ((watch tr).began (frameHdr .secret 0) 0) :=
        Watch.began_same (Or.inr rfl)
      refine wpP_conseq (@writeFrame_spec _ _ _ .secret [] (by decide)
        (hanswer _ (Or.inl rfl) fun _ hb => absurd hb (not_beginsSecret_hdr (Or.inr rfl)))) ?_ ?_
      · rintro tr' _ _ ⟨rfl, hw⟩
        rw [hw]
        exact ⟨.began, hserving.same hsame (Watch.began_answers (by rintro ⟨⟩))⟩
      · rintro tr' _ _ ⟨rfl, hw⟩
        rw [hw]
        exact ⟨.began, hsame.secrets.trans_le hserving.once⟩
    · intro hopen
      rw [not_or, not_or] at hopen
      obtain ⟨hserved, hwindow, hauth⟩ := hopen
      rw [Bool.not_eq_true] at hserved hwindow hauth
      obtain ⟨hacc, hclosed⟩ := hserving.window hwindow
      have hnone : (watch tr).secrets = 0 := hserving.unserved hwindow hserved
      have hsize : g.secret.1.length = sensorSecretSize := g.secret.2
      have hbegin : Opens .secret (frameHdr .secret g.secret.1.length) :=
        ⟨length_frameHdr _ _, rfl⟩
      have hsome : hdrLen (frameHdr .secret g.secret.1.length) ≠ 0 := by
        rw [hsize, hdrLen_frameHdr _ (by decide)]
        decide
      have hone : ((watch tr).began (frameHdr .secret g.secret.1.length) 0).secrets = 1 := by
        show (watch tr).secrets + _ = 1
        rw [if_pos ⟨rfl, hbegin, hsome⟩, hnone]
      refine wpP_conseq (writeFrame_spec (by rw [hsize]; decide)
        (hanswer _ (Or.inr ⟨_, rfl, hbegin, hsome⟩)
          fun _ _ => ⟨hacc, hclosed, hserving.unanswered hwindow hauth, hnone⟩)) ?_ ?_
      · rintro tr' _ _ ⟨rfl, hw⟩
        rw [hw]
        refine ⟨.began, hone.le, fun _ => ⟨hacc, hclosed⟩, fun _ => by rintro ⟨⟩, ?_⟩
        intro _ _
        have hsecret : FrameType.secret ≠ .challengeResponse := (by rintro ⟨⟩)
        exact (Watch.began_answers hsecret).trans (hserving.unanswered hwindow hauth)
      · rintro tr' _ _ ⟨rfl, hw⟩
        rw [hw]
        exact ⟨.began, hone.le⟩

/-! ## One pass -/

/-- Reading the header of a frame. -/
theorem readHdr_spec (hheard : (watch tr).heard = some (fd, []))
    (hun : (watch tr).unfinished = none) :
    wpP Watched (readFull fd frameHdrSize)
      (fun tr' g' hdr => g' = g ∧ hdr.length = frameHdrSize ∧
        watch tr' = { watch tr with heard := some (fd, hdr) })
      (fun tr' g' _ => g' = g ∧ Free (watch tr') ∧ (watch tr').answers = (watch tr).answers ∧
        (watch tr).Same (watch tr')) g tr := by
  refine readLoop_spec (f := []) ?_ _ [] (by simp) (by simp) hheard hun
  intro got hlt heq
  rw [List.nil_append] at heq
  rw [heq] at hlt
  exact absurd hlt (by decide)

theorem handleFrame_spec {c : Conn} (hheard : (watch tr).heard = some (c.fd, []))
    (hun : (watch tr).unfinished = none) (hserving : Serving g c.authenticated (watch tr)) :
    wpP Watched (handleFrame c)
      (fun tr' g' c' => Free (watch tr') ∧ Serving g' c'.authenticated (watch tr'))
      (fun tr' _ _ => Free (watch tr') ∧ (watch tr').secrets ≤ 1) g tr := by
  simp only [handleFrame, wpP_bind, wpP_ite, wpP_throw, wpP_pure, wpP_sysAct]
  refine wpP_conseq (readHdr_spec hheard hun) ?_ ?_
  · rintro tr₁ g hdr ⟨rfl, hhdr, hw⟩
    have hheard₁ : (watch tr₁).heard = some (c.fd, hdr) := by rw [hw]
    have hun₁ : (watch tr₁).unfinished = none := by rw [hw, hun]
    have hserving₁ : Serving g c.authenticated (watch tr₁) := by
      apply hserving.same
      · rw [hw]
        exact ⟨rfl, rfl, rfl⟩
      · rw [hw]
    refine ⟨?_, fun hnot => ⟨?_, ?_⟩⟩
    · intro htype
      refine wpP_conseq (handleChallenge_spec hhdr htype hheard₁ hun₁) ?_ ?_
      · rintro tr₂ g _ ⟨rfl, hfree, hsame⟩
        have hserving₂ : Serving g true (watch tr₂) := hserving₁.authenticated hsame
        refine ⟨?_, ?_⟩
        · intro hauth
          rw [hauth]
          exact ⟨hfree, hserving₂⟩
        · intro _
          refine ⟨hfree.allowed (by rintro _ ⟨_, ⟨⟩, _⟩), ?_⟩
          intro now
          rw [watch_snoc]
          exact ⟨.settled, hserving₂.same ⟨rfl, rfl, rfl⟩ rfl⟩
      · rintro tr₂ _ _ ⟨rfl, hfree, hsame⟩
        exact ⟨hfree, hsame.secrets.trans_le hserving₁.once⟩
    · intro htype
      exact handleSecretRequest_spec hhdr htype rfl hheard₁ hun₁ hserving₁
    · intro hother
      refine ⟨⟨?_, hun₁⟩, hserving₁.once⟩
      intro fd' heq
      rw [hheard₁] at heq
      rw [(Prod.mk.inj (Option.some.inj heq)).2] at hother
      exact hother rfl
  · rintro tr₁ _ _ ⟨rfl, hfree, -, hsame⟩
    exact ⟨hfree, hsame.secrets.trans_le hserving.once⟩

theorem pushReading_spec {c : Conn} (hfree : Free (watch tr))
    (hserving : Serving g c.authenticated (watch tr)) :
    wpP Watched (pushReading c)
      (fun tr' g' c' => Free (watch tr') ∧ Serving g' c'.authenticated (watch tr'))
      (fun tr' _ _ => Free (watch tr') ∧ (watch tr').secrets ≤ 1) g tr := by
  simp only [pushReading, sendReading, wpP_bind, wpP_ite, wpP_pure, wpP_sysAct]
  refine ⟨fun _ => ⟨hfree, hserving⟩, ?_⟩
  intro _
  refine ⟨hfree.allowed (by rintro _ ⟨_, ⟨⟩, _⟩), ?_⟩
  intro now
  have hserving₁ : Serving g c.authenticated (watch (tr ++ [.did .time now])) := by
    rw [watch_snoc]
    exact hserving.same ⟨rfl, rfl, rfl⟩ rfl
  have hfree₁ : Free (watch (tr ++ [.did .time now])) := by
    rw [watch_snoc]
    exact .settled
  refine ⟨?_, fun _ => ⟨hfree₁, hserving₁⟩⟩
  intro _
  have hlen : (readingPayload c.tick).length ≠ frameHdrSize := by
    rw [readingPayload, List.length_append, List.length_append, Bytes.length_toBE]
    decide
  have hreading : FrameType.reading ≠ .secret := (by rintro ⟨⟩)
  have hsame := @Watch.began_same (watch (tr ++ [.did .time now])) _
    (readingPayload c.tick).length (Or.inl hreading)
  refine wpP_conseq (writeFrame_spec hlen
    (hfree₁.allowed fun _ => not_beginsSecret_hdr (Or.inl hreading))) ?_ ?_
  · rintro tr₂ _ _ ⟨rfl, hw⟩
    rw [hw]
    exact ⟨.began, hserving₁.same hsame (Watch.began_answers (by rintro ⟨⟩))⟩
  · rintro tr₂ _ _ ⟨rfl, hw⟩
    rw [hw]
    exact ⟨.began, hsame.secrets.trans_le hserving₁.once⟩

theorem serveOnce_spec {c : Conn} (hfree : Free (watch tr))
    (hserving : Serving g c.authenticated (watch tr)) :
    wpP Watched (serveOnce c)
      (fun tr' g' c' => Free (watch tr') ∧ Serving g' c'.authenticated (watch tr'))
      (fun tr' _ _ => Free (watch tr') ∧ (watch tr').secrets ≤ 1) g tr := by
  simp only [serveOnce, wpP_bind, wpP_outcome, wpP_sys]
  refine ⟨hfree.allowed (by rintro _ ⟨_, ⟨⟩, _⟩), ?_, ?_⟩
  · intro ready
    cases ready with
    | false =>
      have hserving₁ : Serving g c.authenticated (watch (tr ++ [.ok (.select c.fd) false])) := by
        rw [watch_snoc]
        exact hserving.same ⟨rfl, rfl, rfl⟩ rfl
      have hfree₁ : Free (watch (tr ++ [.ok (.select c.fd) false])) := by
        rw [watch_snoc]
        exact ⟨(by rintro _ ⟨⟩), rfl⟩
      exact pushReading_spec hfree₁ hserving₁
    | true =>
      have hserving₁ : Serving g c.authenticated (watch (tr ++ [.ok (.select c.fd) true])) := by
        rw [watch_snoc]
        exact hserving.same ⟨rfl, rfl, rfl⟩ rfl
      show wpP Watched (handleFrame c >>= pushReading) _ _ g _
      rw [wpP_bind]
      refine wpP_conseq (handleFrame_spec ?_ ?_ hserving₁) ?_ fun _ _ _ h => h
      · rw [watch_snoc]
        rfl
      · rw [watch_snoc]
        rfl
      · rintro tr₂ g₂ c₂ ⟨hfree₂, hserving₂⟩
        exact pushReading_spec hfree₂ hserving₂
  · intro e
    cases e with
    | intr =>
      show wpP Watched (pure c) _ _ g _
      rw [wpP_pure, watch_snoc]
      exact ⟨.settled, hserving.same ⟨rfl, rfl, rfl⟩ rfl⟩
    | other =>
      show wpP Watched (throw Errno.other) _ _ g _
      rw [wpP_throw, watch_snoc]
      exact ⟨.settled, hserving.once⟩

/-- A pass keeps the flags and the observer together; the break out of `serve` closes the
window. -/
theorem turn_spec {stage : Stage} (hfree : Free (watch tr)) (hw : Watching g (watch tr) stage) :
    wpP Watched (turn stage)
      (fun tr' g' stage' => Free (watch tr') ∧ Watching g' (watch tr') stage')
      (fun _ _ _ => False) g tr := by
  cases stage with
  | accepting =>
    simp only [turn, wpP_bind, wpP_outcome, wpP_sys]
    refine ⟨hfree.allowed (by rintro _ ⟨_, ⟨⟩, _⟩), ?_, ?_⟩
    · intro fd
      rw [wpP_pure, watch_snoc]
      refine ⟨⟨(by rintro _ ⟨⟩), rfl⟩, hw.once, ?_, ?_, ?_⟩
      · intro hopen
        have hnone := hw.window hopen
        exact ⟨by show (watch tr).accepted + 1 = 1; rw [hnone.1], hnone.2.1⟩
      · exact fun hopen _ => (hw.window hopen).2.2.1
      · exact fun hopen _ => (hw.window hopen).2.2.2
    · intro e
      cases e with
      | intr =>
        show wpP Watched (pure Stage.accepting) _ _ g _
        rw [wpP_pure, watch_snoc]
        exact ⟨.settled, hw.once, hw.window⟩
      | other =>
        show wpP Watched (pure Stage.exited) _ _ g _
        rw [wpP_pure, watch_snoc]
        exact ⟨.settled, hw.once⟩
  | serving c =>
    simp only [turn, wpP_bind, wpP_outcome]
    refine wpP_conseq (serveOnce_spec hfree hw) (fun _ _ _ h => h) ?_
    rintro tr₁ g₁ e ⟨hfree₁, honce⟩
    simp only [wpP_sysAct, wpP_modify, wpP_pure]
    refine ⟨hfree₁.allowed (by rintro _ ⟨_, ⟨⟩, _⟩), ?_⟩
    intro _
    rw [watch_snoc]
    exact ⟨⟨(by rintro _ ⟨⟩), rfl⟩, honce, (by rintro ⟨⟩)⟩
  | exited => exact ⟨hfree, hw⟩

/-- Any number of passes. -/
theorem process_spec (n : Nat) {stage : Stage} (hfree : Free (watch tr))
    (hw : Watching g (watch tr) stage) :
    wpP Watched (process n stage)
      (fun tr' g' stage' => Free (watch tr') ∧ Watching g' (watch tr') stage')
      (fun _ _ _ => False) g tr := by
  induction n generalizing g tr stage with
  | zero => exact ⟨hfree, hw⟩
  | succ n ih =>
    rw [process, wpP_bind]
    refine wpP_conseq (turn_spec hfree hw) ?_ fun _ _ _ h => h
    intro tr₁ g₁ stage₁ ⟨hfree₁, hw₁⟩
    exact ih hfree₁ hw₁

/-! ## Whole executions -/

/-- One more call adds to the count of secrets exactly when it begins one. -/
theorem Watch.secrets_add (w : Watch) (ev : Event Daemon) :
    (w.add ev).secrets = w.secrets ∨
      (w.add ev).secrets = w.secrets + 1 ∧ ∃ fd, BeginsSecret fd ev.call := by
  have hwrite : ∀ fd buf sent, (w.began buf sent).secrets = w.secrets ∨
      (w.began buf sent).secrets = w.secrets + 1 ∧
        ∃ fd', BeginsSecret fd' (.req (.write fd buf sent)) := by
    intro fd buf sent
    by_cases hbegins : sent = 0 ∧ Opens .secret buf ∧ hdrLen buf ≠ 0
    · refine Or.inr ⟨?_, ?_⟩
      · show w.secrets + _ = w.secrets + 1
        rw [if_pos hbegins]
      · obtain ⟨rfl, hopens, hlen⟩ := hbegins
        exact ⟨fd, buf, rfl, hopens, hlen⟩
    · left
      show w.secrets + _ = w.secrets
      rw [if_neg hbegins, Nat.add_zero]
  cases ev with
  | ok r b =>
    cases r with
    | write fd buf sent => exact hwrite fd buf sent
    | accept => exact Or.inl rfl
    | select fd => exact Or.inl rfl
    | read fd len => exact Or.inl rfl
    | hmac key msg => exact Or.inl rfl
  | refused r e =>
    cases r with
    | write fd buf sent => exact hwrite fd buf sent
    | accept => exact Or.inl rfl
    | select fd => exact Or.inl rfl
    | read fd len => exact Or.inl rfl
    | hmac key msg => exact Or.inl rfl
  | did a b => cases a <;> exact Or.inl rfl

/-- Every call of an execution was allowed when it was made. -/
def AllAllowed (tr : List (Event Daemon)) : Prop :=
  ∀ pre ev post, tr = pre ++ ev :: post → Allowed (watch pre) ev.call

theorem process_allowed {n : Nat} {secret : BytesN sensorSecretSize}
    {rest : Prog Daemon (Except Errno Stage × Globals)}
    (h : Steps ((process n .accepting).go (.boot secret)) tr rest) : AllAllowed tr := by
  rintro pre ev post rfl
  have hstart : Watching (.boot secret) (watch []) .accepting :=
    ⟨Nat.zero_le 1, fun _ => ⟨rfl, rfl, rfl, rfl⟩⟩
  exact wp_asserts_mem h (process_spec n .start hstart)

theorem AllAllowed.once (h : AllAllowed tr) : (watch tr).secrets ≤ 1 := by
  induction tr using List.reverseRecOn with
  | nil => exact Nat.zero_le 1
  | append_singleton tr ev ih =>
    have hpre : (watch tr).secrets ≤ 1 := by
      apply ih
      rintro pre ev' post rfl
      exact h pre ev' (post ++ [ev]) (by simp)
    rw [watch_snoc]
    rcases (watch tr).secrets_add ev with hsame | ⟨hmore, fd, hbegins⟩
    · rw [hsame]
      exact hpre
    · rw [hmore, ((h tr ev [] rfl).begins fd hbegins).2.2.2]

/-- What is half written is written on. -/
theorem AllAllowed.sending {buf : Bytes} (h : AllAllowed tr) (post : List (Event Daemon))
    {pre : List (Event Daemon)} {sent : Nat} (htr : tr = pre ++ post)
    (hnext : ∀ ev post', post = ev :: post' → ev.call = .req (.write fd buf sent)) :
    Sending fd buf sent post := by
  induction post generalizing pre sent with
  | nil => exact .cut
  | cons ev post ih =>
    have hcall := hnext ev post rfl
    cases ev with
    | did a b => cases hcall
    | refused r e =>
      cases hcall
      exact .failed
    | ok r n =>
      cases hcall
      by_cases hstuck : n.1 = 0
      · exact .stuck hstuck
      · refine .more ?_
        by_cases hmore : sent + n.1 < buf.length
        · refine @ih (pre ++ [.ok (.write fd buf sent) n]) _ (by rw [htr]; simp) ?_
          rintro ev' post' rfl
          refine (h (pre ++ [.ok (.write fd buf sent) n]) ev' post' (by rw [htr]; simp)).finishes
            fd buf (sent + n.1) ?_
          rw [watch_snoc]
          exact if_pos ⟨Nat.pos_of_ne_zero hstuck, hmore⟩
        · exact .sent (Nat.le_of_not_lt hmore)

/-- The secret is served at most once, to the first peer, before any challenge. -/
structure ServedOnce (tr : List (Event Daemon)) : Prop where
  once : (watch tr).secrets ≤ 1
  /-- When a SECRET frame with a payload is begun, the only connection accepted so far is open,
  and no challenge was answered on it. -/
  first : ∀ pre ev post fd, tr = pre ++ ev :: post → BeginsSecret fd ev.call →
    (watch pre).accepted = 1 ∧ (watch pre).closed = 0 ∧ (watch pre).answers = 0
  /-- A well-formed request that does not make it begin one gets an empty SECRET frame. -/
  refused : ∀ pre ev post fd, tr = pre ++ ev :: post →
    (watch pre).heard = some (fd, secretRequest) →
    BeginsSecret fd ev.call ∨ Sending fd LinkFrame.refusal.bytes 0 (ev :: post)

theorem secret_served_once (n : Nat) (secret : BytesN sensorSecretSize)
    {rest : Prog Daemon (Except Errno Stage × Globals)}
    (h : Steps ((process n .accepting).go (.boot secret)) tr rest) : ServedOnce tr := by
  have hall := process_allowed h
  refine ⟨hall.once, ?_, ?_⟩
  · rintro pre ev post fd rfl hbegins
    obtain ⟨hacc, hclosed, hans, -⟩ := (hall pre ev post rfl).begins fd hbegins
    exact ⟨hacc, hclosed, hans⟩
  · intro pre ev post fd htr hheard
    rcases (hall pre ev post htr).answers fd hheard with hrefusal | hbegins
    · right
      refine hall.sending (ev :: post) htr ?_
      rintro ev' post' heq
      cases heq
      exact hrefusal
    · exact Or.inl hbegins

end

/-- A peer that asks for the secret again and again, one byte at a time. -/
def asking (_ : Nat) : (c : Call Daemon) → c.Ans
  | .req .accept => .ok (3 : Nat)
  | .req (.select _) => .ok true
  | .req (.read _ len) => .ok ⟨[secretRequest.getD (frameHdrSize - len) 0].take len, by simp⟩
  | .req (.write _ buf sent) => .ok ⟨buf.length - sent, le_refl _⟩
  | .req (.hmac _ _) => .ok ([] : Bytes)
  | .act .time => (0 : Int)
  | .act (.close _) => ()

/-- One connection, three requests. -/
def askedThrice : List (Event Daemon) :=
  (exec asking 0 ((process 4 .accepting).go (.boot ⟨List.replicate 32 7, rfl⟩))).1

theorem secret_served_once_asked : (watch askedThrice).secrets = 1 ∧ ServedOnce askedThrice :=
  ⟨by decide +kernel, secret_served_once 4 ⟨List.replicate 32 7, rfl⟩ (exec_runs asking 0 _)⟩

end ConfidentialIoT
