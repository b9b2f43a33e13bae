import ConfidentialIoT.Host.Talk
import ConfidentialIoT.Lib.Following

/-!
# `Host/Pairing.lean` — whose reply is it

Replies carry no number. The device takes the next line of its connection for the reply to what it
has just sent; the server answers readings too, and those answers the device never reads. So a
reply that the device reads is the one to the message that stands where it stands, counted from
the beginning of the connection, and that is the message it has just sent exactly as long as no
reading was sent before (`replies_paired`).

What it takes for a challenge after a reading is the answer to the reading, which is none. A
connection that readings went over never gives another session (`evidence_before_readings`).
-/

set_option autoImplicit false

namespace ConfidentialIoT

open Effects

/-! ## What a thread of the server does -/

def lineRead : Event Uplink → Option Bytes
  | .did .readline line => line
  | _ => none

def replyWritten : Event Uplink → Option JsonValue
  | .did (.server (.writeline reply)) _ => some reply
  | _ => none

/-- The lines that were read. -/
def linesOf (tr : List (Event Uplink)) : List Bytes := tr.filterMap lineRead

/-- The replies that were written. -/
def answersOf (tr : List (Event Uplink)) : List JsonValue := tr.filterMap replyWritten

theorem linesOf_append (tr tr' : List (Event Uplink)) :
    linesOf (tr ++ tr') = linesOf tr ++ linesOf tr' := List.filterMap_append

theorem answersOf_append (tr tr' : List (Event Uplink)) :
    answersOf (tr ++ tr') = answersOf tr ++ answersOf tr' := List.filterMap_append

theorem linesOf_server (tr : List (Event Server)) : linesOf (tr.map serverPart.event) = [] := by
  induction tr with
  | nil => rfl
  | cons ev tr ih =>
    cases ev with
    | ok r b => cases r
    | refused r e => cases r
    | did a b => exact ih

theorem answersOf_server (tr : List (Event Server)) :
    answersOf (tr.map serverPart.event) = repliesOf tr := by
  induction tr with
  | nil => rfl
  | cons ev tr ih =>
    cases ev with
    | ok r b => cases r
    | refused r e => cases r
    | did a b =>
      cases a with
      | writeline reply => exact congrArg (reply :: ·) ih
      | _ => exact ih

/-- What a line can be replied. -/
def ReplyTo (d : Deployment) (line : Bytes) (reply : JsonValue) : Prop :=
  ∃ conn tr conn', Handled d.rt d.C d.identity conn line tr conn' ∧ reply ∈ repliesOf tr

/-- A thread writes a reply when it has read a line that it has not answered. -/
def ThreadCalls (d : Deployment) (tr : List (Event Uplink)) : Call Uplink → Prop
  | .act (.edge _) => False
  | .act (.server (.writeline reply)) => ∃ before line after,
      tr = before ++ .did .readline (some line) :: after ∧ linesOf after = [] ∧ answersOf after = [] ∧
        (linesOf before).length = (answersOf before).length ∧ ReplyTo d line reply
  | _ => True

/-- A thread that serves on has answered each line. -/
def ThreadRests : PartyMem → List (Event Uplink) → Prop
  | .thread conn, tr => conn.closed = false → (linesOf tr).length = (answersOf tr).length
  | _, _ => False

section

variable {d : Deployment}

/-- A line has one reply, or it is the last one. -/
theorem linkJob_replies {line : Option Bytes} {conn : Connection} (live : conn.closed = false)
    {tr : List (Event Server)} {r : Except PyError Unit × Connection}
    (h : Runs ((linkJob d.rt d.C d.identity (.line line)).go conn) tr r) :
    (r.2.closed = true ∧ repliesOf tr = []) ∨
      ∃ l reply, line = some l ∧ repliesOf tr = [reply] ∧ ReplyTo d l reply := by
  have hhang : ∀ {conn : Connection} {tr : List (Event Server)}, HangsUp conn tr → repliesOf tr = [] := by
    intro conn tr h
    cases h <;> rfl
  have hspec := wp_runs h (linkJob_spec (.line line) conn)
  obtain ⟨r, conn'⟩ := r
  cases r with
  | error e => exact hspec.elim
  | ok u =>
    have hserved : Served d.rt d.C d.identity conn (.line line) tr conn' := hspec
    cases hserved with
    | closed _ hclosed =>
      rw [live] at hclosed
      cases hclosed
    | handled _ handled =>
      obtain ⟨reply, hreply⟩ := handled.one_reply
      exact Or.inr ⟨_, reply, rfl, hreply, conn, tr, conn', handled, by simp [hreply]⟩
    | escaped _ escapes hangs =>
      left
      refine ⟨rfl, ?_⟩
      rw [repliesOf_append, escapes.writes, hhang hangs]
      rfl
    | ended _ hangs => exact Or.inl ⟨rfl, hhang hangs⟩

theorem serverCode_answers {line : Option Bytes} {conn : Connection} (live : conn.closed = false)
    {tr : List (Event Uplink)} (h : (linesOf tr).length = (answersOf tr).length) :
    wp (ThreadCalls d) (d.serverCode (.line line) conn)
      (fun tr' conn' => ThreadRests (.thread conn') tr') (tr ++ [.did .readline line]) := by
  rw [← List.append_nil (tr ++ [Event.did (S := Uplink) UplinkAct.readline line])]
  apply wp_behind
  rw [Deployment.serverCode, wp_bind]
  apply Embedding.wp_embed_nil
  apply wp_of_completions server_answers
  · intro before ev after r hruns
    cases ev with
    | ok r b => cases r
    | refused r e => cases r
    | did a b =>
      cases a with
      | writeline reply =>
        -- nothing else was written in this job, and there was a line
        have hcons : repliesOf (.did (.writeline reply) b :: after) = reply :: repliesOf after := rfl
        rcases linkJob_replies live hruns with ⟨-, hnone⟩ | ⟨line, one, rfl, hone, hreply⟩
        · simp [repliesOf] at hnone
        · rw [repliesOf_append, hcons] at hone
          have hbefore : repliesOf before = [] := by
            have hlen := congrArg List.length hone
            rw [List.length_append, List.length_cons, List.length_singleton] at hlen
            exact List.length_eq_zero_iff.mp (by omega)
          rw [hbefore] at hone
          obtain rfl : reply = one := (List.cons.inj hone).1
          refine ⟨tr, line, before.map serverPart.event, by simp, linesOf_server before, ?_, h, hreply⟩
          rw [answersOf_server, hbefore]
      | _ => trivial
  · intro tr' r hruns hclosed
    rcases linkJob_replies live hruns with ⟨hshut, -⟩ | ⟨line, reply, rfl, hone, -⟩
    · rw [hclosed] at hshut
      cases hshut
    · simp only [linesOf_append, answersOf_append, List.nil_append, linesOf_server, answersOf_server,
        hone, List.length_append, h]
      rfl

theorem code_answers (job : UplinkJob) (mem : PartyMem) (tr : List (Event Uplink))
    (h : ThreadRests mem tr) :
    wp (ThreadCalls d) (d.code job mem) (fun tr' mem' => ThreadRests mem' tr') tr := by
  match job, mem with
  | .turn, .thread conn =>
    show wp (ThreadCalls d) (d.threadCode conn) _ tr
    unfold Deployment.threadCode
    by_cases hclosed : conn.closed = true
    · rw [if_pos hclosed]
      exact h
    · rw [if_neg hclosed]
      have live : conn.closed = false := Bool.eq_false_iff.mpr hclosed
      refine ⟨trivial, fun line => ?_⟩
      rw [wp_bind]
      exact serverCode_answers live (h live)
  | .serve _, .thread conn => exact h
  | _, .device _ _ => exact h.elim
  | _, .other _ => exact h.elim

/-! ## Who makes which calls -/

/-- The device's calls, after what it has done. -/
def DeviceCalls (tr : List (Event Uplink)) : Call Uplink → Prop
  | .act (.edge a) => ∃ tr', tr = tr'.map edgePart.event ∧ TalkCalls tr' (.act a)
  | _ => False

def DeviceRests : PartyMem → List (Event Uplink) → Prop
  | .device g _, tr => ∃ tr', tr = tr'.map edgePart.event ∧ Ready g tr'
  | _, _ => False

theorem code_speaks (job : UplinkJob) (mem : PartyMem) (tr : List (Event Uplink))
    (h : DeviceRests mem tr) :
    wp DeviceCalls (d.code job mem) (fun tr' mem' => DeviceRests mem' tr') tr := by
  match job, mem with
  | .turn, .device g phase =>
    obtain ⟨tr', rfl, hready⟩ := h
    show wp DeviceCalls (d.deviceCode g phase) _ _
    rw [Deployment.deviceCode, wp_bind]
    apply Embedding.wp_embed
    refine wp_mono ?_ ?_ (@mainLoop_speaks d.lib d.deviceId _ _ phase hready)
    · intro tr q hspeaks
      cases q with
      | req r => cases r
      | act a => exact ⟨tr, rfl, hspeaks⟩
    · rintro tr ⟨r, g'⟩ hready'
      cases r with
      | error e => exact hready'.elim
      | ok phase' => exact ⟨tr, rfl, hready'⟩
  | .serve _, .device g phase => exact h
  | _, .thread _ => exact h.elim
  | _, .other _ => exact h.elim

/-- Threads that serve somebody else make calls of the server. -/
def OtherCalls (_ : List (Event Uplink)) : Call Uplink → Prop
  | .act (.server _) => True
  | _ => False

def OtherRests : PartyMem → List (Event Uplink) → Prop
  | .other _, _ => True
  | _, _ => False

theorem code_others (job : UplinkJob) (mem : PartyMem) (tr : List (Event Uplink))
    (h : OtherRests mem tr) :
    wp OtherCalls (d.code job mem) (fun tr' mem' => OtherRests mem' tr') tr := by
  match job, mem with
  | .serve job, .other conn =>
    show wp OtherCalls (d.serverCode job conn >>= _) _ tr
    rw [← List.append_nil tr]
    apply wp_behind
    rw [wp_bind, Deployment.serverCode, wp_bind]
    apply Embedding.wp_embed_nil
    apply wp_trivial
    · intro tr q
      cases q with
      | req r => cases r
      | act a => trivial
    · intro tr r
      trivial
  | .turn, .other conn => trivial
  | _, .device _ _ => exact h.elim
  | _, .thread _ => exact h.elim

end

/-! ## A connection, seen from both ends -/

/-- A reply is the next one that the thread wrote after it had read a line, and one to it. -/
def AnswersTo (d : Deployment) (line : Bytes) (reply : JsonValue) (tr : List (Event Uplink)) : Prop :=
  ReplyTo d line reply ∧ ∃ before mid after, tr = before ++ .did .readline (some line) :: mid ++
    .did (.server (.writeline reply)) () :: after ∧ linesOf mid = [] ∧ answersOf mid = []

theorem AnswersTo.snoc {d : Deployment} {line : Bytes} {reply : JsonValue} {tr : List (Event Uplink)}
    (h : AnswersTo d line reply tr) (ev : Event Uplink) : AnswersTo d line reply (tr ++ [ev]) := by
  obtain ⟨hreply, before, mid, after, rfl, hlines, hanswers⟩ := h
  exact ⟨hreply, before, mid, after ++ [ev], by simp, hlines, hanswers⟩

/-- What the thread has done with the lines and the replies. -/
structure Wire.Served (w : Wire) (d : Deployment) (tr : List (Event Uplink)) : Prop where
  lines : linesOf tr = w.sent.take w.taken
  taken : w.taken ≤ w.sent.length
  written : (answersOf tr).length = w.replies.length
  replies : ∀ (j k : Nat) (reply : JsonValue), w.replies[j]? = some (k, reply) →
    ∃ line, w.sent[j]? = some line ∧ AnswersTo d line reply tr

/-- What the device has done with them. -/
structure Wire.Spoken (w : Wire) (lib : HostLib) (t : Talk) : Prop where
  sent : t.sent.map lib.printUnformatted <+: w.sent
  whole : t.live = true → w.sent = t.sent.map lib.printUnformatted
  heard : t.heard = w.read

section

variable {d : Deployment} {w : Wire} {tr : List (Event Uplink)}

/-- More lines. -/
theorem Wire.Served.send (h : w.Served d tr) (more : List Bytes) :
    Wire.Served { w with sent := w.sent ++ more } d tr := by
  refine ⟨?_, ?_, h.written, ?_⟩
  · exact h.lines.trans (List.take_append_of_le_length h.taken).symm
  · exact h.taken.trans (by simp)
  · intro j k reply hj
    obtain ⟨line, hline, hanswers⟩ := h.replies j k reply hj
    exact ⟨line, List.getElem?_append_left (List.getElem?_eq_some_iff.mp hline).1 ▸ hline, hanswers⟩

/-- The thread reads a line. -/
theorem Wire.Served.read (h : w.Served d tr) {line : Bytes} (hnext : w.sent[w.taken]? = some line) :
    Wire.Served { w with taken := w.taken + 1 } d (tr ++ [.did .readline (some line)]) := by
  refine ⟨?_, ?_, ?_, ?_⟩
  · rw [linesOf_append, h.lines, List.take_add_one, hnext]
    rfl
  · exact (List.getElem?_eq_some_iff.mp hnext).1
  · have hnone : answersOf [Event.did (S := Uplink) UplinkAct.readline (some line)] = [] := rfl
    rw [answersOf_append, hnone, List.append_nil]
    exact h.written
  · intro j k reply hj
    obtain ⟨line', hline, hanswers⟩ := h.replies j k reply hj
    exact ⟨line', hline, hanswers.snoc _⟩

/-- The thread does something that is no line and no reply. -/
theorem Wire.Served.pass (h : w.Served d tr) {ev : Event Uplink} (hline : lineRead ev = none)
    (hreply : replyWritten ev = none) : w.Served d (tr ++ [ev]) := by
  refine ⟨?_, h.taken, ?_, ?_⟩
  · rw [linesOf_append, h.lines]
    simp [linesOf, hline]
  · rw [answersOf_append]
    simpa [answersOf, hreply] using h.written
  · intro j k reply hj
    obtain ⟨line, hline, hanswers⟩ := h.replies j k reply hj
    exact ⟨line, hline, hanswers.snoc _⟩

/-- The thread replies: to the line that stands where the reply will stand. -/
theorem Wire.Served.reply (h : w.Served d tr) {reply : JsonValue} {k : Nat}
    (hcall : ThreadCalls d tr (.act (.server (.writeline reply)))) :
    Wire.Served { w with replies := w.replies ++ [(k, reply)] } d
      (tr ++ [.did (.server (.writeline reply)) ()]) := by
  obtain ⟨before, line, after, rfl, hlines, hanswers, hsame, hreply⟩ := hcall
  have hread : linesOf (before ++ .did .readline (some line) :: after) =
      linesOf before ++ [line] := by
    rw [linesOf_append]
    simp only [linesOf, List.filterMap_cons, lineRead] at hlines ⊢
    rw [hlines]
  have hwrote : answersOf (before ++ .did .readline (some line) :: after) = answersOf before := by
    rw [answersOf_append]
    simp only [answersOf, List.filterMap_cons, replyWritten] at hanswers ⊢
    rw [hanswers, List.append_nil]
  have hplace : w.replies.length = (linesOf before).length := by
    rw [hsame, ← hwrote, h.written]
  refine ⟨?_, h.taken, ?_, ?_⟩
  · rw [linesOf_append, h.lines]
    simp [linesOf, lineRead]
  · rw [answersOf_append, List.length_append, h.written]
    simp [answersOf, replyWritten]
  · intro j k' reply' hj
    rcases Nat.lt_or_ge j w.replies.length with hlt | hge
    · rw [List.getElem?_append_left hlt] at hj
      obtain ⟨line', hline, hanswer⟩ := h.replies j k' reply' hj
      exact ⟨line', hline, hanswer.snoc _⟩
    · obtain ⟨rfl, rfl⟩ : j = w.replies.length ∧ reply = reply' := by
        have hbound := (List.getElem?_eq_some_iff.mp hj).1
        rw [List.length_append, List.length_singleton] at hbound
        obtain rfl : j = w.replies.length := by omega
        rw [List.getElem?_concat_length] at hj
        exact ⟨rfl, congrArg Prod.snd (Option.some.inj hj)⟩
      have hline : (linesOf before ++ [line])[w.replies.length]? = some line := by
        rw [hplace, List.getElem?_concat_length]
      rw [← hread, h.lines] at hline
      refine ⟨line, ?_, hreply, before, after, [], by simp, hlines, hanswers⟩
      rw [List.getElem?_take] at hline
      split at hline
      · exact hline
      · cases hline

end


/-- A connection in a history: what the device and the thread have done, on what there is. -/
structure Aligned (d : Deployment) (n : Nat) (dev : List (Event Edge)) (srv : List (Event Uplink))
    (s : UplinkState) : Prop where
  served : (s.wires n).Served d srv
  spoken : (s.wires n).Spoken d.lib (talk n dev)
  unopened : s.opened ≤ n → talk n dev = .unconnected ∧ (s.wires n).sent = [] ∧ (s.wires n).read = 0

section

variable {d : Deployment} {n : Nat} {dev : List (Event Edge)} {srv : List (Event Uplink)}
  {s s' : UplinkState} {i : Party}

/-- Whoever speaks on a connection has opened it. -/
theorem Aligned.opened (h : Aligned d n dev srv s) (live : (talk n dev).live = true) :
    n < s.opened := by
  by_contra hlt
  rw [(h.unopened (not_lt.mp hlt)).1] at live
  cases live

/-- A step that leaves the connection alone. -/
theorem Aligned.keep {dev' : List (Event Edge)} {srv' : List (Event Uplink)}
    (h : Aligned d n dev srv s) (hwire : s'.wires n = s.wires n) (hopened : s.opened ≤ s'.opened)
    (htalk : talk n dev' = talk n dev)
    (hserved : (s.wires n).Served d srv → (s.wires n).Served d srv') :
    Aligned d n dev' srv' s' := by
  refine ⟨?_, ?_, ?_⟩
  · rw [hwire]
    exact hserved h.served
  · rw [hwire, htalk]
    exact h.spoken
  · intro hn
    rw [hwire, htalk]
    exact h.unopened (hopened.trans hn)

/-- The device makes a call. -/
theorem Aligned.device (h : Aligned d n dev srv s) {a : EdgeAct} {b : a.Res}
    (speaks : TalkCalls dev (.act a)) (step : UplinkStep d i s (.did (.edge a) b) s') :
    Aligned d n (dev ++ [.did a b]) srv s' := by
  generalize hev : (Event.did (UplinkAct.edge a) b : Event Uplink) = ev at step
  cases step with
  | connected t _ =>
    cases hev
    by_cases hn : s.opened = n
    · subst hn
      obtain ⟨-, hsent, hread⟩ := h.unopened (Nat.le_refl _)
      have htalk : talk s.opened (dev ++ [.did .connect (some s.opened)]) = .connected := by
        rw [talk_snoc]
        simp [Talk.next]
      refine ⟨h.served, ?_, ?_⟩
      · rw [htalk]
        exact ⟨List.nil_prefix, fun _ => hsent, hread.symm⟩
      · intro hle
        exact absurd hle (Nat.not_succ_le_self _)
    · refine h.keep rfl (Nat.le_succ _) ?_ id
      rw [talk_snoc]
      simp [Talk.next, hn]
  | unconnected t _ =>
    cases hev
    refine h.keep rfl (Nat.le_refl _) ?_ id
    rw [talk_snoc]
    rfl
  | sent t _ m msg hopen =>
    cases hev
    by_cases hm : m = n
    · subst hm
      have htalk : talk m (dev ++ [.did (.send m msg) true]) =
          { talk m dev with sent := (talk m dev).sent ++ [msg] } := by
        rw [talk_snoc]
        simp [Talk.next]
      have hwhole := h.spoken.whole speaks
      refine ⟨?_, ?_, ?_⟩
      · rw [UplinkState.setWire_self]
        exact h.served.send _
      · rw [UplinkState.setWire_self, htalk]
        have hboth : (s.wires m).sent ++ [d.lib.printUnformatted msg] =
            ((talk m dev).sent ++ [msg]).map d.lib.printUnformatted := by
          rw [hwhole, List.map_append, List.map_singleton]
        exact ⟨by rw [hboth], fun _ => hboth, h.spoken.heard⟩
      · intro hle
        exact absurd hopen (not_lt.mpr hle)
    · refine h.keep (UplinkState.setWire_ne _ _ (Ne.symm hm)) (Nat.le_refl _) ?_ id
      rw [talk_snoc]
      simp [Talk.next, hm]
  | unsent t _ m msg part _ =>
    cases hev
    by_cases hm : m = n
    · subst hm
      have htalk : talk m (dev ++ [.did (.send m msg) false]) = { talk m dev with live := false } := by
        rw [talk_snoc]
        simp [Talk.next]
      refine ⟨?_, ?_, ?_⟩
      · rw [UplinkState.setWire_self]
        exact h.served.send _
      · rw [UplinkState.setWire_self, htalk]
        refine ⟨?_, ?_, h.spoken.heard⟩
        · exact h.spoken.sent.trans (List.prefix_append _ _)
        · intro hlive
          cases hlive
      · intro hle
        exact absurd (h.opened speaks) (not_lt.mpr hle)
    · refine h.keep (UplinkState.setWire_ne _ _ (Ne.symm hm)) (Nat.le_refl _) ?_ id
      rw [talk_snoc]
      simp [Talk.next, hm]
  | received t _ m k reply hnext =>
    cases hev
    by_cases hm : m = n
    · subst hm
      refine ⟨?_, ?_, ?_⟩
      · rw [UplinkState.setWire_self]
        exact ⟨h.served.lines, h.served.taken, h.served.written, h.served.replies⟩
      · rw [UplinkState.setWire_self, talk_snoc, Talk.next_recv]
        exact ⟨h.spoken.sent, h.spoken.whole, congrArg (· + 1) h.spoken.heard⟩
      · intro hle
        exact absurd (h.opened speaks.live) (not_lt.mpr hle)
    · refine h.keep (UplinkState.setWire_ne _ _ (Ne.symm hm)) (Nat.le_refl _) ?_ id
      rw [talk_snoc]
      simp [Talk.next, hm]
  | unreceived t _ m =>
    cases hev
    refine h.keep rfl (Nat.le_refl _) ?_ id
    rw [talk_snoc]
    rfl
  | closed t _ m =>
    cases hev
    have htalk : talk n (dev ++ [.did (.close m) ()]) = talk n dev := by
      rw [talk_snoc]
      rfl
    by_cases hm : m = n
    · subst hm
      refine ⟨?_, ?_, ?_⟩
      · rw [UplinkState.setWire_self]
        exact ⟨h.served.lines, h.served.taken, h.served.written, h.served.replies⟩
      · rw [UplinkState.setWire_self, htalk]
        exact ⟨h.spoken.sent, h.spoken.whole, h.spoken.heard⟩
      · intro hle
        rw [UplinkState.setWire_self, htalk]
        exact h.unopened hle
    · exact h.keep (UplinkState.setWire_ne _ _ (Ne.symm hm)) (Nat.le_refl _) htalk id
  | told t _ =>
    cases hev
    refine h.keep rfl (Nat.le_refl _) ?_ id
    rw [talk_snoc]
    rfl
  | secure t _ a' ha b' =>
    cases hev
    refine h.keep rfl (Nat.le_refl _) ?_ id
    rw [talk_snoc]
    cases a with
    | generateEvidence _ _ | attestationReport _ | handshakeComplete _ _ _ _ | readAndProtect => rfl
    | _ => cases ha
  | line _ _ _ _ => cases hev
  | ended _ _ _ => cases hev
  | served _ _ e _ _ _ =>
    cases e with
    | ok r b => cases r
    | refused r e => cases r
    | did a' b' => cases hev

/-- Its thread makes a call. -/
theorem Aligned.thread {ev : Event Uplink} (h : Aligned d n dev srv s)
    (answers : ThreadCalls d srv ev.call) (step : UplinkStep d (.thread n) s ev s') :
    Aligned d n dev (srv ++ [ev]) s' := by
  generalize hi : Party.thread n = i at step
  cases step with
  | line t _ line hnext =>
    cases hi
    refine ⟨?_, ?_, ?_⟩
    · rw [UplinkState.setWire_self]
      exact h.served.read hnext
    · rw [UplinkState.setWire_self]
      exact ⟨h.spoken.sent, h.spoken.whole, h.spoken.heard⟩
    · intro hle
      rw [UplinkState.setWire_self]
      exact h.unopened hle
  | ended t _ _ =>
    exact h.keep rfl (Nat.le_refl _) rfl fun hserved => hserved.pass rfl rfl
  | served t _ e server' _ _ =>
    subst hi
    cases e with
    | ok r b => cases r
    | refused r e => cases r
    | did a b =>
      cases a with
      | writeline reply =>
        have hwires : written (.thread n) (.did (.writeline reply) b) s.wires =
            Function.update s.wires n
              { s.wires n with replies := (s.wires n).replies ++ [((s.wires n).taken, reply)] } := rfl
        refine ⟨?_, ?_, ?_⟩
        · show ((written (.thread n) (.did (.writeline reply) b) s.wires) n).Served d _
          rw [hwires, Function.update_self]
          exact h.served.reply answers
        · show ((written (.thread n) (.did (.writeline reply) b) s.wires) n).Spoken _ _
          rw [hwires, Function.update_self]
          exact ⟨h.spoken.sent, h.spoken.whole, h.spoken.heard⟩
        · intro hle
          show _ ∧ ((written (.thread n) (.did (.writeline reply) b) s.wires) n).sent = [] ∧
            ((written (.thread n) (.did (.writeline reply) b) s.wires) n).read = 0
          rw [hwires, Function.update_self]
          exact h.unopened hle
      | _ => exact h.keep rfl (Nat.le_refl _) rfl fun hserved => hserved.pass rfl rfl
  | _ => exact answers.elim

/-- Somebody else does, who is not the device. -/
theorem Aligned.elsewhere {ev : Event Uplink} (h : Aligned d n dev srv s) (hi : i ≠ .thread n)
    (hev : ∀ a, ev.call ≠ .act (.edge a)) (step : UplinkStep d i s ev s') :
    Aligned d n dev srv s' := by
  cases step with
  | @line m _ t _ line hnext =>
    refine h.keep (UplinkState.setWire_ne _ _ ?_) (Nat.le_refl _) rfl id
    rintro rfl
    exact hi rfl
  | ended t _ _ => exact h.keep rfl (Nat.le_refl _) rfl id
  | served t _ e server' _ _ =>
    refine h.keep ?_ (Nat.le_refl _) rfl id
    rcases written_cases i e s.wires with hsame | ⟨m, reply, rfl, -, hupdate⟩
    · exact congrFun hsame n
    · refine (congrFun hupdate n).trans (Function.update_of_ne ?_ _ _)
      rintro rfl
      exact hi rfl
  | _ => exact absurd rfl (hev _)

end

/-! ## Runs -/

/-- A call of the device, in the joint history. -/
def toEdge : Event Uplink → Option (Event Edge)
  | .did (.edge a) b => some (.did a b)
  | _ => none

theorem filterMap_toEdge (tr : List (Event Edge)) : (tr.map edgePart.event).filterMap toEdge = tr := by
  induction tr with
  | nil => rfl
  | cons ev tr ih =>
    cases ev with
    | ok r b => cases r
    | refused r e => cases r
    | did a b => exact congrArg (.did a b :: ·) ih

/-- What the device has done. -/
def edgeEvents {d : Deployment} (ls : List (UplinkLabel d)) : List (Event Edge) :=
  (Pool.eventsOf .device ls).filterMap toEdge

section

variable {d : Deployment} {P : UplinkConfig d → UplinkLabel d → Prop} {c₀ c : UplinkConfig d}
  {ls : List (UplinkLabel d)}

theorem device_speaks (run : Pool.Run (UplinkStep d) P c₀ ls c) (starts : c₀.Starts) :
    Pool.Follows DeviceCalls DeviceRests (c.agents .device) (Pool.eventsOf .device ls) := by
  apply run.follows ?_ code_speaks
  rw [starts.device]
  refine ⟨[], rfl, ?_⟩
  intro n hconn
  cases hconn

theorem thread_answers (run : Pool.Run (UplinkStep d) P c₀ ls c) (starts : c₀.Starts) (n : Nat) :
    Pool.Follows (ThreadCalls d) ThreadRests (c.agents (.thread n)) (Pool.eventsOf (.thread n) ls) := by
  apply run.follows ?_ code_answers
  rw [starts.threads n]
  intro _
  rfl

theorem others_serve (run : Pool.Run (UplinkStep d) P c₀ ls c) (starts : c₀.Starts) (k : Nat) :
    Pool.Follows OtherCalls OtherRests (c.agents (.other k)) (Pool.eventsOf (.other k) ls) := by
  apply run.follows ?_ code_others
  rw [starts.others k]
  trivial

theorem edgeEvents_did (ls : List (UplinkLabel d)) (a : EdgeAct) (b : a.Res) :
    edgeEvents (ls ++ [.did .device (.did (.edge a) b)]) = edgeEvents ls ++ [.did a b] := by
  simp [edgeEvents, Pool.eventsOf, toEdge]

theorem eventsOf_snoc_other {i j : Party} (ls : List (UplinkLabel d)) {ev : Event Uplink} (h : j ≠ i) :
    Pool.eventsOf i (ls ++ [.did j ev]) = Pool.eventsOf i ls := by
  simp [Pool.eventsOf, h]

theorem eventsOf_snoc_self (i : Party) (ls : List (UplinkLabel d)) (ev : Event Uplink) :
    Pool.eventsOf i (ls ++ [.did i ev]) = Pool.eventsOf i ls ++ [ev] := by
  simp [Pool.eventsOf]

/-- **Both ends of a connection fit together**, throughout a run. -/
theorem run_aligned (run : Pool.Run (UplinkStep d) P c₀ ls c) (starts : c₀.Starts) (n : Nat) :
    Aligned d n (edgeEvents ls) (Pool.eventsOf (.thread n) ls) c.shared := by
  refine run.invariant (I := fun ls c =>
    Aligned d n (edgeEvents ls) (Pool.eventsOf (.thread n) ls) c.shared) ?_ ?_
  · obtain ⟨registry, clock, hshared⟩ := starts.shared
    rw [hshared]
    refine ⟨⟨rfl, Nat.le_refl _, rfl, ?_⟩, ⟨List.prefix_rfl, fun _ => rfl, rfl⟩,
      fun _ => ⟨rfl, rfl, rfl⟩⟩
    intro j k reply hj
    cases hj
  · intro ls c l c' run ih step _
    cases l with
    | started i job =>
      have hshared : c'.shared = c.shared := by
        cases step with
        | start _ _ => rfl
      rw [hshared]
      have hevents : ∀ j, Pool.eventsOf j (ls ++ [Pool.Label.started i job]) = Pool.eventsOf j ls := by
        intro j
        simp [Pool.eventsOf]
      rw [edgeEvents, hevents, hevents]
      exact ih
    | returned i job mem log out =>
      have hshared : c'.shared = c.shared := by
        cases step with
        | finish _ => rfl
      rw [hshared]
      have hevents : ∀ j, Pool.eventsOf j (ls ++ [Pool.Label.returned i job mem log out]) =
          Pool.eventsOf j ls := by
        intro j
        simp [Pool.eventsOf]
      rw [edgeEvents, hevents, hevents]
      exact ih
    | did i ev =>
      have hanswered := step.answered
      cases i with
      | device =>
        rw [eventsOf_snoc_other ls (by simp)]
        have hasserted := step.asserted (device_speaks run starts)
        cases ev with
        | ok r b => cases r
        | refused r e => cases r
        | did a b =>
          cases a with
          | edge a =>
            obtain ⟨tr, htr, hspeaks⟩ := hasserted
            have hedge : edgeEvents ls = tr := by
              rw [edgeEvents, htr, filterMap_toEdge]
            rw [edgeEvents_did, hedge]
            rw [hedge] at ih
            exact ih.device hspeaks hanswered
          | server a => exact hasserted.elim
          | readline => exact hasserted.elim
      | thread m =>
        have hsame : edgeEvents (ls ++ [.did (.thread m) ev]) = edgeEvents ls := by
          rw [edgeEvents, eventsOf_snoc_other ls (by simp)]
          rfl
        have hasserted := step.asserted (thread_answers run starts m)
        rw [hsame]
        by_cases hm : m = n
        · subst hm
          rw [eventsOf_snoc_self]
          exact ih.thread hasserted hanswered
        · have hne : Party.thread m ≠ .thread n := fun h => hm (Party.thread.inj h)
          rw [eventsOf_snoc_other ls hne]
          apply ih.elsewhere hne ?_ hanswered
          intro a hcall
          rw [hcall] at hasserted
          exact hasserted
      | other k =>
        have hsame : edgeEvents (ls ++ [.did (.other k) ev]) = edgeEvents ls := by
          rw [edgeEvents, eventsOf_snoc_other ls (by simp)]
          rfl
        have hasserted := step.asserted (others_serve run starts k)
        rw [hsame, eventsOf_snoc_other ls (by simp)]
        apply ih.elsewhere (by simp) ?_ hanswered
        intro a hcall
        rw [hcall] at hasserted
        exact hasserted

theorem UplinkStep.received_next {i : Party} {s s' : UplinkState} {n : Nat} {reply : JsonValue}
    (h : UplinkStep d i s (.did (.edge (.recv n)) (some reply)) s') :
    ∃ k, (s.wires n).replies[(s.wires n).read]? = some (k, reply) := by
  generalize hev : (Event.did (.edge (.recv n)) (some reply) : Event Uplink) = ev at h
  cases h with
  | received t _ m k reply' hnext =>
    cases hev
    exact ⟨k, hnext⟩
  | secure _ _ a ha b =>
    cases hev
    cases ha
  | served _ _ e _ _ _ =>
    cases e with
    | ok r b => cases r
    | refused r e => cases r
    | did a' b' => cases hev
  | _ => cases hev

/-- What the device reads is what the thread wrote for the message that stands there. -/
theorem reply_paired (run : Pool.Run (UplinkStep d) P c₀ ls c) (starts : c₀.Starts) {n : Nat}
    {reply : JsonValue} {c' : UplinkConfig d}
    (step : Pool.Step (UplinkStep d) c (.did .device (.did (.edge (.recv n)) (some reply))) c') :
    (talk n (edgeEvents ls)).Asked ∧
      ∃ msg, (talk n (edgeEvents ls)).sent[(talk n (edgeEvents ls)).heard]? = some msg ∧
        AnswersTo d (d.lib.printUnformatted msg) reply (Pool.eventsOf (.thread n) ls) := by
  have haligned := run_aligned run starts n
  obtain ⟨tr, htr, hasked⟩ := step.asserted (device_speaks run starts)
  have hedge : edgeEvents ls = tr := by
    rw [edgeEvents, htr, filterMap_toEdge]
  subst hedge
  have hasked : (talk n (edgeEvents ls)).Asked := hasked
  refine ⟨hasked, ?_⟩
  have hlt : (talk n (edgeEvents ls)).heard < (talk n (edgeEvents ls)).sent.length :=
    Nat.lt_of_lt_of_le (Nat.lt_of_succ_le (Nat.le_of_eq hasked.heard)) (List.length_filter_le _ _)
  obtain ⟨k, hnext⟩ := step.answered.received_next
  rw [← haligned.spoken.heard] at hnext
  obtain ⟨line, hline, hanswers⟩ := haligned.served.replies _ _ _ hnext
  obtain ⟨more, hmore⟩ := haligned.spoken.sent
  rw [← hmore, List.getElem?_append_left (by simpa using hlt), List.getElem?_map,
    List.getElem?_eq_getElem hlt] at hline
  obtain rfl := Option.some.inj hline
  exact ⟨_, List.getElem?_eq_getElem hlt, hanswers⟩

/-- **Whose reply the device reads.** On each connection the server writes one reply to a line, and
the device reads them in order: the reply is to the message that stands, among all that the device
has sent on this connection, where the reply stands. That is the message it has sent last if and
only if it has sent no reading on this connection. -/
theorem replies_paired (run : Pool.Run (UplinkStep d) P c₀ ls c) (starts : c₀.Starts)
    {pre : List (UplinkLabel d)} {n : Nat} {reply : JsonValue}
    (h : pre ++ [.did .device (.did (.edge (.recv n)) (some reply))] <+: ls) :
    let t := talk n (edgeEvents pre)
    ∃ msg, t.sent[t.heard]? = some msg ∧
      AnswersTo d (d.lib.printUnformatted msg) reply (Pool.eventsOf (.thread n) pre) ∧
      (t.heard + 1 = t.sent.length ↔ ∀ m ∈ t.sent, isReading m = false) := by
  intro t
  obtain ⟨c₁, c₂, post, -, before, step, -, -⟩ := run.cut h
  obtain ⟨hasked, msg, hmsg, hanswers⟩ := reply_paired before starts step
  refine ⟨msg, hmsg, hanswers, ?_⟩
  have hfilter : t.questions.length = t.sent.length ↔ ∀ m ∈ t.sent, isReading m = false := by
    rw [Talk.questions, List.length_filter_eq_length_iff]
    simp
  rw [← hfilter, ← hasked.heard]

/-! ## After readings -/

/-- A message that the server takes for a reading. -/
def SaysData (d : Deployment) (msg : JsonValue) : Prop :=
  ∃ parsed, d.rt.loads (d.lib.printUnformatted msg) = .ok parsed ∧
    parsed.get "type".toList = .ok (some (.str "data".toList))

/-- The answer to a reading is no challenge. -/
theorem ReplyTo.reading {msg reply : JsonValue} (h : ReplyTo d (d.lib.printUnformatted msg) reply)
    (hmsg : SaysData d msg) : namesNonce reply = false := by
  obtain ⟨parsed, hloads, htype⟩ := hmsg
  obtain ⟨conn, tr, conn', handled, hreply⟩ := h
  have hdata : ∀ {msg' type}, Parses d.rt (d.lib.printUnformatted msg) msg' type → type = .data := by
    rintro msg' type ⟨hloads', v, hv, rfl⟩
    obtain rfl := Except.ok.inj (hloads'.symm.trans hloads)
    obtain rfl := Except.ok.inj (hv.symm.trans htype)
    rfl
  cases handled with
  | badJson hbad _ => cases hbad.symm.trans hloads
  | dataUnnamed _ _ =>
    obtain rfl := List.mem_singleton.mp hreply
    rfl
  | data _ _ handled =>
    rw [repliesOf_append, repliesOf_data handled] at hreply
    obtain rfl := List.mem_singleton.mp hreply
    rfl
  | challenged parses _ _ => cases hdata parses
  | unknownDevice parses _ => cases hdata parses
  | attestUnnamed parses _ => cases hdata parses
  | attested parses _ _ _ _ _ _ => cases hdata parses
  | attestRefused parses _ _ _ => cases hdata parses
  | unknownType parses _ => cases hdata parses

theorem mem_talk_sent {n : Nat} {tr : List (Event Edge)} {msg : JsonValue}
    (h : msg ∈ (talk n tr).sent) : .did (.send n msg) true ∈ tr := by
  induction tr using List.reverseRecOn with
  | nil => cases h
  | append_singleton tr ev ih =>
    rw [talk_snoc] at h
    have hkept : msg ∈ (talk n tr).sent → .did (.send n msg) true ∈ tr ++ [ev] := by
      intro hmem
      exact List.mem_append_left _ (ih hmem)
    unfold Talk.next at h
    split at h
    · split at h
      · cases h
      · exact hkept h
    · split at h
      · split at h
        · rename_i m msg' ok hm hok
          rcases List.mem_append.mp h with hmem | hmem
          · exact hkept hmem
          · obtain rfl := List.mem_singleton.mp hmem
            simp [hm, hok]
        · exact hkept h
      · exact hkept h
    · split at h
      · exact hkept h
      · exact hkept h
    · exact hkept h

/-- Where a question after readings stands, a reading does. -/
theorem Talk.Asked.sent_heard {t : Talk} (h : t.Asked) (hfooled : t.fooled = false)
    (hreading : t.sent.any isReading = true) {msg : JsonValue} (hmsg : t.sent[t.heard]? = some msg) :
    isReading msg = true := by
  obtain ⟨before, question, hsent, hquestion, hsorted⟩ := h.last
  obtain ⟨questions, readings, rfl, hquestions, hreadings⟩ := hsorted hfooled
  have hfilter : questions.filter (fun m => !isReading m) = questions := by
    rw [List.filter_eq_self]
    intro m hm
    simp [hquestions m hm]
  have hnone : readings.filter (fun m => !isReading m) = [] := by
    rw [List.filter_eq_nil_iff]
    intro m hm
    simp [hreadings m hm]
  have hheard : t.heard = questions.length := by
    have hcount := h.heard
    rw [Talk.questions, hsent, List.filter_append, List.filter_append, hfilter, hnone] at hcount
    simpa [hquestion] using hcount
  rw [hsent, hheard, List.append_assoc, List.getElem?_append_right (Nat.le_refl _),
    Nat.sub_self] at hmsg
  cases readings with
  | nil =>
    -- then there is none
    rw [hsent, List.append_nil, List.any_append] at hreading
    simp only [List.any_cons, List.any_nil, hquestion, Bool.or_false, List.any_eq_true] at hreading
    obtain ⟨m, hm, htrue⟩ := hreading
    rw [hquestions m hm] at htrue
    cases htrue
  | cons first rest =>
    obtain rfl : first = msg := by simpa using hmsg
    exact hreadings first (by simp)

/-- Only a reply can fool it. -/
theorem Talk.next_fooled (n : Nat) (t : Talk) (ev : Event Edge) : (t.next n ev).fooled = t.fooled ∨
    (t.next n ev).fooled = false ∨ ∃ reply, ev = .did (.recv n) (some reply) := by
  unfold Talk.next
  split
  · split
    · exact Or.inr (Or.inl rfl)
    · exact Or.inl rfl
  · split
    · split
      · exact Or.inl rfl
      · exact Or.inl rfl
    · exact Or.inl rfl
  · split
    · rename_i m reply hm
      exact Or.inr (Or.inr ⟨reply, by rw [hm]⟩)
    · exact Or.inl rfl
  · exact Or.inl rfl

theorem mem_edgeEvents {a : EdgeAct} {b : a.Res} (h : .did a b ∈ edgeEvents ls) :
    .did .device (.did (.edge a) b) ∈ ls := by
  obtain ⟨ev, hmem, hev⟩ := List.mem_filterMap.mp h
  unfold toEdge at hev
  split at hev
  · cases Option.some.inj hev
    exact Pool.mem_eventsOf.mp hmem
  · cases hev

theorem edgeEvents_snoc (ls : List (UplinkLabel d)) (l : UplinkLabel d) :
    edgeEvents (ls ++ [l]) = edgeEvents ls ∨ ∃ a b, l = .did .device (.did (.edge a) b) ∧
      edgeEvents (ls ++ [l]) = edgeEvents ls ++ [.did a b] := by
  have hsplit : edgeEvents (ls ++ [l]) = edgeEvents ls ++ edgeEvents [l] := by
    rw [edgeEvents, Pool.eventsOf_append, List.filterMap_append]
    rfl
  rw [hsplit]
  cases l with
  | started i job => exact Or.inl (List.append_nil _)
  | returned i job mem log out => exact Or.inl (List.append_nil _)
  | did i ev =>
    cases i with
    | thread n => exact Or.inl (List.append_nil _)
    | other k => exact Or.inl (List.append_nil _)
    | device =>
      cases ev with
      | ok r b => cases r
      | refused r e => cases r
      | did a b =>
        cases a with
        | edge a => exact Or.inr ⟨a, b, rfl, rfl⟩
        | server a => exact Or.inl (List.append_nil _)
        | readline => exact Or.inl (List.append_nil _)

/-- The device's messages are what they say. -/
def SentAsMeant (ls : List (UplinkLabel d)) : Prop :=
  ∀ n msg, .did .device (.did (.edge (.send n msg)) true) ∈ ls → isReading msg = true → SaysData d msg

theorem never_fooled (run : Pool.Run (UplinkStep d) P c₀ ls c) (starts : c₀.Starts)
    (meant : SentAsMeant ls) (n : Nat) : (talk n (edgeEvents ls)).fooled = false := by
  refine run.invariant (I := fun ls _ => SentAsMeant ls → (talk n (edgeEvents ls)).fooled = false)
    ?_ ?_ meant
  · intro _
    rfl
  · intro ls c l c' run ih step _ meant
    have hbefore := ih fun m msg hmem => meant m msg (List.mem_append_left _ hmem)
    rcases edgeEvents_snoc ls l with hsame | ⟨a, b, rfl, hmore⟩
    · rw [hsame]
      exact hbefore
    · rw [hmore, talk_snoc]
      rcases Talk.next_fooled n (talk n (edgeEvents ls)) (.did a b) with hsame | hnone | ⟨reply, heq⟩
      · rw [hsame, hbefore]
      · exact hnone
      · cases heq
        obtain ⟨hasked, msg, hmsg, hanswers⟩ := reply_paired run starts step
        rw [Talk.next_recv]
        cases hreading : (talk n (edgeEvents ls)).sent.any isReading with
        | false => simpa using hbefore
        | true =>
          have hmsg' : isReading msg = true := hasked.sent_heard hbefore hreading hmsg
          have hsaid : SaysData d msg := by
            apply meant n msg ?_ hmsg'
            apply List.mem_append_left
            exact mem_edgeEvents (mem_talk_sent (List.mem_of_getElem? hmsg))
          simpa [hanswers.1.reading hsaid] using hbefore

/-- **No session on a connection that readings went over.** When the TA is asked for evidence, the
challenge has come over a connection on which the device has sent no reading. -/
theorem evidence_before_readings (run : Pool.Run (UplinkStep d) P c₀ ls c) (starts : c₀.Starts)
    (meant : SentAsMeant ls) {pre : List (UplinkLabel d)} {nonce serverPub : Bytes}
    {answer : Option (Bytes × Bytes)}
    (h : pre ++ [.did .device (.did (.edge (.generateEvidence nonce serverPub)) answer)] <+: ls) :
    ∃ n before challenge, edgeEvents pre = before ++ [.did (.recv n) (some challenge)] ∧
      ∀ msg ∈ (talk n before).sent, isReading msg = false := by
  obtain ⟨c₁, c₂, post, hls, before, step, -, -⟩ := run.cut h
  obtain ⟨tr, htr, n, earlier, challenge, hlast, hclean⟩ := step.asserted (device_speaks before starts)
  have hedge : edgeEvents pre = tr := by
    rw [edgeEvents, htr, filterMap_toEdge]
  have hfooled : (talk n (edgeEvents pre)).fooled = false := by
    apply never_fooled before starts
    intro m msg hmem
    apply meant m msg
    rw [hls]
    exact List.mem_append_left _ hmem
  refine ⟨n, earlier, challenge, hedge.trans hlast, ?_⟩
  rw [hedge] at hfooled
  have hsent := hclean hfooled
  rw [hlast, talk_snoc, Talk.next_recv] at hsent
  exact hsent

end

/-! ## A run that was played -/

section

open Vectors

/-- The device attests itself and pushes a reading. When its session is over it asks on the same
connection, hears of the reading, and attests itself anew on the next. -/
def renewedRun : List (UplinkLabel edgeBench) × UplinkConfig edgeBench :=
  playUplink (fun n => if n = 0 then seconds 4000 else 0) (fun _ _ => true)
    (attestTurns ++ pushTurns ++
      [Pool.Turn.start Party.device UplinkJob.turn] ++ calls .device 2 ++ threadTurn 0 7 ++
      calls .device 2 ++ [Pool.Turn.finish Party.device] ++
      [Pool.Turn.start Party.device UplinkJob.turn] ++ calls .device 2 ++ threadTurn 1 7 ++
      calls .device 2)

theorem renewedRun_run :
    Pool.Run (UplinkStep edgeBench) Pool.Any uplinkStart renewedRun.1 renewedRun.2 :=
  playUplink_run _ (fun _ _ _ => trivial) _

/-- What the device hears, if a reading is answered so. -/
def hearsAccepted : UplinkLabel edgeBench → Option (Nat × JsonValue)
  | .did .device (.did (.edge (.recv n)) (some reply)) =>
    if isOk reply ∧ (stringItem reply "type".toList).isNone then some (n, reply) else none
  | _ => none

theorem hearsAccepted_eq {l : UplinkLabel edgeBench} {n : Nat} {reply : JsonValue}
    (h : hearsAccepted l = some (n, reply)) :
    l = .did .device (.did (.edge (.recv n)) (some reply)) := by
  unfold hearsAccepted at h
  split at h
  · split at h
    · cases h
      rfl
    · cases h
  · cases h

/-- A reading is sent. -/
def sendsReading : UplinkLabel edgeBench → Option JsonValue
  | .did .device (.did (.edge (.send _ msg)) true) => if isReading msg then some msg else none
  | _ => none

/-- The TA is asked for evidence. -/
def asksEvidence : UplinkLabel edgeBench → Bool
  | .did .device (.did (.edge (.generateEvidence _ _)) _) => true
  | _ => false

theorem asksEvidence_eq {l : UplinkLabel edgeBench} (h : asksEvidence l = true) :
    ∃ nonce serverPub answer,
      l = .did .device (.did (.edge (.generateEvidence nonce serverPub)) answer) := by
  unfold asksEvidence at h
  split at h
  · exact ⟨_, _, _, rfl⟩
  · cases h

def saysData (msg : JsonValue) : Bool :=
  match edgeBench.rt.loads (edgeBench.lib.printUnformatted msg) with
  | .ok parsed =>
    match parsed.get "type".toList with
    | .ok (some (.str t)) => t = "data".toList
    | _ => false
  | .error _ => false

theorem saysData_eq {msg : JsonValue} (h : saysData msg = true) : SaysData edgeBench msg := by
  unfold saysData at h
  split at h
  · rename_i parsed hloads
    split at h
    · rename_i t ht
      refine ⟨parsed, hloads, ht.trans ?_⟩
      rw [of_decide_eq_true h]
    · cases h
  · cases h

theorem renewedRun_played :
    (History.cutAt (fun l => (hearsAccepted l).isSome) renewedRun.1).isSome = true ∧
    renewedRun.1.getLast?.any asksEvidence = true ∧
    renewedRun.1.any (fun l => (sendsReading l).isSome) = true ∧
    renewedRun.1.all (fun l => (sendsReading l).all saysData) = true := by
  decide +kernel

theorem renewedRun_meant : SentAsMeant renewedRun.1 := by
  intro n msg hmem hreading
  apply saysData_eq
  have hall := List.all_eq_true.mp renewedRun_played.2.2.2 _ hmem
  have hsends : sendsReading (.did .device (.did (.edge (.send n msg)) true)) = some msg := by
    simp [sendsReading, hreading]
  rw [hsends] at hall
  exact hall

theorem replies_paired_played : ∃ pre n reply msg,
    pre ++ [.did .device (.did (.edge (.recv n)) (some reply))] <+: renewedRun.1 ∧
    (talk n (edgeEvents pre)).sent[(talk n (edgeEvents pre)).heard]? = some msg ∧
    AnswersTo edgeBench (edgeLib.printUnformatted msg) reply (Pool.eventsOf (.thread n) pre) := by
  obtain ⟨⟨pre, l, post⟩, hcut⟩ := Option.isSome_iff_exists.mp renewedRun_played.1
  have run := renewedRun_run
  generalize renewedRun = played at hcut run
  obtain ⟨hsplit, hl, -⟩ := History.cutAt_eq hcut
  obtain ⟨⟨n, reply⟩, hhears⟩ := Option.isSome_iff_exists.mp hl
  obtain rfl := hearsAccepted_eq hhears
  have hpre : pre ++ [.did .device (.did (.edge (.recv n)) (some reply))] <+: played.1 :=
    ⟨post, by simp [hsplit]⟩
  obtain ⟨msg, hmsg, hanswers, -⟩ := replies_paired run uplinkStart_starts hpre
  exact ⟨pre, n, reply, msg, hpre, hmsg, hanswers⟩

theorem evidence_before_readings_played : ∃ pre nonce serverPub answer,
    pre ++ [.did .device (.did (.edge (.generateEvidence nonce serverPub)) answer)] <+: renewedRun.1 ∧
    ∃ n before challenge, edgeEvents pre = before ++ [.did (.recv n) (some challenge)] ∧
      ∀ msg ∈ (talk n before).sent, isReading msg = false := by
  have run := renewedRun_run
  have meant := renewedRun_meant
  have hlast := renewedRun_played.2.1
  generalize renewedRun = played at run meant hlast
  obtain ⟨l, hl, hasks⟩ : ∃ l, played.1.getLast? = some l ∧ asksEvidence l = true := by
    cases hl : played.1.getLast? with
    | none =>
      rw [hl] at hlast
      cases hlast
    | some l =>
      rw [hl] at hlast
      exact ⟨l, rfl, hlast⟩
  obtain ⟨nonce, serverPub, answer, rfl⟩ := asksEvidence_eq hasks
  obtain ⟨pre, hpre⟩ := List.getLast?_eq_some_iff.mp hl
  have hprefix : pre ++ [.did .device (.did (.edge (.generateEvidence nonce serverPub)) answer)] <+:
      played.1 := ⟨[], by rw [hpre, List.append_nil]⟩
  exact ⟨pre, nonce, serverPub, answer, hprefix,
    evidence_before_readings run uplinkStart_starts meant hprefix⟩

end

end ConfidentialIoT
