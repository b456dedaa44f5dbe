/-
  FlowSdk.Contract.Draining — the loops of input and output come to an end.

  `take_outgoing` empties the output buffer, but on the way it flushes responses, handles input
  that waits, restores a session and drains the queue, and each of these fills the buffer it is
  emptying. What bounds the loop is the backlog: everything that can still turn into a packet
  of output. A packet that is appended was a response, a replayed exchange or a queued
  publication before; a packet that is handled adds one at most and takes its bytes from the
  input. So a turn that leaves output behind has used up a part of the backlog.

  The loops of the source have no bound. Each is stated here as a pass that goes on or breaks,
  and the functions of the model, which run on fuel, are shown to compute what the loops do.

  Main results:
    1. `costs_handleParsed`     a packet that is handled adds one packet to the backlog at most
    2. `frugal_resumeIncoming`  the bytes of the input pay for that
    3. `outputPass_turn`        a turn of the output loop that goes on has used some of it up
    4. `draining_terminates`    every loop ends, the output loop with no output left
-/
import FlowSdk.Machine.Loop
import FlowSdk.Refine.Run
import FlowSdk.Refine.Total

set_option linter.unusedSectionVars false

namespace FlowSdk

open Machine Wire

variable {T : Type} [TimePoint T] {ε : Type} {B : Build} {n k : Nat}

namespace MqttEngine

/-! ## The backlog -/

/-- What can still become a packet of output: the packets in the buffers, and the bytes of
input, each of which may be a packet that is answered. -/
def backlog (e : MqttEngine T) : Nat :=
  e.outgoingBuffer.length + e.state.responses.length + e.parser.buffer.length +
    e.previousInflight.length + e.sessionReplay.length + e.priorityQueue.size

structure Thrifty (n k : Nat) (e : MqttEngine T) : Prop where
  backlog : e.backlog ≤ n
  unread : e.parser.buffer.length ≤ k

variable (T ε) in
/-- Code that does not add to the backlog. -/
abbrev Frugal (n k : Nat) {α : Type} (m : Eff (MqttEngine T) ε α) : Prop :=
  Eff.Respects (Thrifty n k) m

variable (T ε) in
/-- Code that adds one packet at most. -/
def Costs (n k : Nat) {α : Type} (m : Eff (MqttEngine T) ε α) : Prop :=
  ∀ e, Thrifty n k e → Ends (m e) (fun _ e' => Thrifty (n + 1) k e')

namespace Thrifty

variable {e : MqttEngine T}

theorem mono (h : Thrifty n k e) {n' : Nat} (hle : n ≤ n') : Thrifty n' k e :=
  ⟨h.backlog.trans hle, h.unread⟩

theorem failOperations (error : MqttClientError) : ∀ (entries : List (UInt16 × MqttPacket))
    {e : MqttEngine T}, Thrifty n k e → Thrifty n k (e.failOperations error entries)
  | [], _, h => h
  | (id, packet) :: entries, e, h =>
    have hfailed : Thrifty n k (e.failOperation id packet error) := { h with }
    failOperations error entries hfailed

theorem recordEvents : ∀ (events : List MqttEvent) {e : MqttEngine T}, Thrifty n k e →
    Thrifty n k (e.recordEvents events)
  | [], _, h => h
  | ev :: events, e, h =>
    have hrecord : Thrifty n k (e.record (.event ev)) := { h with }
    recordEvents events hrecord

/-- One packet joins the output. -/
theorem appendOutgoing (h : Thrifty n k e) (origin : Origin) (packet : MqttPacket) (bytes : Bytes) :
    Thrifty (n + 1) k (e.appendOutgoing origin packet bytes) := by
  refine ⟨?_, h.unread⟩
  have hadded : (e.appendOutgoing origin packet bytes).backlog = e.backlog + 1 := by
    simp only [MqttEngine.backlog, MqttEngine.appendOutgoing, record, List.length_append,
      List.length_singleton]
    omega
  have := h.backlog
  omega

theorem dropSession (h : Thrifty n k e) : Thrifty n k e.dropSession := by
  have hlost : Thrifty n k { e with state.hasSession := false } := { h with }
  have hfailed := failOperations .sessionExpired e.inflightQueue.snapshotForReconnect hlost
  have hreplay : Thrifty n k { MqttEngine.failOperations { e with state.hasSession := false }
      .sessionExpired e.inflightQueue.snapshotForReconnect with sessionReplay := [] } := by
    refine ⟨le_trans ?_ hfailed.backlog, hfailed.unread⟩
    simp only [MqttEngine.backlog, List.length_nil]
    omega
  exact { failOperations .sessionExpired _ hreplay with }

/-- A reset drops the output, the responses and the input. -/
theorem resetTransport (h : Thrifty n k e) (queuedBytes : Nat) :
    Thrifty n k (e.resetTransport queuedBytes) := by
  refine ⟨le_trans ?_ h.backlog, Nat.zero_le k⟩
  show 0 + 0 + 0 + e.previousInflight.length + e.sessionReplay.length + e.priorityQueue.size ≤ _
  simp only [MqttEngine.backlog]
  omega

theorem renewTransport (h : Thrifty n k e) : Thrifty n k e.renewTransport := by
  refine ⟨le_trans ?_ h.backlog, Nat.zero_le k⟩
  show e.outgoingBuffer.length + e.state.responses.length + 0 + e.previousInflight.length +
    e.sessionReplay.length + e.priorityQueue.size ≤ _
  simp only [MqttEngine.backlog]
  omega

theorem rejectQueued (h : Thrifty n k e) (packet : MqttPacket) (error : MqttClientError) :
    Thrifty n k (e.rejectQueued packet error) := by
  unfold MqttEngine.rejectQueued
  split
  · exact { h with }
  · exact { h with }

/-- The exchanges of the last connection move to the replay or fail. -/
theorem restoreEntries (replaying : Bool) : ∀ (entries : List (UInt16 × MqttPacket))
    {n : Nat} {e : MqttEngine T}, Thrifty n k e →
    Thrifty (n + entries.length) k (e.restoreEntries replaying entries)
  | [], _, _, h => h
  | (id, packet) :: entries, n, e, h => by
    have hentry : Thrifty (n + 1) k (e.restoreEntry replaying (id, packet)) := by
      unfold restoreEntry
      dsimp only
      split
      · refine ⟨?_, h.unread⟩
        refine le_trans (le_of_eq ?_) (Nat.add_le_add_right h.backlog 1)
        simp only [MqttEngine.backlog, acknowledged, record, List.length_append,
          List.length_singleton]
        omega
      · exact { h.mono (Nat.le_succ n) with }
    have hrest := restoreEntries replaying entries hentry
    rwa [Nat.add_assoc, Nat.add_comm 1] at hrest

end Thrifty

/-! ## Code that keeps to the backlog -/

theorem Costs.bind {α β : Type} {m : Eff (MqttEngine T) ε α} {f : α → Eff (MqttEngine T) ε β}
    (hm : Costs T ε n k m) (hf : ∀ a, Frugal T ε (n + 1) k (f a)) : Costs T ε n k (m >>= f) :=
  fun e h => .bind (hm e h) (fun a e' h' => hf a e' h') fun _ _ h' => h'

theorem Costs.after {α β : Type} {m : Eff (MqttEngine T) ε α} {f : α → Eff (MqttEngine T) ε β}
    (hm : Frugal T ε n k m) (hf : ∀ a, Costs T ε n k (f a)) : Costs T ε n k (m >>= f) :=
  fun e h => .bind (hm e h) (fun a e' h' => hf a e' h') fun _ _ h' => h'.mono (Nat.le_succ n)

/-- Code that adds nothing keeps within a cost. -/
theorem Costs.free {α : Type} {m : Eff (MqttEngine T) ε α} (hm : Frugal T ε n k m) :
    Costs T ε n k m :=
  fun e h => (hm e h).weaken fun _ _ h' => h'.mono (Nat.le_succ n)

theorem frugal_panicAt {α : Type} (site : PanicSite) :
    Frugal T ε n k (panicAt (α := α) site) := fun _ _ => .refl

theorem frugal_takeEvents : Frugal T ε n k takeEvents :=
  .read_bind fun _ _ => .bind (.update fun _ h => { h with }) fun _ => .pure _

theorem frugal_noted (events : List MqttEvent) :
    Frugal T ε n k (noted events) :=
  .bind (.update fun _ h => h.recordEvents events) fun _ => .pure _

theorem costs_enqueuePacketInner (origin : Origin) (packet : MqttPacket) :
    Costs T _ n k (enqueuePacketInner B origin packet) := by
  intro e h
  obtain ⟨bytes, -, hrun⟩ | ⟨error, -, hrun⟩ := enqueuePacketInner_run (B := B) origin packet e
  · rw [hrun]
    exact .stay (h.appendOutgoing origin packet bytes)
  · rw [hrun]
    exact .stay (h.mono (Nat.le_succ n))

theorem frugal_deadlineFrom (start : T) (duration : Nat) :
    Frugal T ε n k (deadlineFrom start duration) := by
  unfold deadlineFrom
  split
  · exact .pure _
  · exact frugal_panicAt _

theorem frugal_startDeadline (operation : OperationKind) (id : Option UInt16) :
    Frugal T ε n k (startDeadline operation id) := by
  refine .read_bind fun e _ => ?_
  split
  · exact .pure ()
  · exact .bind (frugal_deadlineFrom _ _) fun _ => .update fun _ h => { h with }

/-- What depends neither on the deadlines nor on the assertions is left alone. -/
theorem keeps_startDeadline {τ : Type} {part : MqttEngine T → τ}
    (hdeadlines : ∀ e deadlines, part { e with state.deadlines := deadlines } = part e)
    (hpanicked : ∀ e site, part { e with panicked := site } = part e)
    (operation : OperationKind) (id : Option UInt16) :
    Eff.Keeps part (startDeadline operation id : Eff (MqttEngine T) ε Unit) := by
  refine .bind .read fun e => ?_
  split
  · exact .pure ()
  · refine .bind ?_ fun _ => .update fun e => hdeadlines e _
    unfold deadlineFrom
    split
    · exact .pure _
    · exact .halt fun e => hpanicked e _

/-! ### Losing the connection -/

theorem frugal_resetForNewTransportInner :
    Frugal T ε n k (resetForNewTransportInner B) := by
  refine .read_bind fun e _ => ?_
  split
  · exact frugal_panicAt _
  next bytes _ =>
    refine .update fun e h => ?_
    dsimp only
    split
    · exact (h.resetTransport bytes).dropSession.renewTransport
    · exact (h.resetTransport bytes).renewTransport

theorem frugal_scheduleReconnectInner (now : T) :
    Frugal T ε n k (scheduleReconnectInner now) :=
  .read_bind fun _ _ => .ite (.pure ()) (.ite (.update fun _ h => { h with })
    (.bind (frugal_deadlineFrom _ _) fun _ => .bind (.update fun _ h => { h with }) fun _ =>
      .update fun _ h => { h with }))

theorem frugal_handleConnectionLostInner :
    Frugal T ε n k (handleConnectionLostInner B) :=
  .read_bind fun _ _ => .read_bind fun _ _ => .bind frugal_resetForNewTransportInner fun _ =>
    .bind (.update fun _ h => { h with }) fun _ => .onlyWhen (frugal_scheduleReconnectInner _)

theorem frugal_failConnection (error : MqttClientError) :
    Frugal T ε n k (failConnection B error) :=
  .bind frugal_handleConnectionLostInner fun _ => .update fun _ h => { h with }

theorem frugal_connectionFailed (error : MqttClientError) :
    Frugal T ε n k (connectionFailed B error) :=
  .bind (frugal_failConnection error) fun _ => .bind frugal_takeEvents fun _ => .pure _

/-! ## The loops that send -/

/-- A turn of the loop in `flush_responses`. -/
def flushPass (B : Build) (_ : Unit) : Eff (MqttEngine T) ε (Unit ⊕ Unit) := do
  let e ← Eff.read
  match e.state.responses with
  | [] => return .inr ()
  | packet :: rest =>
    match e.oversized B packet with
    | some capacity => do
      failConnection B (.bufferFull "protocol response" capacity)
      return .inr ()
    | none => do
      match ← Eff.attempt (enqueuePacketInner B .response packet) with
      | .ok () => do
        Eff.update (fun e => { e with state.responses := rest })
        return .inl ()
      | .error error =>
        if error.isBufferFull then return .inr ()
        else do
          failConnection B error
          return .inr ()

/-- A turn of the loop in `process_replay`. -/
def replayPass (B : Build) (_ : Unit) : Eff (MqttEngine T) ε (Unit ⊕ Unit) := do
  let e ← Eff.read
  match e.sessionReplay with
  | [] => return .inr ()
  | (id, packet) :: rest =>
    if packet.isPublish ∧ ¬ e.inflightQueue.canPushPublish then return .inr ()
    else do
      match ← Eff.attempt (enqueuePacketInner B .replay packet) with
      | .ok () => do
        Eff.update (fun e => { e with sessionReplay := rest })
        trackReplayed id packet
        return .inl ()
      | .error error =>
        if error.isBufferFull then return .inr ()
        else do
          Eff.update (fun e => { e with sessionReplay := rest }.failOperation id packet error)
          return .inl ()

/-- A turn of the loop in `process_queue_with_encoding`. -/
def drainPass (B : Build) (first : Option Bytes) : Eff (MqttEngine T) ε (Option Bytes ⊕ Unit) := do
  let e ← Eff.read
  if e.outgoingBuffer.length < e.options.maxOutgoingPacketCount then
    match e.priorityQueue.peek with
    | none => return .inr ()
    | some (priority, item) =>
      if item.packet.qos > 0 ∧ ¬ e.inflightQueue.canPushPublish then return .inr ()
      else do
        sendQueued B first priority item
        return .inl none
  else return .inr ()

/-- A last action does not depend on what follows a break. -/
theorem break_bind {τ : Type} (m : Eff (MqttEngine T) ε Unit) (f : τ → Eff (MqttEngine T) ε Unit) :
    (m >>= fun _ => pure (Sum.inr ())) >>= Sum.elim f pure = m := by
  rw [Machine.bind_assoc]
  funext e
  rcases hm : m e with ⟨error | ⟨⟩, e'⟩ | e'
  · rw [Eff.bind_of_error hm]
  · rw [Eff.bind_of_ok hm]
    rfl
  · rw [Eff.bind_of_panic hm]

theorem flushLoop_unrolls :
    Unrolls (flushPass (T := T) (ε := ε) B) (fun fuel _ => flushLoop B fuel) := by
  intro fuel _
  funext e
  show flushLoop B (fuel + 1) e = _
  rw [flushPass, Machine.bind_assoc, flushLoop, Eff.read_bind, Eff.read_bind]
  cases e.state.responses with
  | nil => rfl
  | cons packet rest =>
    dsimp only
    cases e.oversized B packet with
    | some capacity => exact congrFun (break_bind _ _).symm e
    | none =>
      dsimp only
      rw [Machine.bind_assoc]
      refine congrFun (congrArg _ (funext fun result => ?_)) e
      cases result with
      | ok _ => rfl
      | error error =>
        dsimp only
        split
        · rfl
        · exact (break_bind _ _).symm

theorem replayLoop_unrolls :
    Unrolls (replayPass (T := T) (ε := ε) B) (fun fuel _ => replayLoop B fuel) := by
  intro fuel _
  funext e
  show replayLoop B (fuel + 1) e = _
  rw [replayPass, Machine.bind_assoc, replayLoop, Eff.read_bind, Eff.read_bind]
  cases e.sessionReplay with
  | nil => rfl
  | cons entry rest =>
    obtain ⟨id, packet⟩ := entry
    dsimp only
    split
    · rfl
    · rw [Machine.bind_assoc]
      refine congrFun (congrArg _ (funext fun result => ?_)) e
      cases result with
      | ok _ =>
        dsimp only
        rw [Machine.bind_assoc]
        refine congrArg _ (funext fun _ => ?_)
        rw [Machine.bind_assoc]
        rfl
      | error error =>
        dsimp only
        split
        · rfl
        · rfl

theorem drainLoop_unrolls : Unrolls (drainPass (T := T) (ε := ε) B) (drainLoop B) := by
  intro fuel first
  funext e
  rw [drainPass, Machine.bind_assoc, drainLoop, Eff.read_bind, Eff.read_bind]
  split
  · cases e.priorityQueue.peek with
    | none => rfl
    | some entry =>
      obtain ⟨priority, item⟩ := entry
      dsimp only
      split
      · rfl
      · rw [Machine.bind_assoc]
        rfl
  · rfl

/-! ### Responses -/

/-- A response that is appended is no longer one that waits. -/
theorem flushPass_turn {e : MqttEngine T} (h : Thrifty n k e) :
    Ends ((flushPass B () : Eff _ ε _) e) (fun r e' => Thrifty n k e' ∧
      (r = .ok (.inl ()) → e'.state.responses.length < e.state.responses.length)) := by
  unfold flushPass
  refine .read_bind ?_
  cases hresponses : e.state.responses with
  | nil => exact .stay ⟨h, nofun⟩
  | cons packet rest =>
    dsimp only
    have hbreak : ∀ error, Ends ((failConnection B error >>= fun _ => pure (.inr ()) :
        Eff (MqttEngine T) ε (Unit ⊕ Unit)) e) (fun r e' => Thrifty n k e' ∧
          (r = .ok (.inl ()) → e'.state.responses.length < (packet :: rest).length)) :=
      fun error => .bind (frugal_failConnection error e h) (fun _ e' h' => .stay ⟨h', nofun⟩)
        fun _ e' h' => ⟨h', nofun⟩
    cases e.oversized B packet with
    | some capacity => exact hbreak _
    | none =>
      dsimp only
      obtain ⟨bytes, -, hrun⟩ | ⟨error, -, hrun⟩ := enqueuePacketInner_run (B := B) .response packet.val e
      · rw [Eff.bind_of_ok (Eff.attempt_of_done hrun)]
        refine .stay ⟨⟨?_, h.unread⟩, fun _ => Nat.lt_succ_self _⟩
        refine le_trans ?_ h.backlog
        simp only [backlog, appendOutgoing, record, hresponses, List.length_append,
          List.length_cons, List.length_nil]
        omega
      · rw [Eff.bind_of_ok (Eff.attempt_of_done hrun)]
        dsimp only
        split
        · exact .stay ⟨h, nofun⟩
        · exact hbreak error

theorem frugal_flushResponses : Frugal T ε n k (flushResponses B) :=
  .read_bind fun _ _ => flushLoop_unrolls.respects
    (fun _ _ h => (flushPass_turn h).weaken fun _ _ h' => h'.1) (fun _ => .pure _) _ ()

/-- `flush_responses` comes to an end. -/
theorem flushResponses_loops (e : MqttEngine T) :
    Loops (flushPass B) () e ((flushResponses B : Eff _ ε _) e) := by
  refine flushLoop_unrolls.loops (μ := fun _ e => e.state.responses.length) ?_ ?_ _ () e (le_refl _)
  · rintro ⟨⟩ e ⟨⟩ e' hpass
    exact ((flushPass_turn ⟨le_refl _, le_refl _⟩).result hpass).2 rfl
  · intro _ e hempty
    refine ⟨(), ?_, rfl⟩
    rw [flushPass, Eff.read_bind, List.length_eq_zero_iff.mp hempty]
    rfl

/-! ### The replay -/

theorem frugal_trackReplayed (id : UInt16) (packet : MqttPacket) :
    Frugal T ε n k (trackReplayed id packet) := by
  refine .read_bind fun e _ => ?_
  split
  · exact .update fun _ h => { h with }
  · exact .bind (.update fun _ h => { h with }) fun _ => frugal_startDeadline _ _

theorem replay_trackReplayed (id : UInt16) (packet : MqttPacket) :
    Eff.Keeps MqttEngine.sessionReplay (trackReplayed id packet : Eff (MqttEngine T) ε Unit) := by
  refine .bind .read fun e => ?_
  split
  · exact .update fun _ => rfl
  · exact .bind (.update fun _ => rfl) fun _ =>
      keeps_startDeadline (fun _ _ => rfl) (fun _ _ => rfl) _ _

/-- An exchange that is sent again, or fails, leaves the replay. -/
theorem replayPass_turn {e : MqttEngine T} (h : Thrifty n k e) :
    Ends ((replayPass B () : Eff _ ε _) e) (fun r e' => Thrifty n k e' ∧
      (r = .ok (.inl ()) → e'.sessionReplay.length < e.sessionReplay.length)) := by
  unfold replayPass
  refine .read_bind ?_
  cases hreplay : e.sessionReplay with
  | nil => exact .stay ⟨h, by simp⟩
  | cons entry rest =>
    obtain ⟨id, packet⟩ := entry
    dsimp only
    split
    · exact .stay ⟨h, by simp⟩
    · obtain ⟨bytes, -, hrun⟩ | ⟨error, -, hrun⟩ := enqueuePacketInner_run (B := B) .replay packet e
      · rw [Eff.bind_of_ok (Eff.attempt_of_done hrun)]
        refine .update_bind ?_
        have hsent : Thrifty n k { e.appendOutgoing .replay packet bytes with sessionReplay := rest } := by
          refine ⟨le_trans ?_ h.backlog, h.unread⟩
          simp only [backlog, appendOutgoing, record, hreplay, List.length_append,
            List.length_cons, List.length_nil]
          omega
        have htracked := (frugal_trackReplayed (ε := ε) id packet _ hsent).keeps (replay_trackReplayed id packet)
        refine .bind htracked (fun _ e' h' => .stay ⟨h'.1, fun _ => ?_⟩) fun _ e' h' => ⟨h'.1, by simp⟩
        rw [h'.2]
        exact Nat.lt_succ_self _
      · rw [Eff.bind_of_ok (Eff.attempt_of_done hrun)]
        dsimp only
        split
        · exact .stay ⟨h, by simp⟩
        · refine .stay ⟨⟨le_trans ?_ h.backlog, h.unread⟩, fun _ => Nat.lt_succ_self _⟩
          show e.outgoingBuffer.length + e.state.responses.length + e.parser.buffer.length +
            e.previousInflight.length + rest.length + e.priorityQueue.size ≤ _
          simp only [backlog, hreplay, List.length_cons]
          omega

theorem frugal_processReplay : Frugal T ε n k (processReplay B) :=
  .read_bind fun _ _ => .ite (.pure ()) (replayLoop_unrolls.respects
    (fun _ _ h => (replayPass_turn h).weaken fun _ _ h' => h'.1) (fun _ => .pure _) _ ())

/-- The loop of `process_replay` comes to an end. -/
theorem replayLoop_loops (e : MqttEngine T) :
    Loops (replayPass B) () e ((replayLoop B e.sessionReplay.length : Eff _ ε _) e) := by
  refine replayLoop_unrolls.loops (μ := fun _ e => e.sessionReplay.length) ?_ ?_ _ () e (le_refl _)
  · rintro ⟨⟩ e ⟨⟩ e' hpass
    exact ((replayPass_turn ⟨le_refl _, le_refl _⟩).result hpass).2 rfl
  · intro _ e hempty
    refine ⟨(), ?_, rfl⟩
    rw [replayPass, Eff.read_bind, List.length_eq_zero_iff.mp hempty]
    rfl

/-! ### The queue -/

/-- The queue without the publication in front. -/
theorem rest_size {q : PriorityQueue UInt8 Queued} {front : UInt8 × Queued}
    (h : q.peek = some front) : q.rest.size + 1 = q.size := by
  have hne : q.items ≠ [] := by
    rw [PriorityQueue.peek_eq] at h
    intro hnil
    rw [hnil] at h
    cases h
  rw [← PriorityQueue.items_length, ← PriorityQueue.items_length, PriorityQueue.items_rest,
    List.length_tail]
  have := List.length_pos_of_ne_nil hne
  omega

/-- A publication leaves the queue for the output, or fails. -/
theorem emitQueued_turn {e : MqttEngine T} (h : Thrifty n k e) {front : UInt8 × Queued}
    (hfront : e.priorityQueue.peek = some front) (bytes : Bytes) :
    Ends ((emitQueued front.1 front.2 bytes : Eff _ ε _) e)
      (fun _ e' => Thrifty n k e' ∧ e'.priorityQueue.size < e.priorityQueue.size) := by
  have hsize := rest_size hfront
  have hless : (e.dequeued bytes.length).priorityQueue.size < e.priorityQueue.size := by
    show e.priorityQueue.rest.size < _
    omega
  have hdequeued : (e.dequeued bytes.length).backlog + 1 = e.backlog := by
    simp only [backlog, dequeued]
    omega
  unfold emitQueued
  refine .read_bind ?_
  cases e.emissionCheck front.2.packet bytes with
  | error error =>
    have hthrifty : Thrifty n k (e.dequeued bytes.length) :=
      ⟨by have := h.backlog; omega, h.unread⟩
    refine .stay ⟨hthrifty.rejectQueued _ error, lt_of_eq_of_lt ?_ hless⟩
    unfold rejectQueued
    split <;> rfl
  | ok _ =>
    dsimp only
    cases e.trackQueued front.2.packet with
    | error site => exact .refl
    | ok inflight =>
      refine .update_bind ?_
      have hsent : Thrifty n k ({ e.dequeued bytes.length with inflightQueue := inflight }.appendOutgoing
          (.queue front.1 front.2.ticket) front.2.packet bytes) := by
        refine ⟨le_trans (le_of_eq ?_) h.backlog, h.unread⟩
        rw [← hdequeued]
        simp only [backlog, appendOutgoing, record, List.length_append, List.length_singleton]
        omega
      have hdeadline : Frugal T ε n k (startDeadline .publish front.2.packet.publishId) := frugal_startDeadline _ _
      have hkeeps : Eff.Keeps MqttEngine.priorityQueue (Eff.onlyWhen (front.2.packet.qos > 0)
          (startDeadline .publish front.2.packet.publishId) : Eff (MqttEngine T) ε Unit) :=
        .onlyWhen (keeps_startDeadline (fun _ _ => rfl) (fun _ _ => rfl) _ _)
      exact ((Eff.Respects.onlyWhen hdeadline _ hsent).keeps hkeeps).weaken
        fun _ e' h' => ⟨h'.1, h'.2 ▸ hless⟩

theorem drainPass_turn (first : Option Bytes) {e : MqttEngine T} (h : Thrifty n k e) :
    Ends ((drainPass B first : Eff _ ε _) e) (fun r e' => Thrifty n k e' ∧
      ∀ next, r = .ok (.inl next) → e'.priorityQueue.size < e.priorityQueue.size) := by
  unfold drainPass
  refine .read_bind (.ite (fun _ => ?_) fun _ => .stay ⟨h, nofun⟩)
  cases hfront : e.priorityQueue.peek with
  | none => exact .stay ⟨h, nofun⟩
  | some front =>
    obtain ⟨priority, item⟩ := front
    refine .ite (fun _ => .stay ⟨h, nofun⟩) fun _ => ?_
    refine .bind (Q := fun _ e' => Thrifty n k e' ∧ e'.priorityQueue.size < e.priorityQueue.size) ?_
      (fun _ e' h' => .stay ⟨h'.1, fun _ _ => h'.2⟩) fun _ e' h' => ⟨h'.1, nofun⟩
    unfold sendQueued
    cases first.elim (item.packet.toBytes B.strict) Except.ok with
    | ok bytes => exact emitQueued_turn h hfront bytes
    | error error =>
      have hsize := rest_size hfront
      refine .stay ⟨⟨le_trans ?_ h.backlog, h.unread⟩, ?_⟩
      · simp only [backlog, pushEvent, record]
        omega
      · show e.priorityQueue.rest.size < _
        omega

/-- The loop of `process_queue_with_encoding` comes to an end. -/
theorem drainLoop_loops (first : Option Bytes) (e : MqttEngine T) :
    Loops (drainPass B) first e ((drainLoop B e.priorityQueue.size first : Eff _ ε _) e) := by
  refine drainLoop_unrolls.loops (μ := fun _ e => e.priorityQueue.size) ?_ ?_ _ first e (le_refl _)
  · intro first e next e' hpass
    exact ((drainPass_turn first ⟨le_refl _, le_refl _⟩).result hpass).2 next rfl
  · intro first e hempty
    refine ⟨(), ?_, rfl⟩
    have hitems : e.priorityQueue.items = [] := by
      rw [← List.length_eq_zero_iff, PriorityQueue.items_length, hempty]
    rw [drainPass, Eff.read_bind, PriorityQueue.peek_eq, hitems]
    split <;> rfl

theorem frugal_processQueueWithEncoding (first : Option Bytes) :
    Frugal T ε n k (processQueueWithEncoding B first) :=
  .read_bind fun _ _ => .ite (.pure ()) (.bind frugal_flushResponses fun _ =>
    .read_bind fun _ _ => .ite (.pure ()) (.bind frugal_processReplay fun _ =>
      .read_bind fun _ _ => .ite (.pure ()) (.bind (.update fun _ h => { h with }) fun _ =>
        drainLoop_unrolls.respects (fun first _ h => (drainPass_turn first h).weaken fun _ _ h' => h'.1)
          (fun _ => .pure _) _ first)))

theorem frugal_processQueue : Frugal T ε n k (processQueue B) :=
  frugal_processQueueWithEncoding none

/-! ## Incoming packets -/

variable (T ε) in
/-- Code that answers a packet with so many packets at most. -/
def Terse (most : Nat) {α : Type} (m : Eff (MqttEngine T) ε (α × List Response)) : Prop :=
  ∀ e, Ends (m e) (fun r _ => ∀ events responses, r = .ok (events, responses) →
    responses.length ≤ most)

namespace Terse

variable {most : Nat} {α β : Type}

theorem pure (a : α) {responses : List Response} (h : responses.length ≤ most) :
    Terse T ε most (pure (a, responses)) := by
  intro e
  refine .stay fun _ _ heq => ?_
  cases heq
  exact h

theorem bind {m : Eff (MqttEngine T) ε β} {f : β → Eff (MqttEngine T) ε (α × List Response)}
    (h : ∀ b, Terse T ε most (f b)) : Terse T ε most (m >>= f) :=
  fun e => .bind (Reaches.ends_any (m e)) (fun b e' _ => h b e') fun _ _ _ => nofun

theorem panicAt (site : PanicSite) :
    Terse T ε most (panicAt (α := α × List Response) site) := fun _ => .refl

theorem ite {c : Prop} [Decidable c] {m m' : Eff (MqttEngine T) ε (α × List Response)}
    (h : Terse T ε most m) (h' : Terse T ε most m') : Terse T ε most (if c then m else m') := by
  split
  · exact h
  · exact h'

theorem connectionFailed (error : MqttClientError) :
    Terse T ε most (connectionFailed B error) :=
  .bind fun _ => .bind fun _ => .pure _ (Nat.zero_le _)

theorem deliverMessage (deliver : Bool) (publish : V5.MqttPublish) (stream : Option Nat) :
    Terse T ε 1 (deliverMessage deliver publish stream) := by
  refine .bind fun events => ?_
  split
  · exact .pure _ (Nat.zero_le _)
  next id _ =>
    have hack : Terse T ε 1 (acknowledgeReceived publish.qos id stream) := by
      refine .bind fun e => .ite (.bind fun result => ?_) (.pure _ (Nat.zero_le _))
      split
      · exact .bind fun _ => .pure _ (le_refl 1)
      · exact .bind fun _ => .pure _ (Nat.zero_le _)
    intro e
    refine .bind (hack e) (fun answer e' h => ?_) fun _ _ _ => nofun
    exact pure _ (h answer.1 answer.2 rfl) e'

theorem receiveMessage (publish : V5.MqttPublish) (stream : Option Nat) :
    Terse T ε 1 (receiveMessage B publish stream) := by
  refine .bind fun resolved => ?_
  split
  · exact .connectionFailed _
  · refine .bind fun received => ?_
    split
    · exact .connectionFailed _
    · exact .deliverMessage _ _ _

theorem receivePubrel (id : UInt16) (stream : Option Nat) :
    Terse T ε 1 (receivePubrel B id stream) := by
  have hreceived : ∀ reason, Terse T ε 1 (pubrelReceived id reason stream) := by
    intro reason
    refine .bind fun events => .bind fun e => .ite (.bind fun result => ?_) (.pure _ (Nat.zero_le _))
    split
    · exact .panicAt _
    · exact .bind fun _ => .pure _ (le_refl 1)
  refine .ite (.connectionFailed _) (.bind fun e => ?_)
  dsimp only
  split
  · exact .ite (.bind fun _ => hreceived _) (.bind fun _ => .pure _ (Nat.zero_le _))
  · exact .ite (.bind fun _ => .pure _ (Nat.zero_le _)) (.bind fun _ => hreceived _)

theorem completePublish (ack : MqttPacket) (id : UInt16) (reasonCode : UInt8)
    (properties : Option Properties) :
    Terse T ε 1 (completePublish ack id reasonCode properties) := by
  refine .bind fun e => ?_
  split
  · exact .pure _ (Nat.zero_le _)
  · exact .bind fun _ => .bind fun _ => .pure _ (Nat.zero_le _)

theorem handleConnack (v5 : Bool) (reasonCode : UInt8) (sessionPresent : Bool)
    (properties : Option Properties) :
    Terse T ε 0 (handleConnack B v5 reasonCode sessionPresent properties) := by
  refine .bind fun e => ?_
  split
  · exact .connectionFailed _
  · refine .bind fun _ => .bind fun negotiated => ?_
    split
    · exact .connectionFailed _
    · exact .bind fun _ => .bind fun _ => .bind fun _ =>
        .ite (.bind fun _ => .pure _ (le_refl 0)) (.bind fun _ => .pure _ (le_refl 0))

theorem releasePublish (id : UInt16) (rel : Response) :
    Terse T ε 1 (releasePublish id rel) := by
  refine .bind fun e => ?_
  split
  · exact .panicAt _
  · exact .bind fun _ => .pure _ (le_refl 1)

end Terse

theorem frugal_acceptIncoming (packetType : ControlPacketType) :
    Frugal T ε n k (acceptIncoming B packetType) :=
  .read_bind fun _ _ => .ite (.pure _) (.ite (.pure _)
    (.bind (frugal_failConnection _) fun _ => .pure _))

theorem frugal_resolveIncoming (publish : V5.MqttPublish) :
    Frugal T _ n k (resolveIncoming publish) := by
  have hcheck : ∀ publish, Frugal T _ n k (checkTopic publish) :=
    fun _ => .ite (.fail _) (.pure _)
  refine .read_bind fun e _ => ?_
  split
  · exact hcheck _
  · refine .ite (.fail _) (.ite ?_ (.bind (.update fun _ h => { h with }) fun _ => hcheck _))
    split
    · exact .fail _
    · exact hcheck _

theorem frugal_receivePublish (qos : UInt8) (id : Option UInt16) (stream : Option Nat) :
    Frugal T _ n k (receivePublish B qos id stream) := by
  have hcharge : ∀ key, Frugal T _ n k (chargeQuota key) := fun key =>
    .read_bind fun _ _ => .ite (.pure ()) (.ite (.fail _) (.update fun _ h => { h with }))
  unfold receivePublish
  split
  · exact .pure _
  · refine .ite (.fail _) (.read_bind fun e _ => ?_)
    dsimp only
    split
    · exact .ite (.fail _) (.bind (hcharge _) fun _ =>
        .bind (.update fun _ h => { h with }) fun _ => .pure _)
    · exact .bind (hcharge _) fun _ => .bind (.update fun _ h => { h with }) fun _ => .pure _

theorem frugal_manualAckPacket (id : UInt16) (kind reason : UInt8) (properties : Properties)
    (stream : Option Nat) :
    Frugal T _ n k (manualAckPacket id kind reason properties stream) := by
  refine .bind (.ask _) fun _ => .read_bind fun e _ => ?_
  split
  · exact .pure _
  · exact frugal_panicAt _

theorem Thrifty.commitReceiveAck {e : MqttEngine T} (h : Thrifty n k e) (id : UInt16)
    (kind reason : UInt8) (stream : Option Nat) :
    Thrifty n k (e.commitReceiveAck id kind reason stream) := by
  unfold MqttEngine.commitReceiveAck
  dsimp only
  split
  · exact { h with }
  · exact { h with }

theorem frugal_deliverMessage (deliver : Bool) (publish : V5.MqttPublish) (stream : Option Nat) :
    Frugal T ε n k (deliverMessage deliver publish stream) := by
  refine .bind (frugal_noted _) fun events => ?_
  split
  · exact .pure _
  · refine .bind (.read_bind fun e _ => .ite ?_ (.pure _)) fun _ => .pure _
    refine .bind (.attempt (frugal_manualAckPacket _ _ _ _ _)) fun result => ?_
    split
    · exact .bind (.update fun _ h => h.commitReceiveAck _ _ _ _) fun _ => .pure _
    · exact .bind (frugal_noted _) fun _ => .pure _

theorem frugal_receiveMessage (publish : V5.MqttPublish) (stream : Option Nat) :
    Frugal T ε n k (receiveMessage B publish stream) := by
  refine .bind (.attempt (frugal_resolveIncoming _)) fun resolved => ?_
  split
  · exact frugal_connectionFailed _
  · refine .bind (.attempt (frugal_receivePublish _ _ _)) fun received => ?_
    split
    · exact frugal_connectionFailed _
    · exact frugal_deliverMessage _ _ _

theorem frugal_receivePubrel (id : UInt16) (stream : Option Nat) :
    Frugal T ε n k (receivePubrel B id stream) := by
  have hreceived : ∀ reason,
      Frugal T ε n k (pubrelReceived id reason stream) := by
    intro reason
    refine .bind (frugal_noted _) fun events => .read_bind fun e _ => .ite ?_ (.pure _)
    refine .bind (.attempt (frugal_manualAckPacket _ _ _ _ _)) fun result => ?_
    split
    · exact frugal_panicAt _
    · exact .bind (.update fun _ h => h.commitReceiveAck _ _ _ _) fun _ => .pure _
  refine .ite (frugal_connectionFailed _) (.read_bind fun e _ => ?_)
  dsimp only
  split
  · exact .ite (.bind (.update fun _ h => { h with }) fun _ => hreceived _)
      (.bind (frugal_noted _) fun _ => .pure _)
  · exact .ite (.bind (frugal_noted _) fun _ => .pure _)
      (.bind (.update fun _ h => { h with }) fun _ => hreceived _)

theorem frugal_authReceived (reasonCode : UInt8) (properties : Properties) :
    Frugal T ε n k (authReceived B reasonCode properties) := by
  refine .read_bind fun e _ => .ite (.bind (frugal_failConnection _) fun _ => .pure _)
    (.bind (.update fun e h => ?_) fun _ => .pure _)
  split
  · exact { h with }
  · exact h

theorem frugal_completePublish (ack : MqttPacket) (id : UInt16) (reasonCode : UInt8)
    (properties : Option Properties) :
    Frugal T ε n k (completePublish ack id reasonCode properties) := by
  refine .read_bind fun e _ => ?_
  split
  · exact .pure _
  · exact .bind (.update fun e h => { h with }) fun _ => .bind (frugal_noted _) fun _ => .pure _

theorem frugal_releasePublish (id : UInt16) (rel : Response) :
    Frugal T ε n k (releasePublish id rel) := by
  refine .read_bind fun e _ => ?_
  split
  · exact frugal_panicAt _
  · exact .bind (.update fun e h => { h with }) fun _ => .pure _

/-! ### CONNACK -/

theorem frugal_negotiate (properties : Properties) :
    Frugal T _ n k (negotiate B properties) := by
  have hproperty : ∀ {e e' : MqttEngine T} {property : Property}, Thrifty n k e →
      e.negotiateProperty property = .ok e' → Thrifty n k e' := by
    intro e e' property h hok
    cases property <;> simp only [negotiateProperty] at hok <;> try split at hok
    all_goals first
      | cases hok; exact { h with }
      | cases hok
  have hloop : ∀ (properties : Properties) (seen : List PropertyID),
      Frugal T _ n k (negotiateLoop seen properties) := by
    intro properties
    induction properties with
    | nil => exact fun _ => .pure ()
    | cons property rest ih =>
      intro seen
      unfold negotiateLoop
      exact .ite (.fail _) (.ask_bind fun e next he hok =>
        .bind (.update fun _ _ => hproperty he hok) fun _ => ih _)
  exact .bind (hloop _ _) fun _ => .bind (.ask _) fun _ => .update fun _ h => { h with }

theorem frugal_candidateId (requested : Option UInt16) :
    Frugal T _ n k (candidateId requested) := by
  refine .read_bind fun e _ => ?_
  cases requested with
  | some id => exact .ite (.fail _) (.pure _)
  | none =>
    refine .read_bind fun e _ => ?_
    split
    · exact .fail _
    · refine .bind (.update fun _ h => { h with }) fun _ => ?_
      split
      · exact .pure _
      · exact .fail _

/-- A SUBSCRIBE is appended, or nothing. -/
theorem costs_subscribeInner (command : SubscribeCommand) :
    Costs T _ n k (subscribeInner B command) :=
  .after (.ask _) fun _ => .after (.ask _) fun _ => .after (.ask _) fun _ =>
    .after (frugal_candidateId _) fun _ => .after (.read_bind fun _ _ => .pure _) fun _ =>
      .bind (costs_enqueuePacketInner _ _) fun _ =>
        .bind (.bind (.ask _) fun _ => .update fun _ h => { h with }) fun _ =>
          .bind (.update fun _ h => { h with }) fun _ =>
            .bind (frugal_startDeadline _ _) fun _ => .pure _

theorem replayOrder_length (previous : List (UInt16 × MqttPacket)) :
    (replayOrder previous).length = previous.length := by
  rw [replayOrder, List.length_append, ← List.countP_eq_length_filter,
    ← List.countP_eq_length_filter, List.length_eq_countP_add_countP (·.2.isPubRel)]

theorem costs_restoreSession (sessionPresent : Bool) :
    Costs T ε n k (restoreSession B sessionPresent) := by
  have hstart : ∀ resumed, Costs T ε n k (startSession B resumed) := by
    intro resumed e h
    refine .ite (fun _ => .stay (h.mono (Nat.le_succ n))) fun _ => .update_bind (.read_bind ?_)
    have hdiscarded : Thrifty n k e.discardReceived := { h with }
    refine .ite (fun _ => .stay { h.mono (Nat.le_succ n) with }) fun _ =>
      .ite (fun _ => .stay (hdiscarded.mono (Nat.le_succ n))) fun _ => ?_
    refine .attempt_bind (costs_subscribeInner _ _ hdiscarded) fun result e' h' => ?_
    cases result with
    | ok _ => exact .stay h'
    | error error => exact frugal_noted _ e' h'
  intro e h
  refine .read_bind (.update_bind ?_)
  generalize hprevious : (if e.replays sessionPresent then replayOrder e.previousInflight
    else e.previousInflight) = previous
  have hlength : previous.length = e.previousInflight.length := by
    rw [← hprevious]
    split
    · exact replayOrder_length _
    · rfl
  have hcleared : Thrifty (n - previous.length) k { e with previousInflight := [] } := by
    refine ⟨?_, h.unread⟩
    have hbacklog := h.backlog
    simp only [backlog, List.length_nil] at hbacklog ⊢
    omega
  have hrestored := hcleared.restoreEntries (e.replays sessionPresent) previous
  have hle : previous.length ≤ n := by
    have hbacklog := h.backlog
    simp only [backlog] at hbacklog
    omega
  rw [Nat.sub_add_cancel hle] at hrestored
  exact (hstart _).bind (fun _ => .bind frugal_processReplay fun _ => .pure _) _ hrestored

theorem costs_handleConnack (v5 : Bool) (reasonCode : UInt8) (sessionPresent : Bool)
    (properties : Option Properties) :
    Costs T ε n k (handleConnack B v5 reasonCode sessionPresent properties) := by
  intro e h
  refine .read_bind ?_
  cases e.connackCheck B v5 reasonCode sessionPresent (properties.getD []) with
  | error error => exact (Costs.free (frugal_connectionFailed error)) e h
  | ok _ =>
    have hended : Thrifty n k e.endHandshake := { h with }
    refine .update_bind (.attempt_bind (Eff.Respects.onlyWhen (frugal_negotiate _) _ hended)
      fun result e₁ h₁ => ?_)
    cases result with
    | error error => exact (Costs.free (frugal_connectionFailed error)) e₁ h₁
    | ok _ =>
      refine Costs.after (.update fun e h => ?_) (fun _ => .after (frugal_noted _) fun _ =>
        .after (.update fun e h => ?_) fun _ => ?_) e₁ h₁
      · unfold establish
        dsimp only
        split
        · exact { h with }
        · exact { h with }
      · unfold limitInflight
        split
        · exact h
        · exact { h with }
      · split
        · exact (costs_restoreSession _).bind fun _ => .pure _
        · exact .free (.bind frugal_handleConnectionLostInner fun _ => .pure _)

/-! ### One packet -/

/-- A packet was handled: what it added and its answer are one packet at most. -/
def Answers (n k : Nat) {α : Type} (r : Except ε (α × List Response)) (e : MqttEngine T) : Prop :=
  e.parser.buffer.length ≤ k ∧
    ∀ events responses, r = .ok (events, responses) → e.backlog + responses.length ≤ n + 1

theorem answers_terse {α : Type} {m : Eff (MqttEngine T) ε (α × List Response)} {e : MqttEngine T}
    (hm : Frugal T ε n k m) (terse : Terse T ε 1 m) (h : Thrifty n k e) : Ends (m e) (Answers n k) := by
  refine (ends_both (hm e h) (terse e)).weaken fun r e' h' => ⟨h'.1.unread, ?_⟩
  intro events responses heq
  have hone := h'.2 events responses heq
  have := h'.1.backlog
  omega

theorem answers_silent {α : Type} {m : Eff (MqttEngine T) ε (α × List Response)} {e : MqttEngine T}
    (hm : Costs T ε n k m) (silent : Terse T ε 0 m) (h : Thrifty n k e) : Ends (m e) (Answers n k) := by
  refine (ends_both (hm e h) (silent e)).weaken fun r e' h' => ⟨h'.1.unread, ?_⟩
  intro events responses heq
  have hnone := h'.2 events responses heq
  have := h'.1.backlog
  omega

theorem dispatch_answers (packet : MqttPacket) (stream : Option Nat) {e : MqttEngine T}
    (h : Thrifty n k e) : Ends ((dispatch B packet stream : Eff _ ε _) e) (Answers n k) := by
  have hreported {α : Type} {m : Eff (MqttEngine T) ε α} {events : α → List MqttEvent}
      (hm : Frugal T ε n k m) : Ends ((m >>= fun a => noted (events a) >>= fun events =>
        pure (events, ([] : List Response)) : Eff (MqttEngine T) ε _) e) (Answers n k) :=
    answers_terse (.bind hm fun _ => .bind (frugal_noted _) fun _ => .pure _)
      (.bind fun _ => .bind fun _ => .pure _ (Nat.zero_le 1)) h
  cases packet with
  | connAck5 | connAck3 => exact answers_silent (costs_handleConnack _ _ _ _) (.handleConnack _ _ _ _) h
  | pubAck5 | pubAck3 | pubComp5 | pubComp3 =>
    exact answers_terse (frugal_completePublish _ _ _ _) (.completePublish _ _ _ _) h
  | publish5 | publish3 => exact answers_terse (frugal_receiveMessage _ _) (.receiveMessage _ _) h
  | pubRec5 =>
    exact answers_terse (.ite (frugal_completePublish _ _ _ _) (frugal_releasePublish _ _))
      (.ite (.completePublish _ _ _ _) (.releasePublish _ _)) h
  | pubRec3 => exact answers_terse (frugal_releasePublish _ _) (.releasePublish _ _) h
  | pubRel5 | pubRel3 => exact answers_terse (frugal_receivePubrel _ _) (.receivePubrel _ _) h
  | subAck5 | subAck3 | unsubAck5 | unsubAck3 | pingResp5 | pingResp3 =>
    exact hreported (.update fun _ h => { h with })
  | auth => exact hreported (frugal_authReceived _ _)
  | disconnect5 => exact hreported frugal_handleConnectionLostInner
  | _ => exact answers_terse (.pure _) (.pure _ (Nat.zero_le 1)) h

theorem handlePacket_answers (packet : MqttPacket) (stream : Option Nat) {e : MqttEngine T}
    (h : Thrifty n k e) : Ends ((handlePacket B packet stream : Eff _ ε _) e) (Answers n k) := by
  refine .bind (frugal_acceptIncoming _ e h) (fun accepted e₁ h₁ => ?_)
    fun _ _ h₁ => ⟨h₁.unread, nofun⟩
  refine .ite (fun _ => .read_bind ?_) fun _ => ?_
  · cases e₁.validateAck packet stream with
    | error error =>
      exact answers_terse (.read_bind fun _ _ => .ite (frugal_connectionFailed _)
        (.bind (frugal_noted _) fun _ => .pure _))
        (.bind fun _ => .ite (.connectionFailed _) (.bind fun _ => .pure _ (Nat.zero_le 1))) h₁
    | ok _ => exact dispatch_answers packet stream h₁
  · exact answers_terse (.bind frugal_takeEvents fun _ => .pure _)
      (.bind fun _ => .pure _ (Nat.zero_le 1)) h₁

theorem frugal_handleReducedPacket (packet : ParsedPacket) (stream : Option Nat) :
    Frugal T ε n k (handleReducedPacket B packet stream) := by
  have hping : Frugal T ε n k pingAnswered :=
    .bind (.update fun _ h => { h with }) fun _ => .pure _
  have hlost : ∀ event, Frugal T ε n k (serverDisconnected B event) :=
    fun event => .bind frugal_handleConnectionLostInner fun _ => .pure _
  refine .bind (frugal_acceptIncoming _) fun accepted => .ite ?_ (.pure _)
  cases packet with
  | typeOnly packet =>
    show Frugal T ε n k (reducedType B packet stream)
    unfold reducedType
    split
    · exact .ite (.pure _) (.pure _)
    · exact hping
    · exact hlost _
    · exact .pure _
  | headersParsed packet =>
    refine .read_bind fun e _ => ?_
    cases packet.variableHeader with
    | packetIdOnlyV3 messageId => exact .ite (.pure _) (.pure _)
    | empty => exact .ite hping (.ite (hlost _) (.pure _))
    | authV5 reasonCode properties => exact .bind (frugal_authReceived _ _) fun _ => .pure _
    | disconnectV5 reasonCode properties => exact hlost _
    | _ => exact .pure _
  | rawBody packet => exact .pure _
  | full packet => exact frugal_panicAt _

/-- The answer to a packet joins the responses. -/
theorem respond_thrifty (responses : List Response) {e : MqttEngine T} (hunread : e.parser.buffer.length ≤ k)
    (h : e.backlog + responses.length ≤ n) :
    Ends ((respond B responses : Eff _ ε _) e) (fun _ e' => Thrifty n k e') := by
  refine .update_bind (frugal_flushResponses _ ⟨le_trans (le_of_eq ?_) h, hunread⟩)
  simp only [backlog, List.length_append]
  omega

/-- A packet of which only a part was read is answered with one packet at most. -/
theorem reduced_thrifty (packet : ParsedPacket) {e : MqttEngine T} (h : Thrifty n k e) :
    Ends ((handleReducedPacket B packet none >>= fun answer =>
        Eff.forEach (fun event => Eff.update fun e => e.pushEvent event) answer.1.toList >>= fun _ =>
          Eff.onlyWhen (answer.2.isSome = true) (respond B answer.2.toList) :
      Eff (MqttEngine T) ε Unit) e) (fun _ e' => Thrifty (n + 1) k e') := by
  refine .bind_total (frugal_handleReducedPacket packet none e h)
    (total_handleReducedPacket packet none) fun answer e₁ h₁ => ?_
  have hevents : Frugal T ε n k (Eff.forEach (fun event => Eff.update fun e => e.pushEvent event)
      answer.1.toList) := .forEach (fun _ => .update fun _ h => { h with }) _
  refine .bind (hevents e₁ h₁) (fun _ e₂ h₂ => ?_) fun _ _ h₂ => h₂.mono (Nat.le_succ n)
  refine .onlyWhen (fun _ => ?_) fun _ => .stay (h₂.mono (Nat.le_succ n))
  refine respond_thrifty _ h₂.unread (Nat.add_le_add h₂.backlog ?_)
  cases answer.2 with
  | none => exact Nat.zero_le 1
  | some response => exact le_refl 1

/-- A packet that was read adds one packet to the backlog at most. -/
theorem costs_handleParsed (packet : ParsedPacket) :
    Costs T ε n k (handleParsed B packet) := by
  intro e h
  have hreceived : Thrifty n k { e with lastPacketReceived := e.now } := { h with }
  refine .update_bind ?_
  cases packet with
  | full packet =>
    refine .bind_total (handlePacket_answers packet none hreceived) (total_handlePacket packet none)
      fun answer e₁ h₁ => ?_
    exact .update_bind (respond_thrifty answer.2 h₁.1 (h₁.2 answer.1 answer.2 rfl))
  | headersParsed packet => exact reduced_thrifty _ hreceived
  | rawBody packet => exact reduced_thrifty _ hreceived
  | typeOnly packet => exact reduced_thrifty _ hreceived

/-- The parser hands out a packet only with bytes of the input. -/
theorem nextParsed_shorter {p parser : MqttParser} {packet : ParsedPacket}
    (h : p.nextParsed B.strict = (.ok (some packet), parser)) :
    parser.buffer.length < p.buffer.length := by
  have hsplits := MqttParser.nextParsed_splits B.strict p
  rw [h] at hsplits
  cases hsplit : frameSplitter B.strict p.parseLevel p.mqttVersion p.buffer with
  | error error =>
    rw [hsplit] at hsplits
    cases hsplits
  | ok item =>
    rw [hsplit] at hsplits
    cases item with
    | none => cases hsplits
    | some item =>
      obtain ⟨-, hrest, -⟩ := hsplits
      obtain ⟨htwo, hle⟩ := packetFrameLen_le (frameSplitter_item hsplit).2.1
      rw [hrest, List.length_drop]
      omega

/-! ## The input loop -/

/-- A packet that is handled was paid for with its bytes. -/
theorem parseNext_turn {e : MqttEngine T} (h : Thrifty n k e) :
    Ends ((parseNext B : Eff _ ε _) e) (fun r e' => Thrifty n k e' ∧
      (r = .ok true → e'.parser.buffer.length < e.parser.buffer.length)) := by
  unfold parseNext
  refine .read_bind ?_
  rcases hnext : e.parser.nextParsed B.strict with ⟨result, parser⟩
  have hshort : parser.buffer.length ≤ e.parser.buffer.length := by
    obtain ⟨-, htaken⟩ := MqttParser.nextParsed_taken B.strict e.parser
    rw [hnext] at htaken
    rw [htaken, List.length_drop]
    exact Nat.sub_le _ _
  have hread : Thrifty n k { e with parser := parser } := by
    refine ⟨le_trans ?_ h.backlog, hshort.trans h.unread⟩
    simp only [backlog]
    omega
  refine .update_bind ?_
  rcases result with failure | found
  · cases failure with
    | err error =>
      exact .bind (frugal_failConnection _ _ hread) (fun _ _ h' => .stay ⟨h', nofun⟩)
        fun _ _ h' => ⟨h', nofun⟩
    | panic p => exact .refl
  · cases found with
    | none => exact .stay ⟨hread, nofun⟩
    | some packet =>
      have hless := nextParsed_shorter hnext
      obtain ⟨m, rfl⟩ : ∃ m, n = m + 1 := by
        have hbacklog := h.backlog
        simp only [backlog] at hbacklog
        exact Nat.exists_eq_add_one.mpr (by omega)
      have hpaid : Thrifty m parser.buffer.length { e with parser := parser } := by
        refine ⟨?_, le_refl _⟩
        have hbacklog := h.backlog
        simp only [backlog] at hbacklog ⊢
        omega
      refine .bind (costs_handleParsed packet _ hpaid) (fun _ e' h' => .stay ⟨⟨h'.backlog, ?_⟩, fun _ => ?_⟩)
        fun _ e' h' => ⟨⟨h'.backlog, ?_⟩, nofun⟩
      · exact (h'.unread.trans hshort).trans h.unread
      · exact lt_of_le_of_lt h'.unread hless
      · exact (h'.unread.trans hshort).trans h.unread

/-- A turn of the loop in `handle_incoming_inner`. -/
def incomingPass (B : Build) (_ : Unit) : Eff (MqttEngine T) ε (Unit ⊕ Unit) := do
  let e ← Eff.read
  if e.state.responses ≠ [] ∨ e.state.inputClosed then return .inr ()
  else do
    match ← Eff.attempt (validateInputBuffer B e.options e.parser.buffer) with
    | .error error => do
      failConnection B error
      return .inr ()
    | .ok () =>
      if e.events.length ≥ e.options.maxEventCount then return .inr ()
      else do
        if ← parseNext B then return .inl () else return .inr ()

theorem incomingLoop_unrolls :
    Unrolls (incomingPass (T := T) (ε := ε) B) (fun fuel _ => incomingLoop B fuel) := by
  intro fuel _
  funext e
  show incomingLoop B (fuel + 1) e = _
  rw [incomingPass, Machine.bind_assoc, incomingLoop, Eff.read_bind, Eff.read_bind]
  split
  · rfl
  · rw [Machine.bind_assoc]
    refine congrFun (congrArg _ (funext fun result => ?_)) e
    cases result with
    | error error => exact (break_bind _ _).symm
    | ok _ =>
      dsimp only
      split
      · rfl
      · rw [Machine.bind_assoc]
        refine congrArg _ (funext fun more => ?_)
        cases more <;> rfl

theorem frugal_validateInputBuffer (options : MqttClientOptions) (bytes : Bytes) :
    Frugal T _ n k (validateInputBuffer B options bytes) := by
  refine .bind (.lift _) fun _ => ?_
  split
  · exact .pure ()
  · refine .ite (.pure ()) ?_
    split
    · exact frugal_panicAt _
    · exact .pure ()
    · exact .lift _

theorem keeps_validateInputBuffer (options : MqttClientOptions) (bytes : Bytes) :
    Eff.Keeps (fun e : MqttEngine T => e.parser)
      (validateInputBuffer B options bytes : Eff (MqttEngine T) _ Unit) := by
  refine .bind (.ask _) fun _ => ?_
  split
  · exact .pure ()
  · refine .ite (.pure ()) ?_
    split
    · exact .halt fun _ => rfl
    · exact .pure ()
    · exact .ask _

theorem incomingPass_turn {e : MqttEngine T} (h : Thrifty n k e) :
    Ends ((incomingPass B () : Eff _ ε _) e) (fun r e' => Thrifty n k e' ∧
      (r = .ok (.inl ()) → e'.parser.buffer.length < e.parser.buffer.length)) := by
  unfold incomingPass
  refine .read_bind (.ite (fun _ => .stay ⟨h, nofun⟩) fun _ => ?_)
  refine .attempt_bind ((frugal_validateInputBuffer e.options e.parser.buffer e h).keeps
    (keeps_validateInputBuffer _ _)) fun result e₁ h₁ => ?_
  cases result with
  | error error =>
    exact .bind (frugal_failConnection _ _ h₁.1) (fun _ _ h' => .stay ⟨h', nofun⟩)
      fun _ _ h' => ⟨h', nofun⟩
  | ok _ =>
    refine .ite (fun _ => .stay ⟨h₁.1, nofun⟩) fun _ => ?_
    refine .bind (parseNext_turn h₁.1) (fun more e₂ h₂ => ?_) fun _ _ h₂ => ⟨h₂.1, nofun⟩
    cases more with
    | true => exact .stay ⟨h₂.1, fun _ => lt_of_lt_of_eq (h₂.2 rfl) (by rw [h₁.2])⟩
    | false => exact .stay ⟨h₂.1, nofun⟩

/-- Nothing happens to an engine without input. -/
theorem incomingPass_idle {e : MqttEngine T} (hempty : e.parser.buffer = []) :
    (incomingPass B () : Eff _ ε _) e = .done (.ok (.inr ())) e := by
  have hvalid : validateInputBuffer B e.options e.parser.buffer e = .done (.ok ()) e := by
    have hover : rejectOver e.options.maxIncomingBufferBytes ([] : Bytes).length "incoming bytes" = .ok () :=
      rejectOver_eq_ok.mpr fun _ _ => Nat.zero_le _
    rw [hempty, validateInputBuffer, hover]
    cases incomingLimit e.options <;> rfl
  have hparse : (parseNext B : Eff _ ε _) e = .done (.ok false) e := by
    rw [parseNext, Eff.read_bind, MqttParser.nextParsed, if_pos hempty]
    rfl
  rw [incomingPass, Eff.read_bind]
  split
  · rfl
  · rw [Eff.bind_of_ok (Eff.attempt_of_done hvalid)]
    dsimp only
    split
    · rfl
    · rw [Eff.bind_of_ok hparse]
      rfl

/-- The loop of `handle_incoming_inner` comes to an end. -/
theorem incomingLoop_loops (e : MqttEngine T) :
    Loops (incomingPass B) () e ((incomingLoop B e.parser.buffer.length : Eff _ ε _) e) := by
  refine incomingLoop_unrolls.loops (μ := fun _ e => e.parser.buffer.length) ?_ ?_ _ () e (le_refl _)
  · rintro ⟨⟩ e ⟨⟩ e' hpass
    exact ((incomingPass_turn ⟨le_refl _, le_refl _⟩).result hpass).2 rfl
  · intro _ e hempty
    exact ⟨(), incomingPass_idle (List.length_eq_zero_iff.mp hempty), rfl⟩

/-- The input that waits is handled without adding to the backlog. -/
theorem frugal_resumeIncoming : Frugal T ε n k (resumeIncoming B) := by
  have hloop : ∀ fuel, Frugal T ε n k (incomingLoop B fuel) := fun fuel =>
    incomingLoop_unrolls.respects (fun _ _ h => (incomingPass_turn h).weaken fun _ _ h' => h'.1)
      (fun _ => .pure _) fuel ()
  refine .read_bind fun e _ => .ite (.pure ()) (.bind ?_ fun _ => .update fun _ h => { h with })
  refine .read_bind fun e _ => .ite frugal_takeEvents (.bind (.read_bind fun e _ => ?_)
    fun _ => frugal_takeEvents)
  split
  · exact frugal_failConnection _
  · refine .bind (.update fun e h => ?_) fun _ => .bind frugal_flushResponses fun _ =>
      .read_bind fun _ _ => .bind (hloop _) fun _ => frugal_processQueue
    have hsame : (e.parser.feed []).buffer = e.parser.buffer := by
      rw [MqttParser.buffer_feed, List.append_nil]
    refine ⟨le_trans (le_of_eq ?_) h.backlog, ?_⟩
    · simp only [backlog, hsame]
    · show (e.parser.feed []).buffer.length ≤ k
      rw [hsame]
      exact h.unread

/-! ## The output loop -/

/-- A turn of the loop in `take_outgoing_inner`. -/
def outputPass (B : Build) (bytes : Bytes) : Eff (MqttEngine T) ε (Bytes ⊕ Bytes) := do
  let e ← Eff.read
  let bytes := bytes ++ e.outgoingBuffer.flatten
  Eff.update (fun e => { e.record (.taken e.outgoingBuffer.flatten) with outgoingBuffer := [] })
  flushResponses B
  resumeIncoming B
  processQueue B
  let e ← Eff.read
  if e.outgoingBuffer = [] then return .inr bytes else return .inl bytes

theorem outputLoop_unrolls : Unrolls (outputPass (T := T) (ε := ε) B) (outputLoop B) := by
  intro fuel bytes
  funext e
  rw [outputPass, Machine.bind_assoc, outputLoop, Eff.read_bind, Eff.read_bind]
  rw [Machine.bind_assoc]
  refine congrFun (congrArg _ (funext fun _ => ?_)) e
  rw [Machine.bind_assoc]
  refine congrArg _ (funext fun _ => ?_)
  rw [Machine.bind_assoc]
  refine congrArg _ (funext fun _ => ?_)
  rw [Machine.bind_assoc]
  refine congrArg _ (funext fun _ => ?_)
  rw [Machine.bind_assoc]
  refine congrArg _ (funext fun e => ?_)
  split <;> rfl

/-- A turn leaves no output behind, or it has used up a part of the backlog. -/
theorem outputPass_turn (bytes : Bytes) (e : MqttEngine T) :
    Ends ((outputPass B bytes : Eff _ ε _) e) (fun r e' =>
      (∀ all, r = .ok (.inr all) → e'.outgoingBuffer = []) ∧
      ∀ more, r = .ok (.inl more) → e'.outputFuel < e.outputFuel) := by
  have htaken : Thrifty (e.outputFuel - 1) e.parser.buffer.length
      { e.record (.taken e.outgoingBuffer.flatten) with outgoingBuffer := [] } := by
    refine ⟨?_, le_refl _⟩
    simp only [backlog, outputFuel, record, List.length_nil]
    omega
  refine .read_bind (.update_bind ?_)
  refine .bind (frugal_flushResponses _ htaken) (fun _ e₁ h₁ => ?_) fun _ _ _ => ⟨by simp, by simp⟩
  refine .bind (frugal_resumeIncoming e₁ h₁) (fun _ e₂ h₂ => ?_) fun _ _ _ => ⟨by simp, by simp⟩
  refine .bind (frugal_processQueue e₂ h₂) (fun _ e₃ h₃ => .read_bind ?_)
    fun _ _ _ => ⟨by simp, by simp⟩
  refine .ite (fun hempty => .stay ⟨fun _ _ => hempty, by simp⟩) fun hsome =>
    .stay ⟨by simp, fun _ _ => ?_⟩
  have hbacklog := h₃.backlog
  have hpos := List.length_pos_of_ne_nil hsome
  simp only [backlog, outputFuel] at hbacklog ⊢
  omega

/-- The loop of `take_outgoing_inner` comes to an end. -/
theorem takeOutgoingInner_loops (e : MqttEngine T) :
    Loops (outputPass B) [] e ((takeOutgoingInner B : Eff _ ε _) e) := by
  refine outputLoop_unrolls.loops (μ := fun _ e => e.outputFuel) ?_ ?_ _ [] e (le_refl _)
  · intro bytes e more e' hpass
    exact ((outputPass_turn bytes e).result hpass).2 more rfl
  · intro bytes e hzero
    exact absurd hzero (Nat.succ_ne_zero _)

/-- The output loop breaks only where no output is left. -/
theorem loops_outputPass_empty {bytes all : Bytes} {e e' : MqttEngine T}
    {o : Outcome (MqttEngine T) ε Bytes} (h : Loops (outputPass B) bytes e o)
    (ho : o = .done (.ok all) e') : e'.outgoingBuffer = [] := by
  induction h with
  | again _ _ ih => exact ih ho
  | leave hpass =>
    cases ho
    exact ((outputPass_turn _ _).result hpass).1 all rfl
  | fail hpass => cases ho
  | panic hpass => cases ho

/-- What is said about the loops of `take_outgoing` and `handle_incoming` in a state. Each
field but the last two names the loop of one function, and the fuel it is given by the model. -/
structure Terminates (B : Build) (ε : Type) (e : MqttEngine T) : Prop where
  responses : Loops (flushPass B) () e ((flushResponses B : Eff _ ε _) e)
  replay : Loops (replayPass B) () e ((replayLoop B e.sessionReplay.length : Eff _ ε _) e)
  queue : ∀ first, Loops (drainPass B) first e
    ((drainLoop B e.priorityQueue.size first : Eff _ ε _) e)
  input : Loops (incomingPass B) () e ((incomingLoop B e.parser.buffer.length : Eff _ ε _) e)
  output : Loops (outputPass B) [] e ((takeOutgoingInner B : Eff _ ε _) e)
  /-- a turn of the input loop that goes on has used up input -/
  reads : ∀ e', (incomingPass B () : Eff _ ε _) e = .done (.ok (.inl ())) e' →
    e'.parser.buffer.length < e.parser.buffer.length
  /-- a turn of the output loop that goes on has used up a part of the backlog -/
  writes : ∀ bytes more e', (outputPass B bytes : Eff _ ε _) e = .done (.ok (.inl more)) e' →
    e'.outputFuel < e.outputFuel

/-- `take_outgoing` and `handle_incoming` terminate in every state, whatever input, responses,
exchanges and publications wait there, and `take_outgoing` leaves no output behind. -/
theorem draining_terminates (B : Build) (e : MqttEngine T) :
    Terminates B ε e ∧ ∀ bytes e',
      (takeOutgoingInner B : Eff _ ε _) e = .done (.ok bytes) e' → e'.outgoingBuffer = [] := by
  refine ⟨?_, fun bytes e' hrun => ?_⟩
  · exact {
      responses := flushResponses_loops e
      replay := replayLoop_loops e
      queue := fun first => drainLoop_loops first e
      input := incomingLoop_loops e
      output := takeOutgoingInner_loops e
      reads := fun e' hpass => ((incomingPass_turn ⟨le_refl _, le_refl _⟩).result hpass).2 rfl
      writes := fun bytes more e' hpass => ((outputPass_turn bytes e).result hpass).2 more rfl }
  · exact loops_outputPass_empty (takeOutgoingInner_loops e) hrun

/-- CONNECT and a publication that followed the CONNACK are handed over. -/
theorem draining_terminates_publish :
    let e : MqttEngine Timestamp := follow (.ordered true) (newAt {} 0)
      [.timed 0 .connect, .timed 0 (.handleIncoming [0x20, 3, 0, 0, 0]),
        .timed 0 (.publish ⟨"t", [1], 1, false, false, none, [], 0⟩)]
    let outcome := (takeOutgoingInner (.ordered true) : Eff _ MqttClientError _) e
    e.outgoingBuffer.length = 2 ∧ outcome.value = some e.outgoingBuffer.flatten ∧
      outcome.state.outgoingBuffer = [] := by
  intro e outcome
  have hvalue : outcome.value = some e.outgoingBuffer.flatten := by decide +kernel
  refine ⟨by decide +kernel, hvalue, ?_⟩
  exact (draining_terminates (.ordered true) e).2 _ _ (Outcome.eq_done_of_value hvalue)

end MqttEngine

end FlowSdk
