/-
  FlowSdk.Contract.Reuse — the encoding made at admission cannot be observed.

  A publication is encoded when it is accepted, and the bytes are used again if it leaves the
  queue in the same call. In between the engine may send responses, lose the connection over
  one of them, or replay a session. The bytes belong to the publication in front as long as the
  queue is the one they were made for, and the engine drops them as soon as it is not.

  Main results:
    1. `drainLoop_ahead`                  bytes of the publication in front are its encoding
    2. `processQueueWithEncoding_ahead`   the calls before the drain leave the queue or the connection
    3. `reuse_unobservable`               publishing with and without the bytes
-/
import FlowSdk.Machine.Uphold
import FlowSdk.Refine.Run

namespace FlowSdk

open Machine Wire

namespace MqttEngine

variable {T : Type} [TimePoint T] {ε : Type} {B : Build} {e : MqttEngine T} {first : Option Bytes}

/-! ## The queue -/

theorem sendQueued_ahead {priority : UInt8} {item : Queued}
    (h : ∀ bytes ∈ first, item.packet.toBytes B.strict = .ok bytes) :
    (sendQueued B first priority item : Eff (MqttEngine T) ε Unit) =
      sendQueued B none priority item := by
  cases first with
  | none => rfl
  | some bytes =>
    unfold sendQueued
    rw [Option.elim_none, Option.elim_some, h bytes rfl]

theorem drainLoop_ahead (fuel : Nat) (h : e.Ahead B.strict first) :
    (drainLoop B fuel first : Eff _ ε _) e = drainLoop B fuel none e := by
  cases fuel with
  | zero => rfl
  | succ fuel =>
    unfold drainLoop
    rw [Eff.read_bind, Eff.read_bind, PriorityQueue.peek_eq]
    cases hitems : e.priorityQueue.items with
    | nil => rfl
    | cons entry rest =>
      obtain ⟨priority, item⟩ := entry
      have hsend : (sendQueued B first priority item : Eff (MqttEngine T) ε Unit) = _ :=
        sendQueued_ahead fun bytes hbytes => h bytes hbytes priority item rest hitems
      dsimp only [List.head?_cons]
      rw [hsend]

/-- The responses and the replay leave the queue alone, or there is no connection any more. -/
theorem processQueueWithEncoding_ahead (h : e.Ahead B.strict first) :
    (processQueueWithEncoding B first : Eff _ ε _) e = processQueue B e := by
  unfold processQueue processQueueWithEncoding
  rw [Eff.read_bind, Eff.read_bind]
  by_cases hc : e.isConnected = true
  · rw [if_neg (not_not.mpr hc), if_neg (not_not.mpr hc)]
    refine ends_bind_congr (flushResponses_sim (P := .free) e).ends fun _ e₁ hflushed => ?_
    rw [Eff.read_bind, Eff.read_bind]
    by_cases hc₁ : e₁.isConnected = true
    · have hqueue : e₁.priorityQueue = e.priorityQueue := by
        rcases hflushed.same with hclosed | ⟨-, hqueue⟩
        · rw [hclosed.1] at hc₁
          cases hc₁
        · exact hqueue
      rw [if_neg (not_not.mpr hc₁), if_neg (not_not.mpr hc₁)]
      refine ends_bind_congr (processReplay_sim (P := .free) e₁ hc₁).ends ?_
      rintro _ e₂ ⟨-, hqueue₂⟩
      have hahead : (e₂.record .drain).Ahead B.strict first := by
        intro bytes hbytes priority item rest hitems
        have hitems : e₂.priorityQueue.items = (priority, item) :: rest := hitems
        rw [hqueue₂, hqueue] at hitems
        exact h bytes hbytes priority item rest hitems
      rw [Eff.read_bind, Eff.read_bind]
      split
      · rfl
      · exact drainLoop_ahead _ hahead
    · rw [if_pos hc₁, if_pos hc₁]
  · rw [if_pos hc, if_pos hc]

/-! ## The admission -/

/-- `publish_inner` up to the queue: the identifier, and the encoding if the queue was empty. -/
def publishAdmission (B : Build) (command : PublishCommand) :
    Eff (MqttEngine T) MqttClientError (Option UInt16 × Option Bytes) := do
  Eff.onlyWhen (command.qos > 0) requireFullParser
  let (command, registration) ← Eff.ask (fun e => e.validatePublish command)
  Eff.ask (fun e => rejectIf (e.priorityQueue.size ≥ e.options.maxOutgoingPacketCount)
    (.bufferFull "publish queue" e.options.maxOutgoingPacketCount))
  let (command, pid) ← assignId command
  let e ← Eff.read
  let packet := publishPacket e.mqttVersion command
  let bytes ← Eff.lift (e.publishCheck B packet)
  Eff.update (fun e => e.admitPublication pid registration command.priority packet bytes.length)
  return (pid, if e.priorityQueue.size = 0 then some bytes else none)

/-- `publish_inner` is its admission and the processing of the queue. -/
theorem publishInner_eq (command : PublishCommand) :
    (publishInner B command : Eff (MqttEngine T) _ _) = (do
      let (pid, first) ← publishAdmission B command
      processQueueWithEncoding B first
      return pid) := by
  unfold publishInner publishAdmission
  simp only [Machine.bind_assoc]
  rfl

/-- A queue that was empty holds the newcomer alone, or nothing if its capacity is zero. -/
theorem items_enqueue_first {q : PriorityQueue UInt8 Queued} (h : q.size = 0) (priority : UInt8)
    (item : Queued) {entry : UInt8 × Queued} (hentry : entry ∈ (q.enqueue priority item).items) :
    entry.2 = item := by
  have hnil : q.items = [] := List.length_eq_zero_iff.mp (q.items_length.trans h)
  by_cases hbelow : q.size < q.capacity
  · rw [PriorityQueue.items_enqueue hbelow, hnil] at hentry
    rw [List.mem_singleton.mp hentry]
  · have hevicted : (q.enqueue priority item).size = 0 := by
      have hfull : (q.pushed priority item).size > (q.pushed priority item).capacity :=
        Nat.lt_succ_of_le (Nat.not_lt.mp hbelow)
      rw [show q.enqueue priority item = (q.pushed priority item).dropLowestPriority from
        if_pos hfull]
      exact h
    rw [List.length_eq_zero_iff.mp ((PriorityQueue.items_length _).trans hevicted)] at hentry
    cases hentry

omit [TimePoint T] in
theorem ahead_admitted (id : Option UInt16) (registration : Option (UInt16 × Topic))
    (priority : UInt8) {packet : MqttPacket} {bytes : Bytes}
    (hbytes : packet.toBytes B.strict = .ok bytes) :
    (e.admitPublication id registration priority packet bytes.length).Ahead B.strict
      (if e.priorityQueue.size = 0 then some bytes else none) := by
  intro b hb first item rest hitems
  split at hb
  next hempty =>
    cases hb
    have hqueue : ∃ ticket, (e.admitPublication id registration priority packet
        bytes.length).priorityQueue = e.priorityQueue.enqueue priority ⟨packet, ticket⟩ := by
      cases id <;> cases registration <;> exact ⟨_, rfl⟩
    obtain ⟨ticket, hqueue⟩ := hqueue
    have hmem : (first, item) ∈ (e.priorityQueue.enqueue priority ⟨packet, ticket⟩).items := by
      rw [← hqueue, hitems]
      exact List.mem_cons_self
    rw [show item = ⟨packet, ticket⟩ from items_enqueue_first hempty priority _ hmem]
    exact hbytes
  next => cases hb

/-- What an accepted command leaves for the queue. -/
theorem publishAdmission_ahead (command : PublishCommand) (e : MqttEngine T) :
    Ends (publishAdmission B command e)
      (fun r e' => ∀ admitted, r = .ok admitted → e'.Ahead B.strict admitted.2) := by
  unfold publishAdmission
  refine .bind (Q := Any) (.ends_any _) (fun _ e _ => ?_) fun _ _ _ _ h => (by cases h)
  refine .ask_bind (fun checked _ => ?_) fun _ _ => .stay fun _ h => (by cases h)
  refine .ask_bind (fun _ _ => ?_) fun _ _ => .stay fun _ h => (by cases h)
  refine .bind (Q := Any) (.ends_any _) (fun named e _ => ?_) fun _ _ _ _ h => (by cases h)
  refine Reaches.read_bind (.lift_bind ?_ fun _ _ => .stay fun _ h => (by cases h))
  intro bytes hcheck
  refine Reaches.update_bind (.stay ?_)
  rintro admitted ⟨⟩
  exact ahead_admitted _ _ _ (publishCheck_ok hcheck).1

/-- For every state and command: publishing is the admission and the processing of the queue,
and whatever the admission leaves behind, the queue is processed in the same way with the
encoding it hands on and without it. -/
theorem reuse_unobservable (B : Build) (e : MqttEngine T) (command : PublishCommand) :
    publishInner B command e = (do
      let (pid, first) ← publishAdmission B command
      processQueueWithEncoding B first
      return pid : Eff (MqttEngine T) _ _) e ∧
    ∀ pid first e', publishAdmission B command e = .done (.ok (pid, first)) e' →
      (processQueueWithEncoding B first : Eff _ MqttClientError _) e' = processQueue B e' := by
  refine ⟨congrFun (publishInner_eq command) e, fun pid first e' hadmitted => ?_⟩
  have hahead := publishAdmission_ahead (B := B) command e
  rw [hadmitted] at hahead
  exact processQueueWithEncoding_ahead (hahead.2 _ rfl)

/-- The first publication on a connection leaves the queue with the bytes of its admission. -/
theorem reuse_unobservable_first :
    let command : PublishCommand := ⟨"t", [1], 1, false, false, none, [], 0⟩
    let e : MqttEngine Timestamp := follow (.ordered true) (newAt {} 0)
      [.timed 0 .connect, .timed 0 (.handleIncoming [0x20, 3, 0, 0, 0])]
    let bytes : Bytes := [0x32, 7, 0, 1, 116, 0, 1, 0, 1]
    let e' := (publishAdmission (.ordered true) command e).state
    (publishAdmission (.ordered true) command e).value = some (some 1, some bytes) ∧
      (processQueueWithEncoding (.ordered true) (some bytes) : Eff _ MqttClientError _) e' =
        processQueue (.ordered true) e' := by
  intro command e bytes e'
  have hvalue : (publishAdmission (.ordered true) command e).value = some (some 1, some bytes) := by
    decide +kernel
  exact ⟨hvalue, (reuse_unobservable _ e command).2 _ _ _ (Outcome.eq_done_of_value hvalue)⟩

end MqttEngine

end FlowSdk
