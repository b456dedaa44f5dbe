/-
  FlowSdk.Server.Transmission — what `take_pending_messages` sends.

  The loop of the source rotates the queue that it drains: a publication that has to be
  acknowledged and finds no slot goes to the back, and once through the queue those left are in
  their old order. A branch of the loop puts a publication in front again if no identifier is
  free. It is never taken, since the quota is at most 65535.

  Main results:
    1. `nextPacketId_found`          the search succeeds below 65535 exchanges
    2. `drainPending_sends`          the loop, from any state
    3. `drainPending_emits`          the loop, within the quota
    4. `takePendingMessages_exact`   what is sent, what stays and what is tracked
-/
import FlowSdk.Server.Session
import Mathlib.Data.List.Forall2

namespace FlowSdk

open Machine Wire

namespace ServerSession

variable {s s' : ServerSession}

/-- The identifier of a publication that was sent. -/
def idOf (publish : V5.MqttPublish) : UInt16 := publish.packetId.getD 0

/-- The publications that have to be acknowledged. -/
def emitted (packets : List V5.MqttPublish) : List V5.MqttPublish :=
  packets.filter (fun publish => publish.qos > 0)

theorem emitted_pos {publish : V5.MqttPublish} (h : publish.qos > 0) (packets : List V5.MqttPublish) :
    emitted (publish :: packets) = publish :: emitted packets :=
  List.filter_cons_of_pos (decide_eq_true h)

theorem emitted_zero {publish : V5.MqttPublish} (h : ¬ publish.qos > 0)
    (packets : List V5.MqttPublish) : emitted (publish :: packets) = emitted packets :=
  List.filter_cons_of_neg (by simpa using h)

/-! ## Identifiers -/

theorem nextPacketId_found (h : s.inflight < 65535) : ∃ id counter,
    s.nextPacketId = (some id, { s with packetIdCounter := counter }) ∧ id ≠ 0 ∧
      s.inUse id = false := by
  have hused : ∀ id, s.inUse id = true →
      id ∈ (s.unacknowledgedPublishes.keys ++ s.unacknowledgedPubrels.keys).toFinset := by
    intro id hid
    rw [inUse, Bool.or_eq_true, AList.lookup_isSome, AList.lookup_isSome] at hid
    rw [List.mem_toFinset, List.mem_append]
    exact hid
  have hroom := List.toFinset_card_le (s.unacknowledgedPublishes.keys ++ s.unacknowledgedPubrels.keys)
  rw [List.length_append] at hroom
  obtain ⟨id, hid⟩ := Option.isSome_iff_exists.mp (searchFree_isSome hused
    (successor_orbit s.packetIdCounter) (Nat.lt_of_le_of_lt hroom h))
  obtain ⟨-, hfree, k, -, rfl, -⟩ := searchFree_some hid
  refine ⟨_, _, Prod.ext hid rfl, ?_, hfree⟩
  rw [Function.iterate_succ_apply']
  exact successor_ne_zero _

/-- A publication under a free identifier is tracked. -/
theorem inflight_track {id : UInt16} (h : s.inUse id = false) (publish : V5.MqttPublish) :
    (s.track id publish).inflight = s.inflight + 1 := by
  rw [inUse, Bool.or_eq_false_iff] at h
  have hnew : id ∉ s.unacknowledgedPublishes := fun hmem => by
    rw [AList.lookup_isSome.mpr hmem] at h
    cases h.1
  show (s.unacknowledgedPublishes.insert id publish).keys.length +
    s.unacknowledgedPubrels.keys.length = _
  rw [AList.keys_insert, List.erase_of_not_mem hnew, List.length_cons, Nat.add_right_comm]
  rfl

theorem inUse_track {id : UInt16} (publish : V5.MqttPublish) (other : UInt16) :
    (s.track id publish).inUse other = (decide (other = id) || s.inUse other) := by
  rw [inUse, inUse, track]
  by_cases heq : other = id
  · subst heq
    simp
  · simp [heq, AList.lookup_insert_ne]

/-! ## The loop -/

/-- What the loop does in any state, also above the quota. -/
structure Sends (s : ServerSession) (queue back packets rest : List V5.MqttPublish)
    (s' : ServerSession) : Prop where
  /-- What is sent stands in the queue, but for its identifier. -/
  source : ∀ sent ∈ packets, ∃ publish ∈ queue, ∃ id, sent = { publish with packetId := id }
  rest : ∀ publish ∈ rest, publish ∈ queue ∨ publish ∈ back
  tracked : ∀ id publish, s'.unacknowledgedPublishes.lookup id = some publish →
    s.unacknowledgedPublishes.lookup id = some publish ∨ publish ∈ packets
  other : s' = { s with
    pendingPublishes := s'.pendingPublishes
    unacknowledgedPublishes := s'.unacknowledgedPublishes
    packetIdCounter := s'.packetIdCounter }

theorem drainPending_sends (queue : List V5.MqttPublish) (slots : Nat) (s : ServerSession)
    (back : List V5.MqttPublish) :
    Sends s queue back (drainPending queue slots s back).1 (drainPending queue slots s back).2.1
      (drainPending queue slots s back).2.2 := by
  induction queue generalizing slots s back with
  | nil => exact ⟨nofun, fun _ h => .inr h, fun _ _ h => .inl h, rfl⟩
  | cons publish queue ih =>
    have hsource {sent : V5.MqttPublish} : (∃ p ∈ queue, ∃ id, sent = { p with packetId := id }) →
        ∃ p ∈ publish :: queue, ∃ id, sent = { p with packetId := id } :=
      fun ⟨p, hp, hsent⟩ => ⟨p, List.mem_cons_of_mem _ hp, hsent⟩
    unfold drainPending
    by_cases hqos : publish.qos > 0
    · rw [if_pos hqos]
      cases slots with
      | zero =>
        have h := ih 0 s (back ++ [publish])
        refine { h with source := fun sent hsent => hsource (h.source sent hsent), rest := fun p hp => ?_ }
        have hmem := h.rest p hp
        rw [List.mem_append, List.mem_singleton] at hmem
        rw [List.mem_cons]
        tauto
      | succ slots =>
        obtain ⟨found, counter, hnext⟩ : ∃ found counter,
            s.nextPacketId = (found, { s with packetIdCounter := counter }) := ⟨_, _, rfl⟩
        rw [hnext]
        cases found with
        | none => exact ⟨nofun, fun _ h => List.mem_append.mp h, fun _ _ h => .inl h, rfl⟩
        | some id =>
          dsimp only
          set sent : V5.MqttPublish := { publish with packetId := some id }
          have h := ih slots ({ s with packetIdCounter := counter }.track id sent) back
          refine ⟨fun p hp => ?_, fun p hp => ?_, fun other p hp => ?_, by rw [h.other]; rfl⟩
          · rcases List.mem_cons.mp hp with rfl | hp
            · exact ⟨publish, List.mem_cons_self, some id, rfl⟩
            · exact hsource (h.source p hp)
          · exact (h.rest p hp).imp_left (List.mem_cons_of_mem _)
          · rcases h.tracked other p hp with hold | hnew
            · by_cases hsame : other = id
              · subst hsame
                have hlookup : some sent = some p := (AList.lookup_insert _).symm.trans hold
                exact .inr (Option.some.inj hlookup ▸ List.mem_cons_self)
              · exact .inl ((AList.lookup_insert_ne hsame).symm.trans hold)
            · exact .inr (List.mem_cons_of_mem _ hnew)
    · rw [if_neg hqos]
      have h := ih slots s back
      refine ⟨fun p hp => ?_, fun p hp => (h.rest p hp).imp_left (List.mem_cons_of_mem _),
        fun id p hp => (h.tracked id p hp).imp_right (List.mem_cons_of_mem _), h.other⟩
      rcases List.mem_cons.mp hp with rfl | hp
      · exact ⟨p, List.mem_cons_self, p.packetId, rfl⟩
      · exact hsource (h.source p hp)

/-- All publications of QoS 0, and of the others the first `slots`. -/
def passing : Nat → List V5.MqttPublish → List V5.MqttPublish
  | _, [] => []
  | slots, publish :: queue =>
    if publish.qos > 0 then
      match slots with
      | 0 => passing 0 queue
      | slots + 1 => publish :: passing slots queue
    else publish :: passing slots queue

theorem passing_zero {publish : V5.MqttPublish} (h : ¬ publish.qos > 0) (slots : Nat)
    (queue : List V5.MqttPublish) :
    passing slots (publish :: queue) = publish :: passing slots queue := by
  cases slots <;> rw [passing, if_neg h]

/-- Slots beyond the publications that need one make no difference. -/
theorem passing_min (slots : Nat) (queue : List V5.MqttPublish) :
    passing (min (emitted queue).length slots) queue = passing slots queue := by
  induction queue generalizing slots with
  | nil => rfl
  | cons publish queue ih =>
    by_cases hqos : publish.qos > 0
    · rw [emitted_pos hqos]
      cases slots with
      | zero => rw [Nat.min_zero]
      | succ slots =>
        rw [List.length_cons, Nat.succ_min_succ, passing, if_pos hqos, passing, if_pos hqos, ih]
    · rw [emitted_zero hqos, passing_zero hqos, passing_zero hqos, ih]

theorem passing_spec (slots : Nat) (queue : List V5.MqttPublish) :
    (passing slots queue).Sublist queue ∧
      (passing slots queue).filter (fun publish => publish.qos = 0) =
        queue.filter (fun publish => publish.qos = 0) ∧
      emitted (passing slots queue) = (emitted queue).take slots := by
  induction queue generalizing slots with
  | nil => exact ⟨.refl [], rfl, (List.take_nil).symm⟩
  | cons publish queue ih =>
    by_cases hqos : publish.qos > 0
    · have hne : ¬ publish.qos = 0 := fun hzero => absurd (hzero ▸ hqos) (by decide)
      cases slots with
      | zero =>
        obtain ⟨hsub, hzero, hmore⟩ := ih 0
        rw [passing, if_pos hqos, List.filter_cons_of_neg (by simpa using hne)]
        exact ⟨hsub.cons publish, hzero, hmore⟩
      | succ slots =>
        obtain ⟨hsub, hzero, hmore⟩ := ih slots
        rw [passing, if_pos hqos, List.filter_cons_of_neg (by simpa using hne),
          List.filter_cons_of_neg (by simpa using hne), emitted_pos hqos, emitted_pos hqos, hmore]
        exact ⟨hsub.cons_cons publish, hzero, rfl⟩
    · have hzero : publish.qos = 0 := UInt8.le_zero_iff.mp (UInt8.not_lt.mp hqos)
      obtain ⟨hsub, hsame, hmore⟩ := ih slots
      rw [passing_zero hqos, List.filter_cons_of_pos (by simpa using hzero),
        List.filter_cons_of_pos (by simpa using hzero), emitted_zero hqos, emitted_zero hqos, hsame]
      exact ⟨hsub.cons_cons publish, rfl, hmore⟩

/-- A publication of the queue as it is sent: above QoS 0 it gets an identifier. -/
def SentAs (queued sent : V5.MqttPublish) : Prop :=
  if queued.qos > 0 then ∃ id, sent = { queued with packetId := some id } else sent = queued

/-- The packets that the loop sends from the queue, and the state that it leaves. -/
structure Emits (s : ServerSession) (slots : Nat) (queue packets : List V5.MqttPublish)
    (s' : ServerSession) : Prop where
  sent : List.Forall₂ SentAs (passing slots queue) packets
  fresh : ∀ publish ∈ emitted packets, publish.packetId = some (idOf publish) ∧
    idOf publish ≠ 0 ∧ s.inUse (idOf publish) = false ∧
      s'.unacknowledgedPublishes.lookup (idOf publish) = some publish
  distinct : ((emitted packets).map idOf).Nodup
  kept : ∀ id, id ∉ (emitted packets).map idOf →
    s'.unacknowledgedPublishes.lookup id = s.unacknowledgedPublishes.lookup id

/-- The first publication is sent under a free identifier, and the rest from there on. -/
theorem Emits.track {slots : Nat} {publish sent : V5.MqttPublish} {queue packets : List V5.MqttPublish}
    {id counter : UInt16} (hqos : publish.qos > 0) (hzero : id ≠ 0) (hfree : s.inUse id = false)
    (hsent : sent = { publish with packetId := some id })
    (h : Emits ({ s with packetIdCounter := counter }.track id sent) slots queue packets s') :
    Emits s (slots + 1) (publish :: queue) (sent :: packets) s' := by
  have hsame : ∀ other, ({ s with packetIdCounter := counter }.track id sent).inUse other =
      (decide (other = id) || s.inUse other) := inUse_track sent
  have hnew : id ∉ (emitted packets).map idOf := by
    intro hmem
    obtain ⟨p, hp, hid⟩ := List.mem_map.mp hmem
    have hused := (h.fresh p hp).2.2.1
    rw [hid, hsame, decide_eq_true rfl] at hused
    cases hused
  have hname : idOf sent = id := by rw [hsent]; rfl
  have hpos : sent.qos > 0 := by rw [hsent]; exact hqos
  refine ⟨?_, fun p hp => ?_, ?_, fun other hother => ?_⟩
  · rw [passing, if_pos hqos]
    refine .cons ?_ h.sent
    rw [SentAs, if_pos hqos]
    exact ⟨id, hsent⟩
  · rw [emitted_pos hpos] at hp
    rcases List.mem_cons.mp hp with rfl | hp
    · rw [hname, h.kept id hnew]
      exact ⟨by rw [hsent], hzero, hfree, AList.lookup_insert _⟩
    · obtain ⟨hid, hne, hused, hlookup⟩ := h.fresh p hp
      rw [hsame, Bool.or_eq_false_iff] at hused
      exact ⟨hid, hne, hused.2, hlookup⟩
  · rw [emitted_pos hpos, List.map_cons, List.nodup_cons, hname]
    exact ⟨hnew, h.distinct⟩
  · rw [emitted_pos hpos, List.map_cons, List.mem_cons, not_or, hname] at hother
    rw [h.kept other hother.2]
    exact AList.lookup_insert_ne hother.1

/-- The loop sends what it can, and what it puts back keeps its order. -/
theorem drainPending_emits (queue : List V5.MqttPublish) (slots : Nat) (s : ServerSession)
    (back : List V5.MqttPublish) (h : s.inflight + slots ≤ 65535) :
    Emits s slots queue (drainPending queue slots s back).1 (drainPending queue slots s back).2.2 ∧
      (drainPending queue slots s back).2.1 = back ++ (emitted queue).drop slots := by
  induction queue generalizing slots s back with
  | nil =>
    refine ⟨⟨.nil, nofun, .nil, fun _ _ => rfl⟩, ?_⟩
    rw [emitted, List.filter_nil, List.drop_nil, List.append_nil]
    rfl
  | cons publish queue ih =>
    unfold drainPending
    by_cases hqos : publish.qos > 0
    · rw [if_pos hqos, emitted_pos hqos]
      cases slots with
      | zero =>
        obtain ⟨hemits, hback⟩ := ih 0 s (back ++ [publish]) h
        refine ⟨{ hemits with sent := ?_ }, ?_⟩
        · rw [passing, if_pos hqos]
          exact hemits.sent
        · rw [hback, List.append_assoc]
          rfl
      | succ slots =>
        obtain ⟨id, counter, hnext, hzero, hfree⟩ := nextPacketId_found (s := s) (by omega)
        rw [hnext]
        dsimp only
        have hroom := inflight_track (s := { s with packetIdCounter := counter }) hfree
          { publish with packetId := some id }
        have hsame : ({ s with packetIdCounter := counter } : ServerSession).inflight = s.inflight := rfl
        obtain ⟨hemits, hback⟩ := ih slots
          ({ s with packetIdCounter := counter }.track id { publish with packetId := some id }) back
          (by omega)
        exact ⟨hemits.track hqos hzero hfree rfl, hback⟩
    · rw [if_neg hqos, emitted_zero hqos]
      obtain ⟨hemits, hback⟩ := ih slots s back h
      refine ⟨⟨?_, ?_, ?_, ?_⟩, hback⟩
      · rw [passing_zero hqos]
        exact .cons (by rw [SentAs, if_neg hqos]) hemits.sent
      · rw [emitted_zero hqos]
        exact hemits.fresh
      · rw [emitted_zero hqos]
        exact hemits.distinct
      · rw [emitted_zero hqos]
        exact hemits.kept

/-- Every slot is used while there is something to send. -/
theorem Emits.full {slots : Nat} {queue packets : List V5.MqttPublish}
    (h : Emits s slots queue packets s') :
    (emitted packets).length = min slots (emitted queue).length := by
  have hsame {list sent : List V5.MqttPublish} (hsent : List.Forall₂ SentAs list sent) :
      (emitted sent).length = (emitted list).length := by
    induction hsent with
    | nil => rfl
    | @cons publish sent _ _ has _ ih =>
      rw [SentAs] at has
      split at has
      next hqos =>
        obtain ⟨id, rfl⟩ := has
        have hsent : { publish with packetId := some id }.qos > 0 := hqos
        rw [emitted_pos hsent, emitted_pos hqos, List.length_cons, List.length_cons, ih]
      next hqos => rw [has, emitted_zero hqos, emitted_zero hqos, ih]
  rw [hsame h.sent, (passing_spec slots queue).2.2, List.length_take]

/-! ## The call -/

theorem takePendingMessages_sends (s : ServerSession) :
    Sends s s.pendingPublishes [] s.takePendingMessages.1 s.takePendingMessages.2.pendingPublishes
      s.takePendingMessages.2 := by
  have h := drainPending_sends s.pendingPublishes (s.receiveMaximum.toNat - s.inflight) s []
  exact { h with other := congrArg (fun t : ServerSession =>
    { t with pendingPublishes := s.takePendingMessages.2.pendingPublishes }) h.other }

theorem takePendingMessages_emits (h : s.inflight ≤ s.receiveMaximum.toNat) :
    Emits s (s.receiveMaximum.toNat - s.inflight) s.pendingPublishes s.takePendingMessages.1
      s.takePendingMessages.2 ∧
      s.takePendingMessages.2.pendingPublishes =
        (emitted s.pendingPublishes).drop (s.receiveMaximum.toNat - s.inflight) := by
  have hbound : s.receiveMaximum.toNat < 65536 := s.receiveMaximum.toNat_lt
  obtain ⟨hemits, hback⟩ := drainPending_emits s.pendingPublishes
    (s.receiveMaximum.toNat - s.inflight) s [] (by omega)
  exact ⟨{ hemits with }, hback⟩

/-- What is sent and what stays make up the queue. -/
theorem passing_perm (slots : Nat) (queue : List V5.MqttPublish) :
    (passing slots queue ++ (emitted queue).drop slots).Perm queue := by
  have hsplit (list : List V5.MqttPublish) :
      (emitted list ++ list.filter (fun publish => publish.qos = 0)).Perm list := by
    have hrest : list.filter (fun publish => publish.qos = 0) =
        list.filter (fun publish => !decide (publish.qos > 0)) :=
      List.filter_congr fun publish _ => by
        rw [← decide_not, decide_eq_decide, gt_iff_lt, UInt8.not_lt, UInt8.le_zero_iff]
    rw [hrest]
    exact List.filter_append_perm _ list
  obtain ⟨-, hzero, hmore⟩ := passing_spec slots queue
  have hsent := hsplit (passing slots queue)
  rw [hzero, hmore] at hsent
  calc passing slots queue ++ (emitted queue).drop slots
    _ |>.Perm ((emitted queue).take slots ++ queue.filter (fun publish => publish.qos = 0) ++
        (emitted queue).drop slots) := hsent.symm.append_right _
    _ |>.Perm (emitted queue ++ queue.filter (fun publish => publish.qos = 0)) := by
      rw [List.append_assoc]
      refine (List.perm_append_comm.append_left _).trans ?_
      rw [← List.append_assoc, List.take_append_drop]
    _ |>.Perm queue := hsplit queue

/-- Within the quota, the call sends all that is queued at QoS 0 and as much of the rest as the
quota has slots for, in the order of the queue. The rest stays, in its order. -/
theorem takePendingMessages_exact (h : s.inflight ≤ s.receiveMaximum.toNat) :
    let queue := s.pendingPublishes
    let k := min (emitted queue).length (s.receiveMaximum.toNat - s.inflight)
    let sending := passing k queue
    sending.Sublist queue ∧
      sending.filter (fun publish => publish.qos = 0) = queue.filter (fun publish => publish.qos = 0) ∧
      emitted sending = (emitted queue).take k ∧
      Emits s k queue s.takePendingMessages.1 s.takePendingMessages.2 ∧
      Sends s queue [] s.takePendingMessages.1 s.takePendingMessages.2.pendingPublishes
        s.takePendingMessages.2 ∧
      s.takePendingMessages.2.pendingPublishes = (emitted queue).drop k ∧
      (sending ++ s.takePendingMessages.2.pendingPublishes).Perm queue := by
  intro queue k sending
  obtain ⟨hemits, hback⟩ := takePendingMessages_emits h
  obtain ⟨hsub, hzero, hmore⟩ := passing_spec k queue
  have hrest : s.takePendingMessages.2.pendingPublishes = (emitted queue).drop k := by
    refine hback.trans ?_
    rw [List.drop_eq_drop_iff, Nat.min_comm, Nat.min_eq_left (Nat.min_le_left _ _)]
  refine ⟨hsub, hzero, hmore, { hemits with sent := ?_ }, takePendingMessages_sends s, hrest, ?_⟩
  · rw [passing_min]
    exact hemits.sent
  · rw [hrest]
    exact passing_perm k queue

/-- Two publications that need a slot around one that needs none, with one slot. -/
def oneSlot : ServerSession :=
  let publish (qos : UInt8) (topic : String) : V5.MqttPublish := ⟨topic, qos, false, false, none, [], []⟩
  { new 1 with pendingPublishes := [publish 1 "a", publish 0 "b", publish 2 "c"] }

theorem takePendingMessages_exact_oneSlot : oneSlot.inflight ≤ oneSlot.receiveMaximum.toNat ∧
    oneSlot.takePendingMessages.2.pendingPublishes.map (·.topicName) = ["c"] := by
  refine ⟨by decide, ?_⟩
  obtain ⟨-, -, -, -, -, hrest, -⟩ := takePendingMessages_exact (s := oneSlot) (by decide)
  rw [hrest]
  decide

end ServerSession

end FlowSdk
