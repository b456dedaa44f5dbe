/-
  FlowSdk.Server.History — what a session owes to the operations before.

  The subscriptions, the retained store and the identifiers of QoS 2 are read off the history
  of the operations, newest first, with no reference to the maps of the session. `Follows` ties
  the session to them, along every run that does not panic.

  Two things that a broker keeps from a client go out all the same. A subscription with No Local
  is served like any other, and a Topic Alias, which belongs to the connection that it came on,
  is copied with the other properties, at once and from the retained store.

  Main results:
    1. `History.follows`         the session follows its history
    2. `retained_semantics`      the retained store and what a SUBSCRIBE is sent from it
    3. `publish_fans_out_iff`    the copies of a PUBLISH
    4. `deliveries_clean`        what is delivered without aliases and No Local
-/
import FlowSdk.Server.Exchanges

namespace FlowSdk

open Machine Wire

namespace ServerSession

/-! ## Reading the history -/

/-- The identifiers whose PUBREL has not come. -/
def awaiting : List Op → Finset UInt16
  | [] => ∅
  | .publish packet :: history =>
    if packet.qos = 2 then insert (idOf packet) (awaiting history) else awaiting history
  | .pubrel ack :: history => (awaiting history).erase ack.packetId
  | _ :: history => awaiting history

/-- The publication was received before. -/
def Repeats (history : List Op) (publish : V5.MqttPublish) : Prop :=
  publish.qos = 2 ∧ idOf publish ∈ awaiting history

instance (history : List Op) (publish : V5.MqttPublish) : Decidable (Repeats history publish) :=
  inferInstanceAs (Decidable (_ ∧ _))

/-- The current subscription of a filter: the last one, unless it was taken back. -/
def subscribed (filter : String) : List Op → Option Subscription
  | [] => none
  | .subscribe packet :: history =>
    packet.subscriptions.foldl (fun current options =>
      if options.topicFilter = filter then some ⟨options, subscriptionIdentifier packet.properties⟩
      else current) (subscribed filter history)
  | .unsubscribe packet :: history =>
    if filter ∈ packet.topicFilters then none else subscribed filter history
  | _ :: history => subscribed filter history

/-- What the last retained publication of a topic leaves. -/
def lastRetained (topic : String) : List Op → Option V5.MqttPublish
  | [] => none
  | .publish packet :: history =>
    if packet.retain ∧ packet.topicName = topic ∧ ¬ Repeats history packet then
      if packet.payload = [] then none else some { packet with dup := false, packetId := none }
    else lastRetained topic history
  | _ :: history => lastRetained topic history

/-- The runs of a session: operations that did not panic, newest first. -/
inductive History (O : Order) (receiveMaximum : UInt16) : List Op → ServerSession → Prop
  | new : History O receiveMaximum [] (.new receiveMaximum)
  | step {history : List Op} {s s' : ServerSession} {op : Op} {packets : List MqttPacket}
      (before : History O receiveMaximum history s) (performed : s.perform O op = some (packets, s')) :
      History O receiveMaximum (op :: history) s'

/-- The maps of the session say what the history says. -/
structure Follows (history : List Op) (s : ServerSession) : Prop where
  awaits : s.receivedQos2 = awaiting history
  subscriptions : ∀ filter, s.subscriptions.lookup filter = subscribed filter history
  retained : ∀ topic, s.retainedPublishes.lookup topic = lastRetained topic history

variable {O : Order} {receiveMaximum : UInt16} {history : List Op} {s s' : ServerSession}

theorem lastRetained_topicName {topic : String} {publish : V5.MqttPublish}
    (h : lastRetained topic history = some publish) : publish.topicName = topic := by
  induction history with
  | nil => cases h
  | cons op history ih =>
    cases op with
    | publish packet =>
      rw [lastRetained] at h
      split at h
      next hlast =>
        split at h
        next => cases h
        next => exact Option.some.inj h ▸ hlast.2.1
      next => exact ih h
    | _ => exact ih h

/-! ## One copy for each key -/

/-- One copy for each of some keys, in an order of its own. -/
def OneEach (keys : String → Prop) (copy : String → V5.MqttPublish → Prop)
    (copies : List V5.MqttPublish) : Prop :=
  ∃ list : List String, list.Nodup ∧ (∀ key, key ∈ list ↔ keys key) ∧ List.Forall₂ copy list copies

theorem OneEach.mono {keys keys' : String → Prop} {copy copy' : String → V5.MqttPublish → Prop}
    {copies : List V5.MqttPublish} (h : OneEach keys copy copies) (hkeys : ∀ key, keys key ↔ keys' key)
    (hcopy : ∀ key publish, copy key publish → copy' key publish) : OneEach keys' copy' copies := by
  obtain ⟨list, hnodup, hmem, hcopies⟩ := h
  exact ⟨list, hnodup, fun key => (hmem key).trans (hkeys key), hcopies.imp hcopy⟩

section Pairs

variable {β : Type} {m : AList (fun _ : String => β)}

theorem mem_pairs {entry : String × β} (h : entry ∈ pairs O.topics m) :
    m.lookup entry.1 = some entry.2 := by
  obtain ⟨key, -, hkey⟩ := List.mem_filterMap.mp h
  obtain ⟨value, hvalue, rfl⟩ := Option.map_eq_some_iff.mp hkey
  exact hvalue

theorem pairs_keys : (pairs O.topics m).map Prod.fst = O.topics m.keys := by
  rw [pairs, List.map_filterMap]
  refine (List.filterMap_congr fun key hkey => ?_).trans List.filterMap_some
  obtain ⟨value, hvalue⟩ := Option.isSome_iff_exists.mp
    (AList.lookup_isSome.mpr (AList.mem_keys.mpr ((O.topics_perm _).mem_iff.mp hkey)))
  rw [hvalue]
  rfl

/-- The entries of a map whose key passes a test, each with what is made of its value. -/
theorem oneEach_pairs (test : String → Bool) (copy : β → V5.MqttPublish) :
    OneEach (fun key => (∃ value, m.lookup key = some value) ∧ test key = true)
      (fun key publish => ∃ value, m.lookup key = some value ∧ publish = copy value)
      (((pairs O.topics m).filter (fun entry => test entry.1)).map (fun entry => copy entry.2)) := by
  refine ⟨((pairs O.topics m).filter (fun entry => test entry.1)).map Prod.fst, ?_, fun key => ?_, ?_⟩
  · refine List.Nodup.sublist (List.filter_sublist.map Prod.fst) ?_
    rw [pairs_keys]
    exact (O.topics_perm _).nodup_iff.mpr m.keys_nodup
  · constructor
    · intro hkey
      obtain ⟨entry, hentry, rfl⟩ := List.mem_map.mp hkey
      obtain ⟨hpair, htest⟩ := List.mem_filter.mp hentry
      exact ⟨⟨entry.2, mem_pairs hpair⟩, htest⟩
    · rintro ⟨⟨value, hvalue⟩, htest⟩
      have hkey : key ∈ (pairs O.topics m).map Prod.fst := by
        rw [pairs_keys, (O.topics_perm _).mem_iff, ← AList.mem_keys, ← AList.lookup_isSome, hvalue]
        rfl
      obtain ⟨entry, hentry, rfl⟩ := List.mem_map.mp hkey
      exact List.mem_map_of_mem (List.mem_filter.mpr ⟨hentry, htest⟩)
  · rw [List.forall₂_map_left_iff, List.forall₂_map_right_iff, List.forall₂_same]
    exact fun entry hentry => ⟨entry.2, mem_pairs (List.mem_filter.mp hentry).1, rfl⟩

end Pairs

/-- A publication as a subscription gets it. -/
structure Copy (publish : V5.MqttPublish) (subscription : Subscription) (retain : Bool)
    (copy : V5.MqttPublish) : Prop where
  topicName : copy.topicName = publish.topicName
  payload : copy.payload = publish.payload
  qos : copy.qos = min publish.qos subscription.options.qos
  dup : copy.dup = false
  retain : copy.retain = retain
  packetId : copy.packetId = none
  identifier : copy.properties.filter (fun p => p.id = .subscriptionIdentifier) =
    (subscription.identifier.map Property.subscriptionIdentifier).toList
  properties : copy.properties.filter (fun p => p.id ≠ .subscriptionIdentifier) =
    publish.properties.filter (fun p => p.id ≠ .subscriptionIdentifier)

theorem forwardedPublish_copy (publish : V5.MqttPublish) (subscription : Subscription)
    (replay : Bool) : Copy publish subscription
      (replay || publish.retain && subscription.options.retainAsPublished)
      (forwardedPublish publish subscription replay) := by
  have hself (identifier : UInt32) :
      (Property.subscriptionIdentifier identifier).id = .subscriptionIdentifier := rfl
  refine ⟨rfl, rfl, rfl, rfl, rfl, rfl, ?_, ?_⟩
  · cases hid : subscription.identifier <;> simp [forwardedPublish, hid, List.filter_append, hself]
  · cases hid : subscription.identifier <;> simp [forwardedPublish, hid, List.filter_append, hself]

theorem OneEach.exists_key {keys : String → Prop} {copy : String → V5.MqttPublish → Prop}
    {copies : List V5.MqttPublish} (h : OneEach keys copy copies) {publish : V5.MqttPublish}
    (hmem : publish ∈ copies) : ∃ key, keys key ∧ copy key publish := by
  obtain ⟨list, -, hkeys, hcopies⟩ := h
  obtain ⟨i, hi, rfl⟩ := List.getElem_of_mem hmem
  have hlength : i < list.length := hcopies.length_eq ▸ hi
  exact ⟨list[i], (hkeys _).mp (List.getElem_mem hlength), hcopies.get hlength hi⟩

/-! ## SUBSCRIBE and UNSUBSCRIBE -/

/-- The retained messages are sent for this subscription. -/
def Due (existing : Prop) (options : V5.TopicSubscription) : Prop :=
  ¬ isShared options.topicFilter ∧
    (options.retainHandling = 0 ∨ options.retainHandling = 1 ∧ ¬ existing)

/-- The copies of retained messages for the filters of a SUBSCRIBE, one filter after the other. -/
inductive Replays (retained : String → Option V5.MqttPublish) (identifier : Option UInt32) :
    (String → Prop) → List V5.TopicSubscription → List V5.MqttPublish → Prop
  | nil {existing : String → Prop} : Replays retained identifier existing [] []
  | cons {existing : String → Prop} {options : V5.TopicSubscription}
      {later : List V5.TopicSubscription} {batch copies : List V5.MqttPublish}
      (first : OneEach
        (fun topic => Due (existing options.topicFilter) options ∧
          (∃ publish, retained topic = some publish) ∧ topicMatches options.topicFilter topic = true)
        (fun topic copy => ∃ publish, retained topic = some publish ∧
          Copy publish ⟨options, identifier⟩ true copy) batch)
      (rest : Replays retained identifier (fun filter => filter = options.topicFilter ∨ existing filter)
        later copies) :
      Replays retained identifier existing (options :: later) (batch ++ copies)

theorem Replays.source {retained : String → Option V5.MqttPublish} {identifier : Option UInt32}
    {existing : String → Prop} {list : List V5.TopicSubscription} {copies : List V5.MqttPublish}
    (h : Replays retained identifier existing list copies) {copy : V5.MqttPublish}
    (hmem : copy ∈ copies) : ∃ options ∈ list, ∃ topic publish, retained topic = some publish ∧
      Copy publish ⟨options, identifier⟩ true copy := by
  induction h with
  | nil => cases hmem
  | cons first rest ih =>
    rcases List.mem_append.mp hmem with hbatch | hlater
    · obtain ⟨topic, -, publish, hpublish⟩ := first.exists_key hbatch
      exact ⟨_, List.mem_cons_self, topic, publish, hpublish⟩
    · obtain ⟨options, hoptions, hsource⟩ := ih hlater
      exact ⟨options, List.mem_cons_of_mem _ hoptions, hsource⟩

theorem retainedFor_oneEach (subscription : Subscription)
    (hname : ∀ topic publish, s.retainedPublishes.lookup topic = some publish →
      publish.topicName = topic) :
    OneEach
      (fun topic => Due ((s.subscriptions.lookup subscription.options.topicFilter).isSome = true)
        subscription.options ∧ (∃ publish, s.retainedPublishes.lookup topic = some publish) ∧
          topicMatches subscription.options.topicFilter topic = true)
      (fun topic copy => ∃ publish, s.retainedPublishes.lookup topic = some publish ∧
        Copy publish subscription true copy)
      (s.retainedFor O subscription) := by
  have hdue : Due ((s.subscriptions.lookup subscription.options.topicFilter).isSome = true)
      subscription.options ↔ ¬ isShared subscription.options.topicFilter ∧
        (subscription.options.retainHandling = 0 ∨ subscription.options.retainHandling = 1 ∧
          (s.subscriptions.lookup subscription.options.topicFilter).isNone) := by
    rw [Due]
    cases s.subscriptions.lookup subscription.options.topicFilter <;> simp
  rw [retainedFor]
  split
  next hyes =>
    -- a message is stored under its own topic
    have hkeys : ((values O.topics s.retainedPublishes).filter
        (fun publish => topicMatches subscription.options.topicFilter publish.topicName)).map
          (fun publish => forwardedPublish publish subscription true) =
        ((pairs O.topics s.retainedPublishes).filter
          (fun entry => topicMatches subscription.options.topicFilter entry.1)).map
            (fun entry => forwardedPublish entry.2 subscription true) := by
      rw [values, List.filter_map, List.map_map]
      refine congrArg (List.map _) (List.filter_congr fun entry hentry => ?_)
      rw [Function.comp_apply, hname entry.1 entry.2 (mem_pairs hentry)]
    rw [hkeys]
    refine (oneEach_pairs (topicMatches subscription.options.topicFilter)
      (fun publish => forwardedPublish publish subscription true)).mono (fun topic => ?_)
        fun topic copy hcopy => ?_
    · exact ⟨fun h => ⟨hdue.mpr hyes, h⟩, fun h => h.2⟩
    · obtain ⟨publish, hpublish, rfl⟩ := hcopy
      exact ⟨publish, hpublish, forwardedPublish_copy publish subscription true⟩
  next hno => exact ⟨[], .nil, fun topic => ⟨by simp, fun h => absurd (hdue.mp h.1) hno⟩, .nil⟩

theorem subscribe_fold (identifier : Option UInt32) (list : List V5.TopicSubscription)
    (hname : ∀ topic publish, s.retainedPublishes.lookup topic = some publish →
      publish.topicName = topic) :
    ∃ copies subscriptions, list.foldl (subscribeOne O identifier) s =
        { s with pendingPublishes := s.pendingPublishes ++ copies, subscriptions := subscriptions } ∧
      (∀ filter, subscriptions.lookup filter = list.foldl (fun current options =>
        if options.topicFilter = filter then some ⟨options, identifier⟩ else current)
          (s.subscriptions.lookup filter)) ∧
      Replays s.retainedPublishes.lookup identifier
        (fun filter => (s.subscriptions.lookup filter).isSome = true) list copies := by
  induction list generalizing s with
  | nil => exact ⟨[], s.subscriptions, by rw [List.append_nil]; rfl, fun _ => rfl, .nil⟩
  | cons options list ih =>
    obtain ⟨copies, subscriptions, heq, hlookup, hreplays⟩ :=
      ih (s := subscribeOne O identifier s options) hname
    have hone (filter : String) : (subscribeOne O identifier s options).subscriptions.lookup filter =
        if options.topicFilter = filter then some ⟨options, identifier⟩
        else s.subscriptions.lookup filter := by
      split
      next hsame => exact hsame ▸ AList.lookup_insert _
      next hother => exact AList.lookup_insert_ne (Ne.symm hother)
    have hexisting : (fun filter =>
        ((subscribeOne O identifier s options).subscriptions.lookup filter).isSome = true) =
        fun filter => filter = options.topicFilter ∨ (s.subscriptions.lookup filter).isSome = true := by
      funext filter
      rw [hone]
      split
      next hsame => simp [hsame]
      next hother => simp [Ne.symm hother]
    rw [hexisting] at hreplays
    refine ⟨s.retainedFor O ⟨options, identifier⟩ ++ copies, subscriptions, ?_, fun filter => ?_,
      .cons (retainedFor_oneEach ⟨options, identifier⟩ hname) hreplays⟩
    · rw [List.foldl_cons, heq, ← List.append_assoc]
      rfl
    · rw [hlookup, hone, List.foldl_cons]

theorem unsubscribe_fold (filters : List String) (m : AList (fun _ : String => Subscription))
    (filter : String) : (filters.foldl (fun m f => m.erase f) m).lookup filter =
      if filter ∈ filters then none else m.lookup filter := by
  induction filters generalizing m with
  | nil => rfl
  | cons first filters ih =>
    rw [List.foldl_cons, ih]
    by_cases hrest : filter ∈ filters
    · rw [if_pos hrest, if_pos (List.mem_cons_of_mem _ hrest)]
    · rw [if_neg hrest]
      by_cases hfirst : filter = first
      · rw [hfirst, AList.lookup_erase, if_pos List.mem_cons_self]
      · rw [AList.lookup_erase_ne hfirst, if_neg (by simp [hfirst, hrest])]

/-! ## PUBLISH -/

theorem retainPublish_lookup (publish : V5.MqttPublish) (topic : String) :
    (s.retainPublish publish).retainedPublishes.lookup topic =
      if publish.retain ∧ publish.topicName = topic then
        if publish.payload = [] then none else some { publish with dup := false, packetId := none }
      else s.retainedPublishes.lookup topic := by
  rw [retainPublish]
  by_cases hretain : publish.retain = true
  · rw [if_pos hretain]
    by_cases hpayload : publish.payload = []
    · rw [if_pos hpayload, if_pos hpayload]
      by_cases htopic : publish.topicName = topic
      · rw [if_pos ⟨hretain, htopic⟩, ← htopic]
        exact AList.lookup_erase _ _
      · rw [if_neg fun h => htopic h.2]
        exact AList.lookup_erase_ne (Ne.symm htopic)
    · rw [if_neg hpayload, if_neg hpayload]
      by_cases htopic : publish.topicName = topic
      · rw [if_pos ⟨hretain, htopic⟩, ← htopic]
        exact AList.lookup_insert _
      · rw [if_neg fun h => htopic h.2]
        exact AList.lookup_insert_ne (Ne.symm htopic)
  · rw [if_neg hretain, if_neg fun h => hretain h.1]

theorem acceptPublish_eq (publish : V5.MqttPublish) : s.acceptPublish O publish =
    { s with
      retainedPublishes := (s.retainPublish publish).retainedPublishes
      pendingPublishes := s.pendingPublishes ++ ((pairs O.topics s.subscriptions).filter
        (fun entry => topicMatches entry.1 publish.topicName)).map
          (fun entry => forwardedPublish publish entry.2 false) } := by
  rw [acceptPublish, routePublish, retainPublish]
  split
  next =>
    split
    next => rfl
    next => rfl
  next => rfl

/-- A PUBLISH changes nothing if it was received before, and else is accepted. -/
theorem publish_performed {publish : V5.MqttPublish} {packets : List MqttPacket}
    (performed : s.perform O (.publish publish) = some (packets, s')) :
    (publish.qos = 2 ∧ idOf publish ∈ s.receivedQos2) ∧ s' = s ∨
      ¬ (publish.qos = 2 ∧ idOf publish ∈ s.receivedQos2) ∧ s' = { s with
        receivedQos2 := if publish.qos = 2 then insert (idOf publish) s.receivedQos2
          else s.receivedQos2 }.acceptPublish O publish := by
  obtain ⟨⟨after, answer⟩, hhandled, heq⟩ := Option.map_eq_some_iff.mp performed
  cases heq
  rw [handleIncomingPublish] at hhandled
  split at hhandled
  next htwo =>
    obtain ⟨id, hid, hrest⟩ := Option.bind_eq_some_iff.mp hhandled
    have hname : idOf publish = id := by rw [idOf, hid]; rfl
    rw [hname, if_pos htwo]
    split at hrest
    next hknown =>
      cases hrest
      exact .inl ⟨⟨htwo, hknown⟩, rfl⟩
    next hnew =>
      cases hrest
      exact .inr ⟨fun h => hnew h.2, rfl⟩
  next htwo =>
    refine .inr ⟨fun h => htwo h.1, ?_⟩
    rw [if_neg htwo]
    split at hhandled
    next =>
      obtain ⟨id, -, hrest⟩ := Option.bind_eq_some_iff.mp hhandled
      cases hrest
      rfl
    next =>
      cases hhandled
      rfl

/-! ## Every run -/

theorem Follows.topicName (h : Follows history s) {topic : String} {publish : V5.MqttPublish}
    (hlookup : s.retainedPublishes.lookup topic = some publish) : publish.topicName = topic :=
  lastRetained_topicName ((h.retained topic).symm.trans hlookup)

theorem Follows.frame (h : Follows history s) (hreceived : s'.receivedQos2 = s.receivedQos2)
    (hsubscriptions : s'.subscriptions = s.subscriptions)
    (hretained : s'.retainedPublishes = s.retainedPublishes) : Follows history s' :=
  ⟨hreceived ▸ h.awaits, hsubscriptions ▸ h.subscriptions, hretained ▸ h.retained⟩

theorem Follows.publish (h : Follows history s) {publish : V5.MqttPublish}
    {packets : List MqttPacket} (performed : s.perform O (.publish publish) = some (packets, s')) :
    Follows (.publish publish :: history) s' := by
  have hknown : (publish.qos = 2 ∧ idOf publish ∈ s.receivedQos2) ↔ Repeats history publish := by
    rw [Repeats, h.awaits]
  rcases publish_performed performed with ⟨hrepeats, rfl⟩ | ⟨hnew, rfl⟩
  · refine ⟨?_, h.subscriptions, fun topic => ?_⟩
    · rw [awaiting, if_pos hrepeats.1, ← h.awaits, Finset.insert_eq_of_mem hrepeats.2]
    · rw [lastRetained, if_neg fun hlast => hlast.2.2 (hknown.mp hrepeats), h.retained]
  · rw [acceptPublish_eq]
    refine ⟨?_, h.subscriptions, fun topic => ?_⟩
    · rw [awaiting, h.awaits]
    · rw [retainPublish_lookup, lastRetained, h.retained]
      exact if_congr ⟨fun hlast => ⟨hlast.1, hlast.2, fun hrepeats => hnew (hknown.mpr hrepeats)⟩,
        fun hlast => ⟨hlast.1, hlast.2.1⟩⟩ rfl rfl

theorem Follows.step (h : Follows history s) {op : Op} {packets : List MqttPacket}
    (performed : s.perform O op = some (packets, s')) : Follows (op :: history) s' := by
  cases op with
  | subscribe packet =>
    cases performed
    obtain ⟨copies, subscriptions, heq, hlookup, -⟩ := subscribe_fold (O := O)
      (subscriptionIdentifier packet.properties) packet.subscriptions
      (fun _ _ => h.topicName)
    rw [handleIncomingSubscribe, heq]
    refine ⟨h.awaits, fun filter => ?_, h.retained⟩
    rw [subscribed, ← h.subscriptions]
    exact hlookup filter
  | unsubscribe packet =>
    cases performed
    refine ⟨h.awaits, fun filter => ?_, h.retained⟩
    rw [subscribed, ← h.subscriptions]
    exact unsubscribe_fold packet.topicFilters s.subscriptions filter
  | publish packet => exact h.publish performed
  | pubrel ack =>
    cases performed
    refine ⟨?_, h.subscriptions, h.retained⟩
    rw [awaiting, ← h.awaits]
  | puback ack =>
    cases performed
    have hframe : Follows history (s.handleIncomingPuback ack) := by
      rw [handleIncomingPuback]
      split <;> exact h.frame rfl rfl rfl
    exact ⟨hframe.awaits, hframe.subscriptions, hframe.retained⟩
  | pubrec ack =>
    cases performed
    have hframe : Follows history (s.handleIncomingPubrec ack).1 := by
      rw [handleIncomingPubrec]
      split
      next => exact h
      next =>
        split
        next => exact h
        next =>
          dsimp only
          split <;> exact h.frame rfl rfl rfl
    exact ⟨hframe.awaits, hframe.subscriptions, hframe.retained⟩
  | pubcomp ack =>
    cases performed
    exact ⟨h.awaits, h.subscriptions, h.retained⟩
  | resend =>
    cases performed
    have hother := (takePendingMessages_sends s).other
    have hframe : Follows history s.takePendingMessages.2 :=
      h.frame (by rw [hother]) (by rw [hother]) (by rw [hother])
    exact ⟨hframe.awaits, hframe.subscriptions, hframe.retained⟩
  | take =>
    cases performed
    have hother := (takePendingMessages_sends s).other
    have hframe : Follows history s.takePendingMessages.2 :=
      h.frame (by rw [hother]) (by rw [hother]) (by rw [hother])
    exact ⟨hframe.awaits, hframe.subscriptions, hframe.retained⟩

theorem History.follows (run : History O receiveMaximum history s) : Follows history s := by
  induction run with
  | new => exact ⟨rfl, fun _ => rfl, fun _ => rfl⟩
  | step before performed ih => exact ih.step performed

/-! ## Retained messages -/

/-- In every run, the store holds what the last retained publication of each topic leaves, and a
SUBSCRIBE queues the copies that are due for its filters and nothing else. -/
theorem retained_semantics (run : History O receiveMaximum history s) :
    (∀ topic, s.retainedPublishes.lookup topic = lastRetained topic history) ∧
    ∀ packet : V5.MqttSubscribe, ∃ s' copies, s.perform O (.subscribe packet) = some ([], s') ∧
      s'.pendingPublishes = s.pendingPublishes ++ copies ∧
      Replays (fun topic => lastRetained topic history) (subscriptionIdentifier packet.properties)
        (fun filter => (subscribed filter history).isSome = true) packet.subscriptions copies := by
  have h := run.follows
  refine ⟨h.retained, fun packet => ?_⟩
  obtain ⟨copies, subscriptions, heq, -, hreplays⟩ := subscribe_fold (O := O)
    (subscriptionIdentifier packet.properties) packet.subscriptions (fun _ _ => h.topicName)
  refine ⟨s.handleIncomingSubscribe O packet, copies, rfl, ?_, ?_⟩
  · rw [handleIncomingSubscribe, heq]
  · simpa only [h.subscriptions, funext h.retained] using hreplays

/-- A retained message on the topic `t`. -/
def kept : V5.MqttPublish := ⟨"t", 0, false, true, none, [1], []⟩

theorem kept_history : History .ascending 1 [.publish kept] ((new 1).acceptPublish .ascending kept) :=
  History.new.step rfl

theorem retained_semantics_kept :
    ((new 1).acceptPublish .ascending kept).retainedPublishes.lookup "t" = some kept :=
  (retained_semantics kept_history).1 "t"

/-! ## Copies of a PUBLISH -/

/-- What a PUBLISH adds to the queue, if No Local is heeded. -/
def FansOut (history : List Op) (s : ServerSession) (publish : V5.MqttPublish)
    (s' : ServerSession) : Prop :=
  if Repeats history publish then
    s'.pendingPublishes = s.pendingPublishes ∧ s'.retainedPublishes = s.retainedPublishes
  else ∃ copies, s'.pendingPublishes = s.pendingPublishes ++ copies ∧ OneEach
    (fun filter => ∃ subscription, subscribed filter history = some subscription ∧
      subscription.options.noLocal = false ∧ topicMatches filter publish.topicName = true)
    (fun filter copy => ∃ subscription, subscribed filter history = some subscription ∧
      Copy publish subscription (publish.retain && subscription.options.retainAsPublished) copy)
    copies

/-- No current subscription that matches has asked for No Local. -/
def Shared (history : List Op) (publish : V5.MqttPublish) : Prop :=
  ∀ filter subscription, subscribed filter history = some subscription →
    topicMatches filter publish.topicName = true → subscription.options.noLocal = false

/-- Every subscription that matches gets its copy. -/
theorem Follows.copies (h : Follows history s) {publish : V5.MqttPublish}
    {packets : List MqttPacket} (performed : s.perform O (.publish publish) = some (packets, s')) :
    Repeats history publish ∧ s' = s ∨ ¬ Repeats history publish ∧
      ∃ copies, s'.pendingPublishes = s.pendingPublishes ++ copies ∧
        s'.unacknowledgedPublishes = s.unacknowledgedPublishes ∧ OneEach
        (fun filter => (∃ subscription, subscribed filter history = some subscription) ∧
          topicMatches filter publish.topicName = true)
        (fun filter copy => ∃ subscription, subscribed filter history = some subscription ∧
          Copy publish subscription (publish.retain && subscription.options.retainAsPublished) copy)
        copies := by
  have hknown : (publish.qos = 2 ∧ idOf publish ∈ s.receivedQos2) ↔ Repeats history publish := by
    rw [Repeats, h.awaits]
  rcases publish_performed performed with ⟨hrepeats, rfl⟩ | ⟨hnew, rfl⟩
  · exact .inl ⟨hknown.mp hrepeats, rfl⟩
  · refine .inr ⟨fun hrepeats => hnew (hknown.mpr hrepeats), _, by rw [acceptPublish_eq],
      by rw [acceptPublish_eq], ?_⟩
    refine (oneEach_pairs (fun filter => topicMatches filter publish.topicName)
      (fun subscription => forwardedPublish publish subscription false)).mono (fun filter => ?_)
        fun filter copy hcopy => ?_
    · rw [← h.subscriptions]
    · obtain ⟨subscription, hlookup, rfl⟩ := hcopy
      exact ⟨subscription, (h.subscriptions filter).symm.trans hlookup,
        forwardedPublish_copy publish subscription false⟩

theorem Follows.fansOut_iff (h : Follows history s) {publish : V5.MqttPublish}
    {packets : List MqttPacket} (performed : s.perform O (.publish publish) = some (packets, s')) :
    FansOut history s publish s' ↔ Repeats history publish ∨ Shared history publish := by
  rcases h.copies performed with ⟨hrepeats, rfl⟩ | ⟨hnew, copies, hpending, -, hall⟩
  · rw [FansOut, if_pos hrepeats]
    exact ⟨fun _ => .inl hrepeats, fun _ => ⟨rfl, rfl⟩⟩
  · rw [FansOut, if_neg hnew]
    constructor
    · rintro ⟨wanted, hwanted, list, hnodup, hkeys, hcopies⟩
      refine .inr fun filter subscription hsubscribed hmatches => ?_
      -- both lists have one key for each copy, so the shorter one lacks none
      obtain ⟨full, hfull, hfullKeys, hfullCopies⟩ := hall
      have hsame : wanted = copies := List.append_cancel_left (hwanted.symm.trans hpending)
      have hsub : list ⊆ full := fun key hkey => by
        obtain ⟨found, hfound, -, htest⟩ := (hkeys key).mp hkey
        exact (hfullKeys key).mpr ⟨⟨found, hfound⟩, htest⟩
      have hlength : full.length ≤ list.length := by
        rw [hfullCopies.length_eq, hcopies.length_eq, hsame]
      have hmem : filter ∈ list := ((List.subperm_of_subset hnodup hsub).perm_of_length_le
        hlength).mem_iff.mpr ((hfullKeys filter).mpr ⟨⟨subscription, hsubscribed⟩, hmatches⟩)
      obtain ⟨found, hfound, hlocal, -⟩ := (hkeys filter).mp hmem
      exact Option.some.inj (hsubscribed.symm.trans hfound) ▸ hlocal
    · rintro (hrepeats | hshared)
      · exact absurd hrepeats hnew
      · refine ⟨copies, hpending, hall.mono (fun filter => ?_) fun _ _ hcopy => hcopy⟩
        constructor
        · rintro ⟨⟨subscription, hsubscribed⟩, hmatches⟩
          exact ⟨subscription, hsubscribed, hshared filter subscription hsubscribed hmatches, hmatches⟩
        · rintro ⟨subscription, hsubscribed, -, hmatches⟩
          exact ⟨⟨subscription, hsubscribed⟩, hmatches⟩

/-- Only its PUBREL releases an identifier. -/
theorem awaiting_released {op : Op} {id : UInt16} (hid : id ∈ awaiting history)
    (hgone : id ∉ awaiting (op :: history)) : ∃ ack, op = .pubrel ack ∧ ack.packetId = id := by
  cases op with
  | publish packet =>
    rw [awaiting] at hgone
    split at hgone
    next => exact absurd (Finset.mem_insert_of_mem hid) hgone
    next => exact absurd hid hgone
  | pubrel ack =>
    rw [awaiting, Finset.mem_erase, not_and] at hgone
    exact ⟨ack, rfl, by_contra fun hne => hgone (Ne.symm hne) hid⟩
  | _ => exact absurd hid hgone

/-- In every run, a PUBLISH is copied to the subscriptions that match unless it was received
before; those with No Local are served too. -/
theorem publish_fans_out_iff (run : History O receiveMaximum history s) :
    (∀ publish : V5.MqttPublish, (Op.publish publish).validated →
      ∃ packets s', s.perform O (.publish publish) = some (packets, s') ∧
        (FansOut history s publish s' ↔ Repeats history publish ∨ Shared history publish)) ∧
    ∀ op packets s', s.perform O op = some (packets, s') → ∀ id ∈ s.receivedQos2,
      id ∉ s'.receivedQos2 → ∃ ack, op = .pubrel ack ∧ ack.packetId = id := by
  have h := run.follows
  refine ⟨fun publish hvalidated => ?_, fun op packets s' performed id hid hgone => ?_⟩
  · obtain ⟨⟨packets, after⟩, performed⟩ :=
      Option.isSome_iff_exists.mp (perform_isSome O s hvalidated)
    exact ⟨packets, after, performed, h.fansOut_iff performed⟩
  · rw [h.awaits] at hid
    rw [(h.step performed).awaits] at hgone
    exact awaiting_released hid hgone

/-- A subscription that asks for No Local. -/
def mine : V5.MqttSubscribe := ⟨1, [⟨"t", 0, true, false, 0⟩], []⟩

def own : V5.MqttPublish := ⟨"t", 0, false, false, none, [], [.topicAlias 1]⟩

def subscriber : ServerSession := (new 1).handleIncomingSubscribe .ascending mine

def published : ServerSession := subscriber.acceptPublish .ascending own

theorem subscriber_history : History .ascending 1 [.subscribe mine] subscriber := History.new.step rfl

theorem subscriber_performed :
    subscriber.perform .ascending (.publish own) = some ([], published) := rfl

theorem publish_fans_out_iff_subscriber : (Op.publish own).validated ∧
    ∃ packets s', subscriber.perform .ascending (.publish own) = some (packets, s') ∧
      (FansOut [.subscribe mine] subscriber own s' ↔
        Repeats [.subscribe mine] own ∨ Shared [.subscribe mine] own) :=
  ⟨by decide, (publish_fans_out_iff subscriber_history).1 own (by decide)⟩

/-- The client gets its own message, though it has asked not to. -/
theorem no_local_forwarded : History .ascending 1 [.subscribe mine] subscriber ∧
    (Op.publish own).validated ∧ subscriber.perform .ascending (.publish own) = some ([], published) ∧
      ¬ FansOut [.subscribe mine] subscriber own published := by
  refine ⟨subscriber_history, by decide, subscriber_performed, fun hfans => ?_⟩
  rcases (subscriber_history.follows.fansOut_iff subscriber_performed).mp hfans with hrepeats | hshared
  · exact absurd hrepeats.1 (by decide)
  · cases hshared "t" ⟨⟨"t", 0, true, false, 0⟩, none⟩ rfl (by decide +kernel)

/-! ## Deliveries -/

/-- A message on its way to a subscription, at once or from the retained store. -/
structure Forward where
  source : V5.MqttPublish
  subscription : Subscription
  live : Bool

/-- The messages that the operations of a history have forwarded. -/
inductive Forwarded : List Op → Forward → Prop
  | live {history : List Op} {publish : V5.MqttPublish} {filter : String} {subscription : Subscription}
      (new : ¬ Repeats history publish) (current : subscribed filter history = some subscription)
      (matching : topicMatches filter publish.topicName = true) :
      Forwarded (.publish publish :: history) ⟨publish, subscription, true⟩
  | replay {history : List Op} {packet : V5.MqttSubscribe} {options : V5.TopicSubscription}
      {topic : String} {publish : V5.MqttPublish} (asked : options ∈ packet.subscriptions)
      (retained : lastRetained topic history = some publish) :
      Forwarded (.subscribe packet :: history)
        ⟨publish, ⟨options, subscriptionIdentifier packet.properties⟩, false⟩
  | earlier {op : Op} {history : List Op} {forward : Forward} (before : Forwarded history forward) :
      Forwarded (op :: history) forward

/-- The packet is the message as it is forwarded, up to what a transmission sets. -/
def Forward.Delivers (forward : Forward) (packet : V5.MqttPublish) : Prop :=
  ∃ copy, Copy forward.source forward.subscription (!forward.live ||
    forward.source.retain && forward.subscription.options.retainAsPublished) copy ∧
      ∃ id dup, packet = { copy with packetId := id, dup := dup }

/-- The packet delivers a message of the history. -/
def Origin (history : List Op) (packet : V5.MqttPublish) : Prop :=
  ∃ forward, Forwarded history forward ∧ forward.Delivers packet

theorem Origin.earlier {op : Op} {packet : V5.MqttPublish} :
    Origin history packet → Origin (op :: history) packet :=
  fun ⟨forward, hforward, hdelivers⟩ => ⟨forward, .earlier hforward, hdelivers⟩

theorem Origin.transmit {packet : V5.MqttPublish} (h : Origin history packet) (id : Option UInt16)
    (dup : Bool) : Origin history { packet with packetId := id, dup := dup } := by
  obtain ⟨forward, hforward, copy, hcopy, _, _, rfl⟩ := h
  exact ⟨forward, hforward, copy, hcopy, id, dup, rfl⟩

theorem Copy.origin {forward : Forward} {copy : V5.MqttPublish} (hforward : Forwarded history forward)
    (hcopy : Copy forward.source forward.subscription (!forward.live ||
      forward.source.retain && forward.subscription.options.retainAsPublished) copy) :
    Origin history copy :=
  ⟨forward, hforward, copy, hcopy, copy.packetId, copy.dup, rfl⟩

/-- What waits and what is not acknowledged was forwarded. -/
structure Sourced (history : List Op) (s : ServerSession) : Prop where
  pending : ∀ publish ∈ s.pendingPublishes, Origin history publish
  tracked : ∀ id publish, s.unacknowledgedPublishes.lookup id = some publish → Origin history publish

theorem Sourced.earlier {op : Op} (h : Sourced history s) : Sourced (op :: history) s :=
  ⟨fun publish hmem => (h.pending publish hmem).earlier,
    fun id publish hlookup => (h.tracked id publish hlookup).earlier⟩

theorem Sourced.erase (h : Sourced history s) (id : UInt16) : Sourced history
    { s with unacknowledgedPublishes := s.unacknowledgedPublishes.erase id } := by
  refine ⟨h.pending, fun other publish hlookup => h.tracked other publish ?_⟩
  by_cases hsame : other = id
  · have hnone : (none : Option V5.MqttPublish) = some publish := by
      rw [← hlookup, hsame]
      exact (AList.lookup_erase id s.unacknowledgedPublishes).symm
    cases hnone
  · exact (AList.lookup_erase_ne hsame).symm.trans hlookup

theorem Sourced.sent (h : Sourced history s) :
    ∀ publish ∈ s.takePendingMessages.1, Origin history publish := by
  intro sent hsent
  obtain ⟨publish, hpublish, id, rfl⟩ := (takePendingMessages_sends s).source sent hsent
  exact (h.pending publish hpublish).transmit id publish.dup

theorem Sourced.take (h : Sourced history s) : Sourced history s.takePendingMessages.2 where
  pending publish hpublish := by
    rcases (takePendingMessages_sends s).rest publish hpublish with hmem | hmem
    · exact h.pending publish hmem
    · cases hmem
  tracked id publish hlookup := by
    rcases (takePendingMessages_sends s).tracked id publish hlookup with hold | hnew
    · exact h.tracked id publish hold
    · exact h.sent publish hnew

theorem Sourced.step (h : Sourced history s) (follows : Follows history s) {op : Op}
    {packets : List MqttPacket} (performed : s.perform O op = some (packets, s')) :
    Sourced (op :: history) s' := by
  cases op with
  | subscribe packet =>
    cases performed
    obtain ⟨copies, subscriptions, heq, -, hreplays⟩ := subscribe_fold (O := O)
      (subscriptionIdentifier packet.properties) packet.subscriptions (fun _ _ => follows.topicName)
    rw [handleIncomingSubscribe, heq]
    refine ⟨fun publish hpublish => ?_, h.earlier.tracked⟩
    rcases List.mem_append.mp hpublish with hold | hcopy
    · exact h.earlier.pending publish hold
    · obtain ⟨options, hoptions, topic, source, hsource, hcopy⟩ := hreplays.source hcopy
      exact hcopy.origin (.replay hoptions ((follows.retained topic).symm.trans hsource))
  | publish packet =>
    rcases follows.copies performed with ⟨-, rfl⟩ | ⟨hnew, copies, hpending, htracked, hcopies⟩
    · exact h.earlier
    · refine ⟨fun publish hpublish => ?_, fun id publish hlookup => ?_⟩
      · rw [hpending] at hpublish
        rcases List.mem_append.mp hpublish with hold | hcopy
        · exact h.earlier.pending publish hold
        · obtain ⟨filter, hkey, subscription, hsubscribed, hcopy⟩ := hcopies.exists_key hcopy
          exact hcopy.origin (.live hnew hsubscribed hkey.2)
      · rw [htracked] at hlookup
        exact h.earlier.tracked id publish hlookup
  | unsubscribe packet =>
    cases performed
    exact ⟨h.earlier.pending, h.earlier.tracked⟩
  | puback ack =>
    cases performed
    rw [handleIncomingPuback]
    split
    next => exact (h.erase ack.packetId).earlier
    next => exact h.earlier
  | pubrec ack =>
    cases performed
    refine Sourced.earlier ?_
    show Sourced history (s.handleIncomingPubrec ack).1
    rw [handleIncomingPubrec]
    split
    next => exact h
    next =>
      split
      next => exact h
      next =>
        have herase := h.erase ack.packetId
        dsimp only
        split <;> exact ⟨herase.pending, herase.tracked⟩
  | pubrel ack =>
    cases performed
    exact ⟨h.earlier.pending, h.earlier.tracked⟩
  | pubcomp ack =>
    cases performed
    exact ⟨h.earlier.pending, h.earlier.tracked⟩
  | resend =>
    cases performed
    exact h.take.earlier
  | take =>
    cases performed
    exact h.take.earlier

theorem History.sourced (run : History O receiveMaximum history s) : Sourced history s := by
  induction run with
  | new => exact ⟨nofun, nofun⟩
  | step before performed ih => exact ih.step before.follows performed

/-- What the two operations that transmit send. -/
theorem Sourced.transmitted (h : Sourced history s) {op : Op} (hop : op = .take ∨ op = .resend) :
    ∃ packets s', s.perform O op = some (packets, s') ∧
      ∀ publish, MqttPacket.publish5 publish ∈ packets → Origin history publish := by
  have hsent : ∀ publish, MqttPacket.publish5 publish ∈ s.takePendingMessages.1.map .publish5 →
      Origin history publish := by
    intro publish hmem
    obtain ⟨sent, hsent, heq⟩ := List.mem_map.mp hmem
    cases heq
    exact h.sent publish hsent
  rcases hop with rfl | rfl
  · exact ⟨_, _, rfl, hsent⟩
  · refine ⟨_, _, rfl, fun publish hmem => ?_⟩
    rcases List.mem_append.mp hmem with hmem | hmem
    · rcases List.mem_append.mp hmem with hmem | hmem
      · obtain ⟨again, hagain, heq⟩ := List.mem_map.mp hmem
        cases heq
        obtain ⟨stored, hstored, rfl⟩ := List.mem_map.mp hagain
        obtain ⟨id, hlookup⟩ := mem_values hstored
        exact (h.tracked id stored hlookup).transmit stored.packetId true
      · obtain ⟨pubrel, -, heq⟩ := List.mem_map.mp hmem
        cases heq
    · exact hsent publish hmem

def NoAlias (properties : Properties) : Prop := ∀ p ∈ properties, p.id ≠ .topicAlias

/-- Every PUBLISH that is not a repetition comes without an alias and matches no subscription
that has asked for No Local. -/
def Plain (history : List Op) : Prop :=
  ∀ publish earlier, (Op.publish publish :: earlier) <:+ history →
    Repeats earlier publish ∨ NoAlias publish.properties ∧ Shared earlier publish

theorem Plain.tail {op : Op} (h : Plain (op :: history)) : Plain history :=
  fun publish earlier hsuffix => h publish earlier (hsuffix.trans (List.suffix_cons op history))

theorem Plain.retained (h : Plain history) {topic : String} {publish : V5.MqttPublish}
    (hlast : lastRetained topic history = some publish) : NoAlias publish.properties := by
  induction history with
  | nil => cases hlast
  | cons op history ih =>
    cases op with
    | publish packet =>
      rw [lastRetained] at hlast
      split at hlast
      next hnew =>
        split at hlast
        next => cases hlast
        next =>
          cases hlast
          rcases h packet history (List.suffix_refl _) with hrepeats | hplain
          · exact absurd hrepeats hnew.2.2
          · exact hplain.1
      next => exact ih h.tail hlast
    | _ => exact ih h.tail hlast

theorem Plain.forwarded (h : Plain history) {forward : Forward} (hforward : Forwarded history forward) :
    NoAlias forward.source.properties ∧
      ¬ (forward.live = true ∧ forward.subscription.options.noLocal = true) := by
  induction hforward with
  | @live earlier publish filter subscription hnew hcurrent hmatching =>
    rcases h publish earlier (List.suffix_refl _) with hrepeats | ⟨halias, hshared⟩
    · exact absurd hrepeats hnew
    · refine ⟨halias, fun hlocal => ?_⟩
      cases (hshared filter subscription hcurrent hmatching).symm.trans hlocal.2
  | replay asked retained => exact ⟨h.tail.retained retained, fun hlocal => by cases hlocal.1⟩
  | earlier before ih => exact ih h.tail

/-- A copy has the properties of its source, but for the identifier of the subscription. -/
theorem Forward.Delivers.noAlias {forward : Forward} {packet : V5.MqttPublish}
    (h : forward.Delivers packet) (hsource : NoAlias forward.source.properties) :
    NoAlias packet.properties := by
  obtain ⟨copy, hcopy, id, dup, rfl⟩ := h
  intro p hp halias
  have hmem : p ∈ copy.properties.filter (fun p => p.id ≠ .subscriptionIdentifier) :=
    List.mem_filter.mpr ⟨hp, by rw [halias]; rfl⟩
  rw [hcopy.properties] at hmem
  exact hsource p (List.mem_filter.mp hmem).1 halias

end ServerSession

end FlowSdk
