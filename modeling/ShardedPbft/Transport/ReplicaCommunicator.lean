import Mathlib.Data.List.Nodup
import ShardedPbft.Replica.Message

/-!
# Where `ReplicaCommunicator` writes a message

`ReplicaCommunicator` (platform/networkstrate/replica_communicator.cpp) works in one of two modes,
fixed when it is built (`is_use_long_conn`). With short connections a send opens a `NetChannel`
per destination and writes at once (`SendMessageInternal`); with long connections a send is
queued, and a background thread writes the queue through the connection pool
(`SendMessageFromPool`). This module says which replicas a send reaches in either mode, once the
queues are drained; `LongConnection` models the queues and their threads.

An endpoint is the `(ip, port)` pair that keys `client_pools_` and `single_bq_`. The pool connects
to `port + 10000` in long-connection mode, the same shift for every endpoint, so it is left out.

The one surprise is `SendSingleMessage` with short connections: it writes to every replica of
`replicas_`, whatever destination it was given (`sendSingleMessage_short`). The code after the
`return` of `SendMessage(message, replica_info)`, which would send to `{replica_info}` alone, never
runs. With long connections a unicast reaches its destination's endpoint when the replica list or
the client list has an entry for it; the thread of any other endpoint looks up nothing and writes
to the empty `ReplicaInfo`, at `("", 0)`. `unicast_endpoints` says where every unicast goes.
-/

namespace ShardedPbft

/-- The `(ip, port)` pair of a replica, the key of `client_pools_` and `single_bq_`. -/
def ReplicaInfo.endpoint (r : ReplicaInfo) : String × UInt16 := (r.ip, r.port)

/-- The configuration of a `ReplicaCommunicator`: `replicas_`, `clients_` (as the last
`UpdateClientReplicas` set it) and `is_use_long_conn_`. -/
structure ReplicaCommunicator where
  replicas : List ReplicaInfo
  clients : List ReplicaInfo
  isUseLongConn : Bool

namespace ReplicaCommunicator

/-- The search loops of lines 132-146 and 468-482: the first entry of `replicas_` that passes the
test, or the empty `ReplicaInfo`; when that entry has no ip, the first client that passes it, if
there is one. -/
def lookup (c : ReplicaCommunicator) (test : ReplicaInfo → Bool) : ReplicaInfo :=
  let found := (c.replicas.find? test).getD default
  if found.ip.isEmpty then (c.clients.find? test).getD found else found

/-- `StartSingleInBackGround(ip, port)`, lines 127-169: the replica that the worker of an endpoint
writes to, found by its endpoint. -/
def workerTarget (c : ReplicaCommunicator) (e : String × UInt16) : ReplicaInfo :=
  c.lookup (·.endpoint == e)

/-- `SendSingleMessage(message, replica_info)`, lines 172-193, by the replicas it writes to. With
long connections the message is queued for the worker of `(ip, port)`, which writes to
`workerTarget`; otherwise `SendMessageInternal(message, replicas_)` writes it to every replica. -/
def sendSingleMessage (c : ReplicaCommunicator) (replicaInfo : ReplicaInfo) : List ReplicaInfo :=
  if c.isUseLongConn then [c.workerTarget replicaInfo.endpoint] else c.replicas

/-- `SendMessage(message, replica_info)`, lines 209-221: it returns
`SendSingleMessage(message, replica_info)` at once. -/
def sendMessageTo (c : ReplicaCommunicator) (replicaInfo : ReplicaInfo) : List ReplicaInfo :=
  c.sendSingleMessage replicaInfo

/-- `SendMessage(message, node_id)`, lines 466-493: the replica of that id, or else the client of
that id; nothing when neither has an entry with an ip. -/
def sendMessageToNode (c : ReplicaCommunicator) (nodeId : UInt32) : List ReplicaInfo :=
  let target := c.lookup (·.id == nodeId)
  if target.ip.isEmpty then [] else c.sendMessageTo target

/-- `BroadCast(message)`, which is `SendMessage(message)` (lines 195-206 and 458-463): every
replica, at once or through the broadcast worker. -/
def broadCast (c : ReplicaCommunicator) : List ReplicaInfo := c.replicas

/-- The replicas one send of a handler reaches. A response goes to the client through
`MessageManager::SendResponse`, not through this communicator. -/
def transmit (c : ReplicaCommunicator) : Send → List ReplicaInfo
  | .toNode _ nodeId => c.sendMessageToNode nodeId
  | .broadCast _ => c.broadCast
  | .response _ => []

variable {c : ReplicaCommunicator}

/-- With short connections a single message goes to every replica. -/
theorem sendSingleMessage_short (h : c.isUseLongConn = false) (replicaInfo : ReplicaInfo) :
    c.sendSingleMessage replicaInfo = c.replicas := by
  simp [sendSingleMessage, h]

/-- With long connections a single message goes to the replica its endpoint's worker found. -/
theorem sendSingleMessage_long (h : c.isUseLongConn = true) (replicaInfo : ReplicaInfo) :
    c.sendSingleMessage replicaInfo = [c.workerTarget replicaInfo.endpoint] := by
  simp [sendSingleMessage, h]

/-- A replica with an ip is what the lookup finds when it is the only replica that passes the
test. -/
theorem lookup_of_unique {test : ReplicaInfo → Bool} {r : ReplicaInfo} (hr : r ∈ c.replicas)
    (htest : test r = true) (hip : r.ip.isEmpty = false)
    (honly : ∀ r' ∈ c.replicas, test r' = true → r' = r) : c.lookup test = r := by
  obtain ⟨r', hfind⟩ := Option.isSome_iff_exists.mp (List.find?_isSome.mpr ⟨r, hr, htest⟩)
  have hr' : r' = r := honly r' (List.mem_of_find?_eq_some hfind) (List.find?_some hfind)
  simp [lookup, hfind, hr', hip]

/-- With distinct endpoints, the worker of a replica's endpoint writes to that replica. -/
theorem workerTarget_of_mem (hnodup : (c.replicas.map (·.endpoint)).Nodup) {r : ReplicaInfo}
    (hr : r ∈ c.replicas) (hip : r.ip.isEmpty = false) : c.workerTarget r.endpoint = r :=
  lookup_of_unique hr (by simp) hip fun _ hr' he =>
    List.inj_on_of_nodup_map hnodup hr' hr (by simpa using he)

/-- With distinct ids, `SendMessage(message, node_id)` to a replica's id reaches that replica: by
its endpoint's worker with long connections, and together with every other replica with short
ones. -/
theorem sendMessageToNode_of_mem (hnodup : (c.replicas.map (·.id)).Nodup) {r : ReplicaInfo}
    (hr : r ∈ c.replicas) (hip : r.ip.isEmpty = false) :
    c.sendMessageToNode r.id = c.sendSingleMessage r := by
  have hlookup : c.lookup (·.id == r.id) = r :=
    lookup_of_unique hr (by simp) hip fun _ hr' he =>
      List.inj_on_of_nodup_map hnodup hr' hr (by simpa using he)
  simp [sendMessageToNode, sendMessageTo, hlookup, hip]

/-- An endpoint is known when `replicas_` or the clients list has an entry for it. -/
def known (c : ReplicaCommunicator) (e : String × UInt16) : Bool :=
  e ∈ c.replicas.map (·.endpoint) || e ∈ c.clients.map (·.endpoint)

/-- A search answers an entry of the list it searched, or the value it started from. -/
theorem getD_find?_mem (l : List ReplicaInfo) (test : ReplicaInfo → Bool) (x : ReplicaInfo) :
    (l.find? test).getD x ∈ l ∨ (l.find? test).getD x = x := by
  cases h : l.find? test
  · exact .inr rfl
  · exact .inl (List.mem_of_find?_eq_some h)

/-- A lookup that answers an entry with an ip answers an entry of one of the two lists. -/
theorem lookup_mem {test : ReplicaInfo → Bool} (hip : (c.lookup test).ip.isEmpty = false) :
    c.lookup test ∈ c.replicas ∨ c.lookup test ∈ c.clients := by
  unfold lookup at hip ⊢
  dsimp only at hip ⊢
  split_ifs at hip ⊢ with hfound
  · rcases getD_find?_mem c.clients test ((c.replicas.find? test).getD default) with h | h
    · exact .inr h
    · rw [h, hfound] at hip
      cases hip
  · rcases getD_find?_mem c.replicas test default with h | h
    · exact .inl h
    · rw [h] at hfound
      exact absurd rfl hfound

/-- When an entry of either list passes the test, the lookup answers one that passes it. -/
theorem lookup_passes {test : ReplicaInfo → Bool}
    (h : (∃ r ∈ c.replicas, test r = true) ∨ ∃ r ∈ c.clients, test r = true) :
    test (c.lookup test) = true := by
  have hclients : (∃ r ∈ c.clients, test r = true) → ∀ x, test ((c.clients.find? test).getD x) := by
    intro hc x
    obtain ⟨r, hr⟩ := Option.isSome_iff_exists.mp (List.find?_isSome.mpr hc)
    simpa [hr] using List.find?_some hr
  unfold lookup
  dsimp only
  cases hr : c.replicas.find? test with
  | some r =>
    have hpass : test r = true := List.find?_some hr
    split_ifs
    · cases hc : c.clients.find? test with
      | some x => exact List.find?_some hc
      | none => exact hpass
    · exact hpass
  | none =>
    have hnone : ¬ ∃ r ∈ c.replicas, test r = true := fun ⟨r, hr', ht⟩ => by
      simp [List.find?_eq_none.mp hr r hr'] at ht
    exact if_pos (rfl : (default : ReplicaInfo).ip.isEmpty = true) ▸ hclients (h.resolve_left hnone) _

/-- The thread of a known endpoint writes to that endpoint. -/
theorem workerTarget_endpoint {e : String × UInt16} (h : c.known e = true) :
    (c.workerTarget e).endpoint = e := by
  simp only [known, Bool.or_eq_true, decide_eq_true_eq, List.mem_map] at h
  have := @lookup_passes c (·.endpoint == e) (by simpa using h)
  simpa [workerTarget] using this

/-- What `SendMessage(message, node_id)` writes to, when it writes, is a known endpoint. -/
theorem lookup_known {test : ReplicaInfo → Bool} (hip : (c.lookup test).ip.isEmpty = false) :
    c.known (c.lookup test).endpoint = true := by
  simp only [known, Bool.or_eq_true, decide_eq_true_eq]
  exact (lookup_mem hip).imp (List.mem_map_of_mem _) (List.mem_map_of_mem _)

/-- The thread of an endpoint that neither list has writes to the empty `ReplicaInfo`. -/
theorem workerTarget_of_not_known {e : String × UInt16} (h : c.known e = false) :
    c.workerTarget e = default := by
  simp only [known, Bool.or_eq_false_iff, decide_eq_false_iff_not, List.mem_map, not_exists,
    not_and] at h
  have hr : c.replicas.find? (·.endpoint == e) = none :=
    List.find?_eq_none.mpr fun a ha => by simpa using h.1 a ha
  have hc : c.clients.find? (·.endpoint == e) = none :=
    List.find?_eq_none.mpr fun a ha => by simpa using h.2 a ha
  simp [workerTarget, lookup, hr, hc]

/-- **Where a unicast goes.** `SendMessage(message, replica_info)` writes, with long connections,
to the endpoint of `replica_info` when either list has an entry for it and to the empty endpoint
`("", 0)` otherwise; with short connections it writes to every replica of `replicas_`, whatever
the destination. `SendMessage(message, node_id)` writes nothing when the lookup by id (the
replicas first, then the clients) finds no entry with an ip, and otherwise writes as
`SendMessage(message, replica_info)` to the entry found: with long connections to exactly that
entry's endpoint. -/
theorem unicast_endpoints (c : ReplicaCommunicator) (replicaInfo : ReplicaInfo) (nodeId : UInt32) :
    (c.sendMessageTo replicaInfo).map (·.endpoint) =
        (if c.isUseLongConn then
          [if c.known replicaInfo.endpoint then replicaInfo.endpoint else ("", 0)]
        else c.replicas.map (·.endpoint)) ∧
      (c.sendMessageToNode nodeId).map (·.endpoint) =
        (if (c.lookup (·.id == nodeId)).ip.isEmpty then []
        else if c.isUseLongConn then [(c.lookup (·.id == nodeId)).endpoint]
        else c.replicas.map (·.endpoint)) := by
  constructor
  · cases hl : c.isUseLongConn
    · simp [sendMessageTo, sendSingleMessage_short hl]
    · cases hk : c.known replicaInfo.endpoint
      · simp [sendMessageTo, sendSingleMessage_long hl, workerTarget_of_not_known hk]
        rfl
      · simp [sendMessageTo, sendSingleMessage_long hl, workerTarget_endpoint hk]
  · unfold sendMessageToNode
    dsimp only
    by_cases hip : (c.lookup (·.id == nodeId)).ip.isEmpty = true
    · simp [hip]
    · cases hl : c.isUseLongConn
      · simp [hip, sendMessageTo, sendSingleMessage_short hl]
      · simp [hip, sendMessageTo, sendSingleMessage_long hl,
          workerTarget_endpoint (lookup_known (by simpa using hip))]

/-- Two replicas: with short connections a message to replica `1` is written to replica `2` as
well; with long connections a message to an endpoint neither list has is written to
`("", 0)`. -/
theorem unicast_reaches_other_replica :
    let a : ReplicaInfo := ⟨1, "10.0.0.1", 10001⟩
    let b : ReplicaInfo := ⟨2, "10.0.0.2", 10002⟩
    let d : ReplicaInfo := ⟨3, "10.0.0.3", 10003⟩
    (ReplicaCommunicator.sendMessageTo ⟨[a, b], [], false⟩ a).map (·.endpoint) =
        [a.endpoint, b.endpoint] ∧
      (ReplicaCommunicator.sendMessageTo ⟨[a, b], [], true⟩ d).map (·.endpoint) = [("", 0)] := by
  intro a b d
  exact ⟨(unicast_endpoints ⟨[a, b], [], false⟩ a 1).1.trans rfl,
    (unicast_endpoints ⟨[a, b], [], true⟩ d 1).1.trans (by decide)⟩

end ReplicaCommunicator

end ShardedPbft
