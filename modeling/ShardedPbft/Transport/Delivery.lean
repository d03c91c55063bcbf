import ShardedPbft.Transport.Forwarding
import ShardedPbft.Replica.Response

/-!
# Where the proposals and the responses land

Two kinds of send of `Commitment` go to a node id that the topology computes, through
`SendMessage(message, node_id)` (replica_communicator.cpp, lines 466-493): the PRE_PREPARE that
`ProcessNewRequest` sends to `GetPrimaryOfShard(i)` for every shard `i` (lines 152-154), and the
responses of `PostProcessExecutedMsg` to the batch's proxy (line 413).

`prePrepare_fanout`: with long connections the PRE_PREPARE is written once to the coordinator of
every non-empty shard and to nothing else; an empty shard answers `UINT_MAX`, which no entry of the
communicator has, and that send writes nothing. With short connections each of these sends writes
the PRE_PREPARE to every replica, so every replica receives one copy per non-empty shard.

`responses_at_proxy`: a proxy that the communicator knows as a client only receives, with long
connections, exactly one response from each member of the primary's shard; with short connections
`SendSingleMessage` writes every response to the replicas, and the proxy receives none.
-/

namespace ShardedPbft

namespace ReplicaCommunicator

/-- A destination known as a client only: an entry of the client list with an ip, whose id and
endpoint no replica has and no other client has. -/
structure ClientOnly (c : ReplicaCommunicator) (proxy : ReplicaInfo) : Prop where
  mem : proxy ∈ c.clients
  ip_ne : proxy.ip.isEmpty = false
  not_replica : ∀ ri ∈ c.replicas, ri.id ≠ proxy.id ∧ ri.endpoint ≠ proxy.endpoint
  unique : ∀ cl ∈ c.clients, (cl.id = proxy.id ∨ cl.endpoint = proxy.endpoint) → cl = proxy

variable {c : ReplicaCommunicator} {proxy : ReplicaInfo}

/-- A test that no replica passes and, among the clients, only `proxy` passes finds `proxy`. -/
theorem lookup_client (h : c.ClientOnly proxy) {test : ReplicaInfo → Bool}
    (htest : test proxy = true) (hreplicas : ∀ ri ∈ c.replicas, test ri = false)
    (honly : ∀ cl ∈ c.clients, test cl = true → cl = proxy) : c.lookup test = proxy := by
  have hr : c.replicas.find? test = none := List.find?_eq_none.mpr fun ri hri => by
    simp [hreplicas ri hri]
  obtain ⟨cl, hcl⟩ := Option.isSome_iff_exists.mp (List.find?_isSome.mpr ⟨proxy, h.mem, htest⟩)
  have hcl' : cl = proxy := honly cl (List.mem_of_find?_eq_some hcl) (List.find?_some hcl)
  have hd : (default : ReplicaInfo).ip.isEmpty = true := rfl
  simp [lookup, hr, hcl, hcl', hd]

/-- `SendMessage(message, node_id)` to a client-only destination: with long connections its
endpoint's worker writes to it; with short connections every replica is written to instead. -/
theorem sendMessageToNode_client (h : c.ClientOnly proxy) :
    c.sendMessageToNode proxy.id = if c.isUseLongConn then [proxy] else c.replicas := by
  have hid : c.lookup (·.id == proxy.id) = proxy :=
    lookup_client h (by simp) (fun ri hri => by simpa using (h.not_replica ri hri).1)
      fun cl hcl he => h.unique cl hcl (.inl (by simpa using he))
  have hend : c.workerTarget proxy.endpoint = proxy :=
    lookup_client h (by simp) (fun ri hri => by simpa using (h.not_replica ri hri).2)
      fun cl hcl he => h.unique cl hcl (.inr (by simpa using he))
  cases hl : c.isUseLongConn
  · simp [sendMessageToNode, sendMessageTo, hid, h.ip_ne, sendSingleMessage_short hl]
  · simp [sendMessageToNode, sendMessageTo, hid, h.ip_ne, sendSingleMessage_long hl, hend]

/-- An id that no entry of either list has: `SendMessage(message, node_id)` writes nothing. -/
theorem sendMessageToNode_of_absent {n : UInt32} (hr : ∀ ri ∈ c.replicas, ri.id ≠ n)
    (hc : ∀ cl ∈ c.clients, cl.id ≠ n) : c.sendMessageToNode n = [] := by
  have hr' : c.replicas.find? (·.id == n) = none :=
    List.find?_eq_none.mpr fun ri hri => by simpa using hr ri hri
  have hc' : c.clients.find? (·.id == n) = none :=
    List.find?_eq_none.mpr fun cl hcl => by simpa using hc cl hcl
  have hd : (default : ReplicaInfo).ip.isEmpty = true := rfl
  simp [sendMessageToNode, lookup, hr', hc', hd]

end ReplicaCommunicator

/-! ## The outer PRE_PREPARE -/

/-- The coordinators of the non-empty shards below the count, in the order of the shards. -/
def SystemInfo.coordinators (s : SystemInfo) : List UInt32 :=
  (List.range s.getShardCount).filterMap fun i => s.shardPrimaries (UInt32.ofNat i)

section Fanout

variable {s : SystemInfo} {comm : ReplicaCommunicator}

/-- With fewer than `2^32` shards the coordinators of different shards are different nodes. -/
theorem SystemInfo.ClusterView.coordinators_nodup (hs : s.ClusterView)
    (hlt : s.shardCount < 2 ^ 32) : s.coordinators.Nodup := by
  have hids : ((List.range s.shardCount).map UInt32.ofNat).Nodup := by
    refine (List.nodup_range _).map_on fun i hi j hj he => ?_
    have hi' := @UInt32.toNat_ofNat_of_lt i (by rw [List.mem_range] at hi; unfold UInt32.size; omega)
    have hj' := @UInt32.toNat_ofNat_of_lt j (by rw [List.mem_range] at hj; unfold UInt32.size; omega)
    rw [← hi', ← hj', he]
  rw [SystemInfo.coordinators, SystemInfo.getShardCount_eq, ← Function.comp_def,
    ← List.filterMap_map]
  exact hids.filterMap fun _ _ p hi hj => hs.listed_unique (hs.primary_mem _ p hi) (hs.primary_mem _ p hj)

/-- A list of sends, written one send at a time. -/
theorem written_map {α : Type} (l : List α) (f : α → Send) :
    written comm (l.map f) = l.flatMap fun a => written comm [f a] := by
  simp [written, List.flatMap_map]

/-- The coordinators are the answers of `GetPrimaryOfShard` for the non-empty shards below the
count. -/
theorem SystemInfo.ClusterView.mem_coordinators (hs : s.ClusterView) (p : UInt32) :
    p ∈ s.coordinators ↔ ∃ i < s.shardCount, s.getNodesInShard (UInt32.ofNat i) ≠ [] ∧
      s.getPrimaryOfShard (UInt32.ofNat i) = p := by
  simp only [SystemInfo.coordinators, List.mem_filterMap, List.mem_range,
    SystemInfo.getShardCount_eq]
  refine exists_congr fun i => and_congr_right fun _ => ⟨fun hp => ?_, fun ⟨hne, hp⟩ => ?_⟩
  · exact ⟨List.ne_nil_of_mem (hs.primary_mem _ p hp), by simp [SystemInfo.getPrimaryOfShard, hp]⟩
  · obtain ⟨q, hq⟩ := Option.isSome_iff_exists.mp (hs.primary_isSome _ _ (hs.getPrimaryOfShard_mem hne))
    simp_all [SystemInfo.getPrimaryOfShard]

section Network

variable (hs : s.ClusterView) (hroster : comm.replicas = s.getReplicas)
  (hendpoints : (s.getReplicas.map (·.endpoint)).Nodup)
  (hip : ∀ ri ∈ s.getReplicas, ri.ip.isEmpty = false)
  (hmax : (∀ ri ∈ comm.replicas, ri.id ≠ uint32Max) ∧ ∀ cl ∈ comm.clients, cl.id ≠ uint32Max)
include hs hroster hendpoints hip hmax

/-- One send of lines 152-154, to `GetPrimaryOfShard(sh)`: with long connections it writes to the
shard's coordinator when it has one and nothing otherwise; with short connections it writes to
every replica when the shard has a coordinator. -/
theorem written_toPrimary (m : Request) (sh : UInt32) :
    written comm [.toNode m (s.getPrimaryOfShard sh)] =
      if comm.isUseLongConn then ((s.shardPrimaries sh).map (·, m)).toList
      else (s.shardPrimaries sh).toList.flatMap fun _ => comm.replicas.map (·.id, m) := by
  cases hp : s.shardPrimaries sh with
  | none =>
    rw [written_toNode, show s.getPrimaryOfShard sh = uint32Max by simp [SystemInfo.getPrimaryOfShard, hp],
      ReplicaCommunicator.sendMessageToNode_of_absent hmax.1 hmax.2]
    split <;> rfl
  | some p =>
    obtain ⟨ri, hri, rfl⟩ := List.mem_map.mp (hs.listed_replica p sh (hs.primary_mem sh p hp))
    rw [written_toNode, show s.getPrimaryOfShard sh = ri.id by simp [SystemInfo.getPrimaryOfShard, hp],
      ReplicaCommunicator.sendMessageToNode_of_mem (hroster ▸ hs.replicas_nodup) (hroster ▸ hri)
        (hip ri hri)]
    cases hl : comm.isUseLongConn
    · simp [ReplicaCommunicator.sendSingleMessage_short hl]
    · simp [ReplicaCommunicator.sendSingleMessage_long hl,
        ReplicaCommunicator.workerTarget_of_mem (hroster ▸ hendpoints) (hroster ▸ hri) (hip ri hri)]

/-- The sends of lines 152-154 together: with long connections one write to each coordinator of a
non-empty shard, in shard order; with short connections one write to every replica per such
shard. -/
theorem written_toShardPrimaries {r : Replica} (hr : r.systemInfo = s) (m : Request) :
    written comm (r.toShardPrimaries m) =
      if comm.isUseLongConn then s.coordinators.map (·, m)
      else s.coordinators.flatMap fun _ => comm.replicas.map (·.id, m) := by
  rw [Replica.toShardPrimaries, written_map, hr]
  simp only [written_toPrimary hs hroster hendpoints hip hmax]
  split
  · rw [SystemInfo.coordinators, List.map_filterMap, List.filterMap_eq_flatMap_toList]
  · rw [SystemInfo.coordinators, List.filterMap_eq_flatMap_toList, List.flatMap_assoc]

end Network

/-- **Where an outer PRE_PREPARE lands.** Let the replicas share a topology with the ClusterView
invariant and fewer than `2^31` shards, and let the communicator list the topology's roster, with
distinct endpoints and every ip set, and no entry with the id `UINT32_MAX`. When
`ProcessNewRequest` returns `0`, the PRE_PREPARE it sends is written, with long connections, once
to each coordinator of a non-empty shard below the count (different shards have different
coordinators) and to no other node. With short connections it is written to every replica once
per non-empty shard. -/
theorem prePrepare_fanout (hs : s.ClusterView) (hlt : s.shardCount < 2 ^ 31)
    (hroster : comm.replicas = s.getReplicas) (hendpoints : (s.getReplicas.map (·.endpoint)).Nodup)
    (hip : ∀ ri ∈ s.getReplicas, ri.ip.isEmpty = false)
    (hmax : (∀ ri ∈ comm.replicas, ri.id ≠ uint32Max) ∧ ∀ cl ∈ comm.clients, cl.id ≠ uint32Max)
    {env : Env} {r r' : Replica} {context : Option String} {request : Request} {sent : List Send}
    (hr : r.systemInfo = s) (hcall : r.processNewRequest env context request = .done 0 r' sent) :
    let m := r.prePrepareOf request r.nextSeq
    s.coordinators.Nodup ∧
      (∀ p, p ∈ s.coordinators ↔ ∃ i < s.shardCount, s.getNodesInShard (UInt32.ofNat i) ≠ [] ∧
        s.getPrimaryOfShard (UInt32.ofNat i) = p) ∧
      (comm.isUseLongConn = true → written comm sent = s.coordinators.map (·, m)) ∧
      (comm.isUseLongConn = false →
        written comm sent = s.coordinators.flatMap fun _ => comm.replicas.map (·.id, m)) := by
  obtain ⟨-, -, -, -, rfl⟩ := Replica.processNewRequest_eq_zero hcall
  have hw := written_toShardPrimaries hs hroster hendpoints hip hmax hr
    (r.prePrepareOf request r.nextSeq)
  refine ⟨hs.coordinators_nodup (by omega), hs.mem_coordinators, fun hl => ?_, fun hl => ?_⟩ <;>
    simpa [hl] using hw

/-- Four replicas over two shards, with long connections: replica `1`, the coordinator of shard
`0`, takes a client request; the hypotheses hold, and the PRE_PREPARE is written to `1` and `2`,
the two coordinators. -/
theorem prePrepare_fanout_two_shards :
    let s := (((SystemInfo.init 0).setShardCount 2).run
      ([⟨1, "10.0.0.1", 10001⟩, ⟨2, "10.0.0.2", 10002⟩, ⟨3, "10.0.0.3", 10003⟩,
        ⟨4, "10.0.0.4", 10004⟩].map .addReplica)).getD (SystemInfo.init 0)
    let comm : ReplicaCommunicator := ⟨s.getReplicas, [], true⟩
    let env : Env := { verifyMessage := fun _ _ => true, signMessage := some,
                       preVerifyFunc := none, needQc := false, isFaulty := false,
                       maxProcessTxn := 8, quorum := 2 }
    let r := Replica.init 1 s
    let request : Request := { (default : Request) with hash := "h", proxyId := 9 }
    s.ClusterView ∧ s.shardCount < 2 ^ 31 ∧ comm.replicas = s.getReplicas ∧
      (s.getReplicas.map (·.endpoint)).Nodup ∧ (∀ ri ∈ s.getReplicas, ri.ip.isEmpty = false) ∧
      ((∀ ri ∈ comm.replicas, ri.id ≠ uint32Max) ∧ ∀ cl ∈ comm.clients, cl.id ≠ uint32Max) ∧
      r.systemInfo = s ∧ s.coordinators = [1, 2] ∧
      ∃ r' sent, r.processNewRequest env (some "sig") request = .done 0 r' sent ∧
        let m := r.prePrepareOf request r.nextSeq
        s.coordinators.Nodup ∧
          (∀ p, p ∈ s.coordinators ↔ ∃ i < s.shardCount, s.getNodesInShard (UInt32.ofNat i) ≠ [] ∧
            s.getPrimaryOfShard (UInt32.ofNat i) = p) ∧
          (comm.isUseLongConn = true → written comm sent = s.coordinators.map (·, m)) ∧
          (comm.isUseLongConn = false →
            written comm sent = s.coordinators.flatMap fun _ => comm.replicas.map (·.id, m)) := by
  intro s comm env r request
  have hs : s.ClusterView := @SystemInfo.clusterView_run (SystemInfo.init 0) s 2
    (([⟨1, "10.0.0.1", 10001⟩, ⟨2, "10.0.0.2", 10002⟩, ⟨3, "10.0.0.3", 10003⟩,
      ⟨4, "10.0.0.4", 10004⟩] : List ReplicaInfo).map .addReplica) List.nodup_nil (by decide) rfl
  have hcall := @Replica.processNewRequest_of_admitted env r (some "sig") request rfl rfl
    (by decide) rfl rfl (Finset.not_mem_empty _) (by decide)
  have hmax : (∀ ri ∈ comm.replicas, ri.id ≠ uint32Max) ∧ ∀ cl ∈ comm.clients, cl.id ≠ uint32Max :=
    ⟨by decide, by decide⟩
  exact ⟨hs, by decide, rfl, by decide, by decide, hmax, rfl, by decide, _, _, hcall,
    prePrepare_fanout hs (by decide) rfl (by decide) (by decide) hmax rfl hcall⟩

end Fanout

/-! ## The responses -/

section Responses

variable {s : SystemInfo} {comm : ReplicaCommunicator} {proxy : ReplicaInfo}

/-- A send to a client-only destination: one write to it with long connections, one write to
every replica with short ones. -/
theorem written_toNode_client (h : comm.ClientOnly proxy) (m : Request) :
    written comm [.toNode m proxy.id] =
      if comm.isUseLongConn then [(proxy.id, m)] else comm.replicas.map (·.id, m) := by
  rw [written_toNode, ReplicaCommunicator.sendMessageToNode_client h]
  split <;> rfl

/-- **Where the responses to an executed batch land.** Let the replicas share a topology with the
ClusterView invariant and fewer than `2^32` shards, let a shard list the batch's primary, and let
the communicator know the batch's proxy as a client only. With long connections every response
the response workers send is written to the proxy, and the proxy receives exactly one response
from each member of the primary's shard. With short connections `SendSingleMessage` writes each
response to the replicas, and the proxy receives none. -/
theorem responses_at_proxy (hs : s.ClusterView) (hlt : s.shardCount < 2 ^ 32)
    {c : UInt32 → Replica} (hc : ∀ n, (c n).systemInfo = s ∧ (c n).selfId = n)
    (hproxy : comm.ClientOnly proxy) {b : BatchResponse} (hb : b.proxyId = proxy.id)
    {sh : UInt32} (hp : b.primaryId ∈ s.getNodesInShard sh) :
    let w := written comm (clusterResponses c (s.getReplicas.map (·.id)) b)
    (comm.isUseLongConn = true → (∀ x ∈ w, x.1 = proxy.id) ∧
      (w.map (·.2)).Perm ((s.getNodesInShard sh).map fun n => (c n).responseOf b)) ∧
      (comm.isUseLongConn = false → ∀ x ∈ w, x.1 ≠ proxy.id) := by
  dsimp only
  rw [clusterResponses_eq hc, written_map, hb]
  simp only [written_toNode_client hproxy]
  refine ⟨fun hl => ?_, fun hl x hx => ?_⟩
  · simp only [hl, if_true, ← List.map_eq_flatMap, List.map_map]
    refine ⟨fun x hx => ?_, (hs.roster_filter_perm hlt hp).map _⟩
    obtain ⟨n, -, rfl⟩ := List.mem_map.mp hx
    rfl
  · simp only [hl, Bool.false_eq_true, if_false, List.mem_flatMap, List.mem_map] at hx
    obtain ⟨n, -, ri, hri, rfl⟩ := hx
    exact (hproxy.not_replica ri hri).1

/-- The same four replicas, a batch proposed by replica `1`, and a proxy `9` known as a client
only, with long connections: the hypotheses hold, and the proxy receives the responses of `1` and
`3`. -/
theorem responses_at_proxy_two_shards :
    let s := (((SystemInfo.init 0).setShardCount 2).run
      ([⟨1, "10.0.0.1", 10001⟩, ⟨2, "10.0.0.2", 10002⟩, ⟨3, "10.0.0.3", 10003⟩,
        ⟨4, "10.0.0.4", 10004⟩].map .addReplica)).getD (SystemInfo.init 0)
    let proxy : ReplicaInfo := ⟨9, "10.0.0.9", 10009⟩
    let comm : ReplicaCommunicator := ⟨s.getReplicas, [proxy], true⟩
    let c := fun n => Replica.init n s
    let b : BatchResponse := ⟨"h", 1, 1, 9, 1, "result"⟩
    s.ClusterView ∧ s.shardCount < 2 ^ 32 ∧ (∀ n, (c n).systemInfo = s ∧ (c n).selfId = n) ∧
      comm.ClientOnly proxy ∧ b.proxyId = proxy.id ∧ b.primaryId ∈ s.getNodesInShard 0 ∧
      let w := written comm (clusterResponses c (s.getReplicas.map (·.id)) b)
      (comm.isUseLongConn = true → (∀ x ∈ w, x.1 = proxy.id) ∧
        (w.map (·.2)).Perm ((s.getNodesInShard 0).map fun n => (c n).responseOf b)) ∧
        (comm.isUseLongConn = false → ∀ x ∈ w, x.1 ≠ proxy.id) := by
  intro s proxy comm c b
  have hs : s.ClusterView := @SystemInfo.clusterView_run (SystemInfo.init 0) s 2
    (([⟨1, "10.0.0.1", 10001⟩, ⟨2, "10.0.0.2", 10002⟩, ⟨3, "10.0.0.3", 10003⟩,
      ⟨4, "10.0.0.4", 10004⟩] : List ReplicaInfo).map .addReplica) List.nodup_nil (by decide) rfl
  have hc : ∀ n, (c n).systemInfo = s ∧ (c n).selfId = n := fun _ => ⟨rfl, rfl⟩
  have hproxy : comm.ClientOnly proxy := ⟨by decide, rfl, by decide, by decide⟩
  have hp : b.primaryId ∈ s.getNodesInShard 0 := by decide
  exact ⟨hs, by decide, hc, hproxy, rfl, hp, responses_at_proxy hs (by decide) hc hproxy rfl hp⟩

end Responses

end ShardedPbft
