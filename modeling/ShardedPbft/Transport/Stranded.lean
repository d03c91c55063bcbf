import ShardedPbft.Topology.Reshard
import ShardedPbft.Transport.Delivery

/-!
# Replicas that a re-shard strands

`reshard_strands` leaves the replicas that a `SetShardCount` found in the roster and in no shard,
for every later run. This file follows what `Commitment` does at such a replica. `GetShardOfNode`
answers `UINT32_MAX` for it, and with fewer than `2^32` shards the sentinel shard has no
coordinator, so `GetPrimaryOfNode(self)` is `UINT32_MAX` too.

`stranded_replica_cut_off`: unless its own id is `UINT32_MAX`, a stranded replica is not its own
coordinator. So `ProcessNewRequest` never proposes there: a client request is rejected, or sent
on to `UINT32_MAX` with the call returning `-3`. Every PRE_PREPARE, PREPARE and COMMIT from a
replica that a shard lists is caught by the routing test of lines 163-164, 268-269 and 335-336
(another shard, and this replica is not a coordinator), and goes to `UINT32_MAX` as well. A
communicator with no entry of that id writes such a send nowhere (`SendMessage(message,
node_id)`, lines 466-493), so these requests and messages are lost.

`proposers_after_reshard` looks at the whole cluster: over any run of client requests, the only
replicas that send PRE_PREPAREs are the first members of the shards, all added after the
re-shard, and a replica whose own id is the sentinel.
-/

namespace ShardedPbft

section Unlisted

variable {s : SystemInfo} {r : Replica}

/-- With fewer than `2^32` shards, a node that no shard lists has `UINT32_MAX` as its coordinator. -/
theorem SystemInfo.ClusterView.getPrimaryOfNode_of_unlisted (hs : s.ClusterView)
    (hlt : s.shardCount < 2 ^ 32) {n : UInt32} (hn : ∀ sh, n ∉ s.getNodesInShard sh) :
    s.getPrimaryOfNode n = uint32Max := by
  rw [SystemInfo.getPrimaryOfNode, hs.getShardOfNode_of_unlisted hn, hs.getPrimaryOfShard_uint32Max hlt]

namespace Replica

variable (hs : s.ClusterView) (hlt : s.shardCount < 2 ^ 32) (hr : r.systemInfo = s)
  (hun : ∀ sh, r.selfId ∉ s.getNodesInShard sh)
include hs hlt hr hun

/-- An unlisted replica's coordinator is `UINT32_MAX`. -/
theorem coordinator_of_unlisted : r.coordinator = uint32Max := by
  rw [coordinator, hr]
  exact hs.getPrimaryOfNode_of_unlisted hlt (hr ▸ hun)

variable (hself : r.selfId ≠ uint32Max)
include hself

/-- An unlisted replica passes every message of a listed sender on: the sender's shard is a real
one, its own is the sentinel, and it is not the sentinel's coordinator. -/
theorem forwards_of_unlisted {sender sh : UInt32} (hsender : sender ∈ s.getNodesInShard sh) :
    r.forwards sender = true := by
  have hshard : s.getShardOfNode sender ≠ s.getShardOfNode r.selfId := by
    rw [hs.getShardOfNode_of_unlisted hun, hs.getShardOfNode_eq hsender]
    exact hs.ne_uint32Max_of_listed hlt hsender
  simp [forwards, SystemInfo.nodesInSameShard, hr, hshard, coordinator_of_unlisted hs hlt hr hun,
    hself]

/-- At an unlisted replica `ProcessNewRequest` rejects the request and changes nothing, or sends
it to `UINT32_MAX` and returns `-3`. -/
theorem processNewRequest_of_unlisted (env : Env) (context : Option String) (request : Request) :
    (∃ sent, r.processNewRequest env context request = .done (-2) r sent) ∨
      r.processNewRequest env context request =
        .done (-3) { r with requestComplained := r.requestComplained ++ [(context, request)] }
          [.toNode request uint32Max] := by
  have hcoord := coordinator_of_unlisted hs hlt hr hun
  rcases processNewRequest_cases env r context request with hrej | ⟨-, he⟩ | ⟨-, -, hc, -⟩
  · exact .inl hrej
  · exact .inr (hcoord ▸ he)
  · exact absurd (hc.trans hcoord) hself

end Replica

end Unlisted

/-- **A stranded replica is cut off.** Let `SetShardCount(count)`, with `count < 2^32`, be called
on a roster of distinct ids, and then any run of `AddReplica`, `ProcessRequest`, `SetPrimary` and
`SetCurrentView`. Take a replica of the old roster with that topology, whose id is not
`UINT32_MAX`. Its coordinator is `UINT32_MAX`. `ProcessNewRequest` never returns `0` there: it
rejects the request and changes nothing, or sends the request to `UINT32_MAX` and returns `-3`.
Every PRE_PREPARE, PREPARE and COMMIT from a replica that a shard lists is sent to `UINT32_MAX`,
with the call returning `-3` and changing nothing. A communicator with no entry of id `UINT32_MAX`
writes these sends nowhere. -/
theorem stranded_replica_cut_off {s₀ s : SystemInfo} {count : Nat} {cs : List SystemInfo.Call}
    (hroster : (s₀.getReplicas.map (·.id)).Nodup) (hcs : ∀ c ∈ cs, c.keepsCover)
    (hlt : count < 2 ^ 32) (h : (s₀.setShardCount count).run cs = some s) {r : Replica}
    (hr : r.systemInfo = s) (hold : r.selfId ∈ s₀.getReplicas.map (·.id))
    (hself : r.selfId ≠ uint32Max) {comm : ReplicaCommunicator}
    (hmax : (∀ ri ∈ comm.replicas, ri.id ≠ uint32Max) ∧ ∀ cl ∈ comm.clients, cl.id ≠ uint32Max) :
    r.coordinator = uint32Max ∧
      (∀ env context request,
        (∃ sent, r.processNewRequest env context request = .done (-2) r sent) ∨
          r.processNewRequest env context request =
            .done (-3) { r with requestComplained := r.requestComplained ++ [(context, request)] }
              [.toNode request uint32Max]) ∧
      (∀ env context (m : Request), (m.type = .prePrepare ∨ m.type = .prepare ∨ m.type = .commit) →
        (∃ sh, m.senderId ∈ s.getNodesInShard sh) →
        r.dispatch env context m = some (.done (-3) r [.toNode m uint32Max])) ∧
      ∀ m, written comm [.toNode m uint32Max] = [] := by
  have hv := SystemInfo.clusterView_run hroster
    (fun c hc => SystemInfo.Call.keepsView_of_keepsCover (hcs c hc)) h
  have hre := SystemInfo.reshard_run hcs h
  have hlt' : s.shardCount < 2 ^ 32 := hre.shardCount_eq ▸ hlt
  obtain ⟨ri, hri, hid⟩ := List.mem_map.mp hold
  have hun : ∀ sh, r.selfId ∉ s.getNodesInShard sh := hid ▸ hre.stranded ri hri
  have hcoord := Replica.coordinator_of_unlisted hv hlt' hr hun
  refine ⟨hcoord, Replica.processNewRequest_of_unlisted hv hlt' hr hun hself,
    fun env context m htype ⟨sh, hsh⟩ => ?_, fun m => ?_⟩
  · rw [Replica.dispatch_of_forwards htype (Replica.forwards_of_unlisted hv hlt' hr hun hself hsh),
      ← hcoord]
    rfl
  · rw [written_toNode, ReplicaCommunicator.sendMessageToNode_of_absent hmax.1 hmax.2, List.map_nil]

/-- Two configured replicas, then `SetShardCount(2)` and two new replicas: the hypotheses hold
for configured replica `1` and a communicator over the final roster. -/
theorem stranded_replica_cut_off_config :
    let s₀ := SystemInfo.ofConfig [⟨1, "10.0.0.1", 10001⟩, ⟨2, "10.0.0.2", 10002⟩] 0
    let cs : List SystemInfo.Call :=
      [.addReplica ⟨3, "10.0.0.3", 10003⟩, .addReplica ⟨4, "10.0.0.4", 10004⟩]
    let s := ((s₀.setShardCount 2).run cs).getD s₀
    let r := Replica.init 1 s
    let comm : ReplicaCommunicator := ⟨s.getReplicas, [], true⟩
    (s₀.getReplicas.map (·.id)).Nodup ∧ (∀ c ∈ cs, c.keepsCover) ∧ 2 < 2 ^ 32 ∧
      (s₀.setShardCount 2).run cs = some s ∧ r.systemInfo = s ∧
      r.selfId ∈ s₀.getReplicas.map (·.id) ∧ r.selfId ≠ uint32Max ∧
      ((∀ ri ∈ comm.replicas, ri.id ≠ uint32Max) ∧ ∀ cl ∈ comm.clients, cl.id ≠ uint32Max) ∧
      r.coordinator = uint32Max ∧
      (∀ env context request,
        (∃ sent, r.processNewRequest env context request = .done (-2) r sent) ∨
          r.processNewRequest env context request =
            .done (-3) { r with requestComplained := r.requestComplained ++ [(context, request)] }
              [.toNode request uint32Max]) ∧
      (∀ env context (m : Request), (m.type = .prePrepare ∨ m.type = .prepare ∨ m.type = .commit) →
        (∃ sh, m.senderId ∈ s.getNodesInShard sh) →
        r.dispatch env context m = some (.done (-3) r [.toNode m uint32Max])) ∧
      ∀ m, written comm [.toNode m uint32Max] = [] := by
  intro s₀ cs s r comm
  have hroster : (s₀.getReplicas.map (·.id)).Nodup := by decide
  have hcs : ∀ c ∈ cs, c.keepsCover := by decide
  have hrun : (s₀.setShardCount 2).run cs = some s := rfl
  have hmax : (∀ ri ∈ comm.replicas, ri.id ≠ uint32Max) ∧ ∀ cl ∈ comm.clients, cl.id ≠ uint32Max :=
    ⟨by decide, by decide⟩
  exact ⟨hroster, hcs, by decide, hrun, rfl, by decide, by decide, hmax,
    stranded_replica_cut_off hroster hcs (show 2 < 2 ^ 32 by decide) hrun rfl (by decide) (by decide)
      hmax⟩

/-! ## Who proposes after a re-shard -/

namespace Replica

/-- `ProcessNewRequest` keeps a replica's id and topology. -/
theorem processNewRequest_keeps (env : Env) (r : Replica) (context : Option String)
    (request : Request) :
    (r.processNewRequest env context request).replica.selfId = r.selfId ∧
      (r.processNewRequest env context request).replica.systemInfo = r.systemInfo := by
  rcases processNewRequest_cases env r context request with
    ⟨_, he⟩ | ⟨-, he⟩ | ⟨-, -, -, -, -, -, -, he⟩ <;> rw [he] <;> exact ⟨rfl, rfl⟩

/-- In a run of client requests through a cluster, every PRE_PREPARE comes from a replica that,
before the run, is its own shard's coordinator. -/
theorem newRequestRun_senders (env : Env) :
    ∀ (c : UInt32 → Replica) (ds : List ClientDelivery), (∀ n, (c n).selfId = n) →
      ∀ m ∈ (newRequestRun env c ds).2, (c m.senderId).coordinator = m.senderId
  | _, [], _, m, hm => absurd hm (List.not_mem_nil m)
  | c, d :: ds, hself, m, hm => by
    have hkeep := processNewRequest_keeps env (c d.replica) d.context d.request
    have hself' : ∀ n, (Function.update c d.replica
        ((c d.replica).processNewRequest env d.context d.request).replica n).selfId = n := fun n => by
      by_cases hn : n = d.replica
      · rw [hn, Function.update_same, hkeep.1, hself]
      · rw [Function.update_noteq hn, hself]
    simp only [newRequestRun, List.mem_append] at hm
    rcases hm with hm | hm
    · -- a PRE_PREPARE of this call: only a coordinator returns `0`
      rcases processNewRequest_cases env (c d.replica) d.context d.request with
        ⟨_, he⟩ | ⟨-, he⟩ | ⟨-, -, hco, -, -, -, -, he⟩ <;> rw [he] at hm
      · exact absurd hm (by rw [proposals_of_ne_zero (by decide)]; exact List.not_mem_nil m)
      · exact absurd hm (by rw [proposals_of_ne_zero (by decide)]; exact List.not_mem_nil m)
      · simp only [proposals, toShardPrimaries, List.map_map, List.mem_map] at hm
        obtain ⟨_, _, rfl⟩ := hm
        simp only [Function.comp_apply, Send.message_toNode, prePrepareOf]
        rw [hself, ← hco, hself]
    · -- a later PRE_PREPARE: the coordinator of its sender is what it was
      have := newRequestRun_senders env _ ds hself' m hm
      by_cases hn : m.senderId = d.replica
      · rw [hn, Function.update_same, coordinator, hkeep.1, hkeep.2] at this
        rwa [hn]
      · rwa [Function.update_noteq hn] at this

end Replica

/-- **Only first members propose after a re-shard.** Let `SetShardCount(count)`, with
`count < 2^32`, be called on a roster of distinct ids, then any run of `AddReplica`,
`ProcessRequest`, `SetPrimary` and `SetCurrentView`. In every run of client requests through a
cluster whose replicas share the resulting topology, every PRE_PREPARE emitted comes from the
first member of a shard, which is not a replica of the old roster; the one exception is a sender
with the sentinel id `UINT32_MAX`. -/
theorem proposers_after_reshard {s₀ s : SystemInfo} {count : Nat} {cs : List SystemInfo.Call}
    (hroster : (s₀.getReplicas.map (·.id)).Nodup) (hcs : ∀ c ∈ cs, c.keepsCover)
    (hlt : count < 2 ^ 32) (h : (s₀.setShardCount count).run cs = some s) (env : Env)
    {c : UInt32 → Replica} (hc : ∀ n, (c n).systemInfo = s ∧ (c n).selfId = n)
    (ds : List Replica.ClientDelivery) :
    ∀ m ∈ (Replica.newRequestRun env c ds).2, m.senderId = uint32Max ∨
      ((∃ sh, (s.getNodesInShard sh).head? = some m.senderId) ∧
        m.senderId ∉ s₀.getReplicas.map (·.id)) := by
  have hv := SystemInfo.clusterView_run hroster
    (fun c hc => SystemInfo.Call.keepsView_of_keepsCover (hcs c hc)) h
  have hre := SystemInfo.reshard_run hcs h
  have hf := ((SystemInfo.firstCoordinators_setShardCount s₀ count).run hcs h).1
  intro m hm
  have hco := Replica.newRequestRun_senders env c ds (fun n => (hc n).2) m hm
  rw [Replica.coordinator, (hc _).1, (hc _).2, SystemInfo.getPrimaryOfNode] at hco
  rcases (hv.eq_getPrimaryOfShard_iff (hre.shardCount_eq ▸ hlt) m.senderId).mp hco.symm with
    ⟨sh, hmem, hprim⟩ | ⟨-, hmax⟩
  · refine .inr ⟨⟨sh, (hf sh).symm.trans hprim⟩, fun hold => ?_⟩
    obtain ⟨ri, hri, hid⟩ := List.mem_map.mp hold
    exact hre.stranded ri hri sh (hid ▸ hmem)
  · exact .inl hmax

/-- Two configured replicas, then `SetShardCount(2)` and two new replicas; client requests reach
configured replica `1` and new replica `3`: the hypotheses hold, and only `3` proposes. -/
theorem proposers_after_reshard_config :
    let s₀ := SystemInfo.ofConfig [⟨1, "10.0.0.1", 10001⟩, ⟨2, "10.0.0.2", 10002⟩] 0
    let cs : List SystemInfo.Call :=
      [.addReplica ⟨3, "10.0.0.3", 10003⟩, .addReplica ⟨4, "10.0.0.4", 10004⟩]
    let s := ((s₀.setShardCount 2).run cs).getD s₀
    let env : Env := { verifyMessage := fun _ _ => true, signMessage := some,
                       preVerifyFunc := none, needQc := false, isFaulty := false,
                       maxProcessTxn := 8, quorum := 2 }
    let c := fun n => Replica.init n s
    let ds : List Replica.ClientDelivery := [⟨1, some "sig", { (default : Request) with hash := "a" }⟩,
      ⟨3, some "sig", { (default : Request) with hash := "b" }⟩]
    (s₀.getReplicas.map (·.id)).Nodup ∧ (∀ c ∈ cs, c.keepsCover) ∧ 2 < 2 ^ 32 ∧
      (s₀.setShardCount 2).run cs = some s ∧ (∀ n, (c n).systemInfo = s ∧ (c n).selfId = n) ∧
      (Replica.newRequestRun env c ds).2.map (·.senderId) = [3, 3] ∧
      ∀ m ∈ (Replica.newRequestRun env c ds).2, m.senderId = uint32Max ∨
        ((∃ sh, (s.getNodesInShard sh).head? = some m.senderId) ∧
          m.senderId ∉ s₀.getReplicas.map (·.id)) := by
  intro s₀ cs s env c ds
  have hroster : (s₀.getReplicas.map (·.id)).Nodup := by decide
  have hcs : ∀ c ∈ cs, c.keepsCover := by decide
  have hrun : (s₀.setShardCount 2).run cs = some s := rfl
  have hc : ∀ n, (c n).systemInfo = s ∧ (c n).selfId = n := fun _ => ⟨rfl, rfl⟩
  exact ⟨hroster, hcs, by decide, hrun, hc, by decide,
    proposers_after_reshard hroster hcs (show 2 < 2 ^ 32 by decide) hrun env hc ds⟩

end ShardedPbft
