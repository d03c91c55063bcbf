import ShardedPbft.Topology.ClusterView
import ShardedPbft.Replica.State

/-!
# The response worker

`PostProcessExecutedMsg` (commitment.cpp, lines 395-417) runs on its own thread, started by the
constructor of `Commitment`. For each executed batch that `MessageManager::GetResponseMsg()` hands
it, it tests `NodesInSameShard(primary_id, self)`, and on success builds a `TYPE_RESPONSE` from the
batch and sends it with `SendMessage(request, proxy_id)`. It reads the topology and writes no state
of the replica.

`clusterResponses` collects what the workers of a cluster send for one batch. When the replicas
share one topology with the ClusterView invariant, `response_senders` says who answers: each
member of the shard that lists the batch's primary, once; when no shard lists the primary, every
replica that no shard lists, since `GetShardOfNode` answers `UINT32_MAX` for all of them; and
nobody when every replica of the roster is listed.
-/

namespace ShardedPbft

/-- Modelled from the spec (§4.4.5): an executed batch as `GetResponseMsg()` hands it over, with
the fields lines 404-412 read. `serialized` is what `SerializeToString` writes of the batch. -/
structure BatchResponse where
  hash : String
  seq : UInt64
  currentView : UInt64
  proxyId : UInt32
  primaryId : UInt32
  serialized : String
  deriving DecidableEq, Repr

namespace Replica

/-- Lines 403-412: the response this replica builds for an executed batch. -/
def responseOf (r : Replica) (b : BatchResponse) : Request :=
  { (default : Request) with hash := b.hash, seq := b.seq, type := .response,
                             senderId := r.selfId, currentView := b.currentView,
                             proxyId := b.proxyId, primaryId := b.primaryId,
                             data := b.serialized }

/-- One pass of the loop of `PostProcessExecutedMsg` on a batch, lines 397-414: the response goes
to the proxy when the batch's primary is in this replica's shard. A pass that finds no batch
(`nullptr`) sends nothing. -/
def postProcessExecutedMsg (r : Replica) (b : BatchResponse) : List Send :=
  if r.systemInfo.nodesInSameShard b.primaryId r.selfId then [.toNode (r.responseOf b) b.proxyId]
  else []

end Replica

/-- What the response workers of the replicas with the ids `ids` send for one batch, each
replica's state given by `c`. -/
def clusterResponses (c : UInt32 → Replica) (ids : List UInt32) (b : BatchResponse) : List Send :=
  ids.flatMap fun n => (c n).postProcessExecutedMsg b

section Cluster

variable {s : SystemInfo} {c : UInt32 → Replica}

/-- The workers that answer are those that share the primary's answer from `GetShardOfNode`, in
the order of `ids`, each with one response to the proxy. -/
theorem clusterResponses_eq (hc : ∀ n, (c n).systemInfo = s ∧ (c n).selfId = n)
    (ids : List UInt32) (b : BatchResponse) :
    clusterResponses c ids b =
      (ids.filter fun n => s.getShardOfNode b.primaryId == s.getShardOfNode n).map
        fun n => .toNode ((c n).responseOf b) b.proxyId := by
  induction ids with
  | nil => rfl
  | cons n ids ih =>
    rw [clusterResponses, List.flatMap_cons, ← clusterResponses, ih, List.filter_cons]
    by_cases hn : s.getShardOfNode b.primaryId = s.getShardOfNode n <;>
      simp [Replica.postProcessExecutedMsg, SystemInfo.nodesInSameShard, (hc n).1, (hc n).2, hn]

/-- The ids of the workers that answer. -/
theorem clusterResponses_senders (hc : ∀ n, (c n).systemInfo = s ∧ (c n).selfId = n)
    (ids : List UInt32) (b : BatchResponse) :
    (clusterResponses c ids b).map (·.message.senderId) =
      ids.filter fun n => s.getShardOfNode b.primaryId == s.getShardOfNode n := by
  rw [clusterResponses_eq hc, List.map_map]
  conv_rhs => rw [← List.map_id (List.filter _ ids)]
  exact List.map_congr_left fun n _ => (hc n).2

/-- With fewer than `2^32` shards, `GetShardOfNode` answers a shard that lists a node exactly for
that shard's members. -/
theorem SystemInfo.ClusterView.getShardOfNode_eq_iff_mem (hs : s.ClusterView)
    (hlt : s.shardCount < 2 ^ 32) {p sh : UInt32} (hp : p ∈ s.getNodesInShard sh) (n : UInt32) :
    s.getShardOfNode n = sh ↔ n ∈ s.getNodesInShard sh := by
  refine ⟨fun he => ?_, hs.getShardOfNode_eq⟩
  rcases hs.getShardOfNode_cases n with hn | ⟨-, hmax⟩
  · exact he ▸ hn
  · exact absurd (hmax.symm.trans he).symm (hs.ne_uint32Max_of_listed hlt hp)

/-- The roster ids that share the answer of a listed node `p` are the members of `p`'s shard. -/
theorem SystemInfo.ClusterView.roster_filter_perm (hs : s.ClusterView) (hlt : s.shardCount < 2 ^ 32)
    {p sh : UInt32} (hp : p ∈ s.getNodesInShard sh) :
    ((s.getReplicas.map (·.id)).filter fun n => s.getShardOfNode p == s.getShardOfNode n).Perm
      (s.getNodesInShard sh) := by
  rw [hs.getShardOfNode_eq hp]
  refine (List.perm_ext_iff_of_nodup (hs.replicas_nodup.filter _) (hs.nodes_nodup sh)).mpr
    fun n => ?_
  rw [List.mem_filter, beq_iff_eq, eq_comm, hs.getShardOfNode_eq_iff_mem hlt hp n]
  exact ⟨And.right, fun hn => ⟨hs.listed_replica n sh hn, hn⟩⟩

/-- **Who answers an executed batch.** For replicas that share a topology with the ClusterView
invariant and fewer than `2^32` shards, and one executed batch: every send of the response
workers of the roster is the response of its sender, to the batch's proxy. When a shard lists the
batch's primary, the senders are the members of that shard, each once. When no shard lists it,
they are the replicas of the roster that no shard lists, and nobody when every replica of the
roster is listed. -/
theorem response_senders (hs : s.ClusterView) (hlt : s.shardCount < 2 ^ 32)
    (hc : ∀ n, (c n).systemInfo = s ∧ (c n).selfId = n) (b : BatchResponse) :
    let sent := clusterResponses c (s.getReplicas.map (·.id)) b
    (∀ m ∈ sent, m = .toNode ((c m.message.senderId).responseOf b) b.proxyId) ∧
      (∀ sh, b.primaryId ∈ s.getNodesInShard sh →
        (sent.map (·.message.senderId)).Perm (s.getNodesInShard sh)) ∧
      ((∀ sh, b.primaryId ∉ s.getNodesInShard sh) →
        sent.map (·.message.senderId) =
          (s.getReplicas.map (·.id)).filter (s.getShardOfNode · == uint32Max)) ∧
      (s.Covered → (∀ sh, b.primaryId ∉ s.getNodesInShard sh) → sent = []) := by
  dsimp only
  have hsenders := clusterResponses_senders hc (s.getReplicas.map (·.id)) b
  have hunlisted : (∀ sh, b.primaryId ∉ s.getNodesInShard sh) →
      (clusterResponses c (s.getReplicas.map (·.id)) b).map (·.message.senderId) =
        (s.getReplicas.map (·.id)).filter (s.getShardOfNode · == uint32Max) := fun hp => by
    rw [hsenders, hs.getShardOfNode_of_unlisted hp]
    exact List.filter_congr fun n _ => by rw [Bool.beq_comm]
  refine ⟨fun m hm => ?_, fun sh hp => ?_, hunlisted, fun hcov hp => ?_⟩
  · rw [clusterResponses_eq hc] at hm
    obtain ⟨n, -, rfl⟩ := List.mem_map.mp hm
    rw [Send.message_toNode, (show ((c n).responseOf b).senderId = n from (hc n).2)]
  · exact hsenders ▸ hs.roster_filter_perm hlt hp
  · have hnil := hunlisted hp
    rw [List.filter_eq_nil_iff.mpr fun n hn => ?_] at hnil
    · exact List.map_eq_nil_iff.mp hnil
    · obtain ⟨ri, hri, rfl⟩ := List.mem_map.mp hn
      obtain ⟨sh, hsh⟩ := hcov ri hri
      simpa using hs.ne_uint32Max_of_listed hlt (hs.getShardOfNode_eq hsh ▸ hsh)

/-- Four replicas over two shards, and a batch proposed by replica `1`: the hypotheses hold, and
the senders are `1` and `3`, the members of shard `0`. -/
theorem response_senders_two_shards :
    let s := (((SystemInfo.init 0).setShardCount 2).run
      ([⟨1, "10.0.0.1", 10001⟩, ⟨2, "10.0.0.2", 10002⟩, ⟨3, "10.0.0.3", 10003⟩,
        ⟨4, "10.0.0.4", 10004⟩].map .addReplica)).getD (SystemInfo.init 0)
    let c := fun n => Replica.init n s
    let b : BatchResponse := ⟨"h", 1, 1, 9, 1, "result"⟩
    s.ClusterView ∧ s.shardCount < 2 ^ 32 ∧ (∀ n, (c n).systemInfo = s ∧ (c n).selfId = n) ∧
      s.getNodesInShard 0 = [1, 3] ∧
      let sent := clusterResponses c (s.getReplicas.map (·.id)) b
      (∀ m ∈ sent, m = .toNode ((c m.message.senderId).responseOf b) b.proxyId) ∧
        (∀ sh, b.primaryId ∈ s.getNodesInShard sh →
          (sent.map (·.message.senderId)).Perm (s.getNodesInShard sh)) ∧
        ((∀ sh, b.primaryId ∉ s.getNodesInShard sh) →
          sent.map (·.message.senderId) =
            (s.getReplicas.map (·.id)).filter (s.getShardOfNode · == uint32Max)) ∧
        (s.Covered → (∀ sh, b.primaryId ∉ s.getNodesInShard sh) → sent = []) := by
  intro s c b
  have hs : s.ClusterView := @SystemInfo.clusterView_run (SystemInfo.init 0) s 2
    (([⟨1, "10.0.0.1", 10001⟩, ⟨2, "10.0.0.2", 10002⟩, ⟨3, "10.0.0.3", 10003⟩,
      ⟨4, "10.0.0.4", 10004⟩] : List ReplicaInfo).map .addReplica) List.nodup_nil (by decide) rfl
  have hc : ∀ n, (c n).systemInfo = s ∧ (c n).selfId = n := fun _ => ⟨rfl, rfl⟩
  exact ⟨hs, by decide, hc, by decide, response_senders hs (by decide) hc b⟩

end Cluster

end ShardedPbft
