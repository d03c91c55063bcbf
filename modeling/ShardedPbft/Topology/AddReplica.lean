import ShardedPbft.Topology.ClusterView
import ShardedPbft.Topology.RoundRobin

/-!
# What `AddReplica` does

`AddReplica(replica)` (system_info.cpp, lines 48-60) and `ProcessRequest` of an `ADD_REPLICA`
request whose payload parses (lines 62-73), on a state with the ClusterView invariant and a shard
count in `[1, 2^32)`.

The duplicate test of line 53 reads the roster only. The invariant lists only roster ids in the
shard maps, so an id that passes the test is listed nowhere, and placing it keeps the maps
consistent. With distinct ids in each shard no shard holds `SIZE_MAX` nodes, so the scan of
`AddReplicaToShard` answers the first least-loaded shard (`findTarget_isLeastLoaded`).

`addReplica_effect` gives the whole effect: a rejected replica changes nothing; an accepted one is
appended to the roster and to the first least-loaded shard `t`, mapped to `t`, and made `t`'s
coordinator exactly when `t` was empty; nothing else changes, the invariant holds afterwards, and
a second identical call changes nothing.
-/

namespace ShardedPbft

namespace SystemInfo

variable {s : SystemInfo} {r : ReplicaInfo}

/-- A replica with id `0`, an empty ip or port `0`, or with an id already in the roster, is
ignored. -/
theorem addReplica_of_rejected
    (hbad : r.id = 0 ∨ r.ip = "" ∨ r.port = 0 ∨ r.id ∈ s.getReplicas.map (·.id)) :
    s.addReplica r = some s := by
  unfold addReplica
  split_ifs with hinvalid hdup
  · rfl
  · rfl
  · obtain hinv | ⟨a, ha, hid⟩ : (r.id = 0 ∨ r.ip = "" ∨ r.port = 0) ∨
        ∃ a ∈ s.replicas, a.id = r.id := by simpa [or_assoc] using hbad
    · exact absurd hinv hinvalid
    · exact absurd (List.any_eq_true.mpr ⟨a, ha, by simp [hid]⟩) hdup

/-- Under the invariant every shard holds fewer than `SIZE_MAX` nodes. -/
theorem ClusterView.getShardSize_lt (h : ClusterView s) (sh : UInt32) :
    s.getShardSize sh < sizeMax := by
  have := length_le_of_nodup_uint32 (h.nodes_nodup sh)
  simp only [getNodesInShard_eq] at this
  rw [getShardSize_eq, sizeMax]
  omega

/-- A valid replica with a new id goes to the first least-loaded shard. -/
theorem addReplica_of_accepted (h : ClusterView s) (hpos : 0 < s.shardCount)
    (hlt : s.shardCount < 2 ^ 32)
    (hgood : ¬ (r.id = 0 ∨ r.ip = "" ∨ r.port = 0 ∨ r.id ∈ s.getReplicas.map (·.id))) :
    ∃ t, IsLeastLoaded s.getShardSize s.shardCount t ∧ s.addReplica r = some (s.place r t) := by
  obtain ⟨t, ht, hleast⟩ := s.findTarget_isLeastLoaded hpos hlt fun j _ => h.getShardSize_lt j
  have hdup : s.replicas.any (·.id == r.id) = false := by
    simpa [List.any_eq_false] using fun a ha hid => hgood (.inr (.inr (.inr
      (List.mem_map.mpr ⟨a, ha, hid⟩))))
  refine ⟨t, hleast, ?_⟩
  rw [addReplica, if_neg fun hbad => hgood (by tauto), hdup, if_neg Bool.false_ne_true,
    addReplicaToShard, if_neg hpos.ne', ht]
  rfl

/-- Placing a replica whose id no shard lists: it joins the roster and shard `t`, `GetShardOfNode`
answers `t` for it, it becomes `t`'s coordinator exactly when `t` was empty, and every other
shard, node and coordinator reads as before. -/
theorem ClusterView.place_effect (h : ClusterView s) (hnew : r.id ∉ s.getReplicas.map (·.id))
    (t : UInt32) :
    let s' := s.place r t
    s'.getReplicas = s.getReplicas ++ [r] ∧
      s'.getNodesInShard t = s.getNodesInShard t ++ [r.id] ∧
      (∀ sh, sh ≠ t → s'.getNodesInShard sh = s.getNodesInShard sh) ∧
      s'.getShardOfNode r.id = t ∧
      (∀ n, n ≠ r.id → s'.getShardOfNode n = s.getShardOfNode n) ∧
      (s'.getPrimaryOfShard t = r.id ↔ s.getNodesInShard t = []) ∧
      (s.getNodesInShard t ≠ [] → s'.getPrimaryOfShard t = s.getPrimaryOfShard t) ∧
      (∀ sh, sh ≠ t → s'.getPrimaryOfShard sh = s.getPrimaryOfShard sh) ∧
      s'.getShardCount = s.getShardCount ∧ s'.primaryId = s.primaryId ∧ s'.view = s.view := by
  intro s'
  have hprim : ∀ sh, s'.shardPrimaries sh =
      if sh = t ∧ s.shardPrimaries t = none then some r.id else s.shardPrimaries sh :=
    place_shardPrimaries
  refine ⟨rfl, by simp [s', place_shardToNodes], fun sh hsh => by simp [s', place_shardToNodes, hsh],
    by simp [s', getShardOfNode, place_nodeToShard],
    fun n hn => by simp [s', getShardOfNode, place_nodeToShard, hn], ?_, ?_,
    fun sh hsh => by simp [getPrimaryOfShard, hprim, hsh], rfl, rfl, rfl⟩
  · by_cases hnil : s.getNodesInShard t = []
    · simpa [getPrimaryOfShard, hprim, h.shardPrimaries_eq_none hnil] using hnil
    · obtain ⟨p, hp⟩ := Option.isSome_iff_exists.mp
        (h.primary_isSome _ t (h.getPrimaryOfShard_mem hnil))
      have hpr : p ≠ r.id := fun e => hnew (e ▸ h.listed_replica p t (h.primary_mem t p hp))
      simpa [getPrimaryOfShard, hprim, hp, hpr] using hnil
  · intro hnil
    obtain ⟨p, hp⟩ := Option.isSome_iff_exists.mp
      (h.primary_isSome _ t (h.getPrimaryOfShard_mem hnil))
    simp [getPrimaryOfShard, hprim, hp]

/-- **What `AddReplica` does.** On a state with the ClusterView invariant and a shard count in
`[1, 2^32)`, `AddReplica(r)` returns, and so does `ProcessRequest` of an `ADD_REPLICA` request
whose payload parses to `r`, with the same state. A replica with id `0`, an empty ip, port `0`
or an id already in the roster changes nothing. Any other is appended to the roster and to the
first least-loaded shard `t`, `GetShardOfNode` answers `t` for it, it becomes `t`'s coordinator
exactly when `t` was empty, and no other shard list, shard of a node, coordinator, count,
primary or view changes. The invariant holds afterwards (and the roster stays covered if it was),
and a second identical call changes nothing. -/
theorem addReplica_effect (h : ClusterView s) (hpos : 0 < s.shardCount)
    (hlt : s.shardCount < 2 ^ 32) (r : ReplicaInfo) :
    ∃ s', s.addReplica r = some s' ∧ s.processRequest ⟨.addReplica, some r⟩ = some s' ∧
      ClusterView s' ∧ (Covered s → Covered s') ∧ s'.addReplica r = some s' ∧
      ((r.id = 0 ∨ r.ip = "" ∨ r.port = 0 ∨ r.id ∈ s.getReplicas.map (·.id)) → s' = s) ∧
      (¬ (r.id = 0 ∨ r.ip = "" ∨ r.port = 0 ∨ r.id ∈ s.getReplicas.map (·.id)) →
        ∃ t, IsLeastLoaded s.getShardSize s.getShardCount t ∧
          s'.getReplicas = s.getReplicas ++ [r] ∧
          s'.getNodesInShard t = s.getNodesInShard t ++ [r.id] ∧
          (∀ sh, sh ≠ t → s'.getNodesInShard sh = s.getNodesInShard sh) ∧
          s'.getShardOfNode r.id = t ∧
          (∀ n, n ≠ r.id → s'.getShardOfNode n = s.getShardOfNode n) ∧
          (s'.getPrimaryOfShard t = r.id ↔ s.getNodesInShard t = []) ∧
          (s.getNodesInShard t ≠ [] → s'.getPrimaryOfShard t = s.getPrimaryOfShard t) ∧
          (∀ sh, sh ≠ t → s'.getPrimaryOfShard sh = s.getPrimaryOfShard sh) ∧
          s'.getShardCount = s.getShardCount ∧ s'.primaryId = s.primaryId ∧ s'.view = s.view) := by
  by_cases hbad : r.id = 0 ∨ r.ip = "" ∨ r.port = 0 ∨ r.id ∈ s.getReplicas.map (·.id)
  · have hs := addReplica_of_rejected hbad
    exact ⟨s, hs, hs, h, id, hs, fun _ => rfl, fun hgood => absurd hbad hgood⟩
  · obtain ⟨t, hleast, hs⟩ := addReplica_of_accepted h hpos hlt hbad
    have hnew : r.id ∉ s.getReplicas.map (·.id) := fun hm => hbad (.inr (.inr (.inr hm)))
    have hmem : r.id ∈ (s.place r t).getReplicas.map (·.id) := by simp
    exact ⟨_, hs, hs, h.addReplica hs, fun hc => hc.addReplica hs,
      addReplica_of_rejected (.inr (.inr (.inr hmem))), fun hb => absurd hb hbad,
      fun _ => ⟨t, hleast, h.place_effect hnew t⟩⟩

/-- `AddReplica` of replica `4` after replicas `1`, `2` and `3` were placed over two shards, `{1, 3}`
and `{2}`: the hypotheses hold, and the law applies to a shard count with shards of different
sizes. -/
theorem addReplica_effect_fourth_replica :
    let s := (((init 0).setShardCount 2).run [.addReplica ⟨1, "10.0.0.1", 10001⟩,
      .addReplica ⟨2, "10.0.0.2", 10002⟩, .addReplica ⟨3, "10.0.0.3", 10003⟩]).getD (init 0)
    let r : ReplicaInfo := ⟨4, "10.0.0.4", 10004⟩
    ClusterView s ∧ 0 < s.shardCount ∧ s.shardCount < 2 ^ 32 ∧
      s.getNodesInShard 0 = [1, 3] ∧ s.getNodesInShard 1 = [2] ∧
      ∃ s', s.addReplica r = some s' ∧ s.processRequest ⟨.addReplica, some r⟩ = some s' ∧
        ClusterView s' ∧ (Covered s → Covered s') ∧ s'.addReplica r = some s' ∧
        ((r.id = 0 ∨ r.ip = "" ∨ r.port = 0 ∨ r.id ∈ s.getReplicas.map (·.id)) → s' = s) ∧
        (¬ (r.id = 0 ∨ r.ip = "" ∨ r.port = 0 ∨ r.id ∈ s.getReplicas.map (·.id)) →
          ∃ t, IsLeastLoaded s.getShardSize s.getShardCount t ∧
            s'.getReplicas = s.getReplicas ++ [r] ∧
            s'.getNodesInShard t = s.getNodesInShard t ++ [r.id] ∧
            (∀ sh, sh ≠ t → s'.getNodesInShard sh = s.getNodesInShard sh) ∧
            s'.getShardOfNode r.id = t ∧
            (∀ n, n ≠ r.id → s'.getShardOfNode n = s.getShardOfNode n) ∧
            (s'.getPrimaryOfShard t = r.id ↔ s.getNodesInShard t = []) ∧
            (s.getNodesInShard t ≠ [] → s'.getPrimaryOfShard t = s.getPrimaryOfShard t) ∧
            (∀ sh, sh ≠ t → s'.getPrimaryOfShard sh = s.getPrimaryOfShard sh) ∧
            s'.getShardCount = s.getShardCount ∧ s'.primaryId = s.primaryId ∧
            s'.view = s.view) := by
  intro s r
  have hv : ClusterView s := @clusterView_run (init 0) s 2
    [.addReplica ⟨1, "10.0.0.1", 10001⟩, .addReplica ⟨2, "10.0.0.2", 10002⟩,
      .addReplica ⟨3, "10.0.0.3", 10003⟩] List.nodup_nil (by decide) rfl
  exact ⟨hv, by decide, by decide, by decide, by decide, addReplica_effect hv (by decide) (by decide) r⟩

end SystemInfo

end ShardedPbft
