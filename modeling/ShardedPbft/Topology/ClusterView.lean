import Mathlib.Data.List.Nodup
import ShardedPbft.Topology.SystemInfo

/-!
# The ClusterView invariant

§3 of the spec asks that every replica appear in exactly one shard list, that `node_to_shard_` be
the inverse of `shard_to_nodes_`, and that every non-empty shard have one of its members as
coordinator.

`ClusterView` is that invariant for the shard maps, with the roster holding every listed node. It
holds after `SetShardCount` of a positive count and is kept by `AddReplica`, `ProcessRequest`,
`SetPrimary` and `SetCurrentView` (`ClusterView.apply`), so it holds on every run of those calls
(`clusterView_of_run`). The roster is exactly the set of listed nodes (`Covered`) only as long as no
`SetShardCount` follows the first one: a later `SetShardCount` clears the maps and keeps the
roster (`clusterViewClaim_fails`), and `SetReplicas` installs a roster that no shard lists.

Read through the queries, the invariant makes the sentinel `UINT32_MAX` safe for listed nodes and
misleading for the others (`routing_queries`): below `2^32` shards no listed node's shard is the
sentinel, but every unlisted node gets the sentinel, so any two look co-located, and the unlisted
id `UINT32_MAX` looks like the coordinator of its "shard" (`unassigned_nodes_colocated`).
-/

namespace ShardedPbft

namespace SystemInfo

/-- The ClusterView invariant of §3 for the shard maps. -/
structure ClusterView (s : SystemInfo) : Prop where
  /-- The ids in `GetReplicas()` are pairwise distinct. -/
  replicas_nodup : (s.getReplicas.map (·.id)).Nodup
  /-- Every listed node is a replica. -/
  listed_replica : ∀ n sh, n ∈ s.getNodesInShard sh → n ∈ s.getReplicas.map (·.id)
  /-- No node is listed twice in one shard. -/
  nodes_nodup : ∀ sh, (s.getNodesInShard sh).Nodup
  /-- `node_to_shard_` is the inverse of `shard_to_nodes_`. -/
  nodeToShard_eq_some : ∀ n sh, s.nodeToShard n = some sh ↔ n ∈ s.getNodesInShard sh
  /-- Every shard in use is below the shard count. -/
  listed_lt : ∀ n sh, n ∈ s.getNodesInShard sh → sh.toNat < s.getShardCount
  /-- A coordinator is a member of its shard. -/
  primary_mem : ∀ sh p, s.shardPrimaries sh = some p → p ∈ s.getNodesInShard sh
  /-- A non-empty shard has a coordinator. -/
  primary_isSome : ∀ n sh, n ∈ s.getNodesInShard sh → (s.shardPrimaries sh).isSome

/-- Every replica of the roster is listed in a shard. -/
def Covered (s : SystemInfo) : Prop := ∀ r ∈ s.getReplicas, ∃ sh, r.id ∈ s.getNodesInShard sh

/-- The calls that keep `ClusterView`: all but `SetReplicas`, and `SetShardCount` only with a
positive count. -/
def Call.keepsView : Call → Bool
  | .setShardCount count => 0 < count
  | .setReplicas _ => false
  | _ => true

/-- The calls that keep `Covered` as well: neither `SetShardCount` nor `SetReplicas`. -/
def Call.keepsCover : Call → Bool
  | .setShardCount _ | .setReplicas _ => false
  | _ => true

/-- Every call that keeps the cover keeps the view invariant. -/
theorem Call.keepsView_of_keepsCover : ∀ {c : Call}, c.keepsCover → c.keepsView
  | .addReplica _, _ | .processRequest _, _ | .setPrimary _, _ | .setCurrentView _, _ => rfl

/-! ## Reading the invariant through the queries -/

namespace ClusterView

variable {s : SystemInfo} (h : ClusterView s)
include h

/-- A node is listed in at most one shard. -/
theorem listed_unique {n sh sh' : UInt32} (h₁ : n ∈ s.getNodesInShard sh)
    (h₂ : n ∈ s.getNodesInShard sh') : sh = sh' :=
  Option.some.inj (((h.nodeToShard_eq_some n sh).mpr h₁).symm.trans
    ((h.nodeToShard_eq_some n sh').mpr h₂))

/-- `GetShardOfNode` answers the shard that lists a listed node. -/
theorem getShardOfNode_eq {n sh : UInt32} (hn : n ∈ s.getNodesInShard sh) :
    s.getShardOfNode n = sh := by
  simp [getShardOfNode, (h.nodeToShard_eq_some n sh).mpr hn]

/-- `GetShardOfNode` answers `UINT32_MAX` for a node no shard lists. -/
theorem getShardOfNode_of_unlisted {n : UInt32} (hn : ∀ sh, n ∉ s.getNodesInShard sh) :
    s.getShardOfNode n = uint32Max := by
  cases hs : s.nodeToShard n with
  | none => simp [getShardOfNode, hs]
  | some sh => exact absurd ((h.nodeToShard_eq_some n sh).mp hs) (hn sh)

/-- A non-empty shard's coordinator, as `GetPrimaryOfShard` answers it, is one of its members. -/
theorem getPrimaryOfShard_mem {sh : UInt32} (hne : s.getNodesInShard sh ≠ []) :
    s.getPrimaryOfShard sh ∈ s.getNodesInShard sh := by
  obtain ⟨n, hn⟩ := List.exists_mem_of_ne_nil _ hne
  obtain ⟨p, hp⟩ := Option.isSome_iff_exists.mp (h.primary_isSome n sh hn)
  simpa [getPrimaryOfShard, hp] using h.primary_mem sh p hp

/-- An empty shard has no coordinator. -/
theorem shardPrimaries_eq_none {sh : UInt32} (hnil : s.getNodesInShard sh = []) :
    s.shardPrimaries sh = none := by
  cases hp : s.shardPrimaries sh with
  | none => rfl
  | some p => exact absurd (hnil ▸ h.primary_mem sh p hp) (List.not_mem_nil p)

/-- With fewer than `2^32` shards no listed shard is the sentinel `UINT32_MAX`. -/
theorem ne_uint32Max_of_listed (hlt : s.shardCount < 2 ^ 32) {n sh : UInt32}
    (hn : n ∈ s.getNodesInShard sh) : sh ≠ uint32Max := by
  rintro rfl
  have hmax : uint32Max.toNat = 2 ^ 32 - 1 := rfl
  have := h.listed_lt n _ hn
  rw [hmax, getShardCount_eq] at this
  omega

/-- With fewer than `2^32` shards the sentinel shard has no coordinator, so
`GetPrimaryOfShard(UINT32_MAX)` answers `UINT32_MAX`. -/
theorem getPrimaryOfShard_uint32Max (hlt : s.shardCount < 2 ^ 32) :
    s.getPrimaryOfShard uint32Max = uint32Max := by
  cases hp : s.shardPrimaries uint32Max with
  | none => simp [getPrimaryOfShard, hp]
  | some p => exact absurd rfl (h.ne_uint32Max_of_listed hlt (h.primary_mem _ p hp))

/-- A node is listed in the shard `GetShardOfNode` answers, or in none and answered the
sentinel. -/
theorem getShardOfNode_cases (n : UInt32) :
    n ∈ s.getNodesInShard (s.getShardOfNode n) ∨
      ((∀ sh, n ∉ s.getNodesInShard sh) ∧ s.getShardOfNode n = uint32Max) := by
  cases hs : s.nodeToShard n with
  | some sh => exact .inl (by simpa [getShardOfNode, hs] using (h.nodeToShard_eq_some n sh).mp hs)
  | none =>
    refine .inr ⟨fun sh hn => ?_, by simp [getShardOfNode, hs]⟩
    rw [(h.nodeToShard_eq_some n sh).mpr hn] at hs
    cases hs

/-- A node passes the coordinator test `n = GetPrimaryOfShard(GetShardOfNode(n))` exactly when it
is a listed coordinator of its shard, or it is the unlisted id `UINT32_MAX`. -/
theorem eq_getPrimaryOfShard_iff (hlt : s.shardCount < 2 ^ 32) (a : UInt32) :
    a = s.getPrimaryOfShard (s.getShardOfNode a) ↔
      (∃ sh, a ∈ s.getNodesInShard sh ∧ s.shardPrimaries sh = some a) ∨
        ((∀ sh, a ∉ s.getNodesInShard sh) ∧ a = uint32Max) := by
  rcases h.getShardOfNode_cases a with ha | ⟨ha, hsa⟩
  · obtain ⟨p, hp⟩ := Option.isSome_iff_exists.mp (h.primary_isSome a _ ha)
    simp only [getPrimaryOfShard, hp, Option.getD_some]
    refine ⟨fun he => .inl ⟨_, ha, he ▸ hp⟩, ?_⟩
    rintro (⟨sh, ha', hp'⟩ | ⟨ha', -⟩)
    · rw [h.listed_unique ha ha', hp'] at hp
      exact Option.some.inj hp
    · exact absurd ha (ha' _)
  · rw [hsa, h.getPrimaryOfShard_uint32Max hlt]
    refine ⟨fun he => .inr ⟨ha, he⟩, ?_⟩
    rintro (⟨sh, ha', -⟩ | ⟨-, he⟩)
    · exact absurd ha' (ha sh)
    · exact he

end ClusterView

/-! ## The calls keep the invariant -/

/-- `SetShardCount` of a positive count starts the invariant from any roster of distinct ids. -/
theorem clusterView_setShardCount {s : SystemInfo} {count : Nat}
    (hroster : (s.getReplicas.map (·.id)).Nodup) : ClusterView (s.setShardCount count) where
  replicas_nodup := hroster
  listed_replica _ _ h := absurd h (List.not_mem_nil _)
  nodes_nodup _ := List.nodup_nil
  nodeToShard_eq_some _ _ := by simp [setShardCount, getNodesInShard]
  listed_lt _ _ h := absurd h (List.not_mem_nil _)
  primary_mem _ _ h := by cases h
  primary_isSome _ _ h := absurd h (List.not_mem_nil _)

/-- Placing a replica with a new id in a shard below the count keeps the invariant. -/
theorem ClusterView.place {s : SystemInfo} {r : ReplicaInfo} {t : UInt32} (h : ClusterView s)
    (hnew : r.id ∉ s.replicas.map (·.id)) (ht : t.toNat < s.shardCount) :
    ClusterView (s.place r t) := by
  have hfresh : ∀ sh, r.id ∉ s.shardToNodes sh := fun sh hm => hnew (h.listed_replica _ sh hm)
  constructor
  · rw [getReplicas_eq, place_replicas, List.map_append, List.nodup_append]
    exact ⟨h.replicas_nodup, List.nodup_singleton _, List.disjoint_singleton.mpr hnew⟩
  · intro n sh hn
    simp only [getNodesInShard, place_shardToNodes] at hn
    split_ifs at hn with hsh
    · rcases List.mem_append.mp hn with hn | hn
      · exact List.map_subset _ (List.subset_append_left _ _) (h.listed_replica n t hn)
      · simp [getReplicas, List.mem_singleton.mp hn]
    · exact List.map_subset _ (List.subset_append_left _ _) (h.listed_replica n sh hn)
  · intro sh
    simp only [getNodesInShard, place_shardToNodes]
    split_ifs
    · exact (h.nodes_nodup t).append (List.nodup_singleton _)
        (List.disjoint_singleton.mpr (hfresh t))
    · exact h.nodes_nodup sh
  · intro n sh
    simp only [getNodesInShard, place_nodeToShard, place_shardToNodes]
    by_cases hn : n = r.id
    · subst hn
      by_cases hsh : sh = t
      · simp [hsh]
      · simp [hsh, hfresh, Ne.symm hsh]
    · have := h.nodeToShard_eq_some n sh
      by_cases hsh : sh = t <;> simp_all
  · intro n sh hn
    simp only [getNodesInShard, place_shardToNodes] at hn
    split_ifs at hn with hsh
    · exact hsh ▸ ht
    · exact h.listed_lt n sh hn
  · intro sh p hp
    simp only [getNodesInShard, place_shardToNodes, place_shardPrimaries] at hp ⊢
    split_ifs at hp with hc
    · obtain ⟨rfl, -⟩ := hc
      cases hp
      simp
    · have := h.primary_mem sh p hp
      split_ifs <;> simp_all
  · intro n sh hn
    simp only [getNodesInShard, place_shardToNodes, place_shardPrimaries] at hn ⊢
    by_cases hsh : sh = t
    · subst hsh
      by_cases hp : s.shardPrimaries sh = none <;> simp [hp, Option.isSome_iff_ne_none]
    · simp only [hsh, if_false, false_and] at hn ⊢
      exact h.primary_isSome n sh hn

/-- `AddReplica` keeps the invariant. -/
theorem ClusterView.addReplica {s s' : SystemInfo} {r : ReplicaInfo} (h : ClusterView s)
    (hadd : s.addReplica r = some s') : ClusterView s' := by
  rcases addReplica_eq_some hadd with rfl | ⟨-, -, -, hnew, hpos, t, ht, rfl⟩
  · exact h
  · exact h.place hnew (findTarget_lt hpos ht)

/-- Every call that keeps the view, keeps it. -/
theorem ClusterView.apply {s s' : SystemInfo} {c : Call} (h : ClusterView s) (hc : c.keepsView)
    (happ : s.apply c = some s') : ClusterView s' := by
  cases c with
  | addReplica r => exact h.addReplica happ
  | processRequest q =>
    rcases processRequest_eq_some happ with rfl | ⟨r, hr⟩
    · exact h
    · exact h.addReplica hr
  | setShardCount count => cases happ; exact clusterView_setShardCount h.replicas_nodup
  | setReplicas _ => cases hc
  | setPrimary _ | setCurrentView _ => cases happ; exact ⟨h.1, h.2, h.3, h.4, h.5, h.6, h.7⟩

/-- `AddReplica` keeps the roster covered. -/
theorem Covered.addReplica {s s' : SystemInfo} {r : ReplicaInfo} (h : Covered s)
    (hadd : s.addReplica r = some s') : Covered s' := by
  rcases addReplica_eq_some hadd with rfl | ⟨-, -, -, -, -, t, -, rfl⟩
  · exact h
  intro r' hr'
  simp only [getReplicas, place_replicas, List.mem_append, List.mem_singleton] at hr'
  simp only [getNodesInShard, place_shardToNodes]
  rcases hr' with hr' | rfl
  · obtain ⟨sh, hsh⟩ := h r' hr'
    refine ⟨sh, ?_⟩
    split_ifs with e
    · subst e; simp_all
    · simpa using hsh
  · exact ⟨t, by simp⟩

/-- Every call that keeps the cover, keeps it. -/
theorem Covered.apply {s s' : SystemInfo} {c : Call} (h : Covered s) (hc : c.keepsCover)
    (happ : s.apply c = some s') : Covered s' := by
  cases c with
  | addReplica r => exact h.addReplica happ
  | processRequest q =>
    rcases processRequest_eq_some happ with rfl | ⟨r, hr⟩
    · exact h
    · exact h.addReplica hr
  | setShardCount _ | setReplicas _ => cases hc
  | setPrimary _ | setCurrentView _ => cases happ; exact h

/-- Every run of calls that keep the view, from `SetShardCount` on a roster of distinct ids, ends
in a state with the invariant. -/
theorem clusterView_run {s₀ s : SystemInfo} {count : Nat} {cs : List Call}
    (hroster : (s₀.getReplicas.map (·.id)).Nodup) (hcs : ∀ c ∈ cs, c.keepsView)
    (h : (s₀.setShardCount count).run cs = some s) : ClusterView s :=
  run_inv ClusterView (·.keepsView) (fun _ _ _ hs hc happ => hs.apply hc happ)
    (clusterView_setShardCount hroster) hcs h

/-- **ClusterView on every run.** From any roster of distinct ids (in particular `SystemInfo()`,
or `SystemInfo(config)` with distinct ids) followed by `SetShardCount` of a positive count, every
run of `AddReplica`, `ProcessRequest`, `SetShardCount` of a positive count, `SetPrimary` and
`SetCurrentView` keeps the invariant; from an empty roster and with no further `SetShardCount`,
every replica is listed as well. -/
theorem clusterView_of_run {s₀ s : SystemInfo} {count : Nat} {cs : List Call}
    (hroster : (s₀.getReplicas.map (·.id)).Nodup) (hcs : ∀ c ∈ cs, c.keepsView)
    (h : (s₀.setShardCount count).run cs = some s) :
    ClusterView s ∧ (s₀.getReplicas = [] → (∀ c ∈ cs, c.keepsCover) → Covered s) := by
  refine ⟨clusterView_run hroster hcs h,
    fun hnil hcover => (run_inv (fun s => ClusterView s ∧ Covered s) (·.keepsCover)
      (fun _ _ _ hs hc happ => ⟨hs.1.apply (Call.keepsView_of_keepsCover hc) happ, hs.2.apply hc happ⟩)
      ⟨clusterView_setShardCount hroster, fun r hr => by simp_all⟩
      hcover h).2⟩

/-- Two replicas added after `SetShardCount(1)`: the hypotheses hold and the invariant applies. -/
theorem clusterView_of_run_two_replicas :
    ∃ s, ((init 0).setShardCount 1).run
        [.addReplica ⟨1, "10.0.0.1", 10001⟩, .addReplica ⟨2, "10.0.0.2", 10002⟩] = some s ∧
      ((init 0).getReplicas.map (·.id)).Nodup ∧
      (∀ c ∈ [Call.addReplica ⟨1, "10.0.0.1", 10001⟩, .addReplica ⟨2, "10.0.0.2", 10002⟩],
        c.keepsView) ∧
      ClusterView s ∧ ((init 0).getReplicas = [] →
        (∀ c ∈ [Call.addReplica ⟨1, "10.0.0.1", 10001⟩, .addReplica ⟨2, "10.0.0.2", 10002⟩],
          c.keepsCover) → Covered s) :=
  ⟨_, rfl, List.nodup_nil, by decide, @clusterView_of_run (init 0) _ 1 _ List.nodup_nil (by decide) rfl⟩

/-- §3's invariant as stated, through the queries: the roster ids are distinct and are exactly the
nodes listed in the shards below the count, each in one shard and once; `GetShardOfNode(n) = sh`
iff `n` is listed in `sh`; listed shards are below the count; a non-empty shard's coordinator is a
member and an empty shard has none. -/
def ClusterViewClaim (s : SystemInfo) : Prop :=
  (s.getReplicas.map (·.id)).Nodup ∧
  (∀ n, n ∈ s.getReplicas.map (·.id) ↔
    ∃ sh : UInt32, sh.toNat < s.getShardCount ∧ n ∈ s.getNodesInShard sh) ∧
  (∀ n sh sh', n ∈ s.getNodesInShard sh → n ∈ s.getNodesInShard sh' → sh = sh') ∧
  (∀ sh, (s.getNodesInShard sh).Nodup) ∧
  (∀ n sh, s.getShardOfNode n = sh ↔ n ∈ s.getNodesInShard sh) ∧
  (∀ n sh, n ∈ s.getNodesInShard sh → sh.toNat < s.getShardCount) ∧
  (∀ sh, s.getNodesInShard sh ≠ [] → s.getPrimaryOfShard sh ∈ s.getNodesInShard sh) ∧
  (∀ sh, s.getNodesInShard sh = [] → s.shardPrimaries sh = none)

/-- A replica added before a second `SetShardCount` stays in the roster and in no shard. -/
theorem clusterViewClaim_fails :
    ∃ s, ((init 0).setShardCount 1).run
      [.addReplica ⟨1, "10.0.0.1", 10001⟩, .setShardCount 1] = some s ∧ ¬ ClusterViewClaim s := by
  refine ⟨_, rfl, fun h => ?_⟩
  obtain ⟨sh, -, hsh⟩ := (h.2.1 1).mp (by decide)
  exact List.not_mem_nil _ hsh

end SystemInfo

end ShardedPbft
