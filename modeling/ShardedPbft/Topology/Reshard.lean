import ShardedPbft.Topology.AddReplica

/-!
# What the runs after `SetShardCount` keep

`SetShardCount(count)` (system_info.cpp, lines 113-119) clears the three shard maps and keeps
`replicas_`. A replica gets into a shard only through `AddReplicaToShard`, which `AddReplica`
(lines 48-60) calls only for an id the roster does not hold yet. So a replica that was in the
roster when `SetShardCount` ran can never be placed again. `SystemInfo(config)` (lines 28-32)
installs the configured replicas with `SetReplicas`, so they are such a roster.

`Reshard` is what a run of `AddReplica`, `ProcessRequest`, `SetPrimary` and `SetCurrentView`
keeps after a `SetShardCount` on the roster `R`. The count stays as set, and the roster is `R`
followed by the replicas added since. No shard lists a replica of `R`, and every replica added
since is listed. Read through `GetShardOfNode`, this splits the roster exactly
(`reshard_strands`): below `2^32` shards, the answer is `UINT32_MAX` for the replicas `R` holds
and for no replica added since, and adding a replica of `R` again changes nothing.

`shard_primaries_[target]` is written only by the `AddReplicaToShard` that finds `target` without
a coordinator (lines 155-157), and only `SetShardCount` erases it. So every shard's coordinator
is its first member (`FirstCoordinators`), and the shard lists only grow at their ends (`Extends`).
`coordinators_fixed` puts these together: once a node is listed, its shard and that shard's
coordinator never change, whatever `AddReplica`, `ProcessRequest`, `SetPrimary` and
`SetCurrentView` follow. No call replaces a coordinator that has failed.
-/

namespace ShardedPbft

namespace SystemInfo

/-- Membership in a shard list after `place`: the lists only grow, by the placed id in the
target. -/
theorem mem_place_getNodesInShard {s : SystemInfo} {r : ReplicaInfo} {t sh n : UInt32} :
    n ∈ (s.place r t).getNodesInShard sh ↔ n ∈ s.getNodesInShard sh ∨ (sh = t ∧ n = r.id) := by
  by_cases hsh : sh = t
  · subst hsh; simp [getNodesInShard, place_shardToNodes]
  · simp [getNodesInShard, place_shardToNodes, hsh]

/-- What a run of calls that keep the cover leaves of a `SetShardCount(count)` made on the roster
`R`. -/
structure Reshard (count : Nat) (R : List ReplicaInfo) (s : SystemInfo) : Prop where
  /-- The count stays as `SetShardCount` set it. -/
  shardCount_eq : s.shardCount = count
  /-- The roster is `R` followed by the replicas added since, each listed in a shard. -/
  roster : ∃ added, s.getReplicas = R ++ added ∧ ∀ ri ∈ added, ∃ sh, ri.id ∈ s.getNodesInShard sh
  /-- No shard lists a replica of `R`. -/
  stranded : ∀ ri ∈ R, ∀ sh, ri.id ∉ s.getNodesInShard sh

namespace Reshard

variable {count : Nat} {R : List ReplicaInfo} {s s' : SystemInfo}

/-- `SetShardCount` starts the invariant on whatever roster it finds. -/
theorem setShardCount (s : SystemInfo) (count : Nat) :
    Reshard count s.getReplicas (s.setShardCount count) where
  shardCount_eq := rfl
  roster := ⟨[], by simp, by simp⟩
  stranded _ _ _ := List.not_mem_nil _

/-- `AddReplica` keeps the invariant: it places only an id that is not in the roster, so neither
a replica of `R`. -/
theorem addReplica (h : Reshard count R s) {r : ReplicaInfo} (hadd : s.addReplica r = some s') :
    Reshard count R s' := by
  rcases addReplica_eq_some hadd with rfl | ⟨-, -, -, hnew, -, t, -, rfl⟩
  · exact h
  obtain ⟨added, hroster, hlisted⟩ := h.roster
  refine ⟨h.shardCount_eq, ⟨added ++ [r], ?_, fun ri hri => ?_⟩, fun ri hri sh hm => ?_⟩
  · rw [getReplicas, place_replicas, ← getReplicas, hroster, List.append_assoc]
  · rcases List.mem_append.mp hri with hri | hri
    · obtain ⟨sh, hsh⟩ := hlisted ri hri
      exact ⟨sh, mem_place_getNodesInShard.mpr (.inl hsh)⟩
    · exact ⟨t, mem_place_getNodesInShard.mpr (.inr ⟨rfl, by rw [List.mem_singleton.mp hri]⟩)⟩
  · rcases mem_place_getNodesInShard.mp hm with hm | ⟨-, he⟩
    · exact h.stranded ri hri sh hm
    · exact hnew (List.mem_map.mpr ⟨ri, (hroster ▸ List.mem_append_left added hri : ri ∈ s.getReplicas), he⟩)

/-- Every call that keeps the cover keeps the invariant. -/
theorem apply (h : Reshard count R s) {c : Call} (hc : c.keepsCover)
    (happ : s.apply c = some s') : Reshard count R s' := by
  cases c with
  | addReplica r => exact h.addReplica happ
  | processRequest q =>
    rcases processRequest_eq_some happ with rfl | ⟨r, hr⟩
    · exact h
    · exact h.addReplica hr
  | setShardCount _ | setReplicas _ => cases hc
  | setPrimary _ | setCurrentView _ => cases happ; exact ⟨h.1, h.2, h.3⟩

end Reshard

/-- Every run of calls that keep the cover after `SetShardCount` keeps the invariant. -/
theorem reshard_run {s₀ s : SystemInfo} {count : Nat} {cs : List Call}
    (hcs : ∀ c ∈ cs, c.keepsCover) (h : (s₀.setShardCount count).run cs = some s) :
    Reshard count s₀.getReplicas s :=
  run_inv (Reshard count s₀.getReplicas) (·.keepsCover) (fun _ _ _ hs hc happ => hs.apply hc happ)
    (Reshard.setShardCount s₀ count) hcs h

/-- **Re-sharding strands the roster it finds.** Let `SetShardCount(count)`, with `count < 2^32`,
be called on a roster of distinct ids (as `SystemInfo(config)` leaves it), and then any run of
`AddReplica`, `ProcessRequest`, `SetPrimary` and `SetCurrentView`. The count stays `count`, the
roster is the old one followed by the replicas added since, and `GetShardOfNode` answers
`UINT32_MAX` for a replica of the roster exactly when it was in the old one. Adding a replica of
the old roster again changes nothing. -/
theorem reshard_strands {s₀ s : SystemInfo} {count : Nat} {cs : List Call}
    (hroster : (s₀.getReplicas.map (·.id)).Nodup) (hcs : ∀ c ∈ cs, c.keepsCover)
    (hlt : count < 2 ^ 32) (h : (s₀.setShardCount count).run cs = some s) :
    s.getShardCount = count ∧ (∃ added, s.getReplicas = s₀.getReplicas ++ added) ∧
      (∀ ri ∈ s.getReplicas, s.getShardOfNode ri.id = uint32Max ↔ ri ∈ s₀.getReplicas) ∧
      ∀ ri ∈ s₀.getReplicas, s.addReplica ri = some s := by
  have hv := clusterView_run hroster (fun c hc => Call.keepsView_of_keepsCover (hcs c hc)) h
  have hr := reshard_run hcs h
  obtain ⟨added, hsplit, hlisted⟩ := hr.roster
  have hlt' : s.shardCount < 2 ^ 32 := hr.shardCount_eq ▸ hlt
  refine ⟨hr.shardCount_eq, ⟨added, hsplit⟩, fun ri hri => ⟨fun hmax => ?_, fun hold => ?_⟩,
    fun ri hri => addReplica_of_rejected (.inr (.inr (.inr ?_)))⟩
  · rcases List.mem_append.mp (hsplit ▸ hri) with hold | hnew
    · exact hold
    · obtain ⟨sh, hsh⟩ := hlisted ri hnew
      exact absurd hmax (hv.ne_uint32Max_of_listed hlt' (hv.getShardOfNode_eq hsh ▸ hsh))
  · exact hv.getShardOfNode_of_unlisted (hr.stranded ri hold)
  · exact List.mem_map.mpr ⟨ri, hsplit ▸ List.mem_append_left _ hri, rfl⟩

/-- Two configured replicas, then `SetShardCount(2)` and two new replicas: the configured ones
answer `UINT32_MAX`, the new ones are placed, one per shard. -/
theorem reshard_strands_config :
    let s₀ := ofConfig [⟨1, "10.0.0.1", 10001⟩, ⟨2, "10.0.0.2", 10002⟩] 0
    let cs : List Call := [.addReplica ⟨3, "10.0.0.3", 10003⟩, .addReplica ⟨4, "10.0.0.4", 10004⟩]
    ∃ s, (s₀.setShardCount 2).run cs = some s ∧
      s.getNodesInShard 0 = [3] ∧ s.getNodesInShard 1 = [4] ∧
      (s₀.getReplicas.map (·.id)).Nodup ∧ (∀ c ∈ cs, c.keepsCover) ∧ 2 < 2 ^ 32 ∧
      s.getShardCount = 2 ∧ (∃ added, s.getReplicas = s₀.getReplicas ++ added) ∧
      (∀ ri ∈ s.getReplicas, s.getShardOfNode ri.id = uint32Max ↔ ri ∈ s₀.getReplicas) ∧
      ∀ ri ∈ s₀.getReplicas, s.addReplica ri = some s := by
  intro s₀ cs
  have hroster : (s₀.getReplicas.map (·.id)).Nodup := by decide
  have hcs : ∀ c ∈ cs, c.keepsCover := by decide
  exact ⟨_, rfl, rfl, rfl, hroster, hcs, by decide, reshard_strands hroster hcs (by decide) rfl⟩

/-! ## Coordinators -/

/-- Every shard's coordinator is its first member. -/
def FirstCoordinators (s : SystemInfo) : Prop :=
  ∀ sh, s.shardPrimaries sh = (s.getNodesInShard sh).head?

/-- The shard lists of `s'` extend those of `s`. -/
def Extends (s s' : SystemInfo) : Prop := ∀ sh, s.getNodesInShard sh <+: s'.getNodesInShard sh

/-- Extending the shard lists is transitive. -/
theorem Extends.trans {s s' s'' : SystemInfo} (h : s.Extends s') (h' : s'.Extends s'') :
    s.Extends s'' :=
  fun sh => (h sh).trans (h' sh)

/-- `SetShardCount` leaves no member and no coordinator. -/
theorem firstCoordinators_setShardCount (s : SystemInfo) (count : Nat) :
    (s.setShardCount count).FirstCoordinators :=
  fun _ => rfl

/-- `place` appends the new id to the target's list, and makes it the target's coordinator only
when the target has none, which under `FirstCoordinators` is when the target is empty. -/
theorem FirstCoordinators.place {s : SystemInfo} {r : ReplicaInfo} {t : UInt32}
    (h : s.FirstCoordinators) : (s.place r t).FirstCoordinators ∧ s.Extends (s.place r t) := by
  refine ⟨fun sh => ?_, fun sh => ?_⟩ <;> by_cases hsh : sh = t <;>
    simp only [getNodesInShard, place_shardToNodes, place_shardPrimaries, hsh, true_and, if_true,
      if_false, false_and]
  · cases hn : s.shardToNodes t <;> simp [h t, hn, getNodesInShard]
  · exact h sh
  · exact List.prefix_append _ _
  · exact List.prefix_refl _

/-- Every call that keeps the cover keeps `FirstCoordinators` and extends the shard lists. -/
theorem FirstCoordinators.apply {s s' : SystemInfo} {c : Call} (h : s.FirstCoordinators)
    (hc : c.keepsCover) (happ : s.apply c = some s') : s'.FirstCoordinators ∧ s.Extends s' := by
  have hadd : ∀ {r}, s.addReplica r = some s' → s'.FirstCoordinators ∧ s.Extends s' := fun hr => by
    rcases addReplica_eq_some hr with rfl | ⟨-, -, -, -, -, t, -, rfl⟩
    · exact ⟨h, fun _ => List.prefix_refl _⟩
    · exact h.place
  cases c with
  | addReplica r => exact hadd happ
  | processRequest q =>
    rcases processRequest_eq_some happ with rfl | ⟨r, hr⟩
    · exact ⟨h, fun _ => List.prefix_refl _⟩
    · exact hadd hr
  | setShardCount _ | setReplicas _ => cases hc
  | setPrimary _ | setCurrentView _ => cases happ; exact ⟨h, fun _ => List.prefix_refl _⟩

/-- Over a run of calls that keep the cover, `FirstCoordinators` is kept and the shard lists
only grow at their ends. -/
theorem FirstCoordinators.run {s s' : SystemInfo} {cs : List Call} (h : s.FirstCoordinators)
    (hcs : ∀ c ∈ cs, c.keepsCover) (hrun : s.run cs = some s') :
    s'.FirstCoordinators ∧ s.Extends s' :=
  run_inv (fun s' => s'.FirstCoordinators ∧ s.Extends s') (·.keepsCover)
    (fun _ _ _ hs hc happ => ⟨(hs.1.apply hc happ).1, hs.2.trans (hs.1.apply hc happ).2⟩)
    ⟨h, fun _ => List.prefix_refl _⟩ hcs hrun

/-- **Coordinators are the first members, and stay.** After `SetShardCount(count)` on a roster of
distinct ids, let a run `cs₁` and then a run `cs₂` of `AddReplica`, `ProcessRequest`, `SetPrimary`
and `SetCurrentView` lead to `s₁` and then `s₂`. In `s₂`, `GetPrimaryOfShard(sh)` is the first node
placed in `sh`, or `UINT_MAX` for an empty shard. Every shard list of `s₁` is a prefix of the same
list in `s₂`. A node that `s₁` lists in `sh` is still in `sh` in `s₂`, and `sh` still has the same
coordinator: no call but `SetShardCount` replaces a coordinator. -/
theorem coordinators_fixed {s₀ s₁ s₂ : SystemInfo} {count : Nat} {cs₁ cs₂ : List Call}
    (hroster : (s₀.getReplicas.map (·.id)).Nodup) (hcs₁ : ∀ c ∈ cs₁, c.keepsCover)
    (hcs₂ : ∀ c ∈ cs₂, c.keepsCover) (h₁ : (s₀.setShardCount count).run cs₁ = some s₁)
    (h₂ : s₁.run cs₂ = some s₂) :
    (∀ sh, s₂.getPrimaryOfShard sh = (s₂.getNodesInShard sh).headD uint32Max) ∧
      (∀ sh, s₁.getNodesInShard sh <+: s₂.getNodesInShard sh) ∧
      ∀ n sh, n ∈ s₁.getNodesInShard sh →
        s₂.getShardOfNode n = sh ∧ s₂.getPrimaryOfShard sh = s₁.getPrimaryOfShard sh := by
  have hkeeps : ∀ {cs : List Call}, (∀ c ∈ cs, c.keepsCover) → ∀ c ∈ cs, c.keepsView :=
    fun hcs c hc => Call.keepsView_of_keepsCover (hcs c hc)
  have hv₂ : s₂.ClusterView := run_inv ClusterView (·.keepsView)
    (fun _ _ _ hs hc happ => hs.apply hc happ) (clusterView_run hroster (hkeeps hcs₁) h₁)
    (hkeeps hcs₂) h₂
  have hf₁ := ((firstCoordinators_setShardCount s₀ count).run hcs₁ h₁).1
  obtain ⟨hf₂, hext⟩ := hf₁.run hcs₂ h₂
  have hprimary : ∀ {s : SystemInfo}, s.FirstCoordinators →
      ∀ sh, s.getPrimaryOfShard sh = (s.getNodesInShard sh).headD uint32Max := fun hf sh => by
    rw [getPrimaryOfShard, hf sh, List.headD_eq_head?_getD]
  refine ⟨hprimary hf₂, hext, fun n sh hn => ⟨hv₂.getShardOfNode_eq ((hext sh).subset hn), ?_⟩⟩
  obtain ⟨rest, hrest⟩ := hext sh
  obtain ⟨x, xs, hx⟩ := List.exists_cons_of_ne_nil (List.ne_nil_of_mem hn)
  rw [hprimary hf₂, hprimary hf₁, ← hrest, hx]
  rfl

/-- Two new replicas after `SetShardCount(2)`, then two more: each shard keeps its first member
as coordinator. -/
theorem coordinators_fixed_two_shards :
    let s₀ := init 0
    let cs₁ : List Call := [.addReplica ⟨1, "10.0.0.1", 10001⟩, .addReplica ⟨2, "10.0.0.2", 10002⟩]
    let cs₂ : List Call := [.addReplica ⟨3, "10.0.0.3", 10003⟩, .setPrimary 3,
      .addReplica ⟨4, "10.0.0.4", 10004⟩]
    let s₁ := ((s₀.setShardCount 2).run cs₁).getD s₀
    let s₂ := (s₁.run cs₂).getD s₀
    s₂.getNodesInShard 0 = [1, 3] ∧ s₂.getPrimaryOfShard 0 = 1 ∧
      (s₀.getReplicas.map (·.id)).Nodup ∧ (∀ c ∈ cs₁, c.keepsCover) ∧ (∀ c ∈ cs₂, c.keepsCover) ∧
      (s₀.setShardCount 2).run cs₁ = some s₁ ∧ s₁.run cs₂ = some s₂ ∧
      (∀ sh, s₂.getPrimaryOfShard sh = (s₂.getNodesInShard sh).headD uint32Max) ∧
      (∀ sh, s₁.getNodesInShard sh <+: s₂.getNodesInShard sh) ∧
      ∀ n sh, n ∈ s₁.getNodesInShard sh →
        s₂.getShardOfNode n = sh ∧ s₂.getPrimaryOfShard sh = s₁.getPrimaryOfShard sh := by
  intro s₀ cs₁ cs₂ s₁ s₂
  have hroster : (s₀.getReplicas.map (·.id)).Nodup := List.nodup_nil
  have hcs₁ : ∀ c ∈ cs₁, c.keepsCover := by decide
  have hcs₂ : ∀ c ∈ cs₂, c.keepsCover := by decide
  have h₁ : (s₀.setShardCount 2).run cs₁ = some s₁ := rfl
  have h₂ : s₁.run cs₂ = some s₂ :=
    (Option.getD_of_ne_none (Option.isSome_iff_ne_none.mp (by decide)) s₀).symm
  exact ⟨by decide, by decide, hroster, hcs₁, hcs₂, h₁, h₂,
    coordinators_fixed hroster hcs₁ hcs₂ h₁ h₂⟩

end SystemInfo

end ShardedPbft
