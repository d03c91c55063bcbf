import ShardedPbft.Transport.Delivery

/-!
# A client request reaches the proposal

The safety results of the cluster say what never happens. This module says what a run can make
happen. A client request written to any listed replica is proposed within two deliveries,
provided it passes the checks of `ProcessNewRequest` there and at its shard's coordinator: a
signed context, a hash that neither has executed and the coordinator has not proposed,
`VerifyMessage` and the pre-verification accepting, and a sequence number left under the cap of
`AssignNextSeq`. A replica that is not its shard's coordinator forwards the request to it
(lines 81-97). With long connections the copy is written to the coordinator alone, which proposes
it and writes the PRE_PREPARE to the coordinator of every non-empty shard (lines 145-154).

`client_request_proposed` needs the replicas to share a topology with the ClusterView invariant
and fewer than `2^31` shards, where the `int` counter of the fan-out loop (lines 152-154) is
defined, and the communicator of `prePrepare_fanout`.
-/

namespace ShardedPbft

namespace Replica

variable {env : Env} {r : Replica} {context : Option String} {request : Request}

/-- `ProcessNewRequest` at a replica that is not its shard's coordinator, on a signed request
whose hash it has not executed, records the complaint and forwards the request. -/
theorem processNewRequest_of_forwarded (h1 : unsigned context = false)
    (h2 : r.duplicates.checkIfExecuted request.hash = 0) (h3 : r.selfId ≠ r.coordinator) :
    r.processNewRequest env context request =
      .done (-3) { r with requestComplained := r.requestComplained ++ [(context, request)] }
        [.toNode request r.coordinator] := by
  rw [processNewRequest, if_neg (by simp [h1]), if_neg (by simp [h2]), if_pos h3]

end Replica

section Progress

variable {s : SystemInfo} {env : Env} {comm : ReplicaCommunicator} {context : Option String}

/-- **A client request is proposed within two deliveries.** Let the replicas share a topology with
the ClusterView invariant and know their own ids, with fewer than `2^31` shards, so that the `int`
counter of the fan-out loop does not overflow (the model's fan-out needs no bound). Let the
communicator use long connections, list the topology's roster with distinct endpoints and every ip
set, and have no entry of id `UINT32_MAX`. Write a client request to a live listed replica `n`,
whose shard's coordinator is live too, and let the request pass the checks of `ProcessNewRequest`
at `n` and at the coordinator. Then there is a run of at most two deliveries after which the
coordinator's PRE_PREPARE for the request, numbered by its counter, is in flight to the coordinator
of every non-empty shard. -/
theorem client_request_proposed (hs : s.ClusterView) (_hlt : s.shardCount < 2 ^ 31)
    (hlong : comm.isUseLongConn = true) (hroster : comm.replicas = s.getReplicas)
    (hendpoints : (s.getReplicas.map (·.endpoint)).Nodup)
    (hip : ∀ ri ∈ s.getReplicas, ri.ip.isEmpty = false)
    (hmax : (∀ ri ∈ comm.replicas, ri.id ≠ uint32Max) ∧ ∀ cl ∈ comm.clients, cl.id ≠ uint32Max)
    {c : Cluster} (hc : ∀ k, (c.replica k).systemInfo = s ∧ (c.replica k).selfId = k)
    {n sh : UInt32} (hn : n ∈ s.getNodesInShard sh) {request : Request}
    (htype : request.type = .newRequest) (hin : (n, request) ∈ c.inFlight)
    (hlive : c.crashed n = false ∧ c.crashed (s.getPrimaryOfShard sh) = false)
    (hsigned : unsigned context = false)
    (hexec : (c.replica n).duplicates.checkIfExecuted request.hash = 0 ∧
      (c.replica (s.getPrimaryOfShard sh)).duplicates.checkIfExecuted request.hash = 0)
    (hverify : env.verifyMessage request.data request.dataSignature = true)
    (hpre : env.preVerifyFails request = false)
    (hfresh : request.hash ∉ (c.replica (s.getPrimaryOfShard sh)).duplicates.proposed)
    (hcap : ¬ env.maxProcessTxn < (c.replica (s.getPrimaryOfShard sh)).nextSeq -
      (c.replica (s.getPrimaryOfShard sh)).maxExecutedSeq) :
    let r := c.replica (s.getPrimaryOfShard sh)
    ∃ c', Relation.ReflTransGen (Deliver env comm context) c c' ∧
      ∀ q ∈ s.coordinators, (q, r.prePrepareOf request r.nextSeq) ∈ c'.inFlight := by
  intro r
  have hcoord : ∀ k ∈ s.getNodesInShard sh, (c.replica k).coordinator = s.getPrimaryOfShard sh :=
    fun k hk => by
      rw [Replica.coordinator, (hc k).1, (hc k).2, SystemInfo.getPrimaryOfNode,
        hs.getShardOfNode_eq hk]
  have hpmem : s.getPrimaryOfShard sh ∈ s.getNodesInShard sh :=
    hs.getPrimaryOfShard_mem (List.ne_nil_of_mem hn)
  -- the coordinator, holding the request, proposes it
  have hpropose : ∀ c₁ : Cluster, c₁.replica (s.getPrimaryOfShard sh) = r →
      c₁.crashed (s.getPrimaryOfShard sh) = false → (s.getPrimaryOfShard sh, request) ∈ c₁.inFlight →
      ∃ c', Deliver env comm context c₁ c' ∧
        ∀ q ∈ s.coordinators, (q, r.prePrepareOf request r.nextSeq) ∈ c'.inFlight := by
    intro c₁ hr hlive₁ hin₁
    obtain ⟨before, after, hsplit⟩ := List.append_of_mem hin₁
    have hcall := Replica.processNewRequest_of_admitted hsigned hexec.2
      ((hc _).2.trans (hcoord _ hpmem).symm) hverify hpre hfresh hcap
    refine ⟨_, .handle before after _ request _ hsplit hlive₁
      (by rw [hr, Replica.dispatch, htype, hcall]), fun q hq => List.mem_append_right _ ?_⟩
    rw [Outcome.sent_done, written_toShardPrimaries hs hroster hendpoints hip hmax (hc _).1,
      if_pos hlong]
    exact List.mem_map.mpr ⟨q, hq, rfl⟩
  by_cases hnp : n = s.getPrimaryOfShard sh
  · -- `n` is the coordinator
    obtain ⟨c', hd, h⟩ := hpropose c rfl hlive.2 (hnp ▸ hin)
    exact ⟨c', .single hd, h⟩
  · -- `n` forwards the request, and with long connections the coordinator alone receives it
    obtain ⟨before, after, hsplit⟩ := List.append_of_mem hin
    have hcall := @Replica.processNewRequest_of_forwarded env _ context request hsigned hexec.1
      (by rw [(hc n).2, hcoord n hn]; exact hnp)
    obtain ⟨p, hp⟩ := Option.isSome_iff_exists.mp (hs.primary_isSome _ _ hpmem)
    have hwritten : written comm [.toNode request (c.replica n).coordinator] =
        [(s.getPrimaryOfShard sh, request)] := by
      rw [hcoord n hn, written_toPrimary hs hroster hendpoints hip hmax, if_pos hlong, hp]
      simp [SystemInfo.getPrimaryOfShard, hp]
    obtain ⟨c₁, hd₁, hrep, hcr, hin₁⟩ : ∃ c₁, Deliver env comm context c c₁ ∧
        c₁.replica (s.getPrimaryOfShard sh) = r ∧ c₁.crashed (s.getPrimaryOfShard sh) = false ∧
        (s.getPrimaryOfShard sh, request) ∈ c₁.inFlight :=
      ⟨_, .handle before after n request _ hsplit hlive.1 (by rw [Replica.dispatch, htype, hcall]),
        Function.update_noteq (Ne.symm hnp) _ _,
        (Function.update_noteq (Ne.symm hnp) _ _).trans hlive.2,
        List.mem_append_right _ (by rw [Outcome.sent_done, hwritten]; exact List.mem_singleton_self _)⟩
    obtain ⟨c', hd₂, h⟩ := hpropose c₁ hrep hcr hin₁
    exact ⟨c', .tail (.single hd₁) hd₂, h⟩

/-- Replicas `1` to `4` in two shards, `{1, 3}` and `{2, 4}`, with long connections: a client
request written to `3` passes the checks, and after two deliveries the PRE_PREPARE of coordinator
`1` is in flight to `1` and `2`. -/
theorem client_request_proposed_four_replicas :
    let s := (((SystemInfo.init 0).setShardCount 2).run
      ([⟨1, "10.0.0.1", 10001⟩, ⟨2, "10.0.0.2", 10002⟩, ⟨3, "10.0.0.3", 10003⟩,
        ⟨4, "10.0.0.4", 10004⟩].map .addReplica)).getD (SystemInfo.init 0)
    let comm : ReplicaCommunicator := ⟨s.getReplicas, [], true⟩
    let env : Env := { verifyMessage := fun _ _ => true, signMessage := some,
                       preVerifyFunc := none, needQc := false, isFaulty := false,
                       maxProcessTxn := 8, quorum := 2 }
    let request := { (default : Request) with hash := "a" }
    let c : Cluster := ⟨fun n => Replica.init n s, fun _ => false, [(3, request)], 0⟩
    s.getNodesInShard 0 = [1, 3] ∧ s.getPrimaryOfShard 0 = 1 ∧ s.coordinators = [1, 2] ∧
      let r := c.replica (s.getPrimaryOfShard 0)
      ∃ c', Relation.ReflTransGen (Deliver env comm (some "sig")) c c' ∧
        ∀ q ∈ s.coordinators, (q, r.prePrepareOf request r.nextSeq) ∈ c'.inFlight := by
  intro s comm env request c
  have hs : s.ClusterView := @SystemInfo.clusterView_run (SystemInfo.init 0) s 2
    (([⟨1, "10.0.0.1", 10001⟩, ⟨2, "10.0.0.2", 10002⟩, ⟨3, "10.0.0.3", 10003⟩,
      ⟨4, "10.0.0.4", 10004⟩] : List ReplicaInfo).map .addReplica) List.nodup_nil (by decide) rfl
  have hmax : (∀ ri ∈ comm.replicas, ri.id ≠ uint32Max) ∧ ∀ cl ∈ comm.clients, cl.id ≠ uint32Max :=
    ⟨by decide, by decide⟩
  exact ⟨by decide, by decide, by decide,
    client_request_proposed hs (by decide) rfl rfl (by decide) (by decide) hmax (fun _ => ⟨rfl, rfl⟩)
      (show (3 : UInt32) ∈ s.getNodesInShard 0 by decide) rfl (by decide) ⟨rfl, rfl⟩ rfl
      ⟨rfl, rfl⟩ rfl rfl (Finset.not_mem_empty _) (by decide)⟩

end Progress

end ShardedPbft
