import ShardedPbft.Topology.ClusterView
import ShardedPbft.Replica.Commitment

/-!
# Outer proposals

`ProcessNewRequest` lets every shard coordinator propose: the source replaced the global-primary
test by `GetPrimaryOfNode(self)` ("the shard that recieves the request becomes the primary shard
for that txn"). This file follows the PRE_PREPAREs it emits.

* `newRequestRun` delivers client requests to the replicas of a cluster, one after another, and
  logs the PRE_PREPAREs the calls send. `proposals_per_coordinator` is what holds of every such
  log: only shard coordinators propose, each with its own topology's view, and one coordinator
  never gives one sequence number two hashes. Different coordinators draw from different
  counters, and `two_coordinators_same_seq` has two of them propose sequence number `1` with
  different hashes.
* `outer_prePrepare_admission` follows one emitted PRE_PREPARE to the coordinators it is sent
  to. `ProcessProposeMsg` admits it at the proposer itself and, elsewhere, only when the proposer
  is the global primary (lines 194-199), so the shard that received the request does not become
  the primary shard for it, as line 66 asks; `nonprimary_proposal_rejected` is a coordinator
  rejecting a peer's proposal.
-/

namespace ShardedPbft

/-- In a topology with the ClusterView invariant, the coordinator of a non-empty shard is its own
coordinator. -/
theorem SystemInfo.ClusterView.getPrimaryOfNode_primary {s : SystemInfo} (hs : s.ClusterView)
    {sh : UInt32} (hne : s.getNodesInShard sh ≠ []) :
    s.getPrimaryOfNode (s.getPrimaryOfShard sh) = s.getPrimaryOfShard sh := by
  rw [SystemInfo.getPrimaryOfNode, hs.getShardOfNode_eq (hs.getPrimaryOfShard_mem hne)]

namespace Replica

/-! ## Admission at the coordinators -/

/-- A replica that is its shard's coordinator forwards nothing. -/
theorem forwards_of_coordinator {r : Replica} (h : r.coordinator = r.selfId) (sender : UInt32) :
    r.forwards sender = false := by
  simp [forwards, h]

/-- The only successful end of `ProcessNewRequest`: a coordinator sends one PRE_PREPARE, built
from the request with its own counter, to every shard's coordinator. -/
theorem processNewRequest_eq_zero {env : Env} {r r' : Replica} {context : Option String}
    {request : Request} {sent : List Send}
    (h : r.processNewRequest env context request = .done 0 r' sent) :
    r.selfId = r.coordinator ∧ request.hash ∉ r.duplicates.proposed ∧
      ¬ env.maxProcessTxn < r.nextSeq - r.maxExecutedSeq ∧
      r' = { r.markProposed request.hash with nextSeq := r.nextSeq + 1 } ∧
      sent = r.toShardPrimaries (r.prePrepareOf request r.nextSeq) := by
  rcases processNewRequest_cases env r context request with
    ⟨_, he⟩ | ⟨-, he⟩ | ⟨-, -, hc, -, -, hm, hs, he⟩ <;>
    rw [he] at h <;> obtain ⟨hret, rfl, rfl⟩ := Outcome.done.inj h
  · exact absurd hret (by decide)
  · exact absurd hret (by decide)
  · exact ⟨hc, hm, hs, rfl, rfl⟩

/-- **Where an outer proposal is admitted.** Take a topology with the ClusterView invariant and
fewer than `2^31` shards, so that the `int` counter of lines 152-154 does not overflow. When
`ProcessNewRequest` at a replica `rc` of the topology returns `0`, it has sent its PRE_PREPARE `pp`
to `GetPrimaryOfShard(i)` for every shard `i` below the count. At the coordinator `rc'` of a
non-empty shard, with a signed context, no fault, a valid signature, the pre-verification passing
and the hash not yet proposed, `ProcessProposeMsg` takes the recovery path when `pp` has
`is_recovery` set. Otherwise it hands `pp` to `AddConsensusMsg` when `rc'` is `rc` itself, marks the
hash and hands `pp` on when `rc` is the global primary, and rejects it with `-2` when `rc` is the
coordinator of another shard (lines 194-199). -/
theorem outer_prePrepare_admission {env : Env} {s : SystemInfo} (hs : s.ClusterView)
    (_hlt : s.shardCount < 2 ^ 31) {rc rc₁ : Replica} {context : Option String}
    {request : Request} {sent : List Send} (hrc : rc.systemInfo = s)
    (hnew : rc.processNewRequest env context request = .done 0 rc₁ sent) :
    let pp := rc.prePrepareOf request rc.nextSeq
    sent = (List.range s.getShardCount).map
        (fun i => .toNode pp (s.getPrimaryOfShard (UInt32.ofNat i))) ∧
      ∀ i < s.getShardCount, s.getNodesInShard (UInt32.ofNat i) ≠ [] →
      ∀ (rc' : Replica) (context' : Option String),
        rc'.systemInfo = s → rc'.selfId = s.getPrimaryOfShard (UInt32.ofNat i) →
        unsigned context' = false → env.isFaulty = false →
        env.verifyMessage pp.data pp.dataSignature = true → env.preVerifyFails pp = false →
        pp.hash ∉ rc'.duplicates.proposed →
        rc'.processProposeMsg env context' pp =
          if pp.isRecovery then rc'.proposeRecovery env pp
          else if rc'.selfId = rc.selfId then addMovedRequest env rc' pp
          else if rc.selfId = s.primaryId then addMovedRequest env (rc'.markProposed pp.hash) pp
          else .done (-2) rc' [] := by
  intro pp
  obtain ⟨-, -, -, -, rfl⟩ := processNewRequest_eq_zero hnew
  refine ⟨by rw [toShardPrimaries, hrc], ?_⟩
  intro i _ hne rc' context' hrc' hself hsigned hfaulty hverify hpre hfresh
  have hcoord : rc'.coordinator = rc'.selfId := by
    rw [coordinator, hrc', hself, hs.getPrimaryOfNode_primary hne]
  have hsender : pp.senderId = rc.selfId := rfl
  rw [← hrc']
  simp only [processProposeMsg, forwards_of_coordinator hcoord, hfaulty, hsigned, hcoord,
    hpre, hverify, DuplicateManager.checkAndAddProposed_of_not_mem hfresh, hsender,
    Bool.false_eq_true, Bool.or_false, Bool.not_true, ↓reduceIte]
  split_ifs <;> first | rfl | simp_all

/-- Replicas `1` and `2` in two shards, `1` the global primary: coordinator `2` proposes a client
request and sends the PRE_PREPARE to coordinator `1`, which rejects it, signed, verified and fresh
as it is. -/
theorem nonprimary_proposal_rejected :
    let env : Env := { verifyMessage := fun _ _ => true, signMessage := some, preVerifyFunc := none,
                       needQc := false, isFaulty := false, maxProcessTxn := 8, quorum := 1 }
    let s := (((SystemInfo.init 0).setShardCount 2).run
      [.addReplica ⟨1, "10.0.0.1", 10001⟩, .addReplica ⟨2, "10.0.0.2", 10002⟩]).getD
        (SystemInfo.init 0)
    let rc := Replica.init 2 s
    let request := { (default : Request) with hash := "a" }
    let pp := rc.prePrepareOf request rc.nextSeq
    s.primaryId = 1 ∧ s.getPrimaryOfShard 0 = 1 ∧ s.getPrimaryOfShard 1 = 2 ∧
      (∃ rc₁ sent, rc.processNewRequest env (some "sig") request = .done 0 rc₁ sent ∧
        .toNode pp 1 ∈ sent) ∧
      (Replica.init 1 s).processProposeMsg env (some "sig") pp = .done (-2) (Replica.init 1 s) [] := by
  intro env s rc request pp
  have hs : s.ClusterView := @SystemInfo.clusterView_run (SystemInfo.init 0) s 2
    [.addReplica ⟨1, "10.0.0.1", 10001⟩, .addReplica ⟨2, "10.0.0.2", 10002⟩] List.nodup_nil
    (by decide) rfl
  obtain ⟨rc₁, sent, hnew⟩ :
      ∃ rc₁ sent, rc.processNewRequest env (some "sig") request = .done 0 rc₁ sent :=
    ⟨_, _, processNewRequest_of_admitted rfl rfl (by decide) rfl rfl (Finset.not_mem_empty _)
      (by decide)⟩
  obtain ⟨hsent, hcoords⟩ := outer_prePrepare_admission hs (by decide) rfl hnew
  refine ⟨by decide, by decide, by decide, ⟨rc₁, sent, hnew, by rw [hsent]; decide⟩, ?_⟩
  rw [hcoords 0 (by decide) (by decide) (Replica.init 1 s) (some "sig") rfl (by decide) rfl rfl rfl
    rfl (Finset.not_mem_empty _)]
  rfl

/-! ## A cluster's proposals -/

/-- The PRE_PREPAREs a call of `ProcessNewRequest` emits: what it sends when it returns `0`. -/
def proposals : Outcome → List Request
  | .done 0 _ sent => sent.map Send.message
  | _ => []

/-- A call that does not return `0` proposes nothing. -/
theorem proposals_of_ne_zero {ret : Int} (h : ret ≠ 0) (r : Replica) (sent : List Send) :
    proposals (.done ret r sent) = [] := by
  unfold proposals
  split
  · rename_i heq; cases heq; exact absurd rfl h
  · rfl

/-- A client request on its way: the replica it reaches, its context and the request. -/
structure ClientDelivery where
  replica : UInt32
  context : Option String
  request : Request

/-- Client requests reach the replicas of a cluster one after another, each handled by
`ProcessNewRequest` at the replica it reaches. The run ends with the replicas' states and the
PRE_PREPAREs emitted, in order. -/
def newRequestRun (env : Env) (c : UInt32 → Replica) :
    List ClientDelivery → (UInt32 → Replica) × List Request
  | [] => (c, [])
  | d :: ds =>
    let o := (c d.replica).processNewRequest env d.context d.request
    let rest := newRequestRun env (Function.update c d.replica o.replica) ds
    (rest.1, proposals o ++ rest.2)

/-- What a run keeps, after `k` deliveries from the states `c₀`: ids and topologies unchanged,
counters grown by at most one a delivery, and every logged PRE_PREPARE sent by a coordinator with
its own view, below its sender's counter, and the only one of its sender with its number. -/
structure LogInv (c₀ c : UInt32 → Replica) (k : Nat) (log : List Request) : Prop where
  selfId_eq : ∀ n, (c n).selfId = (c₀ n).selfId
  systemInfo_eq : ∀ n, (c n).systemInfo = (c₀ n).systemInfo
  counter : ∀ n, (c₀ n).nextSeq.toNat ≤ (c n).nextSeq.toNat ∧
    (c n).nextSeq.toNat ≤ (c₀ n).nextSeq.toNat + k
  logged : ∀ m ∈ log, m.type = .prePrepare ∧ (c₀ m.senderId).coordinator = m.senderId ∧
    m.currentView = (c₀ m.senderId).systemInfo.view ∧ m.seq.toNat < (c m.senderId).nextSeq.toNat
  unique : ∀ m ∈ log, ∀ m' ∈ log, m'.senderId = m.senderId → m'.seq = m.seq → m'.hash = m.hash

section LogInv

variable {c₀ c : UInt32 → Replica} {k : Nat} {log : List Request}

/-- Before any delivery, with nothing logged, the invariant holds. -/
theorem logInv_start (c₀ : UInt32 → Replica) : LogInv c₀ c₀ 0 [] :=
  ⟨fun _ => rfl, fun _ => rfl, fun _ => ⟨le_rfl, le_rfl⟩, by simp, by simp⟩

/-- Replacing replica `n` by a state with the same id and topology and a counter grown by at most
one, and logging PRE_PREPAREs of `n` that all carry one hash and numbers between the two counters,
keeps the invariant for one more delivery. -/
theorem LogInv.update (h : LogInv c₀ c k log) {n : UInt32} {r' : Replica} {new : List Request}
    (hself : (c₀ n).selfId = n) (hid : r'.selfId = (c n).selfId)
    (hsys : r'.systemInfo = (c n).systemInfo)
    (hgrow : (c n).nextSeq.toNat ≤ r'.nextSeq.toNat)
    (hstep : r'.nextSeq.toNat ≤ (c n).nextSeq.toNat + 1)
    (hnew : ∀ m ∈ new, m.type = .prePrepare ∧ m.senderId = n ∧ (c₀ n).coordinator = n ∧
      m.currentView = (c₀ n).systemInfo.view ∧ (c n).nextSeq.toNat ≤ m.seq.toNat ∧
      m.seq.toNat < r'.nextSeq.toNat)
    (hhash : ∀ m ∈ new, ∀ m' ∈ new, m'.hash = m.hash) :
    LogInv c₀ (Function.update c n r') (k + 1) (log ++ new) := by
  have upd : ∀ m, (Function.update c n r' m).nextSeq.toNat =
      if m = n then r'.nextSeq.toNat else (c m).nextSeq.toNat := fun m => by
    rw [Function.apply_update (fun _ (r : Replica) => r.nextSeq.toNat), Function.update_apply]
  refine ⟨fun m => ?_, fun m => ?_, fun m => ?_, fun m hm => ?_, fun m hm m' hm' hs hq => ?_⟩
  · rw [Function.apply_update (fun _ => selfId), hid, Function.update_eq_self, h.selfId_eq]
  · rw [Function.apply_update (fun _ => systemInfo), hsys, Function.update_eq_self,
      h.systemInfo_eq]
  · have := h.counter m
    rw [upd]
    split_ifs with hm
    · subst hm; omega
    · omega
  · rcases List.mem_append.mp hm with hm | hm
    · obtain ⟨ht, hc, hv, hlt⟩ := h.logged m hm
      refine ⟨ht, hc, hv, ?_⟩
      rw [upd]
      split_ifs with e
      · rw [e] at hlt; omega
      · exact hlt
    · obtain ⟨ht, hs, hc, hv, -, hlt⟩ := hnew m hm
      subst hs
      exact ⟨ht, hc, hv, by simpa using hlt⟩
  · rcases List.mem_append.mp hm with hm | hm <;> rcases List.mem_append.mp hm' with hm' | hm'
    · exact h.unique m hm m' hm' hs hq
    · obtain ⟨-, hs', -, -, hle, -⟩ := hnew m' hm'
      have := (h.logged m hm).2.2.2
      rw [← hs, hs'] at this
      exact absurd (congrArg UInt64.toNat hq) (by omega)
    · obtain ⟨-, hsn, -, -, hle, -⟩ := hnew m hm
      have := (h.logged m' hm').2.2.2
      rw [hs, hsn] at this
      exact absurd (congrArg UInt64.toNat hq) (by omega)
    · exact hhash m hm m' hm'

/-- One delivery of a client request keeps the invariant, as long as the counter of the replica
it reaches is below `2^64 - 1`. -/
theorem LogInv.step (h : LogInv c₀ c k log) (env : Env) (d : ClientDelivery)
    (hself : (c₀ d.replica).selfId = d.replica)
    (hbound : (c₀ d.replica).nextSeq.toNat + k + 1 < 2 ^ 64) :
    let o := (c d.replica).processNewRequest env d.context d.request
    LogInv c₀ (Function.update c d.replica o.replica) (k + 1) (log ++ proposals o) := by
  intro o
  have hc := (h.counter d.replica).2
  rcases processNewRequest_cases env (c d.replica) d.context d.request with
    ⟨sent, he⟩ | ⟨-, he⟩ | ⟨-, -, hcoord, -, -, -, -, he⟩ <;>
    simp only [o, he, Outcome.replica_done]
  · rw [Function.update_eq_self, proposals_of_ne_zero (by decide), List.append_nil]
    exact ⟨h.selfId_eq, h.systemInfo_eq,
      fun n => ⟨(h.counter n).1, by have := (h.counter n).2; omega⟩, h.logged, h.unique⟩
  · rw [proposals_of_ne_zero (by decide)]
    exact @LogInv.update _ _ _ _ h _ _ [] hself rfl rfl le_rfl (Nat.le_succ _) (by simp) (by simp)
  · have hseq : ((c d.replica).nextSeq + 1).toNat = (c d.replica).nextSeq.toNat + 1 :=
      Nat.mod_eq_of_lt (show (c d.replica).nextSeq.toNat + 1 < 2 ^ 64 by omega)
    have hco : (c₀ d.replica).coordinator = d.replica :=
      calc (c₀ d.replica).coordinator = (c d.replica).coordinator := by
            simp only [coordinator, h.selfId_eq, h.systemInfo_eq]
        _ = d.replica := by rw [← hcoord, h.selfId_eq, hself]
    refine h.update hself rfl rfl (by simp [markProposed, hseq]) (by simp [markProposed, hseq])
      (fun m hm => ?_) (fun m hm m' hm' => ?_) <;>
      simp only [proposals, toShardPrimaries, List.map_map, List.mem_map] at hm <;>
      obtain ⟨_, _, rfl⟩ := hm
    · refine ⟨rfl, by simp [prePrepareOf, h.selfId_eq, hself], hco, ?_, le_rfl, ?_⟩
      · simp [prePrepareOf, h.systemInfo_eq]
      · simp [prePrepareOf, markProposed, hseq]
    · simp only [proposals, toShardPrimaries, List.map_map, List.mem_map] at hm'
      obtain ⟨_, _, rfl⟩ := hm'
      rfl

/-- A whole run keeps the invariant. -/
theorem LogInv.run (env : Env) (hself : ∀ n, (c₀ n).selfId = n) :
    ∀ (ds : List ClientDelivery) (c : UInt32 → Replica) (k : Nat) (log : List Request),
      LogInv c₀ c k log → (∀ n, (c₀ n).nextSeq.toNat + k + ds.length < 2 ^ 64) →
      LogInv c₀ (newRequestRun env c ds).1 (k + ds.length) (log ++ (newRequestRun env c ds).2)
  | [], c, k, log, h, _ => by simpa [newRequestRun] using h
  | d :: ds, c, k, log, h, hb => by
    have := LogInv.run env hself ds _ (k + 1) _ (h.step env d (hself _) (by
      have := hb d.replica; simp only [List.length_cons] at this; omega)) (fun n => by
      have := hb n; simp only [List.length_cons] at this; omega)
    simpa [newRequestRun, Nat.add_assoc, Nat.add_comm 1] using this

end LogInv

/-- In every run of client requests through a cluster, every PRE_PREPARE emitted comes from a
replica that is its own shard's coordinator, carries that replica's view, and no other PRE_PREPARE
of the same replica has its sequence number with another hash; this holds while no counter passes
`2^64 - 1`. Two coordinators' counters are independent. -/
theorem proposals_per_coordinator (env : Env) (c : UInt32 → Replica) (ds : List ClientDelivery)
    (hself : ∀ n, (c n).selfId = n) (hbound : ∀ n, (c n).nextSeq.toNat + ds.length < 2 ^ 64) :
    ∀ m ∈ (newRequestRun env c ds).2,
      m.type = .prePrepare ∧ (c m.senderId).coordinator = m.senderId ∧
      m.currentView = (c m.senderId).systemInfo.view ∧
      ∀ m' ∈ (newRequestRun env c ds).2, m'.senderId = m.senderId → m'.seq = m.seq →
        m'.hash = m.hash := by
  have h := LogInv.run env hself ds c 0 [] (logInv_start c) (by simpa using hbound)
  simp only [List.nil_append] at h
  exact fun m hm => ⟨(h.logged m hm).1, (h.logged m hm).2.1, (h.logged m hm).2.2.1,
    fun m' hm' => h.unique m hm m' hm'⟩

/-- Two client requests reach the two coordinators of a two-shard cluster; the hypotheses hold and
the run's proposals are per coordinator. -/
theorem proposals_per_coordinator_two_shards :
    ∃ (env : Env) (s : SystemInfo),
      ((SystemInfo.init 0).setShardCount 2).run
        [.addReplica ⟨1, "10.0.0.1", 10001⟩, .addReplica ⟨2, "10.0.0.2", 10002⟩] = some s ∧
      (∀ n, (Replica.init n s).selfId = n) ∧
      (∀ n, (Replica.init n s).nextSeq.toNat + 2 < 2 ^ 64) ∧
      ∀ m ∈ (newRequestRun env (fun n => Replica.init n s)
          [⟨1, some "sig", { (default : Request) with hash := "a" }⟩,
           ⟨2, some "sig", { (default : Request) with hash := "b" }⟩]).2,
        m.type = .prePrepare ∧ (Replica.init m.senderId s).coordinator = m.senderId ∧
        m.currentView = (Replica.init m.senderId s).systemInfo.view ∧
        ∀ m' ∈ (newRequestRun env (fun n => Replica.init n s)
          [⟨1, some "sig", { (default : Request) with hash := "a" }⟩,
           ⟨2, some "sig", { (default : Request) with hash := "b" }⟩]).2,
          m'.senderId = m.senderId → m'.seq = m.seq → m'.hash = m.hash :=
  ⟨{ verifyMessage := fun _ _ => true, signMessage := some, preVerifyFunc := none,
     needQc := false, isFaulty := false, maxProcessTxn := 8, quorum := 1 }, _, rfl,
    fun _ => rfl, fun _ => show (1 : UInt64).toNat + 2 < 2 ^ 64 by decide,
    proposals_per_coordinator _ (fun n => Replica.init n _) _ (fun _ => rfl)
      (fun _ => show (1 : UInt64).toNat + 2 < 2 ^ 64 by decide)⟩

/-- The same run: coordinators `1` and `2` both propose sequence number `1` in view `1`, with
hashes `a` and `b`. -/
theorem two_coordinators_same_seq :
    ∃ (env : Env) (s : SystemInfo),
      ((SystemInfo.init 0).setShardCount 2).run
        [.addReplica ⟨1, "10.0.0.1", 10001⟩, .addReplica ⟨2, "10.0.0.2", 10002⟩] = some s ∧
      ∃ m₁ ∈ (newRequestRun env (fun n => Replica.init n s)
          [⟨1, some "sig", { (default : Request) with hash := "a" }⟩,
           ⟨2, some "sig", { (default : Request) with hash := "b" }⟩]).2,
      ∃ m₂ ∈ (newRequestRun env (fun n => Replica.init n s)
          [⟨1, some "sig", { (default : Request) with hash := "a" }⟩,
           ⟨2, some "sig", { (default : Request) with hash := "b" }⟩]).2,
        m₁.currentView = m₂.currentView ∧ m₁.seq = m₂.seq ∧ m₁.hash ≠ m₂.hash :=
  ⟨{ verifyMessage := fun _ _ => true, signMessage := some, preVerifyFunc := none,
     needQc := false, isFaulty := false, maxProcessTxn := 8, quorum := 1 }, _, rfl, by decide⟩

end Replica

end ShardedPbft
