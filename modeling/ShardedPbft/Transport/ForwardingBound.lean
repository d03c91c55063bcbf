import ShardedPbft.Transport.Delivery
import ShardedPbft.Transport.Stall

/-!
# Forwarding ends with long connections

With short connections one delivery sets off forwarding without end
(`short_forwarding_never_ends`). With long connections a forwarded copy goes to the forwarder's
coordinator alone, and this file follows that through whole runs of the cluster.

Count the messages in flight that their receiver may forward: those that are not responses, at a
node that is not its own shard's coordinator (`SystemInfo.forwardable`). Let the communicator
list the topology's roster, with distinct endpoints and every ip set, and have no entry of id
`UINT32_MAX`. Then every send of `ProcessNewRequest` and `ProcessProposeMsg` is a response, or
goes to `GetPrimaryOfShard` of some shard: to that shard's coordinator, or, for a shard without
one, nowhere (`written_not_forwardable`). So no call adds to the count, each forwarding call takes
one message off it, and it writes at most one copy.

`forwarding_bounded`: from a cluster with no PREPARE or COMMIT in flight, whose replicas share the
topology, the copies that forwarding writes over a whole run are at most the forwardable messages
in flight at its start.

The shared topology is needed. Two replicas whose own topologies each name the other as their
shard's coordinator pass a consensus message back and forth without end, long connections or not
(`forwarding_ping_pong`). Replicas that add the same members in different orders get such
topologies, since a shard's coordinator is its first member.
-/

namespace ShardedPbft

/-- A message in flight that its receiver may forward: not a response, at a node that is not its
shard's coordinator in the topology `s`. -/
def SystemInfo.forwardable (s : SystemInfo) (p : UInt32 × Request) : Bool :=
  p.2.type != .response && s.getPrimaryOfNode p.1 != p.1

namespace ReplicaCommunicator

/-- With long connections, `SendMessage(message, node_id)` writes to at most one replica. -/
theorem sendMessageToNode_length_le {c : ReplicaCommunicator} (hlong : c.isUseLongConn = true)
    (n : UInt32) : (c.sendMessageToNode n).length ≤ 1 := by
  unfold sendMessageToNode
  dsimp only
  split_ifs <;> simp [sendMessageTo, sendSingleMessage_long hlong]

end ReplicaCommunicator

/-- A message is written by a list of sends exactly when one of the sends writes it. -/
theorem mem_written {comm : ReplicaCommunicator} {sent : List Send} {p : UInt32 × Request} :
    p ∈ written comm sent ↔ ∃ s ∈ sent, p ∈ written comm [s] := by
  simp [written]

section Network

variable {s : SystemInfo} {comm : ReplicaCommunicator}
  (hs : s.ClusterView) (hlong : comm.isUseLongConn = true) (hroster : comm.replicas = s.getReplicas)
  (hendpoints : (s.getReplicas.map (·.endpoint)).Nodup)
  (hip : ∀ ri ∈ s.getReplicas, ri.ip.isEmpty = false)
  (hmax : (∀ ri ∈ comm.replicas, ri.id ≠ uint32Max) ∧ ∀ cl ∈ comm.clients, cl.id ≠ uint32Max)
include hs hlong hroster hendpoints hip hmax

/-- A send to `GetPrimaryOfShard(sh)` writes to the shard's coordinator, which does not forward,
or nowhere. -/
theorem written_toPrimary_not_forwardable (m : Request) (sh : UInt32) :
    ∀ p ∈ written comm [.toNode m (s.getPrimaryOfShard sh)], s.forwardable p = false := by
  rw [written_toPrimary hs hroster hendpoints hip hmax, if_pos hlong]
  cases hp : s.shardPrimaries sh with
  | none => simp
  | some q =>
    simp only [Option.map_some', Option.toList_some, List.mem_singleton]
    rintro _ rfl
    simp [SystemInfo.forwardable, SystemInfo.getPrimaryOfNode,
      hs.getShardOfNode_eq (hs.primary_mem sh q hp), SystemInfo.getPrimaryOfShard, hp]

/-- Nothing that a call on a client request or a PRE_PREPARE writes is forwardable. -/
theorem written_not_forwardable {r : Replica} (hr : r.systemInfo = s) {env : Env}
    {context : Option String} {m : Request} {o : Outcome}
    (hm : m.type ≠ .prepare ∧ m.type ≠ .commit) (h : r.dispatch env context m = some o) :
    ∀ p ∈ written comm o.sent, s.forwardable p = false := by
  intro p hp
  obtain ⟨snd, hsnd, hw⟩ := mem_written.mp hp
  have hprimary := written_toPrimary_not_forwardable hs hlong hroster hendpoints hip hmax
  cases ht : m.type <;> simp only [Replica.dispatch, ht] at h <;> cases h
  · rcases Replica.processNewRequest_sent hsnd with rfl | rfl | rfl | ⟨-, i, rfl⟩
    · simp [written, ReplicaCommunicator.transmit] at hw
    · rw [Replica.coordinator, SystemInfo.getPrimaryOfNode, hr] at hw
      exact hprimary _ _ p hw
    · -- the response to a failed `AssignNextSeq` is a response wherever it lands
      rw [written_toNode] at hw
      obtain ⟨_, -, rfl⟩ := List.mem_map.mp hw
      simp [SystemInfo.forwardable, Replica.seqFailResponse]
    · rw [hr] at hw
      exact hprimary _ _ p hw
  · rw [Replica.processProposeMsg_sent_eq hsnd, hr] at hw
    exact hprimary _ _ p hw
  · exact absurd ht hm.1
  · exact absurd ht hm.2

end Network

namespace Cluster

/-- The messages in flight that their receivers may forward. -/
def pending (s : SystemInfo) (c : Cluster) : Nat := c.inFlight.countP s.forwardable

/-- What a run keeps: every replica with the topology `s` and its own id, and no PREPARE or
COMMIT in flight. -/
structure Settling (s : SystemInfo) (c : Cluster) : Prop where
  replica : ∀ n, (c.replica n).systemInfo = s ∧ (c.replica n).selfId = n
  no_vote : ∀ p ∈ c.inFlight, p.2.type ≠ .prepare ∧ p.2.type ≠ .commit

variable {s : SystemInfo} {env : Env} {comm : ReplicaCommunicator} {context : Option String}
  {c c' : Cluster}

/-- The count of forwarded copies only grows. -/
theorem forwarded_mono (hrun : Relation.ReflTransGen (Deliver env comm context) c c') :
    c.forwarded ≤ c'.forwarded := by
  induction hrun with
  | refl => exact le_rfl
  | tail _ hd ih =>
    cases hd with
    | handle => exact ih.trans (Nat.le_add_right _ _)
    | drop => exact ih

/-- A forwarding call writes at most one copy. -/
theorem forwardedCopies_le_one (hlong : comm.isUseLongConn = true) {r : Replica} {m : Request}
    {o : Outcome} (hm : m.type ≠ .prepare ∧ m.type ≠ .commit)
    (h : r.dispatch env context m = some o) : forwardedCopies comm o ≤ 1 := by
  unfold forwardedCopies
  split_ifs with hret
  · have hlen : ∀ k m', (written comm [.toNode m' k]).length ≤ 1 := fun k m' => by
      rw [written_toNode, List.length_map]
      exact ReplicaCommunicator.sendMessageToNode_length_le hlong k
    cases ht : m.type <;> simp only [Replica.dispatch, ht] at h <;> cases h
    · rcases Replica.processNewRequest_cases env r context m with
        ⟨_, he⟩ | ⟨-, he⟩ | ⟨-, -, -, -, -, -, -, he⟩ <;> rw [he] at hret ⊢
      · simp at hret
      · exact hlen _ _
      · simp at hret
    · by_cases hf : r.forwards m.senderId
      · rw [Replica.processProposeMsg, if_pos hf]
        exact hlen _ _
      · rw [Replica.processProposeMsg_sent_eq_nil (by simpa using hf)]
        exact Nat.zero_le _
    · exact absurd ht hm.1
    · exact absurd ht hm.2
  · exact Nat.zero_le _

variable (hs : s.ClusterView) (hlong : comm.isUseLongConn = true)
  (hroster : comm.replicas = s.getReplicas) (hendpoints : (s.getReplicas.map (·.endpoint)).Nodup)
  (hip : ∀ ri ∈ s.getReplicas, ri.ip.isEmpty = false)
  (hmax : (∀ ri ∈ comm.replicas, ri.id ≠ uint32Max) ∧ ∀ cl ∈ comm.clients, cl.id ≠ uint32Max)
include hs hlong hroster hendpoints hip hmax

/-- One delivery keeps the replicas and the absence of votes, and the forwarded copies plus the
forwardable messages in flight do not grow. -/
theorem Settling.deliver (hi : c.Settling s) (hd : Deliver env comm context c c') :
    c'.Settling s ∧ c'.forwarded + c'.pending s ≤ c.forwarded + c.pending s := by
  have hv := inFlight_deliver (fun m => m.type ≠ .prepare ∧ m.type ≠ .commit) hi.no_vote
    (fun _ _ _ hin h => (Replica.dispatch_of_not_vote (hi.no_vote _ hin) h).1) hd
  cases hd with
  | drop before after n m hnext _ =>
    refine ⟨⟨hi.replica, hv⟩, Nat.add_le_add_left ?_ _⟩
    simp only [pending, hnext, List.countP_append, List.countP_cons]
    omega
  | handle before after n m o hnext _ hcall =>
    have hin : (n, m) ∈ c.inFlight := hnext ▸ by simp
    have hm := hi.no_vote _ hin
    obtain ⟨hid, hsys, -⟩ := Replica.dispatch_frame hcall
    have hreplica : ∀ k, (Function.update c.replica n o.replica k).systemInfo = s ∧
        (Function.update c.replica n o.replica k).selfId = k := fun k =>
      ⟨(update_keeps _ hsys k).trans (hi.replica k).1, (update_keeps _ hid k).trans (hi.replica k).2⟩
    have hnew : (written comm o.sent).countP s.forwardable = 0 :=
      List.countP_eq_zero.mpr fun p hp => by
        simpa using written_not_forwardable hs hlong hroster hendpoints hip hmax
          (hi.replica n).1 hm hcall p hp
    -- a call at a coordinator does not forward; elsewhere it takes a forwardable message
    have hcopies : forwardedCopies comm o ≤ if s.forwardable (n, m) then 1 else 0 := by
      split_ifs with hf
      · exact forwardedCopies_le_one hlong hm hcall
      · have hcoord : (c.replica n).coordinator = (c.replica n).selfId := by
          have hresp : m.type ≠ .response := fun ht => by
            simp [Replica.dispatch, ht] at hcall
          simp only [SystemInfo.forwardable, bne_iff_ne, ne_eq, Bool.and_eq_true,
            not_and, Decidable.not_not] at hf
          rw [Replica.coordinator, (hi.replica n).1, (hi.replica n).2]
          exact hf hresp
        simp [forwardedCopies, Replica.dispatch_ret_of_coordinator hcoord hcall]
    refine ⟨⟨hreplica, hv⟩, ?_⟩
    simp only [pending, hnext, List.countP_append, List.countP_cons, hnew]
    split_ifs at hcopies ⊢ <;> omega

/-- Every run keeps `Settling`, and the forwards so far plus those pending never grow. -/
theorem Settling.run (hi : c.Settling s)
    (hrun : Relation.ReflTransGen (Deliver env comm context) c c') :
    c'.Settling s ∧ c'.forwarded + c'.pending s ≤ c.forwarded + c.pending s := by
  induction hrun with
  | refl => exact ⟨hi, le_rfl⟩
  | tail _ hd ih =>
    obtain ⟨hi', hle⟩ := ih
    obtain ⟨hi'', hle'⟩ := hi'.deliver hs hlong hroster hendpoints hip hmax hd
    exact ⟨hi'', hle'.trans hle⟩

end Cluster

section Runs

variable {s : SystemInfo} {env : Env} {comm : ReplicaCommunicator} {context : Option String}
  {c₀ c : Cluster}

/-- **Forwarding ends with long connections.** Take a topology with the ClusterView invariant, a
communicator with long connections that lists its roster, with distinct endpoints and every ip
set, and has no entry of id `UINT32_MAX`, and a cluster whose replicas share the topology and know
their own ids, with no PREPARE or COMMIT in flight. Under every order of deliveries and every
environment, the copies that forwarding writes over the whole run are at most the messages in
flight at its start that are not responses and sit at a node that is not its shard's coordinator,
and the number of such messages in flight never grows. -/
theorem forwarding_bounded (hs : s.ClusterView) (hlong : comm.isUseLongConn = true)
    (hroster : comm.replicas = s.getReplicas) (hendpoints : (s.getReplicas.map (·.endpoint)).Nodup)
    (hip : ∀ ri ∈ s.getReplicas, ri.ip.isEmpty = false)
    (hmax : (∀ ri ∈ comm.replicas, ri.id ≠ uint32Max) ∧ ∀ cl ∈ comm.clients, cl.id ≠ uint32Max)
    (hc : ∀ n, (c₀.replica n).systemInfo = s ∧ (c₀.replica n).selfId = n)
    (hflight : ∀ p ∈ c₀.inFlight, p.2.type ≠ .prepare ∧ p.2.type ≠ .commit)
    (hrun : Relation.ReflTransGen (Deliver env comm context) c₀ c) :
    c.forwarded ≤ c₀.forwarded + c₀.inFlight.countP s.forwardable ∧
      c.inFlight.countP s.forwardable ≤ c₀.inFlight.countP s.forwardable := by
  have h := (Cluster.Settling.run hs hlong hroster hendpoints hip hmax ⟨hc, hflight⟩ hrun).2
  have hmono := Cluster.forwarded_mono hrun
  simp only [Cluster.pending] at h
  omega

/-- Replicas `1` to `4` in two shards, `{1, 3}` and `{2, 4}`, with long connections; a client
request reaches `3`, which forwards it to `1`, and `1` proposes: the hypotheses hold, the run
writes one forwarded copy, and the one forwardable message at the start bounds it. -/
theorem forwarding_bounded_four_replicas :
    let s := (((SystemInfo.init 0).setShardCount 2).run
      ([⟨1, "10.0.0.1", 10001⟩, ⟨2, "10.0.0.2", 10002⟩, ⟨3, "10.0.0.3", 10003⟩,
        ⟨4, "10.0.0.4", 10004⟩].map .addReplica)).getD (SystemInfo.init 0)
    let comm : ReplicaCommunicator := ⟨s.getReplicas, [], true⟩
    let env : Env := { verifyMessage := fun _ _ => true, signMessage := some,
                       preVerifyFunc := none, needQc := false, isFaulty := false,
                       maxProcessTxn := 8, quorum := 2 }
    let c₀ : Cluster := ⟨fun n => Replica.init n s, fun _ => false,
      [(3, { (default : Request) with hash := "a" })], 0⟩
    s.ClusterView ∧ comm.isUseLongConn = true ∧ comm.replicas = s.getReplicas ∧
      (s.getReplicas.map (·.endpoint)).Nodup ∧ (∀ ri ∈ s.getReplicas, ri.ip.isEmpty = false) ∧
      ((∀ ri ∈ comm.replicas, ri.id ≠ uint32Max) ∧ ∀ cl ∈ comm.clients, cl.id ≠ uint32Max) ∧
      (∀ n, (c₀.replica n).systemInfo = s ∧ (c₀.replica n).selfId = n) ∧
      (∀ p ∈ c₀.inFlight, p.2.type ≠ .prepare ∧ p.2.type ≠ .commit) ∧
      ∃ c, Relation.ReflTransGen (Deliver env comm (some "sig")) c₀ c ∧ c.forwarded = 1 ∧
        c.forwarded ≤ c₀.forwarded + c₀.inFlight.countP s.forwardable ∧
        c.inFlight.countP s.forwardable ≤ c₀.inFlight.countP s.forwardable := by
  intro s comm env c₀
  have hs : s.ClusterView := @SystemInfo.clusterView_run (SystemInfo.init 0) s 2
    (([⟨1, "10.0.0.1", 10001⟩, ⟨2, "10.0.0.2", 10002⟩, ⟨3, "10.0.0.3", 10003⟩,
      ⟨4, "10.0.0.4", 10004⟩] : List ReplicaInfo).map .addReplica) List.nodup_nil (by decide) rfl
  have hendpoints : (s.getReplicas.map (·.endpoint)).Nodup := by decide
  have hip : ∀ ri ∈ s.getReplicas, ri.ip.isEmpty = false := by decide
  have hmax : (∀ ri ∈ comm.replicas, ri.id ≠ uint32Max) ∧ ∀ cl ∈ comm.clients, cl.id ≠ uint32Max :=
    ⟨by decide, by decide⟩
  have hc : ∀ n, (c₀.replica n).systemInfo = s ∧ (c₀.replica n).selfId = n := fun _ => ⟨rfl, rfl⟩
  have hflight : ∀ p ∈ c₀.inFlight, p.2.type ≠ .prepare ∧ p.2.type ≠ .commit := by decide
  let a := { (default : Request) with hash := "a" }
  let o₁ := (c₀.replica 3).processNewRequest env (some "sig") a
  have h₁ := @Deliver.handle env comm (some "sig") c₀ [] [] 3 a o₁ rfl rfl rfl
  let c₁ : Cluster := ⟨Function.update c₀.replica 3 o₁.replica,
    Function.update c₀.crashed 3 o₁.ret.isNone, [] ++ [] ++ written comm o₁.sent,
    c₀.forwarded + forwardedCopies comm o₁⟩
  have h₂ := @Deliver.handle env comm (some "sig") c₁ [] [] 1 a _ (by decide) (by decide) rfl
  have hrun := Relation.ReflTransGen.tail (.single h₁) h₂
  exact ⟨hs, rfl, rfl, hendpoints, hip, hmax, hc, hflight, _, hrun, by decide,
    forwarding_bounded hs rfl rfl hendpoints hip hmax hc hflight hrun⟩

end Runs

section Disagreeing

variable {env : Env} {comm : ReplicaCommunicator} {context : Option String}

/-- Delivering a consensus message to a live replica that forwards it writes one copy, to the
replica `k` that a write to its coordinator reaches, and changes no replica. -/
theorem forward_long_step {c : Cluster} {n k : UInt32} {m : Request} (hlive : c.crashed n = false)
    (htype : m.type = .prePrepare ∨ m.type = .prepare ∨ m.type = .commit)
    (hf : (c.replica n).forwards m.senderId = true)
    (hto : (comm.sendMessageToNode (c.replica n).coordinator).map (·.id) = [k])
    (hin : (n, m) ∈ c.inFlight) :
    ∃ c', Deliver env comm context c c' ∧ c'.replica = c.replica ∧ c'.crashed = c.crashed ∧
      (k, m) ∈ c'.inFlight ∧ c'.forwarded = c.forwarded + 1 := by
  obtain ⟨before, after, hsplit⟩ := List.append_of_mem hin
  have hwritten : written comm ((c.replica n).forward m).sent = [(k, m)] := by
    change written comm [.toNode m (c.replica n).coordinator] = _
    rw [written_toNode, show (fun ri : ReplicaInfo => (ri.id, m)) = (·, m) ∘ (·.id) from rfl,
      ← List.map_map, hto]
    rfl
  refine ⟨_, .handle before after n m _ hsplit hlive (Replica.dispatch_of_forwards htype hf),
    by simp [Replica.forward], ?_, ?_, ?_⟩
  · simpa [Replica.forward] using hlive.symm
  · rw [hwritten]
    exact List.mem_append_right _ (List.mem_singleton_self _)
  · rw [forwardedCopies, hwritten]
    rfl

/-- **Replicas that disagree on the topology forward without end.** Take a communicator with long
connections, distinct ids and endpoints, and two of its replicas with an ip set. In a cluster where
both are live, both forward a consensus message, and each one's coordinator, in its own topology,
is the other, the message in flight at the first passes between them for ever: for every `k`
there is a run of `k` deliveries that writes `k` forwarded copies. -/
theorem forwarding_ping_pong (hlong : comm.isUseLongConn = true)
    (hids : (comm.replicas.map (·.id)).Nodup) (hendpoints : (comm.replicas.map (·.endpoint)).Nodup)
    {ra rb : ReplicaInfo} (hra : ra ∈ comm.replicas) (hrb : rb ∈ comm.replicas)
    (hip : ra.ip.isEmpty = false ∧ rb.ip.isEmpty = false) {c : Cluster} {m : Request}
    (htype : m.type = .prePrepare ∨ m.type = .prepare ∨ m.type = .commit)
    (hlive : c.crashed ra.id = false ∧ c.crashed rb.id = false)
    (hf : (c.replica ra.id).forwards m.senderId = true ∧
      (c.replica rb.id).forwards m.senderId = true)
    (hcoord : (c.replica ra.id).coordinator = rb.id ∧ (c.replica rb.id).coordinator = ra.id)
    (hin : (ra.id, m) ∈ c.inFlight) (k : Nat) :
    ∃ c', Relation.ReflTransGen (Deliver env comm context) c c' ∧ c'.forwarded = c.forwarded + k := by
  -- with long connections a write to a replica's id reaches that replica alone
  have hto : ∀ r ∈ comm.replicas, r.ip.isEmpty = false →
      (comm.sendMessageToNode r.id).map (·.id) = [r.id] := fun r hr hipr => by
    rw [ReplicaCommunicator.sendMessageToNode_of_mem hids hr hipr,
      ReplicaCommunicator.sendSingleMessage_long hlong,
      ReplicaCommunicator.workerTarget_of_mem hendpoints hr hipr]
    rfl
  induction k generalizing c ra rb with
  | zero => exact ⟨c, .refl, rfl⟩
  | succ k ih =>
    obtain ⟨c₁, hstep, hrep, hcr, hin₁, hfw⟩ := forward_long_step hlive.1 htype hf.1
      (by rw [hcoord.1]; exact hto rb hrb hip.2) hin
    -- the copy now sits at the other replica, with the roles swapped
    obtain ⟨c', hrun, hfw'⟩ := ih hrb hra hip.symm (by rw [hcr]; exact hlive.symm)
      (by rw [hrep]; exact hf.symm) (by rw [hrep]; exact hcoord.symm) hin₁
    exact ⟨c', .head hstep hrun, by omega⟩

/-- Replicas `1`, `2` and `3` join two shards, in the order `2, 3, 1` at replica `1` and
`1, 3, 2` at replica `2`: at `1` the first shard is `[2, 1]`, at `2` it is `[1, 2]`, and `3` is
alone in the other shard at both. A PRE_PREPARE from `3` written to `1` passes between `1` and `2`
without end. -/
theorem forwarding_ping_pong_reordered :
    let r₁ : ReplicaInfo := ⟨1, "10.0.0.1", 10001⟩
    let r₂ : ReplicaInfo := ⟨2, "10.0.0.2", 10002⟩
    let r₃ : ReplicaInfo := ⟨3, "10.0.0.3", 10003⟩
    let s₁ := (((SystemInfo.init 0).setShardCount 2).run
      [.addReplica r₂, .addReplica r₃, .addReplica r₁]).getD (SystemInfo.init 0)
    let s₂ := (((SystemInfo.init 0).setShardCount 2).run
      [.addReplica r₁, .addReplica r₃, .addReplica r₂]).getD (SystemInfo.init 0)
    let comm : ReplicaCommunicator := ⟨[r₁, r₂, r₃], [], true⟩
    let env : Env := { verifyMessage := fun _ _ => true, signMessage := some,
                       preVerifyFunc := none, needQc := false, isFaulty := false,
                       maxProcessTxn := 8, quorum := 2 }
    let m : Request := { (default : Request) with type := .prePrepare, seq := 1, senderId := 3 }
    let c : Cluster :=
      ⟨fun n => Replica.init n (if n = 2 then s₂ else s₁), fun _ => false, [(1, m)], 0⟩
    s₁.getNodesInShard 0 = [2, 1] ∧ s₂.getNodesInShard 0 = [1, 2] ∧
      s₁.getNodesInShard 1 = [3] ∧ s₂.getNodesInShard 1 = [3] ∧
      ∀ k, ∃ c', Relation.ReflTransGen (Deliver env comm (some "sig")) c c' ∧
        c'.forwarded = c.forwarded + k := by
  intro r₁ r₂ r₃ s₁ s₂ comm env m c
  exact ⟨by decide, by decide, by decide, by decide, fun k =>
    forwarding_ping_pong rfl (by decide) (by decide) (show r₁ ∈ comm.replicas by decide)
      (show r₂ ∈ comm.replicas by decide) ⟨rfl, rfl⟩ (.inl (rfl : m.type = .prePrepare)) ⟨rfl, rfl⟩
      ⟨by decide, by decide⟩ ⟨by decide, by decide⟩ (by decide) k⟩

end Disagreeing

end ShardedPbft
