import Mathlib.Logic.Relation
import ShardedPbft.Replica.Proposal
import ShardedPbft.Transport.ReplicaCommunicator

/-!
# How far a forwarded message travels

A replica that is not its shard's coordinator hands a client request, or a PRE_PREPARE, PREPARE or
COMMIT from outside its shard, to `SendMessage(message, coordinator)` and returns `-3`. A call
returns `-3` in no other way (`dispatch_ret_forward`).

The cluster model below runs the entry points on the messages the communicator writes. With long
connections the copy is written to the coordinator alone, and the coordinator's call on it does
not forward again (`forward_one_hop_long`). With short connections `SendSingleMessage` writes the
copy to every replica, the forwarder included. The routing test gives the same answer on the
forwarder's own copy, and forwarding changes nothing the test reads, so the forwarder forwards
again: one delivery sets off forwarding that never ends (`short_forwarding_never_ends`).
-/

namespace ShardedPbft

/-- No answer of `AddConsensusMsg` reads as the forwarding code `-3`. -/
theorem CollectorResultCode.toInt_ne_forward (c : CollectorResultCode) : c.toInt ≠ -3 := by
  cases c <;> decide

/-- No return code made of an answer of `AddConsensusMsg` is `-3`. -/
theorem CollectorResultCode.code_ne_forward (c : CollectorResultCode) : c.code ≠ -3 := by
  cases c <;> decide

namespace Replica

/-- Modelled from the spec: the entry point a parsed message is dispatched to, by its type. A
response is for the client, and no entry point takes it. -/
def dispatch (env : Env) (r : Replica) (context : Option String) (m : Request) : Option Outcome :=
  match m.type with
  | .newRequest => some (r.processNewRequest env context m)
  | .prePrepare => some (r.processProposeMsg env context m)
  | .prepare => some (r.processPrepareMsg env context m)
  | .commit => some (r.processCommitMsg env context m)
  | .response => none

/-! ## Only forwarding returns `-3` -/

variable {env : Env} {r : Replica} {context : Option String} {m : Request} {o : Outcome}

/-- The recovery path of a handler never returns `-3`. -/
theorem addRecovery_ret : (r.addRecovery env m).ret ≠ some (-3) := by
  simp [addRecovery, CollectorResultCode.toInt_ne_forward]

/-- A handler ending in `AddConsensusMsg` never returns `-3`. -/
theorem addMovedRequest_ret : (addMovedRequest env r m).ret ≠ some (-3) := by
  unfold addMovedRequest
  dsimp only
  split_ifs <;> simp [CollectorResultCode.code_ne_forward]

/-- A recovery PRE_PREPARE never makes `ProcessProposeMsg` return `-3`. -/
theorem proposeRecovery_ret : (r.proposeRecovery env m).ret ≠ some (-3) := by
  unfold proposeRecovery
  split_ifs
  · exact addRecovery_ret
  · simp

/-- Sending the COMMIT never returns `-3`. -/
theorem emitCommit_ret {commit : Request} {seq : UInt64} :
    (r.emitCommit env commit seq).ret ≠ some (-3) := by
  unfold emitCommit
  split
  · simp
  · split_ifs <;> simp

/-- The calls that return `-3`, one case per handler. -/
theorem ret_forward_cases (h : r.dispatch env context m = some o) (hret : o.ret = some (-3)) :
    (m.type = .newRequest ∧ r.selfId ≠ r.coordinator ∧
      o = .done (-3) { r with requestComplained := r.requestComplained ++ [(context, m)] }
        [.toNode m r.coordinator]) ∨
    (m.type ≠ .newRequest ∧ r.forwards m.senderId ∧ o = r.forward m) := by
  obtain ⟨type⟩ := m
  cases type <;> simp only [dispatch] at h <;> cases h
  · rcases processNewRequest_cases env r context _ with
      ⟨_, he⟩ | ⟨hc, he⟩ | ⟨-, -, -, -, -, -, -, he⟩ <;>
      rw [he] at hret ⊢
    · simp at hret
    · exact .inl ⟨rfl, hc, rfl⟩
    · simp at hret
  · rcases processProposeMsg_cases env r context _ with
      he | ⟨hf, he⟩ | ⟨-, he⟩ | ⟨-, -, -, -, -, -, -, -, he⟩ | ⟨-, -, he⟩ <;>
      rw [he] at hret ⊢
    · simp at hret
    · exact .inr ⟨nofun, hf, rfl⟩
    · exact absurd hret proposeRecovery_ret
    · exact absurd hret addMovedRequest_ret
    · exact absurd hret addMovedRequest_ret
  · rcases processPrepareMsg_cases env r context _ with
      he | ⟨hf, he⟩ | he | ⟨-, -, he⟩ | ⟨-, -, he⟩ <;> rw [he] at hret ⊢
    · simp at hret
    · exact .inr ⟨nofun, hf, rfl⟩
    · exact absurd hret addRecovery_ret
    · simp [CollectorResultCode.code_ne_forward] at hret
    · exact absurd hret emitCommit_ret
  · rcases processCommitMsg_cases env r context _ with he | ⟨hf, he⟩ | he | he <;>
      rw [he] at hret ⊢
    · simp at hret
    · exact .inr ⟨nofun, hf, rfl⟩
    · exact absurd hret addRecovery_ret
    · exact absurd hret addMovedRequest_ret

/-- A call returns `-3` only when it forwards: a client request at a replica that is not its
shard's coordinator, or a consensus message the routing test sends on. -/
theorem dispatch_ret_forward (h : r.dispatch env context m = some o) (hret : o.ret = some (-3)) :
    (m.type = .newRequest ∧ r.selfId ≠ r.coordinator ∧
      o = .done (-3) { r with requestComplained := r.requestComplained ++ [(context, m)] }
        [.toNode m r.coordinator]) ∨
    (m.type ≠ .newRequest ∧ r.forwards m.senderId ∧ o = r.forward m) :=
  ret_forward_cases h hret

/-- A replica that no shard lists has no coordinator of its own (`GetPrimaryOfNode` answers
`UINT32_MAX`), so it forwards a client request, and the call returns `-3`. -/
theorem dispatch_ret_forward_unlisted :
    let r := Replica.init 2 (SystemInfo.init 1)
    let env : Env := { verifyMessage := fun _ _ => true, signMessage := some,
                       preVerifyFunc := none, needQc := false, isFaulty := false,
                       maxProcessTxn := 8, quorum := 1 }
    let o := r.processNewRequest env (some "sig") default
    r.dispatch env (some "sig") default = some o ∧ o.ret = some (-3) ∧
      (((default : Request).type = .newRequest ∧ r.selfId ≠ r.coordinator ∧
        o = .done (-3) { r with requestComplained := r.requestComplained ++ [(some "sig", default)] }
          [.toNode default r.coordinator]) ∨
      ((default : Request).type ≠ .newRequest ∧ r.forwards (default : Request).senderId ∧
        o = r.forward default)) := by
  intro r env o
  have hret : o.ret = some (-3) := by decide
  exact ⟨rfl, hret, @dispatch_ret_forward env r (some "sig") default o rfl hret⟩

/-- A shard's coordinator never returns `-3`. -/
theorem dispatch_ret_of_coordinator (hc : r.coordinator = r.selfId)
    (h : r.dispatch env context m = some o) : o.ret ≠ some (-3) := fun hret => by
  rcases ret_forward_cases h hret with ⟨-, hne, -⟩ | ⟨-, hf, -⟩
  · exact hne hc.symm
  · simp [forwards_of_coordinator hc] at hf

/-- A consensus message that the routing test sends on is forwarded, whatever the replica's state
and the context. -/
theorem dispatch_of_forwards (htype : m.type = .prePrepare ∨ m.type = .prepare ∨ m.type = .commit)
    (hf : r.forwards m.senderId = true) : r.dispatch env context m = some (r.forward m) := by
  rcases htype with htype | htype | htype <;>
    simp [dispatch, htype, processProposeMsg, processPrepareMsg, processCommitMsg, hf]

end Replica

/-! ## The cluster -/

/-- A cluster over one communicator configuration: each replica's state by id, whether it has
crashed, the messages written to a replica and not yet taken, and, as a ghost counter, the copies
that forwarding calls have written. -/
structure Cluster where
  replica : UInt32 → Replica
  crashed : UInt32 → Bool
  inFlight : List (UInt32 × Request)
  forwarded : Nat

/-- The messages a call's sends write, each to the id of the replica entry the communicator
writes it to. -/
def written (comm : ReplicaCommunicator) (sent : List Send) : List (UInt32 × Request) :=
  sent.flatMap fun s => (comm.transmit s).map fun ri => (ri.id, s.message)

@[simp] theorem written_toNode (comm : ReplicaCommunicator) (m : Request) (n : UInt32) :
    written comm [.toNode m n] = (comm.sendMessageToNode n).map fun ri => (ri.id, m) := by
  simp [written, ReplicaCommunicator.transmit]

/-- The copies a call writes when it forwards, which is when it returns `-3`. -/
def forwardedCopies (comm : ReplicaCommunicator) (o : Outcome) : Nat :=
  if o.ret = some (-3) then (written comm o.sent).length else 0

/-- One delivery. Every message arrives with the context `context`: the signatures are checked
outside this model. -/
inductive Deliver (env : Env) (comm : ReplicaCommunicator) (context : Option String) :
    Cluster → Cluster → Prop
  /-- A live replica takes a message written to it and runs the entry point of its type; a call
  that crashes leaves the replica crashed. -/
  | handle {c : Cluster} (before after : List (UInt32 × Request)) (n : UInt32) (m : Request)
      (o : Outcome) (is_next : c.inFlight = before ++ (n, m) :: after)
      (is_live : c.crashed n = false) (is_handled : (c.replica n).dispatch env context m = some o) :
      Deliver env comm context c
        ⟨Function.update c.replica n o.replica, Function.update c.crashed n o.ret.isNone,
          before ++ after ++ written comm o.sent, c.forwarded + forwardedCopies comm o⟩
  /-- A message to a crashed replica, or a response, is taken by no entry point. -/
  | drop {c : Cluster} (before after : List (UInt32 × Request)) (n : UInt32) (m : Request)
      (is_next : c.inFlight = before ++ (n, m) :: after)
      (is_dropped : c.crashed n = true ∨ (c.replica n).dispatch env context m = none) :
      Deliver env comm context c { c with inFlight := before ++ after }

variable {env : Env} {comm : ReplicaCommunicator} {context : Option String}

/-! ## Long connections: one hop -/

/-- With long connections, in a cluster whose replicas share a topology that satisfies the
ClusterView invariant, and whose communicator lists the topology's roster with distinct endpoints
and every ip set: whatever a listed replica forwards is written to its shard's coordinator alone,
and the coordinator's own call on that copy does not forward it again. -/
theorem forward_one_hop_long {s : SystemInfo} (hs : s.ClusterView)
    (hlong : comm.isUseLongConn = true) (hroster : comm.replicas = s.getReplicas)
    (hendpoints : (s.getReplicas.map (·.endpoint)).Nodup)
    (hip : ∀ ri ∈ s.getReplicas, ri.ip.isEmpty = false)
    {r : Replica} {m : Request} {o : Outcome} (hr : r.systemInfo = s) {sh : UInt32}
    (hlisted : r.selfId ∈ s.getNodesInShard sh)
    (hcall : r.dispatch env context m = some o) (hret : o.ret = some (-3)) :
    written comm o.sent = [(r.coordinator, m)] ∧
      ∀ (rc : Replica) (context' : Option String) (o' : Outcome),
        rc.systemInfo = s → rc.selfId = r.coordinator →
        rc.dispatch env context' m = some o' → o'.ret ≠ some (-3) := by
  have hcoord : r.coordinator = s.getPrimaryOfShard sh := by
    rw [Replica.coordinator, SystemInfo.getPrimaryOfNode, hr, hs.getShardOfNode_eq hlisted]
  have hmem : s.getPrimaryOfShard sh ∈ s.getNodesInShard sh :=
    hs.getPrimaryOfShard_mem (List.ne_nil_of_mem hlisted)
  obtain ⟨ri, hri, hid⟩ := List.mem_map.mp (hs.listed_replica _ sh hmem)
  have hsend : comm.sendMessageToNode r.coordinator = [ri] := by
    rw [hcoord, ← hid, ReplicaCommunicator.sendMessageToNode_of_mem (hroster ▸ hs.replicas_nodup)
      (hroster ▸ hri) (hip ri hri), ReplicaCommunicator.sendSingleMessage_long hlong,
      ReplicaCommunicator.workerTarget_of_mem (hroster ▸ hendpoints) (hroster ▸ hri) (hip ri hri)]
  have hsent : o.sent = [.toNode m r.coordinator] := by
    rcases Replica.ret_forward_cases hcall hret with ⟨-, -, rfl⟩ | ⟨-, -, rfl⟩ <;> rfl
  refine ⟨by rw [hsent, written_toNode, hsend, List.map_singleton, hid, hcoord],
    fun rc context' o' hrc hself hcall' => Replica.dispatch_ret_of_coordinator ?_ hcall'⟩
  rw [Replica.coordinator, hrc, hself, hcoord, hs.getPrimaryOfNode_primary (List.ne_nil_of_mem hlisted)]

/-- The same four replicas with long connections: the PRE_PREPARE from `1` that `4` forwards is
written to `2` alone, and `2` does not forward it. -/
theorem forward_one_hop_four_replicas :
    let s := (((SystemInfo.init 0).setShardCount 2).run
      ([⟨1, "10.0.0.1", 10001⟩, ⟨2, "10.0.0.2", 10002⟩, ⟨3, "10.0.0.3", 10003⟩,
        ⟨4, "10.0.0.4", 10004⟩].map .addReplica)).getD (SystemInfo.init 0)
    let comm : ReplicaCommunicator := ⟨s.getReplicas, [], true⟩
    let m : Request := { (default : Request) with type := .prePrepare, seq := 1, senderId := 1 }
    let env : Env := { verifyMessage := fun _ _ => true, signMessage := some,
                       preVerifyFunc := none, needQc := false, isFaulty := false,
                       maxProcessTxn := 8, quorum := 2 }
    (Replica.init 4 s).coordinator = 2 ∧
      written comm ((Replica.init 4 s).forward m).sent = [((Replica.init 4 s).coordinator, m)] ∧
      ∀ (rc : Replica) (context' : Option String) (o' : Outcome),
        rc.systemInfo = s → rc.selfId = (Replica.init 4 s).coordinator →
        rc.dispatch env context' m = some o' → o'.ret ≠ some (-3) := by
  intro s comm m env
  have hs : s.ClusterView := @SystemInfo.clusterView_run (SystemInfo.init 0) s 2
    (([⟨1, "10.0.0.1", 10001⟩, ⟨2, "10.0.0.2", 10002⟩, ⟨3, "10.0.0.3", 10003⟩,
      ⟨4, "10.0.0.4", 10004⟩] : List ReplicaInfo).map .addReplica) List.nodup_nil (by decide) rfl
  exact ⟨by decide, @forward_one_hop_long env comm (some "sig") s hs rfl rfl (by decide)
    (by decide) (Replica.init 4 s) m _ rfl 1 (by decide) rfl rfl⟩

/-! ## Short connections: forwarding without end -/

section Short

variable (hshort : comm.isUseLongConn = false) {c : Cluster} {n : UInt32} {m : Request}
  (hlive : c.crashed n = false)
  (htype : m.type = .prePrepare ∨ m.type = .prepare ∨ m.type = .commit)
  (hf : (c.replica n).forwards m.senderId = true)
  (hself : ∃ ri ∈ comm.replicas, ri.id = n)
  (hcoord : (comm.lookup (·.id == (c.replica n).coordinator)).ip.isEmpty = false)
include hshort hlive htype hf hself hcoord

/-- With short connections, delivering a consensus message that a live replica forwards writes
one copy to every replica, the forwarder included, and changes no replica. -/
theorem forward_short_step (hin : (n, m) ∈ c.inFlight) :
    ∃ c', Deliver env comm context c c' ∧ c'.replica = c.replica ∧ c'.crashed = c.crashed ∧
      (n, m) ∈ c'.inFlight ∧ c'.forwarded = c.forwarded + comm.replicas.length := by
  obtain ⟨before, after, hsplit⟩ := List.append_of_mem hin
  have hwritten : written comm ((c.replica n).forward m).sent =
      comm.replicas.map fun ri => (ri.id, m) := by
    simp only [Replica.forward, Outcome.sent_done, written_toNode]
    simp [ReplicaCommunicator.sendMessageToNode, ReplicaCommunicator.sendMessageTo,
      ReplicaCommunicator.sendSingleMessage_short hshort, Replica.coordinator,
      SystemInfo.getPrimaryOfNode] at hcoord ⊢
    simp [hcoord]
  obtain ⟨ri, hri, hid⟩ := hself
  refine ⟨_, .handle before after n m _ hsplit hlive (Replica.dispatch_of_forwards htype hf),
    by simp [Replica.forward], ?_, ?_, ?_⟩
  · simpa [Replica.forward] using hlive.symm
  · rw [hwritten]
    exact List.mem_append_right _ (List.mem_map.mpr ⟨ri, hri, by rw [hid]⟩)
  · rw [forwardedCopies, hwritten, List.length_map]
    exact congrArg _ (if_pos rfl)

/-- **Forwarding never ends with short connections.** When a live replica that forwards a
consensus message has it in flight, its own copies keep coming back: for every `k` there is a run
of `k` deliveries that writes `k` times as many forwarded copies as there are replicas. -/
theorem short_forwarding_never_ends (hin : (n, m) ∈ c.inFlight) (k : Nat) :
    ∃ c', Relation.ReflTransGen (Deliver env comm context) c c' ∧
      c'.forwarded = c.forwarded + k * comm.replicas.length := by
  induction k generalizing c with
  | zero => exact ⟨c, .refl, by simp⟩
  | succ k ih =>
    obtain ⟨c₁, hstep, hrep, hcr, hin₁, hfw⟩ :=
      forward_short_step hshort hlive htype hf hself hcoord hin
    obtain ⟨c', hrun, hfw'⟩ := ih (hcr ▸ hlive) (hrep ▸ hf) (hrep ▸ hcoord) hin₁
    exact ⟨c', .head hstep hrun, by rw [hfw', hfw, Nat.succ_mul]; omega⟩

end Short

/-- Replicas `1` to `4` join two shards, `{1, 3}` and `{2, 4}`, with coordinators `1` and `2`, and
the communicator uses short connections. A PRE_PREPARE from `1` written to `4` sets off
forwarding without end: `4` forwards it to `2`, and each delivery writes four copies, one of them
back to `4`. -/
theorem short_forwarding_four_replicas :
    let s := (((SystemInfo.init 0).setShardCount 2).run
      ([⟨1, "10.0.0.1", 10001⟩, ⟨2, "10.0.0.2", 10002⟩, ⟨3, "10.0.0.3", 10003⟩,
        ⟨4, "10.0.0.4", 10004⟩].map .addReplica)).getD (SystemInfo.init 0)
    let comm : ReplicaCommunicator := ⟨s.getReplicas, [], false⟩
    let m : Request := { (default : Request) with type := .prePrepare, seq := 1, senderId := 1 }
    let c : Cluster := ⟨fun n => Replica.init n s, fun _ => false, [(4, m)], 0⟩
    let env : Env := { verifyMessage := fun _ _ => true, signMessage := some,
                       preVerifyFunc := none, needQc := false, isFaulty := false,
                       maxProcessTxn := 8, quorum := 2 }
    (c.replica 4).coordinator = 2 ∧ comm.replicas.length = 4 ∧
      ∀ k, ∃ c', Relation.ReflTransGen (Deliver env comm (some "sig")) c c' ∧
        c'.forwarded = c.forwarded + k * comm.replicas.length := by
  intro s comm m c env
  exact ⟨by decide, by decide, fun k =>
    @short_forwarding_never_ends env comm (some "sig") rfl c 4 m rfl (.inl rfl) (by decide)
      ⟨⟨4, "10.0.0.4", 10004⟩, by decide, rfl⟩ (by decide) (by decide) k⟩

end ShardedPbft
