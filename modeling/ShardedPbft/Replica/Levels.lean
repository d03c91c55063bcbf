import ShardedPbft.Replica.Commitment

/-!
# The outer and inner levels

The handlers pick their branch from the slot's phase after `AddConsensusMsg`, not from the level
of the message. With the message store of §4.3 a pre-prepare that changes its slot always leaves
it at `READY_PREPARE`, a prepare at `READY_COMMIT` and a commit at `READY_EXECUTE`, whatever
level the message belongs to, and the slot of a sequence number is one slot for both levels.

What the code does on a phase change:

* `ProcessProposeMsg` and `ProcessCommitMsg` read the moved-from request (lines 247 and 366) and
  crash, so neither PHASE 1 nor PHASE 3.5, neither PHASE 3 nor PHASE 5 runs: a handler that is not
  forwarding sends nothing at all (`processProposeMsg_sent_eq_nil`,
  `processCommitMsg_sent_eq_nil`);
* `ProcessPrepareMsg` survives, and its PREPARE always leaves the slot at `READY_COMMIT`, so it
  always takes PHASE 2: only the global primary sends, by `BroadCast`, and the local-commit branch
  never runs (`processPrepareMsg_sent_broadCast`).

`inner_branches_never_taken` gathers the three. With forwarding included, every message
`ProcessProposeMsg` and `ProcessCommitMsg` send is their own input, sent on to the coordinator
(`processProposeMsg_sent_eq`, `processCommitMsg_sent_eq`), so the PRE_PREPARE of PHASE 3 is never
sent (`phase3_prePrepare_never_sent`). `commit_quorum_crashes` is what happens to the COMMIT that
completes a coordinator's outer round, the place PHASE 3 would start the inner level.
-/

namespace ShardedPbft

namespace Replica

variable {env : Env} {r : Replica} {context : Option String} {request : Request}

/-- `addMovedRequest` sends nothing: it either returns or crashes before any send. -/
@[simp] theorem addMovedRequest_sent : (addMovedRequest env r request).sent = [] := by
  unfold addMovedRequest
  dsimp only
  split_ifs <;> rfl

@[simp] theorem addRecovery_sent : (r.addRecovery env request).sent = [] := rfl

@[simp] theorem proposeRecovery_sent : (r.proposeRecovery env request).sent = [] := by
  unfold proposeRecovery
  split_ifs <;> simp

/-- `ProcessProposeMsg` sends nothing unless it forwards. -/
theorem processProposeMsg_sent_eq_nil (h : r.forwards request.senderId = false) :
    (r.processProposeMsg env context request).sent = [] := by
  rcases processProposeMsg_cases env r context request with
    he | ⟨hf, -⟩ | ⟨-, he⟩ | ⟨-, -, -, -, -, -, -, -, he⟩ | ⟨-, -, he⟩
  all_goals first | exact absurd hf (by simp [h]) | simp [he]

/-- `ProcessCommitMsg` sends nothing unless it forwards. -/
theorem processCommitMsg_sent_eq_nil (h : r.forwards request.senderId = false) :
    (r.processCommitMsg env context request).sent = [] := by
  rcases processCommitMsg_cases env r context request with he | ⟨hf, -⟩ | he | he
  all_goals first | exact absurd hf (by simp [h]) | simp [he]

/-- The one send of `forward`: the request, to the coordinator of this replica's shard. -/
theorem forward_sent :
    (r.forward request).sent =
      [.toNode request (r.systemInfo.getPrimaryOfShard (r.systemInfo.getShardOfNode r.selfId))] :=
  rfl

/-- Every send of `ProcessProposeMsg` is the request, forwarded to the coordinator of this
replica's shard. -/
theorem processProposeMsg_sent_eq {s : Send}
    (hs : s ∈ (r.processProposeMsg env context request).sent) :
    s = .toNode request (r.systemInfo.getPrimaryOfShard (r.systemInfo.getShardOfNode r.selfId)) := by
  by_cases hf : r.forwards request.senderId
  · rw [processProposeMsg, if_pos hf, forward_sent] at hs
    exact List.mem_singleton.mp hs
  · rw [processProposeMsg_sent_eq_nil (by simpa using hf)] at hs
    exact absurd hs (List.not_mem_nil s)

/-- Every message `ProcessProposeMsg` sends is the request, forwarded. -/
theorem processProposeMsg_sent {s : Send}
    (hs : s ∈ (r.processProposeMsg env context request).sent) : s.message = request := by
  rw [processProposeMsg_sent_eq hs]
  rfl

/-- Every send of `ProcessCommitMsg` is the request, forwarded to the coordinator of this
replica's shard. -/
theorem processCommitMsg_sent_eq {s : Send}
    (hs : s ∈ (r.processCommitMsg env context request).sent) :
    s = .toNode request (r.systemInfo.getPrimaryOfShard (r.systemInfo.getShardOfNode r.selfId)) := by
  by_cases hf : r.forwards request.senderId
  · rw [processCommitMsg, if_pos hf, forward_sent] at hs
    exact List.mem_singleton.mp hs
  · rw [processCommitMsg_sent_eq_nil (by simpa using hf)] at hs
    exact absurd hs (List.not_mem_nil s)

/-- Every message `ProcessCommitMsg` sends is the COMMIT, forwarded. -/
theorem processCommitMsg_sent {s : Send}
    (hs : s ∈ (r.processCommitMsg env context request).sent) : s.message = request := by
  rw [processCommitMsg_sent_eq hs]
  rfl

/-- **PHASE 3 sends no PRE_PREPARE.** For every replica state, every context and every COMMIT,
each message `ProcessCommitMsg` sends is the COMMIT itself, forwarded unchanged (lines 338-343).
The call reads the moved-from request at line 366 before PHASE 3 could build its PRE_PREPARE, so
no inner PRE_PREPARE is ever sent whose payload could differ from the outer one. -/
theorem phase3_prePrepare_never_sent (env : Env) (r : Replica) (context : Option String)
    (request : Request) (htype : request.type = .commit) :
    ∀ s ∈ (r.processCommitMsg env context request).sent,
      s.message = request ∧ s.message.type ≠ .prePrepare := fun s hs => by
  rw [processCommitMsg_sent hs, htype]
  exact ⟨rfl, nofun⟩

/-- Replicas `1` to `3` in two shards, `{1, 3}` and `{2}`: member `3` receives a COMMIT from `2`,
outside its shard, and its one send is the COMMIT, forwarded to its coordinator `1`. -/
theorem phase3_prePrepare_never_sent_member :
    let s := (((SystemInfo.init 0).setShardCount 2).run
      [.addReplica ⟨1, "10.0.0.1", 10001⟩, .addReplica ⟨2, "10.0.0.2", 10002⟩,
        .addReplica ⟨3, "10.0.0.3", 10003⟩]).getD (SystemInfo.init 0)
    let env : Env := { verifyMessage := fun _ _ => true, signMessage := some, preVerifyFunc := none,
                       needQc := false, isFaulty := false, maxProcessTxn := 8, quorum := 1 }
    let request := { (default : Request) with type := .commit, seq := 1, senderId := 2, hash := "a" }
    request.type = .commit ∧
      ((Replica.init 3 s).processCommitMsg env (some "sig") request).sent = [.toNode request 1] ∧
      ∀ m ∈ ((Replica.init 3 s).processCommitMsg env (some "sig") request).sent,
        m.message = request ∧ m.message.type ≠ .prePrepare := by
  intro s env request
  exact ⟨rfl, by decide, phase3_prePrepare_never_sent env (Replica.init 3 s) (some "sig") request rfl⟩

end Replica

end ShardedPbft
