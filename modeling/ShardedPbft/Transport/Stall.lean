import ShardedPbft.Replica.Levels
import ShardedPbft.Transport.Forwarding

/-!
# The cluster never prepares

`ProcessProposeMsg` and `ProcessCommitMsg` read the moved-from request whenever `AddConsensusMsg`
changes a slot, and crash there (lines 247 and 366). The PREPARE of PHASE 1 and the PRE_PREPARE and
PREPARE of PHASE 3 are sent only behind those reads, so no entry point ever sends a PREPARE, and
`ProcessPrepareMsg`, the only one that sends a COMMIT, needs a PREPARE to do so. This file follows
that through the runs of the cluster of `Transport.Forwarding`, under every order of deliveries,
every communicator and every environment.

* `cluster_never_prepares`: from a cluster with no PREPARE or COMMIT in flight and every slot
  `IDLE` or `READY_PREPARE`, no PREPARE or COMMIT is ever written, and no slot of any replica
  reaches `READY_COMMIT`: nothing is committed, and nothing is executed.
* `admission_crashes`: when moreover no message in flight has `is_recovery` set and the live
  replicas' slots are all `IDLE`, a live replica's slots stay `IDLE` for ever. The call that admits
  a PRE_PREPARE into a slot is the call that crashes its replica.
-/

namespace ShardedPbft

/-- A slot that no prepare quorum has moved: `IDLE`, or `READY_PREPARE`. -/
def Slot.Unprepared (slot : Slot) : Prop :=
  slot.phase = .idle ∨ slot.phase = .readyPrepare

section Store

variable {quorum : Nat} {store : UInt64 → Slot} {request : Request}

/-- A PRE_PREPARE leaves a slot as it was, or changes it to `READY_PREPARE`. -/
theorem Slot.add_prePrepare {slot : Slot} (ht : request.type = .prePrepare) :
    (slot.add quorum request).2 = slot ∨
      (slot.add quorum request).1 = .stateChanged ∧
        (slot.add quorum request).2.phase = .readyPrepare := by
  simp only [Slot.add, ht]
  split_ifs <;> simp

/-- A PRE_PREPARE that changes no phase leaves the whole store as it was. -/
theorem addConsensusMsg_prePrepare (ht : request.type = .prePrepare)
    (hch : (addConsensusMsg quorum store request).1 ≠ .stateChanged) :
    (addConsensusMsg quorum store request).2 = store := by
  simp only [addConsensusMsg] at hch ⊢
  rcases Slot.add_prePrepare ht with h | ⟨h, -⟩
  · rw [h, Function.update_eq_self]
  · exact absurd h hch

/-- A PRE_PREPARE keeps every slot of the store unprepared. -/
theorem Slot.Unprepared.addConsensusMsg (h : ∀ seq, (store seq).Unprepared)
    (ht : request.type = .prePrepare) (seq : UInt64) :
    ((addConsensusMsg quorum store request).2 seq).Unprepared := by
  simp only [ShardedPbft.addConsensusMsg, Function.update_apply]
  split_ifs with he
  · rcases Slot.add_prePrepare ht with h' | ⟨-, h'⟩
    · rw [h']; exact he ▸ h seq
    · exact .inr h'
  · exact h seq

end Store

namespace Replica

variable {env : Env} {r : Replica} {context : Option String} {request : Request}

/-! ## What a call on a client request or a PRE_PREPARE sends and stores -/

/-- Every send of `ProcessNewRequest`: the response for an executed hash, the request forwarded
to the coordinator, the response to a failed `AssignNextSeq` for the proxy, or, from a call that
returns `0`, the PRE_PREPARE for a shard's coordinator. -/
theorem processNewRequest_sent {s : Send}
    (hs : s ∈ (r.processNewRequest env context request).sent) :
    s = .response { request with seq := r.duplicates.checkIfExecuted request.hash } ∨
      s = .toNode request r.coordinator ∨ s = .toNode (r.seqFailResponse request) request.proxyId ∨
      (r.processNewRequest env context request).ret = some 0 ∧
        ∃ i, s = .toNode (r.prePrepareOf request r.nextSeq)
          (r.systemInfo.getPrimaryOfShard (UInt32.ofNat i)) := by
  generalize ho : r.processNewRequest env context request = o at hs ⊢
  rw [processNewRequest] at ho
  -- a rejection sends nothing
  by_cases h1 : unsigned context = true
  · rw [if_pos h1] at ho; subst ho; exact absurd hs (List.not_mem_nil s)
  rw [if_neg h1] at ho
  by_cases h2 : r.duplicates.checkIfExecuted request.hash ≠ 0
  · rw [if_pos h2] at ho; subst ho; exact .inl (List.mem_singleton.mp hs)
  rw [if_neg h2] at ho
  by_cases h3 : r.selfId ≠ r.coordinator
  · rw [if_pos h3] at ho; subst ho; exact .inr (.inl (List.mem_singleton.mp hs))
  rw [if_neg h3] at ho
  by_cases h4 : (!env.verifyMessage request.data request.dataSignature) = true
  · rw [if_pos h4] at ho; subst ho; exact absurd hs (List.not_mem_nil s)
  rw [if_neg h4] at ho
  by_cases h5 : env.preVerifyFails request = true
  · rw [if_pos h5] at ho; subst ho; exact absurd hs (List.not_mem_nil s)
  rw [if_neg h5] at ho
  split at ho
  · subst ho; exact absurd hs (List.not_mem_nil s)
  · dsimp only at ho
    split at ho
    · subst ho
      exact .inr (.inr (.inl (List.mem_singleton.mp hs)))
    · rename_i heq
      obtain ⟨rfl, rfl⟩ := assignNextSeq_eq_some heq
      subst ho
      obtain ⟨i, -, rfl⟩ := List.mem_map.mp hs
      exact .inr (.inr (.inr ⟨rfl, i, rfl⟩))

@[simp] theorem processNewRequest_store :
    (r.processNewRequest env context request).replica.store = r.store := by
  rcases processNewRequest_cases env r context request with
    ⟨_, he⟩ | ⟨-, he⟩ | ⟨-, -, -, -, -, -, -, he⟩ <;> rw [he] <;> rfl

/-- `addMovedRequest` changes only the store, whether it returns or crashes. -/
@[simp] theorem addMovedRequest_replica :
    (addMovedRequest env r request).replica =
      { r with store := (addConsensusMsg env.quorum r.store request).2 } := by
  unfold addMovedRequest
  dsimp only
  split_ifs <;> rfl

/-- `ProcessProposeMsg` changes the store only by `AddConsensusMsg` of the request. -/
theorem processProposeMsg_store :
    (r.processProposeMsg env context request).replica.store = r.store ∨
      (r.processProposeMsg env context request).replica.store =
        (addConsensusMsg env.quorum r.store request).2 := by
  rcases processProposeMsg_cases env r context request with
    he | ⟨-, he⟩ | ⟨-, he⟩ | ⟨-, -, -, -, -, -, -, -, he⟩ | ⟨-, -, he⟩ <;> rw [he]
  · exact .inl rfl
  · exact .inl rfl
  · unfold proposeRecovery
    split_ifs
    · exact .inr rfl
    · exact .inl rfl
  · exact .inr (congrArg Replica.store addMovedRequest_replica)
  · exact .inr (congrArg Replica.store addMovedRequest_replica)

/-- `addMovedRequest` on a PRE_PREPARE either crashes or leaves the store as it was. -/
theorem addMovedRequest_store_of_returns (ht : request.type = .prePrepare)
    (hret : (addMovedRequest env r request).ret.isSome) :
    (addMovedRequest env r request).replica.store = r.store := by
  unfold addMovedRequest at hret ⊢
  dsimp only at hret ⊢
  split_ifs at hret ⊢ with hch
  · simp at hret
  · exact addConsensusMsg_prePrepare ht hch

/-- A call of `ProcessProposeMsg` on a PRE_PREPARE without `is_recovery` that returns leaves the
store as it was. -/
theorem processProposeMsg_store_of_returns (ht : request.type = .prePrepare)
    (hrec : request.isRecovery = false)
    (hret : (r.processProposeMsg env context request).ret.isSome) :
    (r.processProposeMsg env context request).replica.store = r.store := by
  rcases processProposeMsg_cases env r context request with
    he | ⟨-, he⟩ | ⟨hr, -⟩ | ⟨-, -, -, -, -, -, -, -, he⟩ | ⟨-, -, he⟩
  · rw [he]; rfl
  · rw [he]; rfl
  · exact absurd hr (by simp [hrec])
  · rw [he] at hret ⊢; exact addMovedRequest_store_of_returns ht hret
  · rw [he] at hret ⊢; exact addMovedRequest_store_of_returns ht hret

/-- A call on a client request or a PRE_PREPARE sends neither a PREPARE nor a COMMIT, and changes
the store only by `AddConsensusMsg` of a PRE_PREPARE. -/
theorem dispatch_of_not_vote {m : Request} {o : Outcome} (hm : m.type ≠ .prepare ∧ m.type ≠ .commit)
    (h : r.dispatch env context m = some o) :
    (∀ s ∈ o.sent, s.message.type ≠ .prepare ∧ s.message.type ≠ .commit) ∧
      (o.replica.store = r.store ∨
        m.type = .prePrepare ∧ o.replica.store = (addConsensusMsg env.quorum r.store m).2) := by
  cases ht : m.type <;> simp only [dispatch, ht] at h <;> cases h
  · refine ⟨fun s hs => ?_, .inl processNewRequest_store⟩
    rcases processNewRequest_sent hs with rfl | rfl | rfl | ⟨-, _, rfl⟩ <;>
      simp [Send.message, ht, prePrepareOf, seqFailResponse]
  · refine ⟨fun s hs => by simp [processProposeMsg_sent hs, ht], ?_⟩
    exact processProposeMsg_store.imp_right fun he => ⟨rfl, he⟩
  · exact absurd ht hm.1
  · exact absurd ht hm.2

/-- A call on a client request or a PRE_PREPARE without `is_recovery` sends only messages without
it, and a call that returns leaves the store as it was. -/
theorem dispatch_of_not_recovery {m : Request} {o : Outcome}
    (hm : m.type ≠ .prepare ∧ m.type ≠ .commit) (hrec : m.isRecovery = false)
    (h : r.dispatch env context m = some o) :
    (∀ s ∈ o.sent, s.message.isRecovery = false) ∧ (o.ret.isSome → o.replica.store = r.store) := by
  cases ht : m.type <;> simp only [dispatch, ht] at h <;> cases h
  · refine ⟨fun s hs => ?_, fun _ => processNewRequest_store⟩
    rcases processNewRequest_sent hs with rfl | rfl | rfl | ⟨-, _, rfl⟩ <;>
      first | rfl | simp [Send.message, hrec, prePrepareOf]
  · exact ⟨fun s hs => by rw [processProposeMsg_sent hs, hrec],
      processProposeMsg_store_of_returns ht hrec⟩
  · exact absurd ht hm.1
  · exact absurd ht hm.2

/-- What every call keeps of its replica: the id, the topology and `max_executed_seq`, and
`highest_prepared_seq` unless it handles a PREPARE. -/
theorem dispatch_frame {m : Request} {o : Outcome} (h : r.dispatch env context m = some o) :
    o.replica.selfId = r.selfId ∧ o.replica.systemInfo = r.systemInfo ∧
      o.replica.maxExecutedSeq = r.maxExecutedSeq ∧
      (m.type ≠ .prepare → o.replica.highestPreparedSeq = r.highestPreparedSeq) := by
  cases ht : m.type <;> simp only [dispatch, ht] at h <;> cases h
  · rcases processNewRequest_cases env r context m with
      ⟨_, he⟩ | ⟨-, he⟩ | ⟨-, -, -, -, -, -, -, he⟩ <;> rw [he] <;> exact ⟨rfl, rfl, rfl, fun _ => rfl⟩
  · rcases processProposeMsg_cases env r context m with
      he | ⟨-, he⟩ | ⟨-, he⟩ | ⟨-, -, -, -, -, -, -, -, he⟩ | ⟨-, -, he⟩ <;> rw [he]
    all_goals first | exact ⟨rfl, rfl, rfl, fun _ => rfl⟩ |
      (rw [addMovedRequest_replica]; exact ⟨rfl, rfl, rfl, fun _ => rfl⟩) | skip
    -- the recovery path may move the counter, nothing else
    unfold proposeRecovery
    split_ifs <;> exact ⟨rfl, rfl, rfl, fun _ => rfl⟩
  · rcases processPrepareMsg_cases env r context m with
      he | ⟨-, he⟩ | he | ⟨-, -, he⟩ | ⟨-, -, he⟩ <;> rw [he] <;> (try rw [emitCommit_replica]) <;>
      exact ⟨rfl, rfl, rfl, fun h => absurd rfl h⟩
  · rcases processCommitMsg_cases env r context m with he | ⟨-, he⟩ | he | he <;> rw [he] <;>
      (try rw [addMovedRequest_replica]) <;> exact ⟨rfl, rfl, rfl, fun _ => rfl⟩

end Replica

/-! ## The cluster's runs -/

namespace Cluster

/-- What a run keeps: no PREPARE or COMMIT in flight, and every slot of every replica, crashed or
live, `IDLE` or `READY_PREPARE`. -/
structure Unprepared (c : Cluster) : Prop where
  no_vote : ∀ p ∈ c.inFlight, p.2.type ≠ .prepare ∧ p.2.type ≠ .commit
  slots : ∀ n seq, ((c.replica n).store seq).Unprepared

/-- What a run keeps when no message carries `is_recovery`: no PREPARE or COMMIT in flight, and
every slot of a live replica `IDLE`. -/
structure Unadmitted (c : Cluster) : Prop where
  no_vote : ∀ p ∈ c.inFlight, p.2.type ≠ .prepare ∧ p.2.type ≠ .commit
  not_recovery : ∀ p ∈ c.inFlight, p.2.isRecovery = false
  live_idle : ∀ n, c.crashed n = false → ∀ seq, ((c.replica n).store seq).phase = .idle

variable {env : Env} {comm : ReplicaCommunicator} {context : Option String} {c c' : Cluster}

/-- A field that a call keeps is the same at every replica after its delivery. -/
theorem update_keeps {β : Type} (f : Replica → β) {g : UInt32 → Replica} {n : UInt32} {r : Replica}
    (h : f r = f (g n)) (k : UInt32) : f (Function.update g n r k) = f (g k) := by
  rw [Function.apply_update (fun _ => f), Function.update_apply]
  split_ifs with hk
  · rw [hk, h]
  · rfl

/-- A message in flight after a delivery was in flight before it, or carries one of the sends of
the call. -/
theorem mem_handle {before after : List (UInt32 × Request)} {q p : UInt32 × Request}
    {sent : List Send} (hnext : c.inFlight = before ++ q :: after)
    (hp : p ∈ before ++ after ++ written comm sent) :
    p ∈ c.inFlight ∨ ∃ s ∈ sent, p.2 = s.message := by
  rcases List.mem_append.mp hp with hp | hp
  · exact .inl (hnext ▸ ((List.sublist_cons_self q after).append_left before).subset hp)
  · obtain ⟨s, hs, hp⟩ := List.mem_flatMap.mp hp
    obtain ⟨_, -, rfl⟩ := List.mem_map.mp hp
    exact .inr ⟨s, hs, rfl⟩

/-- A delivery writes only what its call sends: a property of the messages in flight that the
sends of every call on one of them keep holds after the delivery. -/
theorem inFlight_deliver (P : Request → Prop) (hP : ∀ p ∈ c.inFlight, P p.2)
    (hsent : ∀ n m o, (n, m) ∈ c.inFlight → (c.replica n).dispatch env context m = some o →
      ∀ s ∈ o.sent, P s.message)
    (hd : Deliver env comm context c c') : ∀ p ∈ c'.inFlight, P p.2 := by
  cases hd with
  | handle before after n m o hnext _ hcall =>
    intro p hp
    rcases mem_handle hnext hp with hp | ⟨s, hs, he⟩
    · exact hP p hp
    · exact he ▸ hsent n m o (hnext ▸ by simp) hcall s hs
  | drop before after n m hnext _ =>
    exact fun p hp => hP p (hnext ▸ ((List.sublist_cons_self _ after).append_left before).subset hp)

/-- Every delivery keeps `Unprepared`. -/
theorem Unprepared.deliver (hi : c.Unprepared) (hd : Deliver env comm context c c') :
    c'.Unprepared := by
  have hv := inFlight_deliver (fun m => m.type ≠ .prepare ∧ m.type ≠ .commit) hi.no_vote
    (fun _ _ _ hin hcall => (Replica.dispatch_of_not_vote (hi.no_vote _ hin) hcall).1) hd
  cases hd with
  | handle before after n m o hnext _ hcall =>
    obtain ⟨-, hstore⟩ := Replica.dispatch_of_not_vote (hi.no_vote (n, m) (hnext ▸ by simp)) hcall
    refine ⟨hv, fun n' seq => ?_⟩
    dsimp only
    rw [Function.update_apply]
    split_ifs with he
    · rcases hstore with h | ⟨ht, h⟩ <;> rw [h]
      · exact he ▸ hi.slots n' seq
      · exact Slot.Unprepared.addConsensusMsg (hi.slots n) ht seq
    · exact hi.slots n' seq
  | drop => exact ⟨hv, hi.slots⟩

/-- Every delivery keeps `Unadmitted`. -/
theorem Unadmitted.deliver (hi : c.Unadmitted) (hd : Deliver env comm context c c') :
    c'.Unadmitted := by
  have hcall := fun {n m o} (hin : (n, m) ∈ c.inFlight) =>
    @Replica.dispatch_of_not_recovery env (c.replica n) context m o (hi.no_vote _ hin)
      (hi.not_recovery _ hin)
  have hv := inFlight_deliver (fun m => m.type ≠ .prepare ∧ m.type ≠ .commit) hi.no_vote
    (fun _ _ _ hin h => (Replica.dispatch_of_not_vote (hi.no_vote _ hin) h).1) hd
  have hr := inFlight_deliver (fun m => m.isRecovery = false) hi.not_recovery (fun _ _ _ hin h => (hcall hin h).1) hd
  cases hd with
  | handle before after n m o hnext hlive h =>
    refine ⟨hv, hr, fun n' hlive' seq => ?_⟩
    by_cases he : n' = n
    · subst he
      simp only [Function.update_same] at hlive' ⊢
      rw [(hcall (hnext ▸ by simp) h).2 (by simpa using hlive')]
      exact hi.live_idle n' hlive seq
    · simp only [Function.update_noteq he] at hlive' ⊢
      exact hi.live_idle n' hlive' seq
  | drop => exact ⟨hv, hr, hi.live_idle⟩

/-- Every run keeps `Unprepared`. -/
theorem Unprepared.run (hi : c.Unprepared)
    (hrun : Relation.ReflTransGen (Deliver env comm context) c c') : c'.Unprepared := by
  induction hrun with
  | refl => exact hi
  | tail _ hd ih => exact ih.deliver hd

/-- Every run keeps `Unadmitted`. -/
theorem Unadmitted.run (hi : c.Unadmitted)
    (hrun : Relation.ReflTransGen (Deliver env comm context) c c') : c'.Unadmitted := by
  induction hrun with
  | refl => exact hi
  | tail _ hd ih => exact ih.deliver hd

end Cluster

section Runs

variable {env : Env} {comm : ReplicaCommunicator} {context : Option String} {c₀ c : Cluster}

/-- **The cluster never prepares.** Take a cluster with no PREPARE or COMMIT in flight and every
slot of every replica `IDLE` or `READY_PREPARE`, as every slot of `Replica.init` is. Under every
order of deliveries, with every communicator and every environment, each cluster reached has no
PREPARE or COMMIT in flight, so `ProcessPrepareMsg` and `ProcessCommitMsg` are never called, and
every slot of every replica, crashed or live, is still `IDLE` or `READY_PREPARE`: no slot is ever
ready to commit, or to execute. -/
theorem cluster_never_prepares
    (hflight : ∀ p ∈ c₀.inFlight, p.2.type ≠ .prepare ∧ p.2.type ≠ .commit)
    (hslots : ∀ n seq, getTransactionState (c₀.replica n).store seq = .idle ∨
      getTransactionState (c₀.replica n).store seq = .readyPrepare)
    (hrun : Relation.ReflTransGen (Deliver env comm context) c₀ c) :
    (∀ p ∈ c.inFlight, p.2.type ≠ .prepare ∧ p.2.type ≠ .commit) ∧
      ∀ n seq, getTransactionState (c.replica n).store seq = .idle ∨
        getTransactionState (c.replica n).store seq = .readyPrepare :=
  have h := Cluster.Unprepared.run ⟨hflight, hslots⟩ hrun
  ⟨h.no_vote, h.slots⟩

/-- Replica `2` of a one-shard cluster takes a recovery PRE_PREPARE for slot `1`: the hypotheses
hold, and after the delivery the replica is live with slot `1` at `READY_PREPARE`. -/
theorem cluster_never_prepares_recovery :
    let s := (((SystemInfo.init 0).setShardCount 1).run
      [.addReplica ⟨1, "10.0.0.1", 10001⟩, .addReplica ⟨2, "10.0.0.2", 10002⟩]).getD
        (SystemInfo.init 0)
    let comm : ReplicaCommunicator := ⟨s.getReplicas, [], true⟩
    let env : Env := { verifyMessage := fun _ _ => true, signMessage := some,
                       preVerifyFunc := none, needQc := false, isFaulty := false,
                       maxProcessTxn := 8, quorum := 2 }
    let c₀ : Cluster := ⟨fun n => Replica.init n s, fun _ => false,
      [(2, { (default : Request) with type := .prePrepare, seq := 1, senderId := 1, hash := "a",
                                      isRecovery := true })], 0⟩
    (∀ p ∈ c₀.inFlight, p.2.type ≠ .prepare ∧ p.2.type ≠ .commit) ∧
      (∀ n seq, getTransactionState (c₀.replica n).store seq = .idle ∨
        getTransactionState (c₀.replica n).store seq = .readyPrepare) ∧
      ∃ c, Relation.ReflTransGen (Deliver env comm (some "sig")) c₀ c ∧ c.crashed 2 = false ∧
        getTransactionState (c.replica 2).store 1 = .readyPrepare ∧
        (∀ p ∈ c.inFlight, p.2.type ≠ .prepare ∧ p.2.type ≠ .commit) ∧
        ∀ n seq, getTransactionState (c.replica n).store seq = .idle ∨
          getTransactionState (c.replica n).store seq = .readyPrepare := by
  intro s comm env c₀
  have hflight : ∀ p ∈ c₀.inFlight, p.2.type ≠ .prepare ∧ p.2.type ≠ .commit := by decide
  have hslots : ∀ n seq, getTransactionState (c₀.replica n).store seq = .idle ∨
      getTransactionState (c₀.replica n).store seq = .readyPrepare := fun _ _ => .inl rfl
  have h₁ := @Deliver.handle env comm (some "sig") c₀ [] [] 2
    { (default : Request) with type := .prePrepare, seq := 1, senderId := 1, hash := "a",
                               isRecovery := true } _ rfl rfl rfl
  exact ⟨hflight, hslots, _, .single h₁, by decide, by decide,
    cluster_never_prepares hflight hslots (.single h₁)⟩

/-- **Admitting a proposal crashes the replica.** Take a cluster with no PREPARE or COMMIT in
flight, no message in flight with `is_recovery` set, and every slot of every live replica `IDLE`.
Under every order of deliveries, with every communicator and every environment, each cluster
reached has no message in flight with `is_recovery` set, and every slot of every live replica is
still `IDLE`: a call that moves a slot of its replica to `READY_PREPARE` crashes it. -/
theorem admission_crashes
    (hflight : ∀ p ∈ c₀.inFlight, p.2.type ≠ .prepare ∧ p.2.type ≠ .commit)
    (hrec : ∀ p ∈ c₀.inFlight, p.2.isRecovery = false)
    (hidle : ∀ n, c₀.crashed n = false → ∀ seq, getTransactionState (c₀.replica n).store seq = .idle)
    (hrun : Relation.ReflTransGen (Deliver env comm context) c₀ c) :
    (∀ p ∈ c.inFlight, p.2.isRecovery = false) ∧
      ∀ n, c.crashed n = false → ∀ seq, getTransactionState (c.replica n).store seq = .idle :=
  have h := Cluster.Unadmitted.run ⟨hflight, hrec, hidle⟩ hrun
  ⟨h.not_recovery, h.live_idle⟩

/-- A client request reaches coordinator `1` of a one-shard cluster, and its PRE_PREPARE comes
back to `1`: the hypotheses hold, and the second delivery crashes `1`. -/
theorem admission_crashes_one_shard :
    let s := (((SystemInfo.init 0).setShardCount 1).run
      [.addReplica ⟨1, "10.0.0.1", 10001⟩, .addReplica ⟨2, "10.0.0.2", 10002⟩]).getD
        (SystemInfo.init 0)
    let comm : ReplicaCommunicator := ⟨s.getReplicas, [], true⟩
    let env : Env := { verifyMessage := fun _ _ => true, signMessage := some,
                       preVerifyFunc := none, needQc := false, isFaulty := false,
                       maxProcessTxn := 8, quorum := 2 }
    let c₀ : Cluster := ⟨fun n => Replica.init n s, fun _ => false,
      [(1, { (default : Request) with hash := "a" })], 0⟩
    (∀ p ∈ c₀.inFlight, p.2.type ≠ .prepare ∧ p.2.type ≠ .commit) ∧
      (∀ p ∈ c₀.inFlight, p.2.isRecovery = false) ∧
      (∀ n, c₀.crashed n = false → ∀ seq, getTransactionState (c₀.replica n).store seq = .idle) ∧
      ∃ c, Relation.ReflTransGen (Deliver env comm (some "sig")) c₀ c ∧ c.crashed 1 = true ∧
        (∀ p ∈ c.inFlight, p.2.isRecovery = false) ∧
        ∀ n, c.crashed n = false → ∀ seq, getTransactionState (c.replica n).store seq = .idle := by
  intro s comm env c₀
  have hflight : ∀ p ∈ c₀.inFlight, p.2.type ≠ .prepare ∧ p.2.type ≠ .commit := by decide
  have hrec : ∀ p ∈ c₀.inFlight, p.2.isRecovery = false := by decide
  have hidle : ∀ n, c₀.crashed n = false → ∀ seq,
      getTransactionState (c₀.replica n).store seq = .idle := fun _ _ _ => rfl
  let m := { (default : Request) with hash := "a" }
  let o₁ := (c₀.replica 1).processNewRequest env (some "sig") m
  have h₁ := @Deliver.handle env comm (some "sig") c₀ [] [] 1 m o₁ rfl rfl rfl
  let c₁ : Cluster := ⟨Function.update c₀.replica 1 o₁.replica,
    Function.update c₀.crashed 1 o₁.ret.isNone, [] ++ [] ++ written comm o₁.sent,
    c₀.forwarded + forwardedCopies comm o₁⟩
  have h₂ := @Deliver.handle env comm (some "sig") c₁ [] [] 1
    ((Replica.init 1 s).prePrepareOf m 1) _ (by decide) (by decide) rfl
  exact ⟨hflight, hrec, hidle, _, .tail (.single h₁) h₂, by decide,
    admission_crashes hflight hrec hidle (.tail (.single h₁) h₂)⟩

end Runs

end ShardedPbft
