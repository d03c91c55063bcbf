import ShardedPbft.Transport.Stall

/-!
# Slot certificates across the cluster

`AddConsensusMsg` moves a sequence slot through its phases, and it is the only way a handler
changes the store. `ProcessProposeMsg` and `ProcessCommitMsg` change it through `addMovedRequest`
and `addRecovery`. `ProcessPrepareMsg` keeps the store the call answered with, and
`ProcessNewRequest` does not touch it (`dispatch_store`).

One call of `Slot.add` keeps the hash a pre-prepare fixed, never moves the phase back and loses no
vote (`Slot.Advances`). Each phase past `READY_PREPARE` is backed by a quorum of votes for the
slot's hash from distinct senders (`Slot.Certified`). `slot_certificates` lifts both to every slot
of every replica, crashed or live, in every run of the cluster, whatever is in flight.
-/

namespace ShardedPbft

/-- The order in which a slot goes through its phases. -/
def TransactionStatue.rank : TransactionStatue → Nat
  | .idle => 0
  | .readyPrepare => 1
  | .readyCommit => 2
  | .readyExecute => 3
  | .executed => 4

namespace Slot

/-- What a slot's phase vouches for: a fixed hash past `IDLE`, a quorum of prepares for it from
`READY_COMMIT` on, a quorum of commits at `READY_EXECUTE`, and at most one vote of each kind per
sender. -/
structure Certified (quorum : Nat) (slot : Slot) : Prop where
  prepares_nodup : (slot.prepares.map (·.1)).Nodup
  commits_nodup : (slot.commits.map (·.1)).Nodup
  hash : slot.phase ≠ .idle → slot.hash.isSome
  prepared : slot.phase = .readyCommit ∨ slot.phase = .readyExecute →
    quorum ≤ matching slot.prepares slot.hash
  committed : slot.phase = .readyExecute → quorum ≤ matching slot.commits slot.hash

/-- `slot'` is `slot` moved on: the hash kept once fixed, the phase not gone back, no vote lost. -/
structure Advances (slot slot' : Slot) : Prop where
  hash : ∀ h, slot.hash = some h → slot'.hash = some h
  phase : slot.phase.rank ≤ slot'.phase.rank
  prepares : slot.prepares <+: slot'.prepares
  commits : slot.commits <+: slot'.commits

/-- A slot is moved on from itself. -/
theorem Advances.refl (slot : Slot) : slot.Advances slot :=
  ⟨fun _ => id, le_rfl, List.prefix_refl _, List.prefix_refl _⟩

/-- Moving a slot on twice moves it on. -/
theorem Advances.trans {s₁ s₂ s₃ : Slot} (h₁ : s₁.Advances s₂) (h₂ : s₂.Advances s₃) :
    s₁.Advances s₃ :=
  ⟨fun h hh => h₂.hash h (h₁.hash h hh), h₁.phase.trans h₂.phase, h₁.prepares.trans h₂.prepares,
    h₁.commits.trans h₂.commits⟩

/-- A slot no message has referenced vouches for nothing. -/
theorem empty_certified (quorum : Nat) : empty.Certified quorum :=
  ⟨List.nodup_nil, List.nodup_nil, fun h => absurd rfl h, nofun, nofun⟩

/-! ## Votes -/

/-- Recording a vote keeps the votes before it. -/
theorem addVote_extends (votes : List (UInt32 × String)) (sender : UInt32) (hash : String) :
    votes <+: addVote votes sender hash := by
  unfold addVote
  split_ifs
  · exact List.prefix_refl _
  · exact List.prefix_append _ _

/-- A sender that has voted is not recorded again. -/
theorem addVote_nodup {votes : List (UInt32 × String)} (h : (votes.map (·.1)).Nodup)
    (sender : UInt32) (hash : String) : ((addVote votes sender hash).map (·.1)).Nodup := by
  unfold addVote
  split_ifs with hany
  · exact h
  · rw [List.map_append, List.nodup_append]
    refine ⟨h, List.nodup_singleton _, ?_⟩
    simpa [List.disjoint_singleton, List.any_eq_true] using hany

/-- More votes match a hash at least as often. -/
theorem matching_mono {votes votes' : List (UInt32 × String)} (h : votes <+: votes')
    (hash : Option String) : matching votes hash ≤ matching votes' hash :=
  (h.sublist.filter _).length_le

/-! ## One call of `AddConsensusMsg` -/

variable {quorum : Nat} {slot : Slot} {r : Request}

/-- A call moves the slot on. -/
theorem add_advances : slot.Advances (slot.add quorum r).2 := by
  cases ht : r.type <;> simp only [add, ht]
  · exact .refl slot
  · -- a pre-prepare fixes the hash of an idle slot, the one it may already carry
    split_ifs with hconf hidle
    · exact .refl slot
    · refine ⟨fun h hh => ?_, by simp [hidle, TransactionStatue.rank], addVote_extends _ _ _,
        List.prefix_refl _⟩
      exact congrArg some (by simpa [hh] using hconf : h = r.hash).symm
    · exact .refl slot
  · split_ifs with hq
    · exact ⟨fun _ => id, by simp [hq.1, TransactionStatue.rank], addVote_extends _ _ _,
        List.prefix_refl _⟩
    · exact ⟨fun _ => id, le_rfl, addVote_extends _ _ _, List.prefix_refl _⟩
  · split_ifs with hq
    · exact ⟨fun _ => id, by simp [hq.1, TransactionStatue.rank], List.prefix_refl _,
        addVote_extends _ _ _⟩
    · exact ⟨fun _ => id, le_rfl, List.prefix_refl _, addVote_extends _ _ _⟩
  · exact .refl slot

/-- A call keeps the slot certified: a phase change needs the quorum it vouches for. -/
theorem Certified.add (h : slot.Certified quorum) : (slot.add quorum r).2.Certified quorum := by
  cases ht : r.type <;> simp only [Slot.add, ht]
  · exact h
  · split_ifs
    · exact h
    · exact ⟨addVote_nodup h.prepares_nodup _ _, h.commits_nodup, fun _ => rfl, nofun, nofun⟩
    · exact h
  · split_ifs with hq
    · -- the prepare that completes the quorum
      exact ⟨addVote_nodup h.prepares_nodup _ _, h.commits_nodup,
        fun _ => h.hash (by rw [hq.1]; nofun), fun _ => hq.2, nofun⟩
    · exact ⟨addVote_nodup h.prepares_nodup _ _, h.commits_nodup, h.hash,
        fun hp => (h.prepared hp).trans (matching_mono (addVote_extends _ _ _) _), h.committed⟩
  · split_ifs with hq
    · -- the commit that completes the quorum, on a slot prepared before
      exact ⟨h.prepares_nodup, addVote_nodup h.commits_nodup _ _,
        fun _ => h.hash (by rw [hq.1]; nofun), fun _ => h.prepared (.inl hq.1), fun _ => hq.2⟩
    · exact ⟨h.prepares_nodup, addVote_nodup h.commits_nodup _ _, h.hash, h.prepared,
        fun hp => (h.committed hp).trans (matching_mono (addVote_extends _ _ _) _)⟩
  · exact h

end Slot

section Store

variable {quorum : Nat} {store : UInt64 → Slot} {request : Request}

/-- `AddConsensusMsg` moves every slot of the store on. -/
theorem addConsensusMsg_advances (seq : UInt64) :
    (store seq).Advances ((addConsensusMsg quorum store request).2 seq) := by
  simp only [addConsensusMsg, Function.update_apply]
  split_ifs with h
  · rw [h]; exact Slot.add_advances
  · exact .refl _

/-- `AddConsensusMsg` keeps every slot of the store certified. -/
theorem addConsensusMsg_certified (h : ∀ seq, (store seq).Certified quorum) (seq : UInt64) :
    ((addConsensusMsg quorum store request).2 seq).Certified quorum := by
  simp only [addConsensusMsg, Function.update_apply]
  split_ifs with hs
  · exact (h _).add
  · exact h seq

end Store

namespace Replica

variable {env : Env} {r : Replica} {context : Option String} {m : Request} {o : Outcome}

/-- A call leaves the store as it was or as `AddConsensusMsg` of the message handled leaves it. -/
theorem dispatch_store (h : r.dispatch env context m = some o) :
    o.replica.store = r.store ∨ o.replica.store = (addConsensusMsg env.quorum r.store m).2 := by
  cases ht : m.type <;> simp only [dispatch, ht] at h <;> cases h
  · exact .inl processNewRequest_store
  · exact processProposeMsg_store
  · rcases processPrepareMsg_cases env r context m with
      he | ⟨-, he⟩ | he | ⟨-, -, he⟩ | ⟨-, -, he⟩ <;> rw [he] <;> (try rw [emitCommit_replica]) <;>
      first | exact .inl rfl | exact .inr rfl
  · rcases processCommitMsg_cases env r context m with he | ⟨-, he⟩ | he | he <;> rw [he] <;>
      (try rw [addMovedRequest_replica]) <;> first | exact .inl rfl | exact .inr rfl

end Replica

namespace Cluster

variable {env : Env} {comm : ReplicaCommunicator} {context : Option String} {c₀ c c' : Cluster}

/-- What every run from `c₀` keeps: every slot of every replica certified, and moved on from the
one it had in `c₀`. -/
structure Certified (quorum : Nat) (c₀ c : Cluster) : Prop where
  certified : ∀ n seq, ((c.replica n).store seq).Certified quorum
  advances : ∀ n seq, ((c₀.replica n).store seq).Advances ((c.replica n).store seq)

/-- One delivery keeps the invariant, whatever is in flight. -/
theorem Certified.deliver (hi : Certified env.quorum c₀ c) (hd : Deliver env comm context c c') :
    Certified env.quorum c₀ c' := by
  cases hd with
  | drop => exact ⟨hi.certified, hi.advances⟩
  | handle before after n m o _ _ hcall =>
    have hstep : ∀ seq, ((c.replica n).store seq).Advances (o.replica.store seq) ∧
        (o.replica.store seq).Certified env.quorum := fun seq => by
      rcases Replica.dispatch_store hcall with he | he <;> rw [he]
      · exact ⟨.refl _, hi.certified n seq⟩
      · exact ⟨addConsensusMsg_advances seq, addConsensusMsg_certified (hi.certified n) seq⟩
    refine ⟨fun k seq => ?_, fun k seq => ?_⟩ <;> dsimp only <;> rw [Function.update_apply] <;>
      split_ifs with hk
    · exact (hstep seq).2
    · exact hi.certified k seq
    · rw [hk]; exact (hi.advances n seq).trans (hstep seq).1
    · exact hi.advances k seq

/-- Every run keeps the certificates. -/
theorem Certified.run (hi : Certified env.quorum c₀ c)
    (hrun : Relation.ReflTransGen (Deliver env comm context) c c') : Certified env.quorum c₀ c' := by
  induction hrun with
  | refl => exact hi
  | tail _ hd ih => exact ih.deliver hd

end Cluster

section Runs

variable {env : Env} {comm : ReplicaCommunicator} {context : Option String} {c₀ c : Cluster}

/-- **Slots move on with their certificates, in every run.** Take a cluster whose slots all vouch
for what their phases say, as every slot of `Replica.init` does. Under every order of deliveries,
with every communicator and environment and whatever is in flight, in each cluster reached every
slot of every replica, crashed or live, has kept the hash it had fixed, has not moved its phase
back and has lost no vote. At `READY_COMMIT` or later it holds prepares for its hash from `quorum`
distinct senders, and at `READY_EXECUTE` commits for it from `quorum` distinct senders. -/
theorem slot_certificates (h₀ : ∀ n seq, ((c₀.replica n).store seq).Certified env.quorum)
    (hrun : Relation.ReflTransGen (Deliver env comm context) c₀ c) (n : UInt32) (seq : UInt64) :
    ((c.replica n).store seq).Certified env.quorum ∧
      ((c₀.replica n).store seq).Advances ((c.replica n).store seq) :=
  have h := Cluster.Certified.run ⟨h₀, fun _ _ => .refl _⟩ hrun
  ⟨h.certified n seq, h.advances n seq⟩

/-- Replica `2` of a one-shard cluster of three takes a recovery PRE_PREPARE for slot `1` from `1`,
then a PREPARE for it from `3`: with a quorum of `2` the slot is ready to commit, with the votes of
`1` and `3` for its hash. -/
theorem slot_certificates_prepared :
    let s := (((SystemInfo.init 0).setShardCount 1).run
      [.addReplica ⟨1, "10.0.0.1", 10001⟩, .addReplica ⟨2, "10.0.0.2", 10002⟩,
        .addReplica ⟨3, "10.0.0.3", 10003⟩]).getD (SystemInfo.init 0)
    let comm : ReplicaCommunicator := ⟨s.getReplicas, [], true⟩
    let env : Env := { verifyMessage := fun _ _ => true, signMessage := some,
                       preVerifyFunc := none, needQc := false, isFaulty := false,
                       maxProcessTxn := 8, quorum := 2 }
    let pp := { (default : Request) with type := .prePrepare, seq := 1, senderId := 1, hash := "a",
                                         isRecovery := true }
    let prepare := { (default : Request) with type := .prepare, seq := 1, senderId := 3, hash := "a" }
    let c₀ : Cluster := ⟨fun n => Replica.init n s, fun _ => false, [(2, pp), (2, prepare)], 0⟩
    (∀ n seq, ((c₀.replica n).store seq).Certified env.quorum) ∧
      ∃ c, Relation.ReflTransGen (Deliver env comm (some "sig")) c₀ c ∧
        (c.replica 2).store 1 = ⟨.readyCommit, some "a", [(1, "a"), (3, "a")], []⟩ ∧
        ∀ n seq, ((c.replica n).store seq).Certified env.quorum ∧
          ((c₀.replica n).store seq).Advances ((c.replica n).store seq) := by
  intro s comm env pp prepare c₀
  have h₀ : ∀ n seq, ((c₀.replica n).store seq).Certified env.quorum := fun _ _ =>
    Slot.empty_certified _
  let o₁ := (c₀.replica 2).processProposeMsg env (some "sig") pp
  have h₁ := @Deliver.handle env comm (some "sig") c₀ [] [(2, prepare)] 2 pp o₁ rfl rfl rfl
  let c₁ : Cluster := ⟨Function.update c₀.replica 2 o₁.replica,
    Function.update c₀.crashed 2 o₁.ret.isNone, [] ++ [(2, prepare)] ++ written comm o₁.sent,
    c₀.forwarded + forwardedCopies comm o₁⟩
  have h₂ := @Deliver.handle env comm (some "sig") c₁ [] [] 2 prepare _ (by decide) (by decide) rfl
  have hrun := Relation.ReflTransGen.tail (.single h₁) h₂
  exact ⟨h₀, _, hrun, by decide, slot_certificates h₀ hrun⟩

end Runs

end ShardedPbft
