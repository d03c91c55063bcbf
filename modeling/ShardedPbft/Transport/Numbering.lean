import ShardedPbft.Transport.Stall

/-!
# Sequence numbers across the cluster

`proposals_per_coordinator` follows client requests handled one after another at the replicas
they reach. Here the whole cluster of `Transport.Forwarding` runs: client requests are forwarded
to coordinators, PRE_PREPAREs are delivered, forwarded again and crash the replicas that admit
them, in every order.

A replica numbers its PRE_PREPAREs from its own counter `next_seq_`, and when no message carries
`is_recovery` only the proposing call of `ProcessNewRequest` moves it, by one. The cap of
`AssignNextSeq` keeps the counter below `max_executed_seq + max_process_txn + 1`, so with room
below `2^64 - 1` it never wraps. Every other call sends a PRE_PREPARE only as a copy of the one it
handles. So every PRE_PREPARE in flight is numbered below its sender's counter, and the one call
that uses a number sends one message with it (`Cluster.Numbered`).

`prePrepare_numbers_unique`: from client requests alone, in every run, two PRE_PREPAREs in flight
with one sender and one sequence number are the same message, and their sender is its own shard's
coordinator.
-/

namespace ShardedPbft

namespace Replica

variable {env : Env} {r : Replica} {context : Option String} {request : Request} {o : Outcome}

/-- Under the cap of `AssignNextSeq`, a counter at or above `max_executed_seq`, with room below
`2^64 - 1`, does not wrap when it is advanced. -/
theorem nextSeq_succ_toNat {cap : UInt64} (hle : r.maxExecutedSeq.toNat ≤ r.nextSeq.toNat)
    (hroom : r.maxExecutedSeq.toNat + cap.toNat < 2 ^ 64 - 1)
    (hguard : ¬ cap < r.nextSeq - r.maxExecutedSeq) :
    (r.nextSeq + 1).toNat = r.nextSeq.toNat + 1 := by
  have h : (r.nextSeq - r.maxExecutedSeq).toNat ≤ cap.toNat := UInt64.not_lt.mp hguard
  rw [UInt64.toNat_sub_of_le _ _ hle] at h
  exact Nat.mod_eq_of_lt (show r.nextSeq.toNat + 1 < 2 ^ 64 by omega)

/-- What a call of `ProcessNewRequest` does to the counter. It keeps the counter and sends no
PRE_PREPARE, or, at a replica that is its own coordinator and under the cap of `AssignNextSeq`, it
advances the counter by one and every message it sends is the PRE_PREPARE numbered with the
counter's old value. -/
theorem processNewRequest_counter (htype : request.type = .newRequest)
    (ho : r.processNewRequest env context request = o) :
    (o.replica.nextSeq = r.nextSeq ∧ ∀ s ∈ o.sent, s.message.type ≠ .prePrepare) ∨
      (r.selfId = r.coordinator ∧ ¬ env.maxProcessTxn < r.nextSeq - r.maxExecutedSeq ∧
        o.replica.nextSeq = r.nextSeq + 1 ∧
        ∀ s ∈ o.sent, s.message = r.prePrepareOf request r.nextSeq) := by
  have hsent : o.ret ≠ some 0 → ∀ s ∈ o.sent, s.message.type ≠ .prePrepare := fun hret s hs => by
    rcases processNewRequest_sent (ho ▸ hs) with rfl | rfl | rfl | ⟨h0, -⟩
    · simp [Send.message, htype]
    · simp [htype]
    · simp [seqFailResponse]
    · exact absurd (ho ▸ h0) hret
  rcases processNewRequest_cases env r context request with
    ⟨_, he⟩ | ⟨-, he⟩ | ⟨-, -, hc, -, -, -, hcap, he⟩ <;> rw [he] at ho <;> subst ho
  · exact .inl ⟨rfl, hsent (by simp)⟩
  · exact .inl ⟨rfl, hsent (by simp)⟩
  · refine .inr ⟨hc, hcap, rfl, fun s hs => ?_⟩
    obtain ⟨_, -, rfl⟩ := List.mem_map.mp hs
    rfl

/-- A call of `ProcessProposeMsg` on a message without `is_recovery` keeps the counter, and sends
only the message itself. -/
theorem processProposeMsg_counter (hrec : request.isRecovery = false)
    (ho : r.processProposeMsg env context request = o) :
    o.replica.nextSeq = r.nextSeq ∧ ∀ s ∈ o.sent, s.message = request := by
  refine ⟨?_, fun s hs => processProposeMsg_sent (ho ▸ hs)⟩
  rcases processProposeMsg_cases env r context request with
    he | ⟨-, he⟩ | ⟨hr, -⟩ | ⟨-, -, -, -, -, -, -, -, he⟩ | ⟨-, -, he⟩ <;>
    first | exact absurd hr (by simp [hrec]) | (rw [he] at ho; subst ho; simp [markProposed])

/-- What a call on a client request or a PRE_PREPARE without `is_recovery` does to the counter:
it keeps the counter and sends a PRE_PREPARE only as a copy of the message it handles, or it is
the proposing call of `ProcessNewRequest`. -/
theorem dispatch_counter {m : Request} (hm : m.type ≠ .prepare ∧ m.type ≠ .commit)
    (hrec : m.isRecovery = false) (h : r.dispatch env context m = some o) :
    (o.replica.nextSeq = r.nextSeq ∧ ∀ s ∈ o.sent, s.message.type = .prePrepare → s.message = m) ∨
      (r.selfId = r.coordinator ∧ ¬ env.maxProcessTxn < r.nextSeq - r.maxExecutedSeq ∧
        o.replica.nextSeq = r.nextSeq + 1 ∧
        ∀ s ∈ o.sent, s.message = r.prePrepareOf m r.nextSeq) := by
  cases ht : m.type <;> simp only [dispatch, ht] at h
  · exact (processNewRequest_counter ht (Option.some.inj h)).imp_left fun ⟨hseq, hs⟩ =>
      ⟨hseq, fun s hsm hpp => absurd hpp (hs s hsm)⟩
  · obtain ⟨hseq, hs⟩ := processProposeMsg_counter hrec (Option.some.inj h)
    exact .inl ⟨hseq, fun s hsm _ => hs s hsm⟩
  · exact absurd ht hm.1
  · exact absurd ht hm.2
  · cases h

end Replica

namespace Cluster

variable {env : Env} {comm : ReplicaCommunicator} {context : Option String} {c₀ c c' : Cluster}

/-- What a run from the cluster `c₀` keeps when no message carries `is_recovery`: no PREPARE or
COMMIT in flight; every replica with its own id, the topology and `max_executed_seq` it had in
`c₀`, and its counter at or above `max_executed_seq`; every PRE_PREPARE in flight from a replica
that is its own shard's coordinator, numbered below its counter; and two PRE_PREPAREs in flight
with one sender and one number the same message. -/
structure Numbered (c₀ c : Cluster) : Prop where
  no_vote : ∀ p ∈ c.inFlight, p.2.type ≠ .prepare ∧ p.2.type ≠ .commit
  not_recovery : ∀ p ∈ c.inFlight, p.2.isRecovery = false
  selfId : ∀ n, (c.replica n).selfId = n
  systemInfo : ∀ n, (c.replica n).systemInfo = (c₀.replica n).systemInfo
  maxExecutedSeq : ∀ n, (c.replica n).maxExecutedSeq = (c₀.replica n).maxExecutedSeq
  executed_le : ∀ n, (c.replica n).maxExecutedSeq.toNat ≤ (c.replica n).nextSeq.toNat
  proposer : ∀ p ∈ c.inFlight, p.2.type = .prePrepare →
    (c.replica p.2.senderId).coordinator = p.2.senderId ∧
      p.2.seq.toNat < (c.replica p.2.senderId).nextSeq.toNat
  unique : ∀ p ∈ c.inFlight, ∀ q ∈ c.inFlight, p.2.type = .prePrepare → q.2.type = .prePrepare →
    q.2.senderId = p.2.senderId → q.2.seq = p.2.seq → q.2 = p.2

/-- The invariant carries to a cluster whose replicas keep their ids, topologies and
`max_executed_seq`, whose counters have not gone down, and whose PRE_PREPAREs in flight were in
flight before or are one fresh message `pp`: from its own coordinator, numbered at or above its
sender's old counter and below the new one. -/
theorem Numbered.of_fresh (hi : Numbered c₀ c) (pp : Request)
    (hv : ∀ p ∈ c'.inFlight, p.2.type ≠ .prepare ∧ p.2.type ≠ .commit)
    (hr : ∀ p ∈ c'.inFlight, p.2.isRecovery = false)
    (hself : ∀ n, (c'.replica n).selfId = n)
    (hsys : ∀ n, (c'.replica n).systemInfo = (c.replica n).systemInfo)
    (hexec : ∀ n, (c'.replica n).maxExecutedSeq = (c.replica n).maxExecutedSeq)
    (hgrow : ∀ n, (c.replica n).nextSeq.toNat ≤ (c'.replica n).nextSeq.toNat)
    (hnew : ∀ p ∈ c'.inFlight, p.2.type = .prePrepare → (∃ p' ∈ c.inFlight, p'.2 = p.2) ∨
      (p.2 = pp ∧ (c.replica pp.senderId).coordinator = pp.senderId ∧
        (c.replica pp.senderId).nextSeq.toNat ≤ pp.seq.toNat ∧
        pp.seq.toNat < (c'.replica pp.senderId).nextSeq.toNat)) :
    Numbered c₀ c' := by
  refine ⟨hv, hr, hself, fun n => (hsys n).trans (hi.systemInfo n),
    fun n => (hexec n).trans (hi.maxExecutedSeq n), fun n => ?_, fun p hp ht => ?_,
    fun p hp q hq hpt hqt hsend hseq => ?_⟩
  · have := hi.executed_le n
    rw [hexec n]
    exact this.trans (hgrow n)
  · have hcoord : ∀ n, (c'.replica n).coordinator = (c.replica n).coordinator := fun n => by
      rw [Replica.coordinator, Replica.coordinator, hsys, hself, hi.selfId]
    rcases hnew p hp ht with ⟨p', hp', he⟩ | ⟨he, hco, -, hlt⟩
    · obtain ⟨hco, hlt⟩ := hi.proposer p' hp' (he ▸ ht)
      rw [he] at hco hlt
      exact ⟨(hcoord _).trans hco, hlt.trans_le (hgrow _)⟩
    · exact he ▸ ⟨(hcoord _).trans hco, hlt⟩
  · rcases hnew p hp hpt with ⟨p', hp', hpe⟩ | ⟨hpe, -, hle, -⟩ <;>
      rcases hnew q hq hqt with ⟨q', hq', hqe⟩ | ⟨hqe, -, hle', -⟩
    · -- both were in flight before
      rw [← hpe, ← hqe] at hsend hseq ⊢
      exact hi.unique p' hp' q' hq' (hpe ▸ hpt) (hqe ▸ hqt) hsend hseq
    · -- `q` is the fresh one: an old PRE_PREPARE of its sender is numbered below the old counter
      have := (hi.proposer p' hp' (hpe ▸ hpt)).2
      rw [hpe, ← hsend, ← hseq, hqe] at this
      exact absurd hle' (by omega)
    · have := (hi.proposer q' hq' (hqe ▸ hqt)).2
      rw [hqe, hsend, hseq, hpe] at this
      exact absurd hle (by omega)
    · rw [hpe, hqe]

/-- One delivery keeps the invariant, under the room below `2^64 - 1` that the cap of
`AssignNextSeq` needs. -/
theorem Numbered.deliver (hi : Numbered c₀ c)
    (hroom : ∀ n, (c₀.replica n).maxExecutedSeq.toNat + env.maxProcessTxn.toNat < 2 ^ 64 - 1)
    (hd : Deliver env comm context c c') : Numbered c₀ c' := by
  have hv := inFlight_deliver (fun m => m.type ≠ .prepare ∧ m.type ≠ .commit) hi.no_vote
    (fun _ _ _ hin h => (Replica.dispatch_of_not_vote (hi.no_vote _ hin) h).1) hd
  have hr := inFlight_deliver (fun m => m.isRecovery = false) hi.not_recovery
    (fun _ _ _ hin h =>
      (Replica.dispatch_of_not_recovery (hi.no_vote _ hin) (hi.not_recovery _ hin) h).1) hd
  cases hd with
  | drop before after n m hnext _ =>
    have hold : ∀ p ∈ before ++ after, p ∈ c.inFlight := fun p hp =>
      hnext ▸ ((List.sublist_cons_self _ after).append_left before).subset hp
    exact hi.of_fresh m hv hr hi.selfId (fun _ => rfl) (fun _ => rfl) (fun _ => le_rfl)
      fun p hp _ => .inl ⟨p, hold p hp, rfl⟩
  | handle before after n m o hnext _ hcall =>
    have hin : (n, m) ∈ c.inFlight := hnext ▸ by simp
    obtain ⟨hid, hsys, hexec, -⟩ := Replica.dispatch_frame hcall
    have hcase := Replica.dispatch_counter (hi.no_vote _ hin) (hi.not_recovery _ hin) hcall
    have hself : ∀ k, (Function.update c.replica n o.replica k).selfId = k := fun k =>
      (update_keeps Replica.selfId hid k).trans (hi.selfId k)
    rcases hcase with ⟨hseq, hpp⟩ | ⟨hc, hguard, hseq, hpp⟩
    · -- the counter is kept, and every PRE_PREPARE written is a copy of `m`
      refine hi.of_fresh m hv hr hself (update_keeps _ hsys) (update_keeps _ hexec)
        (fun k => (update_keeps (·.nextSeq.toNat) (congrArg UInt64.toNat hseq) k).ge) fun p hp ht => .inl ?_
      rcases mem_handle hnext hp with hp | ⟨s, hs, he⟩
      · exact ⟨p, hp, rfl⟩
      · exact ⟨(n, m), hin, (he.trans (hpp s hs (he ▸ ht))).symm⟩
    · -- the proposing call: every message written is the PRE_PREPARE of the old counter
      have hsucc := Replica.nextSeq_succ_toNat (hi.executed_le n)
        ((hi.maxExecutedSeq n).symm ▸ hroom n) hguard
      have hsender : ((c.replica n).prePrepareOf m (c.replica n).nextSeq).senderId = n :=
        hi.selfId n
      refine hi.of_fresh ((c.replica n).prePrepareOf m (c.replica n).nextSeq) hv hr hself
        (update_keeps _ hsys) (update_keeps _ hexec) (fun k => ?_) fun p hp _ => ?_
      · dsimp only
        rw [Function.update_apply]
        split_ifs with hk
        · rw [hk, hseq, hsucc]; exact Nat.le_succ _
        · exact le_rfl
      · rcases mem_handle hnext hp with hp | ⟨s, hs, he⟩
        · exact .inl ⟨p, hp, rfl⟩
        · refine .inr ⟨he.trans (hpp s hs), ?_, ?_, ?_⟩ <;> dsimp only <;> rw [hsender]
          · rw [← hc, hi.selfId]
          · exact le_rfl
          · rw [Function.update_same, hseq, hsucc]
            exact Nat.lt_succ_self _

/-- Every run keeps `Numbered` while the counters have room under `2^64`. -/
theorem Numbered.run (hi : Numbered c₀ c)
    (hroom : ∀ n, (c₀.replica n).maxExecutedSeq.toNat + env.maxProcessTxn.toNat < 2 ^ 64 - 1)
    (hrun : Relation.ReflTransGen (Deliver env comm context) c c') : Numbered c₀ c' := by
  induction hrun with
  | refl => exact hi
  | tail _ hd ih => exact ih.deliver hroom hd

end Cluster

section Runs

variable {env : Env} {comm : ReplicaCommunicator} {context : Option String} {c₀ c : Cluster}

/-- **One sequence number, one proposal, in every run.** Take a cluster of replicas that know their
own ids, with only client requests without `is_recovery` in flight, and for every replica a
counter at or above its `max_executed_seq` with room for the cap of `AssignNextSeq` below
`2^64 - 1`. Under every order of deliveries, with every communicator, every cluster reached has
each PRE_PREPARE in flight sent by a replica that is its own shard's coordinator, and any two
PRE_PREPAREs in flight with one sender and one sequence number are the same message. -/
theorem prePrepare_numbers_unique
    (hself : ∀ n, (c₀.replica n).selfId = n)
    (hcounter : ∀ n, (c₀.replica n).maxExecutedSeq.toNat ≤ (c₀.replica n).nextSeq.toNat ∧
      (c₀.replica n).maxExecutedSeq.toNat + env.maxProcessTxn.toNat < 2 ^ 64 - 1)
    (hflight : ∀ p ∈ c₀.inFlight, p.2.type = .newRequest ∧ p.2.isRecovery = false)
    (hrun : Relation.ReflTransGen (Deliver env comm context) c₀ c) :
    ∀ p ∈ c.inFlight, p.2.type = .prePrepare →
      (c₀.replica p.2.senderId).coordinator = p.2.senderId ∧
      ∀ q ∈ c.inFlight, q.2.type = .prePrepare → q.2.senderId = p.2.senderId →
        q.2.seq = p.2.seq → q.2 = p.2 := by
  have hnone : ∀ p ∈ c₀.inFlight, p.2.type ≠ .prePrepare := fun p hp ht => by
    simp [(hflight p hp).1] at ht
  have h₀ : Cluster.Numbered c₀ c₀ :=
    ⟨fun p hp => by simp [(hflight p hp).1], fun p hp => (hflight p hp).2, hself,
      fun _ => rfl, fun _ => rfl, fun n => (hcounter n).1,
      fun p hp ht => absurd ht (hnone p hp), fun p hp _ _ ht => absurd ht (hnone p hp)⟩
  have h := h₀.run (fun n => (hcounter n).2) hrun
  intro p hp ht
  refine ⟨?_, fun q hq hqt => h.unique p hp q hq ht hqt⟩
  have hco := (h.proposer p hp ht).1
  simp only [Replica.coordinator, h.systemInfo, h.selfId] at hco ⊢
  rwa [hself]

/-- Two client requests reach coordinator `1` of a one-shard cluster: the hypotheses hold, and
after both are handled the two PRE_PREPAREs in flight carry sequence numbers `1` and `2`. -/
theorem prePrepare_numbers_unique_two_requests :
    let s := (((SystemInfo.init 0).setShardCount 1).run
      [.addReplica ⟨1, "10.0.0.1", 10001⟩, .addReplica ⟨2, "10.0.0.2", 10002⟩]).getD
        (SystemInfo.init 0)
    let comm : ReplicaCommunicator := ⟨s.getReplicas, [], true⟩
    let env : Env := { verifyMessage := fun _ _ => true, signMessage := some,
                       preVerifyFunc := none, needQc := false, isFaulty := false,
                       maxProcessTxn := 8, quorum := 2 }
    let c₀ : Cluster := ⟨fun n => Replica.init n s, fun _ => false,
      [(1, { (default : Request) with hash := "a" }), (1, { (default : Request) with hash := "b" })],
      0⟩
    (∀ n, (c₀.replica n).selfId = n) ∧
      (∀ n, (c₀.replica n).maxExecutedSeq.toNat ≤ (c₀.replica n).nextSeq.toNat ∧
        (c₀.replica n).maxExecutedSeq.toNat + env.maxProcessTxn.toNat < 2 ^ 64 - 1) ∧
      (∀ p ∈ c₀.inFlight, p.2.type = .newRequest ∧ p.2.isRecovery = false) ∧
      ∃ c, Relation.ReflTransGen (Deliver env comm (some "sig")) c₀ c ∧
        c.inFlight.map (fun p => (p.2.type, p.2.senderId, p.2.seq)) =
          [(.prePrepare, 1, 1), (.prePrepare, 1, 2)] ∧
        ∀ p ∈ c.inFlight, p.2.type = .prePrepare →
          (c₀.replica p.2.senderId).coordinator = p.2.senderId ∧
          ∀ q ∈ c.inFlight, q.2.type = .prePrepare → q.2.senderId = p.2.senderId →
            q.2.seq = p.2.seq → q.2 = p.2 := by
  intro s comm env c₀
  have hself : ∀ n, (c₀.replica n).selfId = n := fun _ => rfl
  have hcounter : ∀ n, (c₀.replica n).maxExecutedSeq.toNat ≤ (c₀.replica n).nextSeq.toNat ∧
      (c₀.replica n).maxExecutedSeq.toNat + env.maxProcessTxn.toNat < 2 ^ 64 - 1 := fun _ =>
    ⟨Nat.zero_le _, show (0 : UInt64).toNat + (8 : UInt64).toNat < 2 ^ 64 - 1 by decide⟩
  have hflight : ∀ p ∈ c₀.inFlight, p.2.type = .newRequest ∧ p.2.isRecovery = false := by decide
  let a := { (default : Request) with hash := "a" }
  let b := { (default : Request) with hash := "b" }
  let o₁ := (c₀.replica 1).processNewRequest env (some "sig") a
  have h₁ := @Deliver.handle env comm (some "sig") c₀ [] [(1, b)] 1 a o₁ rfl rfl rfl
  let c₁ : Cluster := ⟨Function.update c₀.replica 1 o₁.replica,
    Function.update c₀.crashed 1 o₁.ret.isNone, [] ++ [(1, b)] ++ written comm o₁.sent,
    c₀.forwarded + forwardedCopies comm o₁⟩
  have h₂ := @Deliver.handle env comm (some "sig") c₁ [] (written comm o₁.sent) 1 b _
    (by decide) (by decide) rfl
  have hrun := Relation.ReflTransGen.tail (.single h₁) h₂
  exact ⟨hself, hcounter, hflight, _, hrun, by decide,
    prePrepare_numbers_unique hself hcounter hflight hrun⟩

end Runs

end ShardedPbft
