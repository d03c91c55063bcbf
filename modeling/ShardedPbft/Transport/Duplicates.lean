import ShardedPbft.Transport.Numbering
import ShardedPbft.Transport.ForwardingBound

/-!
# The duplicate manager across the cluster

`newly_proposed_iff` says when one call marks a hash in the proposed set of the
`DuplicateManager`. Here the whole cluster of `Transport.Forwarding` runs, with every kind of
message in flight, recovery messages included, in every order.

No call removes a hash from a proposed set: the `EraseProposed` of a failed `AssignNextSeq`
undoes the mark its own call made (`dispatch_proposed_subset`). Every PRE_PREPARE a call sends is
a copy of the message it handles, or the one PRE_PREPARE of the call of `ProcessNewRequest` that
marks its hash, unmarked before (`dispatch_prePrepare`). So every PRE_PREPARE in flight carries a
hash its sender has marked, and the sender never proposes that hash again (`Cluster.Marked`).

`prePrepare_hashes_unique`: from a cluster without PRE_PREPAREs in flight, in every run, two
PRE_PREPAREs in flight with one sender and one hash are the same message. With
`prePrepare_numbers_unique` this makes hash and sequence number name the same proposals of a
sender, as long as no message carries `is_recovery`.
-/

namespace ShardedPbft

namespace Replica

variable {env : Env} {r : Replica} {context : Option String} {request : Request}

/-- The commit a signature step hands on is the commit it was given, with a signature. -/
theorem signCommit_eq {commit signed : Request} (h : signCommit env commit = some signed) :
    ∃ sig, signed = { commit with dataSignature := sig } := by
  unfold signCommit at h
  split_ifs at h
  · obtain ⟨sig, -, rfl⟩ := Option.map_eq_some'.mp h
    exact ⟨sig, rfl⟩
  · cases h
    exact ⟨commit.dataSignature, rfl⟩

/-- Every message `emitCommit` sends is the commit it was given, with a signature. -/
theorem emitCommit_sent {commit : Request} {seq : UInt64} {s : Send}
    (hs : s ∈ (r.emitCommit env commit seq).sent) :
    ∃ sig, s.message = { commit with dataSignature := sig } := by
  unfold emitCommit at hs
  split at hs
  · exact absurd hs (List.not_mem_nil s)
  · rename_i signed hsign
    obtain ⟨sig, rfl⟩ := signCommit_eq hsign
    refine ⟨sig, ?_⟩
    split_ifs at hs <;> simp only [Outcome.sent_done, toShardMembers, List.mem_map,
      List.mem_singleton, List.not_mem_nil] at hs
    · rw [hs]; rfl
    · obtain ⟨_, -, rfl⟩ := hs; rfl

/-- Every message `ProcessPrepareMsg` sends is the PREPARE, forwarded, or its COMMIT, signed. -/
theorem processPrepareMsg_sent {s : Send}
    (hs : s ∈ (r.processPrepareMsg env context request).sent) :
    s.message = request ∨ ∃ sig, s.message = { r.commitRequestOf request with dataSignature := sig } := by
  rcases processPrepareMsg_cases env r context request with
    he | ⟨-, he⟩ | he | ⟨-, -, he⟩ | ⟨-, -, he⟩ <;> rw [he] at hs
  · exact absurd hs (List.not_mem_nil s)
  · exact .inl (by rw [List.mem_singleton.mp hs]; rfl)
  · exact absurd hs (by simp)
  · exact absurd hs (List.not_mem_nil s)
  · exact .inr (emitCommit_sent hs)

/-- A client request whose hash is marked proposed is not proposed. -/
theorem processNewRequest_ne_zero_of_proposed (h : request.hash ∈ r.duplicates.proposed)
    (r' : Replica) (sent : List Send) : r.processNewRequest env context request ≠ .done 0 r' sent := by
  rcases @processNewRequest_proposed env r context request with ⟨-, hne⟩ | ⟨hm, -⟩
  · exact hne r' sent
  · exact absurd h hm

variable {m : Request} {o : Outcome}

/-- No call takes a hash out of the proposed set. -/
theorem dispatch_proposed_subset (h : r.dispatch env context m = some o) :
    r.duplicates.proposed ⊆ o.replica.duplicates.proposed := by
  obtain ⟨type⟩ := m
  cases type <;> simp only [dispatch] at h <;> cases h
  · rcases @processNewRequest_proposed env r context _ with ⟨he, -⟩ | ⟨-, he, -⟩ <;> rw [he]
    exact Finset.subset_insert _ _
  · rcases @processProposeMsg_proposed env r context _ with he | ⟨-, -, -, he⟩
    · rw [he]
    · rw [he, addMovedRequest_duplicates]
      exact Finset.subset_insert _ _
  · rw [processPrepareMsg_duplicates]
  · rw [processCommitMsg_duplicates]

/-- **Where a PRE_PREPARE comes from.** Every PRE_PREPARE a call sends is a copy of the message it
handles, or the PRE_PREPARE of the client request `m` numbered by the counter, from the call that
adds `m`'s hash, unmarked before, to the proposed set. -/
theorem dispatch_prePrepare (h : r.dispatch env context m = some o) {s : Send} (hs : s ∈ o.sent)
    (ht : s.message.type = .prePrepare) :
    s.message = m ∨ s.message = r.prePrepareOf m r.nextSeq ∧ m.hash ∉ r.duplicates.proposed ∧
      o.replica.duplicates.proposed = insert m.hash r.duplicates.proposed := by
  cases htype : m.type <;> simp only [dispatch, htype] at h <;> cases h
  · rcases processNewRequest_sent hs with rfl | rfl | rfl | ⟨hret, _, rfl⟩
    · exact absurd (htype.symm.trans ht) nofun
    · exact .inl rfl
    · cases ht
    · rcases processNewRequest_cases env r context m with
        ⟨_, he⟩ | ⟨-, he⟩ | ⟨-, -, -, -, -, hm, -, he⟩ <;> rw [he] at hret ⊢
      · simp at hret
      · simp at hret
      · exact .inr ⟨rfl, hm, rfl⟩
  · exact .inl (processProposeMsg_sent hs)
  · refine (processPrepareMsg_sent hs).imp_right fun ⟨_, hc⟩ => ?_
    rw [hc] at ht
    cases ht
  · exact .inl (processCommitMsg_sent hs)

end Replica

namespace Cluster

variable {env : Env} {comm : ReplicaCommunicator} {context : Option String} {c c' : Cluster}

/-- What every run keeps: every replica with its own id; every PRE_PREPARE in flight with a hash
its sender has marked proposed; and two PRE_PREPAREs in flight with one sender and one hash the
same message. -/
structure Marked (c : Cluster) : Prop where
  selfId : ∀ n, (c.replica n).selfId = n
  marked : ∀ p ∈ c.inFlight, p.2.type = .prePrepare →
    p.2.hash ∈ (c.replica p.2.senderId).duplicates.proposed
  unique : ∀ p ∈ c.inFlight, ∀ q ∈ c.inFlight, p.2.type = .prePrepare → q.2.type = .prePrepare →
    q.2.senderId = p.2.senderId → q.2.hash = p.2.hash → q.2 = p.2

/-- The invariant carries to a cluster whose replicas keep their ids and proposed sets, with
hashes added, and whose PRE_PREPAREs in flight were in flight before or are one fresh message `pp`
whose hash its sender marks now. -/
theorem Marked.of_fresh (hi : c.Marked) (pp : Request) (hself : ∀ n, (c'.replica n).selfId = n)
    (hgrow : ∀ n, (c.replica n).duplicates.proposed ⊆ (c'.replica n).duplicates.proposed)
    (hnew : ∀ p ∈ c'.inFlight, p.2.type = .prePrepare → (∃ p' ∈ c.inFlight, p'.2 = p.2) ∨
      (p.2 = pp ∧ pp.hash ∉ (c.replica pp.senderId).duplicates.proposed ∧
        pp.hash ∈ (c'.replica pp.senderId).duplicates.proposed)) :
    c'.Marked := by
  refine ⟨hself, fun p hp ht => ?_, fun p hp q hq hpt hqt hsend hhash => ?_⟩
  · rcases hnew p hp ht with ⟨p', hp', he⟩ | ⟨he, -, hin⟩
    · exact hgrow _ (he ▸ hi.marked p' hp' (he ▸ ht))
    · exact he ▸ hin
  · rcases hnew p hp hpt with ⟨p', hp', hpe⟩ | ⟨hpe, hpfresh, -⟩ <;>
      rcases hnew q hq hqt with ⟨q', hq', hqe⟩ | ⟨hqe, hqfresh, -⟩
    · -- both were in flight before
      rw [← hpe, ← hqe] at hsend hhash ⊢
      exact hi.unique p' hp' q' hq' (hpe ▸ hpt) (hqe ▸ hqt) hsend hhash
    · -- `q` is the fresh one, and `p`'s hash was already marked at their sender
      have := hi.marked p' hp' (hpe ▸ hpt)
      rw [hpe, ← hsend, ← hhash, hqe] at this
      exact absurd this hqfresh
    · have := hi.marked q' hq' (hqe ▸ hqt)
      rw [hqe, hsend, hhash, hpe] at this
      exact absurd this hpfresh
    · rw [hpe, hqe]

/-- One delivery keeps the invariant, whatever is in flight. -/
theorem Marked.deliver (hi : c.Marked) (hd : Deliver env comm context c c') : c'.Marked := by
  cases hd with
  | drop before after n m hnext _ =>
    refine hi.of_fresh m hi.selfId (fun _ => subset_rfl) fun p hp _ => .inl ⟨p, ?_, rfl⟩
    exact hnext ▸ ((List.sublist_cons_self _ after).append_left before).subset hp
  | handle before after n m o hnext _ hcall =>
    have hin : (n, m) ∈ c.inFlight := hnext ▸ by simp
    have hsender : ((c.replica n).prePrepareOf m (c.replica n).nextSeq).senderId = n :=
      hi.selfId n
    refine hi.of_fresh ((c.replica n).prePrepareOf m (c.replica n).nextSeq)
      (fun k => (update_keeps Replica.selfId (Replica.dispatch_frame hcall).1 k).trans (hi.selfId k))
      (fun k => ?_) fun p hp ht => ?_
    · dsimp only
      rw [Function.update_apply]
      split_ifs with hk
      · rw [hk]; exact Replica.dispatch_proposed_subset hcall
      · exact subset_rfl
    · rcases mem_handle hnext hp with hp | ⟨s, hs, he⟩
      · exact .inl ⟨p, hp, rfl⟩
      -- a copy of the message handled, or the PRE_PREPARE of the call that marks its hash
      rcases Replica.dispatch_prePrepare hcall hs (he ▸ ht) with hm | ⟨hpp, hfresh, hprop⟩
      · exact .inl ⟨(n, m), hin, (he.trans hm).symm⟩
      · refine .inr ⟨he.trans hpp, ?_, ?_⟩ <;> dsimp only <;> rw [hsender]
        · exact hfresh
        · rw [Function.update_same, hprop]
          exact Finset.mem_insert_self _ _

/-- Every run keeps `Marked`. -/
theorem Marked.run (hi : c.Marked) (hrun : Relation.ReflTransGen (Deliver env comm context) c c') :
    c'.Marked := by
  induction hrun with
  | refl => exact hi
  | tail _ hd ih => exact ih.deliver hd

end Cluster

section Runs

variable {env : Env} {comm : ReplicaCommunicator} {context : Option String} {c₀ c : Cluster}

/-- **One hash, one proposal, in every run.** Take a cluster of replicas that know their own ids,
with no PRE_PREPARE in flight. Under every order of deliveries, with every communicator and
whatever else is in flight, recovery messages, PREPAREs and COMMITs included, every cluster
reached has this for each PRE_PREPARE in flight: its sender proposes no client request with its
hash, and any PRE_PREPARE in flight with the same sender and hash is the same message. -/
theorem prePrepare_hashes_unique (hself : ∀ n, (c₀.replica n).selfId = n)
    (hflight : ∀ p ∈ c₀.inFlight, p.2.type ≠ .prePrepare)
    (hrun : Relation.ReflTransGen (Deliver env comm context) c₀ c) :
    ∀ p ∈ c.inFlight, p.2.type = .prePrepare →
      (∀ (context' : Option String) (request : Request) r' sent, request.hash = p.2.hash →
        (c.replica p.2.senderId).processNewRequest env context' request ≠ .done 0 r' sent) ∧
      ∀ q ∈ c.inFlight, q.2.type = .prePrepare → q.2.senderId = p.2.senderId →
        q.2.hash = p.2.hash → q.2 = p.2 := by
  have h₀ : c₀.Marked :=
    ⟨hself, fun p hp ht => absurd ht (hflight p hp), fun p hp _ _ ht => absurd ht (hflight p hp)⟩
  have h := h₀.run hrun
  intro p hp ht
  refine ⟨fun _ request r' sent hhash => ?_, fun q hq hqt => h.unique p hp q hq ht hqt⟩
  exact Replica.processNewRequest_ne_zero_of_proposed (hhash ▸ h.marked p hp ht) r' sent

/-- A client retries its request at coordinator `1` of a one-shard cluster: the hypotheses hold,
the first copy is proposed with sequence number `1`, and the second is turned away, so one
PRE_PREPARE is in flight. -/
theorem prePrepare_hashes_unique_retry :
    let s := (((SystemInfo.init 0).setShardCount 1).run
      [.addReplica ⟨1, "10.0.0.1", 10001⟩, .addReplica ⟨2, "10.0.0.2", 10002⟩]).getD
        (SystemInfo.init 0)
    let comm : ReplicaCommunicator := ⟨s.getReplicas, [], true⟩
    let env : Env := { verifyMessage := fun _ _ => true, signMessage := some,
                       preVerifyFunc := none, needQc := false, isFaulty := false,
                       maxProcessTxn := 8, quorum := 2 }
    let a := { (default : Request) with hash := "a" }
    let c₀ : Cluster := ⟨fun n => Replica.init n s, fun _ => false, [(1, a), (1, a)], 0⟩
    (∀ n, (c₀.replica n).selfId = n) ∧ (∀ p ∈ c₀.inFlight, p.2.type ≠ .prePrepare) ∧
      ∃ c, Relation.ReflTransGen (Deliver env comm (some "sig")) c₀ c ∧
        c.inFlight.map (fun p => (p.2.type, p.2.senderId, p.2.seq, p.2.hash)) =
          [(.prePrepare, 1, 1, "a")] ∧
        ∀ p ∈ c.inFlight, p.2.type = .prePrepare →
          (∀ (context' : Option String) (request : Request) r' sent, request.hash = p.2.hash →
            (c.replica p.2.senderId).processNewRequest env context' request ≠ .done 0 r' sent) ∧
          ∀ q ∈ c.inFlight, q.2.type = .prePrepare → q.2.senderId = p.2.senderId →
            q.2.hash = p.2.hash → q.2 = p.2 := by
  intro s comm env a c₀
  have hself : ∀ n, (c₀.replica n).selfId = n := fun _ => rfl
  have hflight : ∀ p ∈ c₀.inFlight, p.2.type ≠ .prePrepare := by decide
  let o₁ := (c₀.replica 1).processNewRequest env (some "sig") a
  have h₁ := @Deliver.handle env comm (some "sig") c₀ [] [(1, a)] 1 a o₁ rfl rfl rfl
  let c₁ : Cluster := ⟨Function.update c₀.replica 1 o₁.replica,
    Function.update c₀.crashed 1 o₁.ret.isNone, [] ++ [(1, a)] ++ written comm o₁.sent,
    c₀.forwarded + forwardedCopies comm o₁⟩
  have h₂ := @Deliver.handle env comm (some "sig") c₁ [] (written comm o₁.sent) 1 a _
    (by decide) (by decide) rfl
  have hrun := Relation.ReflTransGen.tail (.single h₁) h₂
  exact ⟨hself, hflight, _, hrun, by decide, prePrepare_hashes_unique hself hflight hrun⟩

end Runs

end ShardedPbft
