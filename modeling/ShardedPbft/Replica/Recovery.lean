import Mathlib.Data.List.Chain
import ShardedPbft.Replica.Commitment

/-!
# Recovery PRE_PREPAREs and the sequence counter

A recovery PRE_PREPARE that passes the routing and signature checks of `ProcessProposeMsg` is
admitted when the counter `next_seq_` is `0` or equals the message's `seq`; the handler then sets
the counter to `seq + 1` and hands the message to `AddConsensusMsg` (lines 179-191). Otherwise it
returns `0` and changes nothing.

`recoveryRun` processes such messages one after another and records, for each admitted message,
its number and the counter the call left. The counter is a `uint64_t`: admitting `2^64 - 1` sets
it to `0`, the value that admits any number. So the admitted numbers are consecutive as integers
except after `2^64 - 1`, and each admission leaves the counter at `seq + 1` modulo `2^64`
(`recovery_admissions`); after `2^64 - 1` any number is admitted next (`recovery_wraps`).
-/

namespace ShardedPbft

namespace Replica

variable {env : Env} {r : Replica} {context : Option String} {request : Request}

/-- Recovery PRE_PREPAREs processed one after another by `ProcessProposeMsg`: the replica after
them, and for each message the recovery branch admits, its number and the counter the call left,
in order. -/
def recoveryRun (env : Env) (context : Option String) :
    Replica → List Request → Replica × List (UInt64 × UInt64)
  | r, [] => (r, [])
  | r, request :: rest =>
    let r' := (r.processProposeMsg env context request).replica
    let next := recoveryRun env context r' rest
    (next.1, (if r.nextSeq = 0 ∨ request.seq = r.nextSeq then [(request.seq, r'.nextSeq)] else []) ++
      next.2)

/-- The routing test reads only the replica's id and topology. -/
theorem forwards_congr {r' : Replica} (hid : r'.selfId = r.selfId)
    (hsys : r'.systemInfo = r.systemInfo) : r'.forwards = r.forwards := by
  funext sender
  simp [forwards, coordinator, hid, hsys]

/-- One recovery PRE_PREPARE past the routing and signature checks: the id and topology stay, and
the counter moves to `seq + 1` exactly when the message is admitted. -/
theorem recovery_step (hsigned : (env.isFaulty || unsigned context) = false)
    (hrec : request.isRecovery = true) (hf : r.forwards request.senderId = false) :
    let r' := (r.processProposeMsg env context request).replica
    r'.selfId = r.selfId ∧ r'.systemInfo = r.systemInfo ∧
      r'.nextSeq = if r.nextSeq = 0 ∨ request.seq = r.nextSeq then request.seq + 1 else r.nextSeq := by
  rw [processProposeMsg, if_neg (by simp [hf]), if_neg (by simp [hsigned]), if_pos hrec,
    proposeRecovery]
  split_ifs <;> exact ⟨rfl, rfl, rfl⟩

/-- The last counter of a non-empty record, read through its first entry. -/
theorem getLast_counter_cons (x : UInt64 × UInt64) (l : List (UInt64 × UInt64)) (d : UInt64) :
    ((x :: l).getLast?.map (·.2)).getD d = (l.getLast?.map (·.2)).getD x.2 := by
  cases l with
  | nil => rfl
  | cons y l =>
    rw [List.getLast?_cons_cons]
    cases h : (y :: l).getLast? with
    | none => simp at h
    | some z => rfl

/-- **Recovery admits numbers one after another, up to the wrap.** For every initial counter and
every list of recovery PRE_PREPAREs processed one after another by `ProcessProposeMsg` past its
routing and signature checks: each admission leaves the counter at its number plus one, modulo
`2^64`; the first admitted number is admitted by the initial counter (it is `0`, or equals it);
each later one is its predecessor plus one, as integers, whenever the predecessor is below
`2^64 - 1`; and the final counter is the one the last admission left. -/
theorem recovery_admissions (env : Env) (context : Option String) (r : Replica)
    (requests : List Request) (hsigned : (env.isFaulty || unsigned context) = false)
    (hpass : ∀ q ∈ requests, q.isRecovery = true ∧ r.forwards q.senderId = false) :
    let run := recoveryRun env context r requests
    run.2.Chain' (fun a b => a.1.toNat + 1 < 2 ^ 64 → b.1.toNat = a.1.toNat + 1) ∧
      (∀ a ∈ run.2, a.2 = a.1 + 1) ∧
      (∀ a ∈ run.2.head?, r.nextSeq = 0 ∨ a.1 = r.nextSeq) ∧
      run.1.nextSeq = (run.2.getLast?.map (·.2)).getD r.nextSeq := by
  induction requests generalizing r with
  | nil => exact ⟨List.chain'_nil, by simp [recoveryRun], by simp [recoveryRun], rfl⟩
  | cons q rest ih =>
    obtain ⟨hrec, hf⟩ := hpass q (List.mem_cons_self q rest)
    obtain ⟨hid, hsys, hseq⟩ := recovery_step hsigned hrec hf
    obtain ⟨hchain, hcount, hhead, hlast⟩ := ih _ fun q' hq' => by
      rw [forwards_congr hid hsys]
      exact hpass q' (List.mem_cons_of_mem q hq')
    simp only [recoveryRun]
    split_ifs with hadm
    · rw [if_pos hadm] at hseq
      refine ⟨List.chain'_cons'.mpr ⟨fun b hb hlt => ?_, hchain⟩, ?_, by simpa using hadm, ?_⟩
      · have hsucc : (q.seq + 1).toNat = q.seq.toNat + 1 := Nat.mod_eq_of_lt hlt
        rcases hhead b hb with h0 | hb1
        · rw [← hseq, h0] at hsucc
          simp at hsucc
        · rw [hb1, hseq, hsucc]
      · simpa [hseq] using hcount
      · simpa [getLast_counter_cons] using hlast
    · rw [if_neg hadm] at hseq
      simpa [hseq] using And.intro hchain (And.intro hcount (And.intro hhead hlast))

/-- A replica outside any shard with its counter at `2^64 - 1`, and two recovery PRE_PREPAREs from
replica `2`: the checks pass and the run reads as stated. -/
theorem recovery_admissions_at_top :
    let env : Env := { verifyMessage := fun _ _ => true, signMessage := some,
                       preVerifyFunc := none, needQc := false, isFaulty := false,
                       maxProcessTxn := 8, quorum := 1 }
    let r : Replica := { Replica.init 1 (SystemInfo.init 1) with nextSeq := 0xFFFFFFFFFFFFFFFF }
    let requests : List Request :=
      [{ (default : Request) with type := .prePrepare, seq := 0xFFFFFFFFFFFFFFFF, senderId := 2,
                                  isRecovery := true },
       { (default : Request) with type := .prePrepare, seq := 5, senderId := 2, isRecovery := true }]
    (env.isFaulty || unsigned (some "sig")) = false ∧
      (∀ q ∈ requests, q.isRecovery = true ∧ r.forwards q.senderId = false) ∧
      let run := recoveryRun env (some "sig") r requests
      run.2.Chain' (fun a b => a.1.toNat + 1 < 2 ^ 64 → b.1.toNat = a.1.toNat + 1) ∧
        (∀ a ∈ run.2, a.2 = a.1 + 1) ∧
        (∀ a ∈ run.2.head?, r.nextSeq = 0 ∨ a.1 = r.nextSeq) ∧
        run.1.nextSeq = (run.2.getLast?.map (·.2)).getD r.nextSeq := by
  intro env r requests
  have hpass : ∀ q ∈ requests, q.isRecovery = true ∧ r.forwards q.senderId = false := by decide
  exact ⟨rfl, hpass, recovery_admissions env (some "sig") r requests rfl hpass⟩

/-- The counter at `2^64 - 1` admits the recovery PRE_PREPARE with that number and wraps to `0`,
which admits `5` next: the numbers handed to `AddConsensusMsg` are `2^64 - 1` and then `5`. -/
theorem recovery_wraps :
    let env : Env := { verifyMessage := fun _ _ => true, signMessage := some,
                       preVerifyFunc := none, needQc := false, isFaulty := false,
                       maxProcessTxn := 8, quorum := 1 }
    let r : Replica := { Replica.init 1 (SystemInfo.init 1) with nextSeq := 0xFFFFFFFFFFFFFFFF }
    let requests : List Request :=
      [{ (default : Request) with type := .prePrepare, seq := 0xFFFFFFFFFFFFFFFF, senderId := 2,
                                  isRecovery := true },
       { (default : Request) with type := .prePrepare, seq := 5, senderId := 2, isRecovery := true }]
    (recoveryRun env (some "sig") r requests).2 = [(0xFFFFFFFFFFFFFFFF, 0), (5, 6)] ∧
      (5 : UInt64).toNat ≠ (0xFFFFFFFFFFFFFFFF : UInt64).toNat + 1 := by
  intro env r requests
  exact ⟨by decide, by decide⟩

end Replica

end ShardedPbft
