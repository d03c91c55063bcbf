import ShardedPbft.Replica.State

/-!
# The four entry points of `Commitment`

`ProcessNewRequest`, `ProcessProposeMsg`, `ProcessPrepareMsg` and `ProcessCommitMsg`
(platform/consensus/ordering/pbft/commitment.cpp, lines 67-389), each a function from the
replica's state and one message to an `Outcome`. Statistics calls and logging are left out; every
other call of the bodies is here, in the source's order.

Three pieces are shared:

* `forwards` and `forward`, the ingress-routing rule that opens the last three handlers, written
  three times in the source with the same text;
* `addRecovery`, the recovery paths, which return the answer of `AddConsensusMsg` as an `int`;
* `addMovedRequest`, the tail of `ProcessProposeMsg` and `ProcessCommitMsg`: both hand the request
  to `AddConsensusMsg` with `std::move(request)` and, on `STATE_CHANGED`, evaluate
  `GetTransactionState(request->seq())` on the moved-from pointer (lines 247 and 366). That read
  is the crash of the model; the branches behind it (PHASE 1, PHASE 3.5, PHASE 3 and PHASE 5) are
  never entered. `ProcessPrepareMsg` saves `seq_` before the move (line 294) and runs on.

One lemma per handler lists every way a call can end, with its guards (`processNewRequest_cases`
and the others). From them, `newly_proposed_iff` gives the exact condition under which a call
marks a hash proposed: the signature and pre-verification checks are among them, the comparison
of the hash with the digest of `data` is not.
-/

namespace ShardedPbft

namespace Replica

/-! ## Ingress routing and the shared tails -/

/-- The ingress-routing test of lines 163-164, 268-269 and 335-336: the sender is not in this
replica's shard, and this replica is not its shard's coordinator. -/
def forwards (r : Replica) (sender : UInt32) : Bool :=
  !r.systemInfo.nodesInSameShard sender r.selfId && r.selfId != r.coordinator

/-- Lines 167-172, 272-277 and 338-343: the request goes unchanged to
`GetPrimaryOfShard(GetShardOfNode(self))`, and the handler returns `-3`. -/
def forward (r : Replica) (request : Request) : Outcome :=
  .done (-3) r [.toNode request (r.systemInfo.getPrimaryOfShard (r.systemInfo.getShardOfNode r.selfId))]

/-- Lines 283-286 and 350-353: a recovery message goes to `AddConsensusMsg`, whose answer is
returned as an `int`. -/
def addRecovery (env : Env) (r : Replica) (request : Request) : Outcome :=
  let res := addConsensusMsg env.quorum r.store request
  .done res.1.toInt { r with store := res.2 } []

/-- Lines 244-262 and 360-388: the request goes to `AddConsensusMsg`; on `STATE_CHANGED` the
handler reads `request->seq()` after `std::move(request)` and crashes, otherwise it returns
`ret == INVALID ? -2 : 0`. -/
def addMovedRequest (env : Env) (r : Replica) (request : Request) : Outcome :=
  let res := addConsensusMsg env.quorum r.store request
  if res.1 = .stateChanged then .crash { r with store := res.2 } []
  else .done res.1.code { r with store := res.2 } []

/-! ## `ProcessNewRequest` -/

/-- The PRE_PREPARE that lines 145-149 make of a client request. -/
def prePrepareOf (r : Replica) (request : Request) (seq : UInt64) : Request :=
  { request with type := .prePrepare, currentView := r.systemInfo.view, seq := seq,
                 senderId := r.selfId, primaryId := r.selfId }

/-- The negative response of lines 132-137, sent when no sequence number is left. -/
def seqFailResponse (r : Replica) (request : Request) : Request :=
  { (default : Request) with type := .response, senderId := r.selfId, proxyId := request.proxyId,
                             ret := -2, hash := request.hash }

/-- Lines 152-154: a message to `GetPrimaryOfShard(i)` for every shard `i`. The loop's counter is
an `int`, so this is what the loop does with fewer than `2^31` shards; from `2^31` on the counter
overflows, and the theorems about the fan-out assume the bound. -/
def toShardPrimaries (r : Replica) (m : Request) : List Send :=
  (List.range r.systemInfo.getShardCount).map fun i =>
    .toNode m (r.systemInfo.getPrimaryOfShard (UInt32.ofNat i))

/-- `ProcessNewRequest(context, user_request)`, lines 67-158. -/
def processNewRequest (env : Env) (r : Replica) (context : Option String) (request : Request) :
    Outcome :=
  if unsigned context then .done (-2) r []
  else if r.duplicates.checkIfExecuted request.hash ≠ 0 then
    .done (-2) r [.response { request with seq := r.duplicates.checkIfExecuted request.hash }]
  else if r.selfId ≠ r.coordinator then
    .done (-3) { r with requestComplained := r.requestComplained ++ [(context, request)] }
      [.toNode request r.coordinator]
  else if !env.verifyMessage request.data request.dataSignature then .done (-2) r []
  else if env.preVerifyFails request then .done (-2) r []
  else match r.duplicates.checkAndAddProposed request.hash with
    | (true, _) => .done (-2) r []
    | (false, duplicates) =>
      let r := { r with duplicates := duplicates }
      match r.assignNextSeq env with
      | none =>
        .done (-2) { r with duplicates := r.duplicates.eraseProposed request.hash }
          [.toNode (r.seqFailResponse request) request.proxyId]
      | some (seq, r) => .done 0 r (r.toShardPrimaries (r.prePrepareOf request seq))

/-! ## `ProcessProposeMsg` -/

/-- Lines 179-191: a recovery PRE_PREPARE sets the counter to `seq + 1` when the counter is `0`
or equals `seq`, and then goes to `AddConsensusMsg`; otherwise the call returns `0`. -/
def proposeRecovery (env : Env) (r : Replica) (request : Request) : Outcome :=
  if r.nextSeq = 0 ∨ request.seq = r.nextSeq then
    addRecovery env { r with nextSeq := request.seq + 1 } request
  else .done 0 r []

/-- `ProcessProposeMsg(context, request)`, lines 161-263. The PREPARE built at lines 238-240 is
sent only behind the crash of `addMovedRequest`, so it is not part of the model. -/
def processProposeMsg (env : Env) (r : Replica) (context : Option String) (request : Request) :
    Outcome :=
  if r.forwards request.senderId then r.forward request
  else if env.isFaulty || unsigned context then .done (-2) r []
  else if request.isRecovery then r.proposeRecovery env request
  else if request.senderId ≠ r.systemInfo.primaryId ∧ request.senderId ≠ r.coordinator then
    .done (-2) r []
  else if request.senderId ≠ r.selfId then
    if env.preVerifyFails request then .done (-2) r []
    else if !env.verifyMessage request.data request.dataSignature then .done (-2) r []
    else match r.duplicates.checkAndAddProposed request.hash with
      | (true, _) => .done (-2) r []
      | (false, duplicates) => addMovedRequest env { r with duplicates := duplicates } request
  else addMovedRequest env r request

/-! ## `ProcessPrepareMsg` -/

/-- The COMMIT that lines 288-290 make of a PREPARE: a copy from this replica with its
`data_signature` cleared. -/
def commitRequestOf (r : Replica) (request : Request) : Request :=
  { newRequest .commit request r.selfId with dataSignature := "" }

/-- Lines 301-310: under `need_qc_` the commit carries this replica's signature of its hash, and a
failed signature ends the call. -/
def signCommit (env : Env) (commit : Request) : Option Request :=
  if env.needQc then (env.signMessage commit.hash).map fun sig => { commit with dataSignature := sig }
  else some commit

/-- Lines 296-299: the store after the prepare, with `highest_prepared_seq` raised to `seq`. -/
def recordPrepared (r : Replica) (store : UInt64 → Slot) (seq : UInt64) : Replica :=
  { r with store := store,
           highestPreparedSeq := if r.highestPreparedSeq < seq then seq else r.highestPreparedSeq }

/-- Lines 324-325: a message to every member of this replica's shard. -/
def toShardMembers (r : Replica) (m : Request) : List Send :=
  (r.systemInfo.getNodesInShard (r.systemInfo.getShardOfNode r.selfId)).map (.toNode m)

/-- Lines 300-327, once the slot is prepared: under `need_qc_` sign the commit, then send it by
the branch the slot's phase picks. At `READY_COMMIT` (PHASE 2) only the global primary sends, by
`BroadCast`; otherwise the commit goes to every member of this replica's shard. -/
def emitCommit (env : Env) (r : Replica) (commit : Request) (seq : UInt64) : Outcome :=
  match signCommit env commit with
  | none => .done (-2) r []
  | some commit =>
    if getTransactionState r.store seq = .readyCommit then
      .done 0 r (if r.selfId = r.systemInfo.primaryId then [.broadCast commit] else [])
    else .done 0 r (r.toShardMembers commit)

/-- `ProcessPrepareMsg(context, request)`, lines 266-330. -/
def processPrepareMsg (env : Env) (r : Replica) (context : Option String) (request : Request) :
    Outcome :=
  if r.forwards request.senderId then r.forward request
  else if unsigned context then .done (-2) r []
  else if request.isRecovery then r.addRecovery env request
  else
    let commit := r.commitRequestOf request
    let res := addConsensusMsg env.quorum r.store request
    if res.1 = .stateChanged then (r.recordPrepared res.2 request.seq).emitCommit env commit request.seq
    else .done res.1.code { r with store := res.2 } []

/-! ## `ProcessCommitMsg` -/

/-- `ProcessCommitMsg(context, request)`, lines 333-389. -/
def processCommitMsg (env : Env) (r : Replica) (context : Option String) (request : Request) :
    Outcome :=
  if r.forwards request.senderId then r.forward request
  else if unsigned context then .done (-2) r []
  else if request.isRecovery then r.addRecovery env request
  else addMovedRequest env r request

/-! ## What a call can do

One lemma per handler lists every way a call can end, with the guards that lead there, so that
the properties of the handlers are proved from these lemmas and never by unfolding a handler
again. -/

variable {env : Env} {r r' : Replica} {context : Option String} {request : Request}
  {sent : List Send}

/-- `ProcessNewRequest` rejects with `-2` and no change, forwards to the coordinator, or, at a
coordinator with the hash not yet proposed and a sequence number left, marks the hash, draws the
number and sends the PRE_PREPARE to every shard's coordinator. A failed `AssignNextSeq` is among
the rejections: `EraseProposed` undoes the mark. -/
theorem processNewRequest_cases (env : Env) (r : Replica) (context : Option String)
    (request : Request) :
    (∃ sent, r.processNewRequest env context request = .done (-2) r sent) ∨
    (r.selfId ≠ r.coordinator ∧ r.processNewRequest env context request =
      .done (-3) { r with requestComplained := r.requestComplained ++ [(context, request)] }
        [.toNode request r.coordinator]) ∨
    (unsigned context = false ∧ r.duplicates.checkIfExecuted request.hash = 0 ∧
      r.selfId = r.coordinator ∧ env.verifyMessage request.data request.dataSignature = true ∧
      env.preVerifyFails request = false ∧ request.hash ∉ r.duplicates.proposed ∧
      ¬ env.maxProcessTxn < r.nextSeq - r.maxExecutedSeq ∧
      r.processNewRequest env context request =
        .done 0 { r.markProposed request.hash with nextSeq := r.nextSeq + 1 }
          (r.toShardPrimaries (r.prePrepareOf request r.nextSeq))) := by
  generalize ho : r.processNewRequest env context request = o
  rw [processNewRequest] at ho
  by_cases h1 : unsigned context = true
  · rw [if_pos h1] at ho; exact .inl ⟨_, ho.symm⟩
  rw [if_neg h1] at ho
  by_cases h2 : r.duplicates.checkIfExecuted request.hash ≠ 0
  · rw [if_pos h2] at ho; exact .inl ⟨_, ho.symm⟩
  rw [if_neg h2] at ho
  by_cases h3 : r.selfId ≠ r.coordinator
  · rw [if_pos h3] at ho; exact .inr (.inl ⟨h3, ho.symm⟩)
  rw [if_neg h3] at ho
  by_cases h4 : (!env.verifyMessage request.data request.dataSignature) = true
  · rw [if_pos h4] at ho; exact .inl ⟨_, ho.symm⟩
  rw [if_neg h4] at ho
  by_cases h5 : env.preVerifyFails request = true
  · rw [if_pos h5] at ho; exact .inl ⟨_, ho.symm⟩
  rw [if_neg h5] at ho
  by_cases hm : request.hash ∈ r.duplicates.proposed
  · rw [DuplicateManager.checkAndAddProposed_of_mem hm] at ho
    exact .inl ⟨_, ho.symm⟩
  rw [DuplicateManager.checkAndAddProposed_of_not_mem hm] at ho
  simp only [assignNextSeq] at ho
  by_cases h6 : env.maxProcessTxn < r.nextSeq - r.maxExecutedSeq
  · rw [if_pos h6] at ho
    refine .inl ⟨[.toNode (r.seqFailResponse request) request.proxyId], ?_⟩
    simp only [← ho, DuplicateManager.eraseProposed, Finset.erase_insert hm]
    rfl
  · rw [if_neg h6] at ho
    exact .inr (.inr ⟨by simpa using h1, not_not.mp h2, not_not.mp h3, by simpa using h4,
      by simpa using h5, hm, h6, ho.symm⟩)

/-- `ProcessProposeMsg` rejects with `-2` and no change, forwards, takes the recovery path, or
hands the request to `AddConsensusMsg`: after marking its hash when the sender is another replica,
directly when the sender is this replica. -/
theorem processProposeMsg_cases (env : Env) (r : Replica) (context : Option String)
    (request : Request) :
    r.processProposeMsg env context request = .done (-2) r [] ∨
    (r.forwards request.senderId ∧ r.processProposeMsg env context request = r.forward request) ∨
    (request.isRecovery ∧ r.processProposeMsg env context request = r.proposeRecovery env request) ∨
    (r.forwards request.senderId = false ∧ (env.isFaulty || unsigned context) = false ∧
      request.isRecovery = false ∧
      (request.senderId = r.systemInfo.primaryId ∨ request.senderId = r.coordinator) ∧
      request.senderId ≠ r.selfId ∧ env.preVerifyFails request = false ∧
      env.verifyMessage request.data request.dataSignature = true ∧
      request.hash ∉ r.duplicates.proposed ∧
      r.processProposeMsg env context request =
        addMovedRequest env (r.markProposed request.hash) request) ∨
    (request.isRecovery = false ∧ request.senderId = r.selfId ∧
      r.processProposeMsg env context request = addMovedRequest env r request) := by
  generalize ho : r.processProposeMsg env context request = o
  rw [processProposeMsg] at ho
  by_cases h1 : r.forwards request.senderId
  · rw [if_pos h1] at ho; exact .inr (.inl ⟨h1, ho.symm⟩)
  rw [if_neg h1] at ho
  by_cases h2 : (env.isFaulty || unsigned context) = true
  · rw [if_pos h2] at ho; exact .inl ho.symm
  rw [if_neg h2] at ho
  by_cases h3 : request.isRecovery = true
  · rw [if_pos h3] at ho; exact .inr (.inr (.inl ⟨h3, ho.symm⟩))
  rw [if_neg h3] at ho
  rw [Bool.not_eq_true] at h3
  by_cases h4 : request.senderId ≠ r.systemInfo.primaryId ∧ request.senderId ≠ r.coordinator
  · rw [if_pos h4] at ho; exact .inl ho.symm
  rw [if_neg h4] at ho
  by_cases h5 : request.senderId ≠ r.selfId
  · rw [if_pos h5] at ho
    split_ifs at ho with h6 h7
    · exact .inl ho.symm
    · exact .inl ho.symm
    by_cases hm : request.hash ∈ r.duplicates.proposed
    · rw [DuplicateManager.checkAndAddProposed_of_mem hm] at ho
      exact .inl ho.symm
    · rw [DuplicateManager.checkAndAddProposed_of_not_mem hm] at ho
      exact .inr (.inr (.inr (.inl ⟨by simpa using h1, by simpa using h2, h3,
        (not_and_or.mp h4).imp not_not.mp not_not.mp, h5, by simpa using h6, by simpa using h7, hm,
        ho.symm⟩)))
  · rw [if_neg h5] at ho
    exact .inr (.inr (.inr (.inr ⟨h3, not_not.mp h5, ho.symm⟩)))

/-- `ProcessCommitMsg` rejects an unsigned message, forwards, takes the recovery path, or hands
the request to `AddConsensusMsg`. -/
theorem processCommitMsg_cases (env : Env) (r : Replica) (context : Option String)
    (request : Request) :
    r.processCommitMsg env context request = .done (-2) r [] ∨
    (r.forwards request.senderId ∧ r.processCommitMsg env context request = r.forward request) ∨
    r.processCommitMsg env context request = r.addRecovery env request ∨
    r.processCommitMsg env context request = addMovedRequest env r request := by
  unfold processCommitMsg
  split_ifs with h1
  · exact .inr (.inl ⟨h1, rfl⟩)
  · exact .inl rfl
  · exact .inr (.inr (.inl rfl))
  · exact .inr (.inr (.inr rfl))

/-- `ProcessPrepareMsg` rejects an unsigned message, forwards, takes the recovery path, or hands
the PREPARE to `AddConsensusMsg`: without a phase change it returns the code of the answer, with
one it records the prepare and emits the commit. -/
theorem processPrepareMsg_cases (env : Env) (r : Replica) (context : Option String)
    (request : Request) :
    r.processPrepareMsg env context request = .done (-2) r [] ∨
    (r.forwards request.senderId ∧ r.processPrepareMsg env context request = r.forward request) ∨
    r.processPrepareMsg env context request = r.addRecovery env request ∨
    (request.isRecovery = false ∧
      (addConsensusMsg env.quorum r.store request).1 ≠ .stateChanged ∧
      r.processPrepareMsg env context request =
        .done (addConsensusMsg env.quorum r.store request).1.code
          { r with store := (addConsensusMsg env.quorum r.store request).2 } []) ∨
    (request.isRecovery = false ∧
      (addConsensusMsg env.quorum r.store request).1 = .stateChanged ∧
      r.processPrepareMsg env context request =
        (r.recordPrepared (addConsensusMsg env.quorum r.store request).2 request.seq).emitCommit env
          (r.commitRequestOf request) request.seq) := by
  unfold processPrepareMsg
  dsimp only
  split_ifs with h1 h2 h3 h4
  · exact .inr (.inl ⟨h1, rfl⟩)
  · exact .inl rfl
  · exact .inr (.inr (.inl rfl))
  · exact .inr (.inr (.inr (.inr ⟨by simpa using h3, h4, rfl⟩)))
  · exact .inr (.inr (.inr (.inl ⟨by simpa using h3, h4, rfl⟩)))

/-! ## The duplicate manager

Only `ProcessNewRequest` and `ProcessProposeMsg` touch the proposed set, and each of them, run
alone, either leaves it as it was or adds the request's hash, which was not there. -/

@[simp] theorem forward_replica : (r.forward request).replica = r := rfl

@[simp] theorem addRecovery_duplicates :
    (r.addRecovery env request).replica.duplicates = r.duplicates := rfl

@[simp] theorem addMovedRequest_duplicates :
    (addMovedRequest env r request).replica.duplicates = r.duplicates := by
  unfold addMovedRequest
  dsimp only
  split_ifs <;> rfl

@[simp] theorem proposeRecovery_duplicates :
    (r.proposeRecovery env request).replica.duplicates = r.duplicates := by
  unfold proposeRecovery
  split_ifs <;> rfl

@[simp] theorem emitCommit_replica {commit : Request} {seq : UInt64} :
    (r.emitCommit env commit seq).replica = r := by
  unfold emitCommit
  split <;> (try split_ifs) <;> rfl

/-- `ProcessPrepareMsg` never touches the duplicate manager. -/
theorem processPrepareMsg_duplicates :
    (r.processPrepareMsg env context request).replica.duplicates = r.duplicates := by
  rcases processPrepareMsg_cases env r context request with
    he | ⟨-, he⟩ | he | ⟨-, -, he⟩ | ⟨-, -, he⟩ <;> rw [he] <;> simp [recordPrepared]

/-- `ProcessCommitMsg` never touches the duplicate manager. -/
theorem processCommitMsg_duplicates :
    (r.processCommitMsg env context request).replica.duplicates = r.duplicates := by
  rcases processCommitMsg_cases env r context request with he | ⟨-, he⟩ | he | he <;> rw [he] <;> simp

/-- `ProcessNewRequest` keeps the proposed set and returns something other than `0`, or returns
`0` having added the request's hash, which was not there. -/
theorem processNewRequest_proposed :
    ((r.processNewRequest env context request).replica.duplicates.proposed = r.duplicates.proposed ∧
      ∀ r' sent, r.processNewRequest env context request ≠ .done 0 r' sent) ∨
    (request.hash ∉ r.duplicates.proposed ∧
      (r.processNewRequest env context request).replica.duplicates.proposed =
        insert request.hash r.duplicates.proposed ∧
      ∃ r' sent, r.processNewRequest env context request = .done 0 r' sent) := by
  rcases processNewRequest_cases env r context request with
    ⟨_, he⟩ | ⟨-, he⟩ | ⟨-, -, -, -, -, hm, -, he⟩ <;>
    rw [he]
  · exact .inl ⟨rfl, fun _ _ h => absurd (Outcome.done.inj h).1 (by decide)⟩
  · exact .inl ⟨rfl, fun _ _ h => absurd (Outcome.done.inj h).1 (by decide)⟩
  · exact .inr ⟨hm, rfl, _, _, rfl⟩

/-- `ProcessProposeMsg` keeps the proposed set, or marks the fresh hash of a non-recovery request
from another replica and hands the request to `AddConsensusMsg`. -/
theorem processProposeMsg_proposed :
    (r.processProposeMsg env context request).replica.duplicates.proposed = r.duplicates.proposed ∨
    (request.isRecovery = false ∧ request.senderId ≠ r.selfId ∧
      request.hash ∉ r.duplicates.proposed ∧
      r.processProposeMsg env context request =
        addMovedRequest env (r.markProposed request.hash) request) := by
  rcases processProposeMsg_cases env r context request with
    he | ⟨-, he⟩ | ⟨-, he⟩ | ⟨-, -, hrec, -, hself, -, -, hm, he⟩ | ⟨-, -, he⟩
  all_goals first | exact .inr ⟨hrec, hself, hm, he⟩ | exact .inl (by simp [he])

/-- `ProcessNewRequest` on a request that passes every check marks its hash, draws the next
number and sends the PRE_PREPARE to every shard's coordinator. -/
theorem processNewRequest_of_admitted (h1 : unsigned context = false)
    (h2 : r.duplicates.checkIfExecuted request.hash = 0) (h3 : r.selfId = r.coordinator)
    (h4 : env.verifyMessage request.data request.dataSignature = true)
    (h5 : env.preVerifyFails request = false) (hm : request.hash ∉ r.duplicates.proposed)
    (h6 : ¬ env.maxProcessTxn < r.nextSeq - r.maxExecutedSeq) :
    r.processNewRequest env context request =
      .done 0 { r.markProposed request.hash with nextSeq := r.nextSeq + 1 }
        (r.toShardPrimaries (r.prePrepareOf request r.nextSeq)) := by
  rw [processNewRequest, if_neg (by simp [h1]), if_neg (by simp [h2]), if_neg (by simp [h3]),
    if_neg (by simp [h4]), if_neg (by simp [h5]), DuplicateManager.checkAndAddProposed_of_not_mem hm]
  simp only [assignNextSeq, if_neg h6]
  rfl

/-- `ProcessProposeMsg` on a non-recovery PRE_PREPARE from another replica that passes every
check marks its hash and hands the request to `AddConsensusMsg`. -/
theorem processProposeMsg_of_admitted (h1 : r.forwards request.senderId = false)
    (h2 : (env.isFaulty || unsigned context) = false) (h3 : request.isRecovery = false)
    (h4 : request.senderId = r.systemInfo.primaryId ∨ request.senderId = r.coordinator)
    (h5 : request.senderId ≠ r.selfId) (h6 : env.preVerifyFails request = false)
    (h7 : env.verifyMessage request.data request.dataSignature = true)
    (hm : request.hash ∉ r.duplicates.proposed) :
    r.processProposeMsg env context request =
      addMovedRequest env (r.markProposed request.hash) request := by
  rw [processProposeMsg, if_neg (by simp [h1]), if_neg (by simp [h2]), if_neg (by simp [h3]),
    if_neg (by tauto), if_pos h5, if_neg (by simp [h6]), if_neg (by simp [h7]),
    DuplicateManager.checkAndAddProposed_of_not_mem hm]
  rfl

/-- **What the proposed filter admits.** A call of `ProcessNewRequest` marks its request's hash,
unmarked before, exactly when the context is signed, the hash is not executed, this replica is its
shard's coordinator, `VerifyMessage(data, data_signature)` accepts, the installed
pre-verification (if any) accepts, and a sequence number is left. A call of `ProcessProposeMsg`
marks it exactly when the message is not forwarded, the replica is not faulty and the context is
signed, the message is not a recovery, its sender is the global primary or this shard's
coordinator and another replica, and both checks accept. No condition relates the hash to `data`:
the digest check of lines 98-103 and 202-208 is commented out. -/
theorem newly_proposed_iff (env : Env) (r : Replica) (context : Option String)
    (request : Request) :
    (request.hash ∉ r.duplicates.proposed ∧
        request.hash ∈ (r.processNewRequest env context request).replica.duplicates.proposed ↔
      unsigned context = false ∧ r.duplicates.checkIfExecuted request.hash = 0 ∧
        r.selfId = r.coordinator ∧ env.verifyMessage request.data request.dataSignature = true ∧
        env.preVerifyFails request = false ∧ request.hash ∉ r.duplicates.proposed ∧
        ¬ env.maxProcessTxn < r.nextSeq - r.maxExecutedSeq) ∧
    (request.hash ∉ r.duplicates.proposed ∧
        request.hash ∈ (r.processProposeMsg env context request).replica.duplicates.proposed ↔
      r.forwards request.senderId = false ∧ (env.isFaulty || unsigned context) = false ∧
        request.isRecovery = false ∧
        (request.senderId = r.systemInfo.primaryId ∨ request.senderId = r.coordinator) ∧
        request.senderId ≠ r.selfId ∧ env.preVerifyFails request = false ∧
        env.verifyMessage request.data request.dataSignature = true ∧
        request.hash ∉ r.duplicates.proposed) := by
  constructor
  · refine ⟨fun ⟨hm, hin⟩ => ?_, fun ⟨h1, h2, h3, h4, h5, hm, h6⟩ => ?_⟩
    · rcases processNewRequest_cases env r context request with
        ⟨_, he⟩ | ⟨-, he⟩ | ⟨h1, h2, h3, h4, h5, -, h6, -⟩
      · rw [he] at hin; exact absurd hin hm
      · rw [he] at hin; exact absurd hin hm
      · exact ⟨h1, h2, h3, h4, h5, hm, h6⟩
    · rw [processNewRequest_of_admitted h1 h2 h3 h4 h5 hm h6]
      exact ⟨hm, by simp [markProposed]⟩
  · refine ⟨fun ⟨hm, hin⟩ => ?_, fun ⟨h1, h2, h3, h4, h5, h6, h7, hm⟩ => ?_⟩
    · rcases processProposeMsg_cases env r context request with
        he | ⟨-, he⟩ | ⟨-, he⟩ | ⟨h1, h2, h3, h4, h5, h6, h7, -, -⟩ | ⟨-, -, he⟩
      · rw [he] at hin; exact absurd hin hm
      · rw [he, forward_replica] at hin; exact absurd hin hm
      · rw [he, proposeRecovery_duplicates] at hin; exact absurd hin hm
      · exact ⟨h1, h2, h3, h4, h5, h6, h7, hm⟩
      · rw [he, addMovedRequest_duplicates] at hin; exact absurd hin hm
    · rw [processProposeMsg_of_admitted h1 h2 h3 h4 h5 h6 h7 hm]
      exact ⟨hm, by simp [markProposed]⟩

/-- A coordinator of a one-shard cluster receives a validly signed request whose hash is not the
digest of its data, whatever function computes the digest: the hash is marked proposed. -/
theorem unchecked_digest_marked :
    let env : Env := { verifyMessage := fun data sig => sig == "signed:" ++ data,
                       signMessage := some, preVerifyFunc := none, needQc := false,
                       isFaulty := false, maxProcessTxn := 8, quorum := 1 }
    let r := Replica.init 1 (((SystemInfo.init 0).setShardCount 1).place ⟨1, "10.0.0.1", 10001⟩ 0)
    ∀ digest : String → String,
      let request : Request := { (default : Request) with data := "transfer 10",
                                                           dataSignature := "signed:transfer 10",
                                                           hash := digest "transfer 10" ++ "!" }
      request.hash ≠ digest request.data ∧ request.hash ∉ r.duplicates.proposed ∧
        request.hash ∈ (r.processNewRequest env (some "sig") request).replica.duplicates.proposed := by
  intro env r digest request
  have hne : request.hash ≠ digest request.data := fun h => by
    have hlen := congrArg String.length h
    have hone : "!".length = 1 := rfl
    simp only [request, String.length_append] at hlen
    omega
  refine ⟨hne, Finset.not_mem_empty _, ?_⟩
  rw [@processNewRequest_of_admitted env r (some "sig") request rfl rfl (by decide)
    (show ("signed:transfer 10" == "signed:" ++ "transfer 10") = true by decide) rfl
    (Finset.not_mem_empty _) (by decide)]
  exact Finset.mem_insert_self _ _

end Replica

end ShardedPbft
