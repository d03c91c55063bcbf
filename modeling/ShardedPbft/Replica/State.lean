import Mathlib.Data.Finset.Basic
import ShardedPbft.Replica.MessageStore

/-!
# The state a replica's handlers read and write

`Commitment` reaches its state through `MessageManager` (topology queries, the message store, the
sequence counter) and `DuplicateManager`; neither is in the repository. This file gathers what the
four entry points read and write into one record, `Replica`, and what they only read into `Env`:
the configuration and the collaborators the spec places out of scope (signatures, the user's
pre-verification function, the faulty switch of the statistics module).

The topology queries that `MessageManager` adds on top of `SystemInfo` are modelled from §4.1:
`GetPrimaryOfNode(n)` is the coordinator of the shard of `n`, and `NodesInSameShard(a, b)`
compares the shards of `a` and `b`, so two nodes no shard lists are "in the same shard".

A handler call ends in an `Outcome`: it returns a code with the new state and the messages it
sent, in order, or it crashes. The crash is the null dereference of a request that the handler
has already moved into `AddConsensusMsg`, which takes ownership of it (§3: "on dispatch,
ownership transfers into a SequenceSlot").
-/

namespace ShardedPbft

namespace SystemInfo

/-- Modelled from the spec: `GetPrimaryOfNode(n)`, the coordinator of the shard of `n`. -/
def getPrimaryOfNode (s : SystemInfo) (nodeId : UInt32) : UInt32 :=
  s.getPrimaryOfShard (s.getShardOfNode nodeId)

/-- Modelled from the spec: `NodesInSameShard(a, b)`, whether the two nodes' shards agree. -/
def nodesInSameShard (s : SystemInfo) (a b : UInt32) : Bool :=
  s.getShardOfNode a == s.getShardOfNode b

end SystemInfo

/-- Modelled from the spec: the `DuplicateManager` (the spec's DuplicateGuard, §4.2), the hashes
marked proposed and, for each hash, the sequence number it was executed with (`0` when it was
not). -/
structure DuplicateManager where
  proposed : Finset String
  executed : String → UInt64

namespace DuplicateManager

/-- Modelled from the spec: `CheckAndAddProposed(hash)` answers whether the hash was marked
already, and marks it. -/
def checkAndAddProposed (d : DuplicateManager) (hash : String) : Bool × DuplicateManager :=
  if hash ∈ d.proposed then (true, d) else (false, { d with proposed := insert hash d.proposed })

/-- Modelled from the spec: `EraseProposed(hash)`. -/
def eraseProposed (d : DuplicateManager) (hash : String) : DuplicateManager :=
  { d with proposed := d.proposed.erase hash }

/-- Modelled from the spec: `CheckIfExecuted(hash)`, the sequence number or `0`. -/
def checkIfExecuted (d : DuplicateManager) (hash : String) : UInt64 := d.executed hash

variable {d : DuplicateManager} {hash : String}

/-- `CheckAndAddProposed` on a marked hash reports it and changes nothing. -/
theorem checkAndAddProposed_of_mem (h : hash ∈ d.proposed) : d.checkAndAddProposed hash = (true, d) :=
  if_pos h

/-- `CheckAndAddProposed` on an unmarked hash marks it. -/
theorem checkAndAddProposed_of_not_mem (h : hash ∉ d.proposed) :
    d.checkAndAddProposed hash = (false, { d with proposed := insert hash d.proposed }) :=
  if_neg h

end DuplicateManager

/-- What the handlers only read: `SignatureVerifier::VerifyMessage(data, signature)` and
`SignMessage(hash)`, the function installed by `SetPreVerifyFunc` (if any), `need_qc_` together
with `verifier_ != nullptr`, the faulty switch `global_stats_->IsFaulty()`, the cap on sequence
numbers in flight, and the quorum the message store applies. -/
structure Env where
  verifyMessage : String → String → Bool
  signMessage : String → Option String
  preVerifyFunc : Option (Request → Bool)
  needQc : Bool
  isFaulty : Bool
  maxProcessTxn : UInt64
  quorum : Nat

/-- `pre_verify_func_ && !pre_verify_func_(request)`: a function is installed and rejects. -/
def Env.preVerifyFails (env : Env) (request : Request) : Bool :=
  match env.preVerifyFunc with
  | none => false
  | some f => !f request

/-- What one replica's handlers read and write: its id (`config_.GetSelfInfo().id()`), the
topology its `MessageManager` consults, the duplicate manager, the message store, the sequence
counter `next_seq_` with the highest sequence number executed so far, `highest_prepared_seq`, and
the queue `request_complained_` of forwarded client requests. -/
structure Replica where
  selfId : UInt32
  systemInfo : SystemInfo
  duplicates : DuplicateManager
  store : UInt64 → Slot
  nextSeq : UInt64
  maxExecutedSeq : UInt64
  highestPreparedSeq : UInt64
  requestComplained : List (Option String × Request)

namespace Replica

/-- A replica that has seen nothing: no hash marked, every slot idle, and the counter at `1`, the
first sequence number of the spec's scenarios. -/
def init (selfId : UInt32) (s : SystemInfo) : Replica where
  selfId := selfId
  systemInfo := s
  duplicates := ⟨∅, fun _ => 0⟩
  store := fun _ => Slot.empty
  nextSeq := 1
  maxExecutedSeq := 0
  highestPreparedSeq := 0
  requestComplained := []

/-- `GetPrimaryOfNode(config_.GetSelfInfo().id())`, the coordinator of this replica's shard. -/
def coordinator (r : Replica) : UInt32 := r.systemInfo.getPrimaryOfNode r.selfId

/-- The replica with `hash` marked proposed, as a successful `CheckAndAddProposed` leaves it. -/
def markProposed (r : Replica) (hash : String) : Replica :=
  { r with duplicates := { r.duplicates with proposed := insert hash r.duplicates.proposed } }

/-- Modelled from the spec: `AssignNextSeq()`, the next sequence number, unless more than
`maxProcessTxn` numbers are in flight past the highest executed one. -/
def assignNextSeq (env : Env) (r : Replica) : Option (UInt64 × Replica) :=
  if env.maxProcessTxn < r.nextSeq - r.maxExecutedSeq then none
  else some (r.nextSeq, { r with nextSeq := r.nextSeq + 1 })

/-- A number drawn by `AssignNextSeq` is the counter, which moves on by one. -/
theorem assignNextSeq_eq_some {env : Env} {r r' : Replica} {seq : UInt64}
    (h : r.assignNextSeq env = some (seq, r')) : seq = r.nextSeq ∧ r' = { r with nextSeq := seq + 1 } := by
  unfold assignNextSeq at h
  split_ifs at h
  cases h
  exact ⟨rfl, rfl⟩

end Replica

/-- How one handler call ends: it returns `ret` with the replica's new state and the messages it
sent, or it crashes on a moved-from request after the sends made before. -/
inductive Outcome
  | done (ret : Int) (replica : Replica) (sent : List Send)
  | crash (replica : Replica) (sent : List Send)

namespace Outcome

/-- The replica's state when the call ends. -/
def replica : Outcome → Replica
  | done _ r _ => r
  | crash r _ => r

/-- The messages the call sent. -/
def sent : Outcome → List Send
  | done _ _ m => m
  | crash _ m => m

/-- The code the call returns; a call that crashes returns none. -/
def ret : Outcome → Option Int
  | done ret _ _ => some ret
  | crash _ _ => none

@[simp] theorem replica_done (ret : Int) (r : Replica) (m : List Send) :
    (done ret r m).replica = r := rfl

@[simp] theorem replica_crash (r : Replica) (m : List Send) : (crash r m).replica = r := rfl

@[simp] theorem sent_done (ret : Int) (r : Replica) (m : List Send) : (done ret r m).sent = m := rfl

@[simp] theorem sent_crash (r : Replica) (m : List Send) : (crash r m).sent = m := rfl

@[simp] theorem ret_done (ret : Int) (r : Replica) (m : List Send) : (done ret r m).ret = some ret :=
  rfl

@[simp] theorem ret_crash (r : Replica) (m : List Send) : (crash r m).ret = none := rfl

end Outcome

end ShardedPbft
