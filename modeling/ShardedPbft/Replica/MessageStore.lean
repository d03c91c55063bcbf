import ShardedPbft.Replica.Message

/-!
# The message store

`MessageManager::AddConsensusMsg` and `GetTransactionState` are not in the repository. They are
modelled from §4.3 of the spec: one `Slot` per sequence number, holding the slot's phase, the hash
its pre-prepare fixed, and the prepare and commit votes by sender.

* A `PRE_PREPARE` whose hash differs from the slot's is `INVALID` and changes nothing; the first
  one moves the slot from `IDLE` to `READY_PREPARE` and counts as the proposer's prepare.
* A second `PREPARE` or `COMMIT` from one sender is dropped.
* `quorum` matching prepares move `READY_PREPARE` to `READY_COMMIT`; `quorum` matching commits
  move `READY_COMMIT` to `READY_EXECUTE`. `STATE_CHANGED` is answered exactly on the message that
  makes the move.

The slot carries no level tag: no message field tells the levels apart, and the handlers choose
their branch from the phase alone. So one quorum serves every slot and both levels: it is a
parameter standing for a globally configured `f` (the open question at the end of §9, whether the
inner commit quorum is `2f_inner+1` of the shard or a global `f`), not the per-level `2f+1` of the
group size that §4.3 describes, which a store without levels cannot compute.
-/

namespace ShardedPbft

/-- Modelled from the spec: the phases of a sequence slot, `TransactionStatue` in the source's
spelling. -/
inductive TransactionStatue
  | idle
  | readyPrepare
  | readyCommit
  | readyExecute
  | executed
  deriving DecidableEq, Repr, Inhabited

/-- Modelled from the spec: the answers of `AddConsensusMsg`. -/
inductive CollectorResultCode
  | invalid
  | ok
  | stateChanged
  deriving DecidableEq, Repr, Inhabited

/-- Modelled from the spec: the enumerator values of `CollectorResultCode` (`INVALID = -2`,
`OK = 0`, `STATE_CHANGED = 1`), which the handlers return as `int` on their recovery paths. -/
def CollectorResultCode.toInt : CollectorResultCode → Int
  | .invalid => -2
  | .ok => 0
  | .stateChanged => 1

/-- `ret == CollectorResultCode::INVALID ? -2 : 0`, the code the non-recovery paths return. -/
def CollectorResultCode.code (ret : CollectorResultCode) : Int :=
  if ret = .invalid then -2 else 0

/-- Modelled from the spec: a sequence slot, its phase, the hash its pre-prepare fixed, and the
prepare and commit votes as `(sender, hash)` pairs, one per sender. -/
structure Slot where
  phase : TransactionStatue
  hash : Option String
  prepares : List (UInt32 × String)
  commits : List (UInt32 × String)
  deriving DecidableEq, Repr

namespace Slot

/-- The slot of a sequence number no message has referenced. -/
def empty : Slot := ⟨.idle, none, [], []⟩

/-- Record the vote of `sender` for `hash`, unless `sender` has voted for this slot already. -/
def addVote (votes : List (UInt32 × String)) (sender : UInt32) (hash : String) :
    List (UInt32 × String) :=
  if votes.any (·.1 == sender) then votes else votes ++ [(sender, hash)]

/-- The number of votes for the hash the slot's pre-prepare fixed. -/
def matching (votes : List (UInt32 × String)) (hash : Option String) : Nat :=
  (votes.filter fun v => some v.2 == hash).length

/-- Modelled from the spec: `AddConsensusMsg` on one slot, with the quorum of the slot's level. -/
def add (quorum : Nat) (slot : Slot) (r : Request) : CollectorResultCode × Slot :=
  match r.type with
  | .prePrepare =>
    if slot.hash.any (· != r.hash) then (.invalid, slot)
    else if slot.phase = .idle then
      (.stateChanged, { slot with phase := .readyPrepare, hash := some r.hash,
                                  prepares := addVote slot.prepares r.senderId r.hash })
    else (.ok, slot)
  | .prepare =>
    let prepares := addVote slot.prepares r.senderId r.hash
    if slot.phase = .readyPrepare ∧ quorum ≤ matching prepares slot.hash then
      (.stateChanged, { slot with phase := .readyCommit, prepares := prepares })
    else (.ok, { slot with prepares := prepares })
  | .commit =>
    let commits := addVote slot.commits r.senderId r.hash
    if slot.phase = .readyCommit ∧ quorum ≤ matching commits slot.hash then
      (.stateChanged, { slot with phase := .readyExecute, commits := commits })
    else (.ok, { slot with commits := commits })
  | _ => (.ok, slot)

variable {quorum : Nat} {slot : Slot} {r : Request}

/-- Only pre-prepares, prepares and commits change a slot's phase. -/
theorem type_of_stateChanged (h : (slot.add quorum r).1 = .stateChanged) :
    r.type = .prePrepare ∨ r.type = .prepare ∨ r.type = .commit := by
  obtain ⟨type⟩ := r
  cases type <;> simp [add] at h ⊢

end Slot

/-- Modelled from the spec: `AddConsensusMsg(signature, request)` on the store, one slot per
sequence number. The signature is kept by the store for certificates no modelled function reads,
so it is left out. -/
def addConsensusMsg (quorum : Nat) (store : UInt64 → Slot) (request : Request) :
    CollectorResultCode × (UInt64 → Slot) :=
  let res := (store request.seq).add quorum request
  (res.1, Function.update store request.seq res.2)

/-- Modelled from the spec: `GetTransactionState(seq)`, the phase of the slot of `seq`. -/
def getTransactionState (store : UInt64 → Slot) (seq : UInt64) : TransactionStatue :=
  (store seq).phase

end ShardedPbft
