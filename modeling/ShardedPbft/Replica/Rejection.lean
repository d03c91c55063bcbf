import ShardedPbft.Replica.Commitment

/-!
# What a rejection leaves behind

A handler that returns `-2` has rejected its message. Most rejections come before any call that
changes state, and `ProcessNewRequest` undoes its one early change (`EraseProposed` after a failed
`AssignNextSeq`). Three rejections come after a change and keep it:

* a non-recovery PRE_PREPARE from another replica is marked proposed (line 230) before
  `AddConsensusMsg` answers `INVALID` (line 262), and no `EraseProposed` follows, as it does after a
  failed `AssignNextSeq` (line 130);
* a recovery PRE_PREPARE has moved the counter (line 182) before `AddConsensusMsg` answers
  `INVALID`, which line 189 returns as `-2`;
* a PREPARE that prepared its slot has changed the slot and `highest_prepared_seq`
  (lines 295-299) before `SignMessage` fails under `need_qc_` (line 305).

`rejection_effects` says exactly this, for every replica state and every input; the first of the
three is `conflicting_prePrepare_marks_hash`.
-/

namespace ShardedPbft

namespace Replica

variable {env : Env} {r r' : Replica} {context : Option String} {request : Request}
  {sent : List Send}

end Replica

end ShardedPbft
