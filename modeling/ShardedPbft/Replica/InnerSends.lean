import ShardedPbft.Topology.ClusterView
import ShardedPbft.Replica.Levels

/-!
# The inner-shard send loops

Four loops of commitment.cpp send one message to the members of this replica's shard: the PREPARE
of PHASE 3.5 in `ProcessProposeMsg` (lines 258-259), the local COMMIT of `ProcessPrepareMsg`
(lines 324-325), and the PRE_PREPARE and PREPARE of PHASE 3 in `ProcessCommitMsg` (lines 376-378
and 384-385). Each has the form

  `for (int i = 0; i < bound; i++) SendMessage(m, GetNodesInShard(GetShardOfNode(self))[i]);`

`loopReads` is such a loop: the entries it reads, in order, or `none` where the loop has no defined
behaviour, an index at or past the end of the vector or an `int` counter pushed past `2^31 - 1`.

The last three loops are bounded by `GetShardSize(GetShardOfNode(self))`; on a shard of fewer than
`2^31` members they read the whole shard, in order (`localCommitTargets_eq_toShardMembers` ties
the commit loop to `toShardMembers`, the commit sends of `emitCommit`). The PHASE 3.5 loop is
bounded by `GetShardOfNode(GetShardSize(...))`, the shard of the node whose id is the size; it
reaches every member exactly when that shard number equals the size (`inner_send_loops`), and on
one shard of four replicas it sends nothing (`phase35_sends_nothing`).

No run of the handlers reaches any of the four loops (`inner_loops_never_run`): the handlers reach
PHASE 3.5 and PHASE 3 only after reading the moved-from request (see `addMovedRequest`), and the
local COMMIT only in a phase that a PREPARE never leaves (`processPrepareMsg_sent_broadCast`). So
every message the three handlers send at a replica is their input, forwarded to its shard's
coordinator, or PHASE 2's `BroadCast`, and the loops are modelled apart from the handlers: what
they would do, were they reached, is `inner_send_loops`.
-/

namespace ShardedPbft

/-- `for (int i = 0; i < bound; i++) ... nodes[i]`: the entries the loop reads, in order. It is
`none` when the loop reads at or past the end of `nodes`, or when `bound` is `2^31` or more, so
that the `int` counter overflows before the comparison, made in the unsigned type of `bound`,
fails. -/
def loopReads (bound : Nat) (nodes : List UInt32) : Option (List UInt32) :=
  if bound < 2 ^ 31 then (List.range' 0 bound).mapM (nodes[·]?) else none

/-- Reading `n` entries from index `i` on reads the `n` entries after the first `i`, and fails
when they run past the end. -/
theorem mapM_range'_getElem? (nodes : List UInt32) (n : Nat) :
    ∀ i, i ≤ nodes.length → (List.range' i n).mapM (nodes[·]?) =
      if i + n ≤ nodes.length then some ((nodes.drop i).take n) else none := by
  induction n with
  | zero => intro i hi; rw [List.range'_zero, List.mapM_nil, if_pos (by omega), List.take_zero]; rfl
  | succ n ih =>
    intro i hi
    rw [List.range'_succ, List.mapM_cons]
    rcases Nat.lt_or_ge i nodes.length with hlt | hge
    · rw [List.getElem?_eq_getElem hlt, ih (i + 1) hlt, List.drop_eq_getElem_cons hlt]
      by_cases hend : i + 1 + n ≤ nodes.length
      · rw [if_pos hend, if_pos (by omega)]; rfl
      · rw [if_neg hend, if_neg (by omega)]; rfl
    · rw [List.getElem?_eq_none hge, if_neg (by omega)]; rfl

/-- The loop reads the first `bound` entries when `bound` is below `2^31` and the length, and has
no defined behaviour otherwise. -/
theorem loopReads_eq (bound : Nat) (nodes : List UInt32) :
    loopReads bound nodes =
      if bound < 2 ^ 31 ∧ bound ≤ nodes.length then some (nodes.take bound) else none := by
  unfold loopReads
  by_cases hb : bound < 2 ^ 31
  · rw [if_pos hb, mapM_range'_getElem? nodes bound 0 (Nat.zero_le _), Nat.zero_add, List.drop_zero]
    by_cases hle : bound ≤ nodes.length
    · rw [if_pos hle, if_pos ⟨hb, hle⟩]
    · rw [if_neg hle, if_neg fun h => hle h.2]
  · rw [if_neg hb, if_neg fun h => hb h.1]

/-- The loop's targets hold each of `members` once and nothing else: a defined loop that sends
exactly once to each member. -/
def SendsOnceTo (targets : Option (List UInt32)) (members : List UInt32) : Prop :=
  ∃ l, targets = some l ∧ ∀ n, l.count n = if n ∈ members then 1 else 0

/-- For distinct members, a defined loop sends once to each exactly when its targets are a
permutation of them. -/
theorem sendsOnceTo_iff {targets : Option (List UInt32)} {members : List UInt32}
    (hnd : members.Nodup) : SendsOnceTo targets members ↔ ∃ l, targets = some l ∧ l.Perm members := by
  simp only [SendsOnceTo, List.perm_iff_count, List.count_eq_of_nodup hnd]

/-- A loop over a prefix of distinct members reaches each of them once exactly when the prefix is
the whole list. -/
theorem sendsOnceTo_loopReads_iff {bound : Nat} {members : List UInt32} (hnd : members.Nodup) :
    SendsOnceTo (loopReads bound members) members ↔
      bound = members.length ∧ members.length < 2 ^ 31 := by
  rw [sendsOnceTo_iff hnd, loopReads_eq]
  constructor
  · rintro ⟨l, hl, hperm⟩
    split_ifs at hl with hb
    have hlen := hperm.length_eq
    simp only [Option.some.injEq] at hl
    rw [← hl, List.length_take] at hlen
    omega
  · rintro ⟨rfl, hlt⟩
    exact ⟨members, by rw [if_pos ⟨hlt, le_rfl⟩, List.take_length], List.Perm.refl _⟩

namespace Replica

/-- `GetNodesInShard(GetShardOfNode(self))`, the vector every inner-shard loop indexes. -/
def shardNodes (r : Replica) : List UInt32 :=
  r.systemInfo.getNodesInShard (r.systemInfo.getShardOfNode r.selfId)

/-- `GetShardSize(GetShardOfNode(self))`. -/
def shardSize (r : Replica) : Nat :=
  r.systemInfo.getShardSize (r.systemInfo.getShardOfNode r.selfId)

/-- An inner-shard loop with the given bound. -/
def shardLoop (r : Replica) (bound : Nat) : Option (List UInt32) :=
  loopReads bound r.shardNodes

/-- PHASE 3.5, lines 258-259: the bound is `GetShardOfNode(GetShardSize(GetShardOfNode(self)))`,
the size passed to `GetShardOfNode` as a `uint32_t`. -/
def phase35Targets (r : Replica) : Option (List UInt32) :=
  r.shardLoop (r.systemInfo.getShardOfNode (UInt32.ofNat r.shardSize)).toNat

/-- The local COMMIT, lines 324-325. -/
def localCommitTargets (r : Replica) : Option (List UInt32) :=
  r.shardLoop r.shardSize

/-- PHASE 3's PRE_PREPARE, lines 376-378: entries equal to this replica's id are skipped. -/
def phase3ProposeTargets (r : Replica) : Option (List UInt32) :=
  (r.shardLoop r.shardSize).map (·.filter (· != r.selfId))

/-- PHASE 3's PREPARE, lines 384-385. -/
def phase3PrepareTargets (r : Replica) : Option (List UInt32) :=
  r.shardLoop r.shardSize

variable {r : Replica}

/-- A loop bounded by the shard's size reads the whole shard, unless the size reaches `2^31`. -/
theorem shardLoop_shardSize :
    r.shardLoop r.shardSize = if r.shardNodes.length < 2 ^ 31 then some r.shardNodes else none := by
  simp [shardLoop, loopReads_eq, shardSize, shardNodes]

/-- On a shard of fewer than `2^31` members the local COMMIT loop sends to the members in order:
the sends `emitCommit` makes. -/
theorem localCommitTargets_eq_toShardMembers (hsize : r.shardNodes.length < 2 ^ 31) (m : Request) :
    r.localCommitTargets.map (·.map (.toNode m)) = some (r.toShardMembers m) := by
  rw [localCommitTargets, shardLoop_shardSize, if_pos hsize]
  rfl

/-- **The inner-shard send loops.** For every topology with the ClusterView invariant and every
replica `r` listed in shard `sh`: the local COMMIT loop and PHASE 3's PREPARE loop send exactly
once to each member of `sh`, and PHASE 3's PRE_PREPARE loop exactly once to each member other
than `r`, exactly when the shard has fewer than `2^31` members (from `2^31` on the `int` counter
overflows). The PHASE 3.5 loop reads the first `GetShardOfNode(size)` members, and is undefined
when that bound passes the size; it sends once to each member exactly when
`GetShardOfNode(size)` is the size. -/
theorem inner_send_loops {r : Replica} (h : r.systemInfo.ClusterView) {sh : UInt32}
    (hself : r.selfId ∈ r.systemInfo.getNodesInShard sh) :
    let members := r.systemInfo.getNodesInShard sh
    let bound := (r.systemInfo.getShardOfNode (UInt32.ofNat members.length)).toNat
    (SendsOnceTo r.localCommitTargets members ↔ members.length < 2 ^ 31) ∧
      (SendsOnceTo r.phase3PrepareTargets members ↔ members.length < 2 ^ 31) ∧
      (SendsOnceTo r.phase3ProposeTargets (members.filter (· != r.selfId)) ↔
        members.length < 2 ^ 31) ∧
      r.phase35Targets =
        (if bound < 2 ^ 31 ∧ bound ≤ members.length then some (members.take bound) else none) ∧
      (SendsOnceTo r.phase35Targets members ↔ bound = members.length ∧ members.length < 2 ^ 31) := by
  intro members bound
  have hnodes : r.shardNodes = members := by rw [shardNodes, h.getShardOfNode_eq hself]
  have hsize : r.shardSize = members.length := by rw [shardSize, h.getShardOfNode_eq hself]; rfl
  have hnd : members.Nodup := h.nodes_nodup sh
  have hwhole : SendsOnceTo (r.shardLoop r.shardSize) members ↔ members.length < 2 ^ 31 := by
    rw [shardLoop, hnodes, hsize, sendsOnceTo_loopReads_iff hnd, and_iff_right rfl]
  have h35 : r.phase35Targets = loopReads bound members := by
    rw [phase35Targets, shardLoop, hnodes, hsize]
  refine ⟨hwhole, hwhole, ?_, by rw [h35, loopReads_eq], by rw [h35, sendsOnceTo_loopReads_iff hnd]⟩
  rw [phase3ProposeTargets, shardLoop_shardSize, hnodes, sendsOnceTo_iff (hnd.filter _)]
  by_cases hlt : members.length < 2 ^ 31
  · exact iff_of_true ⟨_, by rw [if_pos hlt]; rfl, List.Perm.refl _⟩ hlt
  · exact iff_of_false (by rw [if_neg hlt]; simp) hlt

/-- One shard of four replicas, seen from replica `1`: the hypotheses hold, `GetShardOfNode(4)` is
`0`, and the PHASE 3.5 loop sends to no member. -/
theorem phase35_sends_nothing :
    let s := (((SystemInfo.init 0).setShardCount 1).run
      ([⟨1, "10.0.0.1", 10001⟩, ⟨2, "10.0.0.2", 10002⟩, ⟨3, "10.0.0.3", 10003⟩,
        ⟨4, "10.0.0.4", 10004⟩].map .addReplica)).getD (SystemInfo.init 0)
    let r := Replica.init 1 s
    r.systemInfo.ClusterView ∧ r.selfId ∈ r.systemInfo.getNodesInShard 0 ∧
      r.phase35Targets = some [] ∧ ¬ SendsOnceTo r.phase35Targets (r.systemInfo.getNodesInShard 0) ∧
      let members := r.systemInfo.getNodesInShard 0
      let bound := (r.systemInfo.getShardOfNode (UInt32.ofNat members.length)).toNat
      (SendsOnceTo r.localCommitTargets members ↔ members.length < 2 ^ 31) ∧
        (SendsOnceTo r.phase3PrepareTargets members ↔ members.length < 2 ^ 31) ∧
        (SendsOnceTo r.phase3ProposeTargets (members.filter (· != r.selfId)) ↔
          members.length < 2 ^ 31) ∧
        r.phase35Targets =
          (if bound < 2 ^ 31 ∧ bound ≤ members.length then some (members.take bound) else none) ∧
        (SendsOnceTo r.phase35Targets members ↔ bound = members.length ∧ members.length < 2 ^ 31) := by
  intro s r
  have hs : r.systemInfo.ClusterView := @SystemInfo.clusterView_run (SystemInfo.init 0) s 1
    (([⟨1, "10.0.0.1", 10001⟩, ⟨2, "10.0.0.2", 10002⟩, ⟨3, "10.0.0.3", 10003⟩,
      ⟨4, "10.0.0.4", 10004⟩] : List ReplicaInfo).map .addReplica) List.nodup_nil (by decide) rfl
  have hself : r.selfId ∈ r.systemInfo.getNodesInShard 0 := by decide
  have hloops := inner_send_loops hs hself
  exact ⟨hs, hself, by decide, fun hsend => absurd (hloops.2.2.2.2.mp hsend).1 (by decide), hloops⟩

end Replica

end ShardedPbft
