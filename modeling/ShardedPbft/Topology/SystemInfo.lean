import Mathlib.Data.List.Basic
import Mathlib.Logic.Function.Basic
import Mathlib.Algebra.Group.Nat.Basic

/-!
# The cluster view kept by `SystemInfo`

`SystemInfo` (platform/consensus/execution/system_info.cpp) holds the replica roster, the global
primary and view, and the shard maps added for sharding: `shard_count_`, `node_to_shard_`,
`shard_to_nodes_` and `shard_primaries_`.

The maps are total functions here. Every read of `shard_to_nodes_` treats a missing key as an
empty list (`GetShardSize`, `GetNodesInShard`, and `operator[]` in the scan), so a missing key and
an empty list are one value. `node_to_shard_` and `shard_primaries_` are read with `find`, so they
are `Option`-valued, and the queries answer the sentinel `UINT32_MAX` for a missing key.

`AddReplicaToShard` looks for the least-loaded shard with an `unsigned int` counter tested
against the `size_t` shard count. `scanShards` is that loop, structurally recursive in the number
of tests of the loop condition it may still make. Run for `shard_count_ + 1` tests it leaves the
loop with the first least-loaded shard whenever the count is below `2^32`
(`findTarget_isLeastLoaded`); for larger counts the counter wraps and the loop never ends
(`scanShards_eq_none_of_le`); `addReplicaToShard_scan` puts the two together. So every mutator
returns `Option SystemInfo`, where `none` is a call that does not return.
-/

namespace ShardedPbft

/-- `UINT32_MAX`, the "not assigned" answer of `GetShardOfNode`; `GetPrimaryOfShard` answers
`UINT_MAX`, the same value for a 32-bit `unsigned int`. -/
def uint32Max : UInt32 := 0xFFFFFFFF

/-- `SIZE_MAX`, the initial `min_size` of the least-loaded-shard scan. -/
def sizeMax : Nat := 2 ^ 64 - 1

/-- Modelled from the spec: the `ReplicaInfo` record of §3, `(id, ip, port)` with a `uint32` id
and a `uint16` port. Its protobuf declaration is not in the repository; the public key is read by
no modelled function. -/
structure ReplicaInfo where
  id : UInt32
  ip : String
  port : UInt16
  deriving DecidableEq, Repr, Inhabited

/-- The fields of `SystemInfo`: `replicas_`, `primary_id_`, `view_`, `shard_count_`,
`node_to_shard_`, `shard_to_nodes_` and `shard_primaries_`. -/
structure SystemInfo where
  replicas : List ReplicaInfo
  primaryId : UInt32
  view : UInt64
  shardCount : Nat
  nodeToShard : UInt32 → Option UInt32
  shardToNodes : UInt32 → List UInt32
  shardPrimaries : UInt32 → Option UInt32

namespace SystemInfo

/-- `SystemInfo()`: primary 1, view 1, no replica and no shard. The constructor leaves
`shard_count_` uninitialised, so its value is a parameter. -/
def init (shardCount : Nat) : SystemInfo where
  replicas := []
  primaryId := 1
  view := 1
  shardCount := shardCount
  nodeToShard := fun _ => none
  shardToNodes := fun _ => []
  shardPrimaries := fun _ => none

/-- `SystemInfo(config)`: the configured roster, its first replica the primary (the
configuration holds at least one replica, §6). -/
def ofConfig (roster : List ReplicaInfo) (shardCount : Nat) : SystemInfo :=
  { init shardCount with replicas := roster, primaryId := (roster.headD default).id }

/-! ## Queries -/

/-- `GetReplicas()`. -/
def getReplicas (s : SystemInfo) : List ReplicaInfo := s.replicas

/-- `GetShardCount()`. -/
def getShardCount (s : SystemInfo) : Nat := s.shardCount

/-- `GetShardSize(shard_id)`: `0` for a shard without a list. -/
def getShardSize (s : SystemInfo) (shardId : UInt32) : Nat := (s.shardToNodes shardId).length

/-- `GetNodesInShard(shard_id)`: empty for a shard without a list. -/
def getNodesInShard (s : SystemInfo) (shardId : UInt32) : List UInt32 := s.shardToNodes shardId

/-- `GetShardOfNode(node_id)`: `UINT32_MAX` for a node in no shard. -/
def getShardOfNode (s : SystemInfo) (nodeId : UInt32) : UInt32 :=
  (s.nodeToShard nodeId).getD uint32Max

/-- `GetPrimaryOfShard(shard_id)`: `UINT_MAX` for a shard without a coordinator. -/
def getPrimaryOfShard (s : SystemInfo) (shardId : UInt32) : UInt32 :=
  (s.shardPrimaries shardId).getD uint32Max

/-! ## Mutators -/

/-- `SetPrimary(id)`. -/
def setPrimary (s : SystemInfo) (id : UInt32) : SystemInfo := { s with primaryId := id }

/-- `SetCurrentView(view_id)`. -/
def setCurrentView (s : SystemInfo) (viewId : UInt64) : SystemInfo := { s with view := viewId }

/-- `SetReplicas(replicas)`: replaces the roster and leaves the shard maps as they are. -/
def setReplicas (s : SystemInfo) (replicas : List ReplicaInfo) : SystemInfo :=
  { s with replicas := replicas }

/-- `SetShardCount(count)`: fixes the count and clears the three shard maps, whatever replicas
the roster holds. -/
def setShardCount (s : SystemInfo) (count : Nat) : SystemInfo :=
  { s with shardCount := count, nodeToShard := fun _ => none, shardToNodes := fun _ => [],
           shardPrimaries := fun _ => none }

end SystemInfo

/-- The loop `for (unsigned int i = 0; i < shard_count_; ++i)` of `AddReplicaToShard` with its
running choice `target` and `min_size`: a shard strictly smaller than `min_size` becomes the
target. `fuel` bounds the tests of the loop condition still allowed; `none` means the loop has not
been left by then. The counter is a `UInt32`, so `i + 1` wraps at `2^32`. -/
def scanShards (count : Nat) (size : UInt32 → Nat) : Nat → UInt32 → UInt32 → Nat → Option UInt32
  | 0, _, _, _ => none
  | fuel + 1, i, target, minSize =>
    if i.toNat < count then
      if size i < minSize then scanShards count size fuel (i + 1) i (size i)
      else scanShards count size fuel (i + 1) target minSize
    else some target

namespace SystemInfo

/-- The shard `AddReplicaToShard` picks: the scan from `i = 0`, `target = 0` and
`min_size = SIZE_MAX`, allowed `shard_count_ + 1` tests of the loop condition. -/
def findTarget (s : SystemInfo) : Option UInt32 :=
  scanShards s.shardCount s.getShardSize (s.shardCount + 1) 0 0 sizeMax

/-- The writes of `AddReplicaToShard` once `target` is chosen: the replica is appended to the
roster and to the target's list, mapped to the target, and made the target's coordinator if the
target has none. -/
def place (s : SystemInfo) (replica : ReplicaInfo) (target : UInt32) : SystemInfo :=
  { s with
    replicas := s.replicas ++ [replica]
    nodeToShard := Function.update s.nodeToShard replica.id (some target)
    shardToNodes := Function.update s.shardToNodes target (s.shardToNodes target ++ [replica.id])
    shardPrimaries := if s.shardPrimaries target = none then
        Function.update s.shardPrimaries target (some replica.id) else s.shardPrimaries }

/-- `AddReplicaToShard(replica)`: nothing while the shard count is `0`, otherwise the replica is
placed in the least-loaded shard. -/
def addReplicaToShard (s : SystemInfo) (replica : ReplicaInfo) : Option SystemInfo :=
  if s.shardCount = 0 then some s else s.findTarget.map (s.place replica)

/-- `AddReplica(replica)`: a replica with id `0`, an empty ip or port `0`, or whose id is already
in the roster, is ignored; any other is handed to `AddReplicaToShard`. -/
def addReplica (s : SystemInfo) (replica : ReplicaInfo) : Option SystemInfo :=
  if replica.id = 0 ∨ replica.ip = "" ∨ replica.port = 0 then some s
  else if s.replicas.any (·.id == replica.id) then some s
  else s.addReplicaToShard replica

end SystemInfo

/-- `SystemInfoRequest::type()`: `ADD_REPLICA`, or any other value. -/
inductive SystemInfoRequestType
  | addReplica
  | unknown
  deriving DecidableEq, Repr

/-- A `SystemInfoRequest`. `request` is what `NewReplicaRequest::ParseFromString` makes of the
payload, `none` when the parse fails; protobuf decoding itself is not modelled. -/
structure SystemInfoRequest where
  type : SystemInfoRequestType
  request : Option ReplicaInfo
  deriving DecidableEq, Repr

namespace SystemInfo

/-- `ProcessRequest(request)`: an `ADD_REPLICA` request whose payload parses is `AddReplica` of
the parsed replica; every other request is ignored. -/
def processRequest (s : SystemInfo) (request : SystemInfoRequest) : Option SystemInfo :=
  match request.type, request.request with
  | .addReplica, some info => s.addReplica info
  | _, _ => some s

/-- The calls that change a `SystemInfo`. -/
inductive Call
  | addReplica (replica : ReplicaInfo)
  | processRequest (request : SystemInfoRequest)
  | setShardCount (count : Nat)
  | setReplicas (replicas : List ReplicaInfo)
  | setPrimary (id : UInt32)
  | setCurrentView (viewId : UInt64)
  deriving DecidableEq, Repr

/-- One call; `none` when it does not return. -/
def apply (s : SystemInfo) : Call → Option SystemInfo
  | .addReplica replica => s.addReplica replica
  | .processRequest request => s.processRequest request
  | .setShardCount count => some (s.setShardCount count)
  | .setReplicas replicas => some (s.setReplicas replicas)
  | .setPrimary id => some (s.setPrimary id)
  | .setCurrentView viewId => some (s.setCurrentView viewId)

/-- The state after a sequence of calls made one after another, `none` when one of them does not
return. -/
def run (s : SystemInfo) : List Call → Option SystemInfo
  | [] => some s
  | c :: cs => (s.apply c).bind fun s' => s'.run cs

/-! ## Equations -/

section Equations

variable {s s' : SystemInfo} {replica : ReplicaInfo} {target : UInt32}

@[simp] theorem getReplicas_eq : s.getReplicas = s.replicas := rfl

@[simp] theorem getShardCount_eq : s.getShardCount = s.shardCount := rfl

@[simp] theorem getNodesInShard_eq (sh : UInt32) : s.getNodesInShard sh = s.shardToNodes sh := rfl

@[simp] theorem getShardSize_eq (sh : UInt32) :
    s.getShardSize sh = (s.shardToNodes sh).length := rfl

@[simp] theorem setShardCount_replicas (count : Nat) :
    (s.setShardCount count).replicas = s.replicas := rfl

@[simp] theorem setShardCount_shardCount (count : Nat) :
    (s.setShardCount count).shardCount = count := rfl

@[simp] theorem setShardCount_nodeToShard (count : Nat) (n : UInt32) :
    (s.setShardCount count).nodeToShard n = none := rfl

@[simp] theorem setShardCount_shardToNodes (count : Nat) (sh : UInt32) :
    (s.setShardCount count).shardToNodes sh = [] := rfl

@[simp] theorem setShardCount_shardPrimaries (count : Nat) (sh : UInt32) :
    (s.setShardCount count).shardPrimaries sh = none := rfl

@[simp] theorem place_replicas : (s.place replica target).replicas = s.replicas ++ [replica] := rfl

@[simp] theorem place_shardCount : (s.place replica target).shardCount = s.shardCount := rfl

/-- `place` maps the new id to the target shard and leaves the other ids. -/
theorem place_nodeToShard (n : UInt32) : (s.place replica target).nodeToShard n =
    if n = replica.id then some target else s.nodeToShard n := by
  simp [place, Function.update_apply]

/-- `place` appends the new id to the target shard's list. -/
theorem place_shardToNodes (sh : UInt32) : (s.place replica target).shardToNodes sh =
    if sh = target then s.shardToNodes target ++ [replica.id] else s.shardToNodes sh := by
  simp [place, Function.update_apply]

/-- `place` makes the new id the coordinator of a target shard that has none. -/
theorem place_shardPrimaries (sh : UInt32) : (s.place replica target).shardPrimaries sh =
    if sh = target ∧ s.shardPrimaries target = none then some replica.id
    else s.shardPrimaries sh := by
  by_cases h : s.shardPrimaries target = none <;> by_cases hsh : sh = target <;>
    simp [place, Function.update_apply, h, hsh]

/-- What `AddReplica` can do: nothing, or place a replica with a valid, new id in the shard the
scan picks. -/
theorem addReplica_eq_some (h : s.addReplica replica = some s') :
    s' = s ∨ (replica.id ≠ 0 ∧ replica.ip ≠ "" ∧ replica.port ≠ 0 ∧
      replica.id ∉ s.replicas.map (·.id) ∧ 0 < s.shardCount ∧
      ∃ t, s.findTarget = some t ∧ s' = s.place replica t) := by
  unfold addReplica addReplicaToShard at h
  split_ifs at h with hbad hdup hzero
  · exact .inl (Option.some.inj h).symm
  · exact .inl (Option.some.inj h).symm
  · exact .inl (Option.some.inj h).symm
  · obtain ⟨t, ht, rfl⟩ := Option.map_eq_some'.mp h
    push_neg at hbad
    refine .inr ⟨hbad.1, hbad.2.1, hbad.2.2, fun hmem => hdup ?_, Nat.pos_of_ne_zero hzero, t, ht,
      rfl⟩
    obtain ⟨r, hr, hid⟩ := List.mem_map.mp hmem
    exact List.any_eq_true.mpr ⟨r, hr, beq_iff_eq.mpr hid⟩

/-- `ProcessRequest` is `AddReplica` of a parsed `ADD_REPLICA` payload, or nothing. -/
theorem processRequest_eq_some {request : SystemInfoRequest}
    (h : s.processRequest request = some s') :
    s' = s ∨ ∃ replica, s.addReplica replica = some s' := by
  unfold processRequest at h
  split at h
  · exact .inr ⟨_, h⟩
  · exact .inl (Option.some.inj h).symm

/-- Running calls one after another: the last call applies to the state the others left. -/
theorem run_append (cs : List Call) (c : Call) :
    s.run (cs ++ [c]) = (s.run cs).bind fun s' => s'.apply c := by
  induction cs generalizing s with
  | nil => simp [run]
  | cons c' cs ih => rw [List.cons_append, run, run, Option.bind_assoc]; simp only [ih]

end Equations

/-- A run keeps an invariant that every allowed call keeps. -/
theorem run_inv (P : SystemInfo → Prop) (allowed : Call → Prop)
    (step : ∀ s c s', P s → allowed c → s.apply c = some s' → P s') :
    ∀ {cs : List Call} {s s' : SystemInfo}, P s → (∀ c ∈ cs, allowed c) → s.run cs = some s' → P s'
  | [], _, _, hs, _, h => by cases h; exact hs
  | c :: cs, s, s', hs, hc, h => by
    obtain ⟨t, ht, h⟩ := Option.bind_eq_some.mp h
    exact run_inv P allowed step (step s c t hs (hc c (List.mem_cons_self c cs)) ht)
      (fun c' h' => hc c' (List.mem_cons_of_mem c h')) h

end SystemInfo

/-! ## The least-loaded-shard scan -/

/-- Adding one to a 32-bit counter below `2^32 - 1` does not wrap. -/
theorem uint32_toNat_add_one {i : UInt32} (h : i.toNat + 1 < 2 ^ 32) :
    (i + 1).toNat = i.toNat + 1 :=
  Nat.mod_eq_of_lt h

/-- `t` is the first shard of least size among `0, …, count - 1`. -/
def IsLeastLoaded (size : UInt32 → Nat) (count : Nat) (t : UInt32) : Prop :=
  t.toNat < count ∧ (∀ j : UInt32, j.toNat < count → size t ≤ size j) ∧
    ∀ j : UInt32, j.toNat < t.toNat → size t < size j

/-- There is one first least-loaded shard. -/
theorem IsLeastLoaded.unique {size : UInt32 → Nat} {count : Nat} {t t' : UInt32}
    (h : IsLeastLoaded size count t) (h' : IsLeastLoaded size count t') : t = t' := by
  refine UInt32.toNat.inj (le_antisymm (not_lt.mp fun hlt => ?_) (not_lt.mp fun hlt => ?_))
  · exact absurd (h'.2.1 t h.1) (not_le.mpr (h.2.2 t' hlt))
  · exact absurd (h.2.1 t' h'.1) (not_le.mpr (h'.2.2 t hlt))

/-- What the scan knows once the shards below `seen` are tested: `minSize` is at most each of
their sizes and below the sizes of the shards before `target`, and it is `target`'s size unless
no shard was tested yet. -/
def ScanInv (size : UInt32 → Nat) (seen : Nat) (target : UInt32) (minSize : Nat) : Prop :=
  (∀ j : UInt32, j.toNat < seen → minSize ≤ size j) ∧
  (∀ j : UInt32, j.toNat < target.toNat → minSize < size j) ∧
  (target.toNat < seen ∧ minSize = size target ∨ seen = 0 ∧ target = 0 ∧ minSize = sizeMax)

/-- The scan starts knowing nothing. -/
theorem scanInv_start (size : UInt32 → Nat) : ScanInv size 0 0 sizeMax :=
  ⟨fun _ h => absurd h (Nat.not_lt_zero _), fun _ h => absurd h (Nat.not_lt_zero _),
    .inr ⟨rfl, rfl, rfl⟩⟩

/-- Testing shard `i` keeps what the scan knows, as long as the shard is smaller than
`SIZE_MAX`. -/
theorem ScanInv.step {size : UInt32 → Nat} {i target : UInt32} {minSize : Nat}
    (h : ScanInv size i.toNat target minSize) (hi : size i < sizeMax) :
    ScanInv size (i.toNat + 1) (if size i < minSize then i else target)
      (if size i < minSize then size i else minSize) := by
  obtain ⟨hle, hlt, hcase⟩ := h
  split_ifs with hm
  · refine ⟨fun j hj => ?_, fun j hj => hm.trans_le (hle j hj), .inl ⟨by omega, rfl⟩⟩
    rcases Nat.lt_succ_iff_lt_or_eq.mp hj with hj | hj
    · exact (hm.trans_le (hle j hj)).le
    · rw [UInt32.toNat.inj hj]
  · refine ⟨fun j hj => ?_, hlt, ?_⟩
    · rcases Nat.lt_succ_iff_lt_or_eq.mp hj with hj | hj
      · exact hle j hj
      · rw [UInt32.toNat.inj hj]; omega
    · rcases hcase with ⟨ht, hm'⟩ | ⟨-, -, hm'⟩
      · exact .inl ⟨by omega, hm'⟩
      · exact absurd (hm' ▸ hi) hm

/-- One test of the loop condition that succeeds. -/
theorem scanShards_succ_of_lt {count : Nat} {size : UInt32 → Nat} {fuel : Nat}
    {i target : UInt32} {minSize : Nat} (hi : i.toNat < count) :
    scanShards count size (fuel + 1) i target minSize =
      scanShards count size fuel (i + 1) (if size i < minSize then i else target)
        (if size i < minSize then size i else minSize) := by
  simp only [scanShards, hi, if_true]
  split_ifs <;> rfl

/-- Below `2^32` shards the scan leaves the loop within its fuel and knows every shard. -/
theorem scanShards_spec {count : Nat} {size : UInt32 → Nat} (hcount : count < 2 ^ 32)
    (hsize : ∀ j : UInt32, j.toNat < count → size j < sizeMax) (fuel : Nat) :
    ∀ (i target : UInt32) (minSize : Nat), i.toNat ≤ count → count - i.toNat < fuel →
      ScanInv size i.toNat target minSize →
      ∃ t m, scanShards count size fuel i target minSize = some t ∧ ScanInv size count t m := by
  induction fuel with
  | zero => intro _ _ _ _ hf; exact absurd hf (Nat.not_lt_zero _)
  | succ fuel ih =>
    intro i target minSize hle hf hinv
    by_cases hi : i.toNat < count
    · have hsucc : (i + 1).toNat = i.toNat + 1 := uint32_toNat_add_one (by omega)
      rw [scanShards_succ_of_lt hi]
      exact ih _ _ _ (by omega) (by omega) (hsucc ▸ hinv.step (hsize i hi))
    · exact ⟨target, minSize, by simp [scanShards, hi], (show i.toNat = count by omega) ▸ hinv⟩

/-- Below `2^32` shards the scan leaves the loop within its fuel, whatever the shard sizes. -/
theorem scanShards_exits {count : Nat} {size : UInt32 → Nat} (hcount : count < 2 ^ 32)
    (fuel : Nat) : ∀ (i target : UInt32) (minSize : Nat), i.toNat ≤ count →
      count - i.toNat < fuel → ∃ t, scanShards count size fuel i target minSize = some t := by
  induction fuel with
  | zero => intro _ _ _ _ hf; exact absurd hf (Nat.not_lt_zero _)
  | succ fuel ih =>
    intro i target minSize hle hf
    by_cases hi : i.toNat < count
    · have hsucc : (i + 1).toNat = i.toNat + 1 := uint32_toNat_add_one (by omega)
      rw [scanShards_succ_of_lt hi]
      exact ih _ _ _ (by omega) (by omega)
    · exact ⟨target, by simp [scanShards, hi]⟩

/-- With `2^32` shards or more the `unsigned int` counter never reaches the count: the scan
never leaves the loop, whatever its fuel. -/
theorem scanShards_eq_none_of_le {count : Nat} {size : UInt32 → Nat} (h : 2 ^ 32 ≤ count)
    (fuel : Nat) : ∀ (i target : UInt32) (minSize : Nat),
      scanShards count size fuel i target minSize = none := by
  induction fuel with
  | zero => intros; rfl
  | succ fuel ih =>
    intro i target minSize
    rw [scanShards_succ_of_lt (lt_of_lt_of_le i.toNat_lt_size h)]
    exact ih _ _ _

/-- The scan answers its initial target or a shard it tested. -/
theorem scanShards_eq_some {count : Nat} {size : UInt32 → Nat} (fuel : Nat) :
    ∀ {i target t : UInt32} {minSize : Nat}, scanShards count size fuel i target minSize = some t →
      t = target ∨ t.toNat < count := by
  induction fuel with
  | zero => intro _ _ _ _ h; cases h
  | succ fuel ih =>
    intro i target t minSize h
    by_cases hi : i.toNat < count
    · rw [scanShards_succ_of_lt hi] at h
      rcases ih h with h | h
      · split_ifs at h with hm
        · exact .inr (h ▸ hi)
        · exact .inl h
      · exact .inr h
    · simp only [scanShards, hi, if_false, Option.some.injEq] at h
      exact .inl h.symm

namespace SystemInfo

/-- The shard `AddReplicaToShard` picks is below the shard count. -/
theorem findTarget_lt {s : SystemInfo} {t : UInt32} (hpos : 0 < s.shardCount)
    (h : s.findTarget = some t) : t.toNat < s.shardCount := by
  rcases scanShards_eq_some _ h with rfl | h
  · exact hpos
  · exact h

/-- With a shard count in `[1, 2^32)` and every shard smaller than `SIZE_MAX`,
`AddReplicaToShard` leaves its loop with the first least-loaded shard. -/
theorem findTarget_isLeastLoaded (s : SystemInfo) (hpos : 0 < s.shardCount)
    (hlt : s.shardCount < 2 ^ 32)
    (hsize : ∀ j : UInt32, j.toNat < s.shardCount → s.getShardSize j < sizeMax) :
    ∃ t, s.findTarget = some t ∧ IsLeastLoaded s.getShardSize s.shardCount t := by
  obtain ⟨t, m, ht, hle, hlt', hcase⟩ :=
    scanShards_spec hlt hsize (s.shardCount + 1) 0 0 sizeMax (Nat.zero_le _) (by simp)
      (scanInv_start _)
  rcases hcase with ⟨htc, rfl⟩ | ⟨h0, -, -⟩
  · exact ⟨t, ht, htc, hle, hlt'⟩
  · exact absurd h0 hpos.ne'

/-- **The scan and the `size_t` count.** With a positive shard count `S`, `AddReplicaToShard`
leaves its loop when `S < 2^32` and places the replica in a shard `t < S`, which is not the
sentinel `UINT32_MAX` and is stored unchanged under the `uint32` keys. When `S ≥ 2^32`, a value
`SetShardCount` accepts as any `size_t`, the `unsigned int` counter wraps before it reaches `S`:
no number of tests of the loop condition leaves the loop, and the call never returns. -/
theorem addReplicaToShard_scan (s : SystemInfo) (replica : ReplicaInfo) (hpos : 0 < s.shardCount) :
    (s.shardCount < 2 ^ 32 → ∃ t, s.addReplicaToShard replica = some (s.place replica t) ∧
      t.toNat < s.shardCount ∧ t ≠ uint32Max) ∧
    (2 ^ 32 ≤ s.shardCount → s.addReplicaToShard replica = none ∧
      ∀ fuel, scanShards s.shardCount s.getShardSize fuel 0 0 sizeMax = none) := by
  refine ⟨fun hlt => ?_, fun hle => ?_⟩
  · obtain ⟨t, ht⟩ : ∃ t, s.findTarget = some t :=
      scanShards_exits hlt _ _ _ _ (Nat.zero_le _) (by simp)
    have htlt : t.toNat < s.shardCount := findTarget_lt hpos ht
    have hmax : uint32Max.toNat = 2 ^ 32 - 1 := rfl
    refine ⟨t, by simp [addReplicaToShard, hpos.ne', ht], htlt, fun he => ?_⟩
    rw [he, hmax] at htlt
    omega
  · have hnone := @scanShards_eq_none_of_le _ s.getShardSize hle
    exact ⟨by simp [addReplicaToShard, hpos.ne', findTarget, hnone], fun fuel => hnone fuel _ _ _⟩

/-- `SetShardCount(2^32)`, a count that fits a `size_t`, followed by `AddReplica` of a valid new
replica: no number of tests of the loop condition leaves the loop, and the call never returns. -/
theorem shard_scan_never_exits :
    let s := (init 0).setShardCount (2 ^ 32)
    let replica : ReplicaInfo := ⟨1, "10.0.0.1", 10001⟩
    0 < s.shardCount ∧ s.shardCount < 2 ^ 64 ∧ s.addReplica replica = none ∧
      ∀ fuel, scanShards s.shardCount s.getShardSize fuel 0 0 sizeMax = none := by
  intro s replica
  have h := (addReplicaToShard_scan s replica (by decide)).2 le_rfl
  refine ⟨by decide, by decide, ?_, h.2⟩
  rw [addReplica, if_neg (by decide), if_neg (by decide)]
  exact h.1

end SystemInfo

end ShardedPbft
