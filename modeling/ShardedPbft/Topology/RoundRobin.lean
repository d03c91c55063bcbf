import Mathlib.Data.Fintype.Card
import Mathlib.Data.Fintype.Fin
import Mathlib.Data.List.Nodup
import ShardedPbft.Topology.SystemInfo

/-!
# Round-robin placement

From a state right after `SetShardCount(S)` with `1 ≤ S < 2^32`, `AddReplicaToShard` fills the
shards in turn: the `k`-th accepted replica lands in shard `k % S`, and the first `S` become the
coordinators.

`accepted` lists the replicas that a run of calls gets accepted, in order: those that pass the
checks of `AddReplica`. `RoundRobin S roster acc s` describes the maps after the replicas `acc` were
accepted in this order. It holds right after `SetShardCount` (`roundRobin_setShardCount`). With
`n` replicas accepted the shards below `n % S` hold `n / S + 1` nodes and the others `n / S`
(`RoundRobin.size_eq`, from `countP_range_mod`), so `n % S` is the first least-loaded shard and
`AddReplica` extends the description by the replica it accepts (`RoundRobin.addReplica`). The
placement and balance laws follow on every run, for the replicas `accepted` lists
(`roundRobin_placement`).
-/

namespace ShardedPbft

/-- How many of `0, …, n - 1` fall in the residue class `i` modulo `S`. -/
theorem countP_range_mod {S i : Nat} (hS : 0 < S) (hi : i < S) (n : Nat) :
    (List.range n).countP (fun k => k % S == i) = n / S + if i < n % S then 1 else 0 := by
  induction n with
  | zero => simp
  | succ n ih =>
    rw [List.range_succ, List.countP_append, ih, List.countP_singleton]
    obtain ⟨q, m, hm, rfl⟩ : ∃ q m, m < S ∧ n = m + S * q :=
      ⟨n / S, n % S, Nat.mod_lt _ hS, (Nat.mod_add_div n S).symm⟩
    have hdiv : ∀ a, a < S → (a + S * q) / S = q := fun a ha => by
      rw [Nat.add_mul_div_left _ _ hS, Nat.div_eq_of_lt ha, Nat.zero_add]
    have hmod : ∀ a, a < S → (a + S * q) % S = a := fun a ha => by
      rw [Nat.add_mul_mod_self_left, Nat.mod_eq_of_lt ha]
    rw [hdiv m hm, hmod m hm, show m + S * q + 1 = (m + 1) + S * q by omega]
    rcases Nat.lt_or_ge (m + 1) S with h | h
    · rw [hdiv _ h, hmod _ h]
      simp only [beq_iff_eq]; split_ifs <;> omega
    · obtain rfl : S = m + 1 := by omega
      rw [show m + 1 + (m + 1) * q = 0 + (m + 1) * (q + 1) by rw [Nat.mul_succ]; omega,
        Nat.add_mul_div_left _ _ hS, Nat.add_mul_mod_self_left, Nat.zero_div, Nat.zero_mod]
      simp only [beq_iff_eq]; split_ifs <;> omega

/-- A list of distinct 32-bit ids has at most `2^32` entries. -/
theorem length_le_of_nodup_uint32 {l : List UInt32} (h : l.Nodup) : l.length ≤ 2 ^ 32 := by
  have := (h.map (f := UInt32.val) fun _ _ e => UInt32.eq_of_val_eq e).length_le_card
  rwa [List.length_map, Fintype.card_fin] at this

namespace SystemInfo

/-- The calls of a placement run: `AddReplica` and `ProcessRequest`. -/
def Call.isAdd : Call → Bool
  | .addReplica _ | .processRequest _ => true
  | _ => false

/-- The replica a placement call hands to `AddReplica`: its argument, or the parsed payload of an
`ADD_REPLICA` request (lines 64-68). -/
def Call.offered : Call → Option ReplicaInfo
  | .addReplica replica => some replica
  | .processRequest ⟨.addReplica, some replica⟩ => some replica
  | _ => none

/-- The replica `AddReplica` accepts from the call into a roster with the ids `ids`: the offered
replica, when it passes the checks of lines 49-57 (an id other than `0`, an ip, a port other than
`0`, and an id not in the roster). -/
def Call.acceptedBy (ids : List UInt32) (c : Call) : List ReplicaInfo :=
  match c.offered with
  | some r => if r.id = 0 ∨ r.ip = "" ∨ r.port = 0 ∨ r.id ∈ ids then [] else [r]
  | none => []

/-- The replicas that the calls `cs`, made one after another, get accepted, in order, starting
from a roster with the ids `ids`. -/
def accepted (ids : List UInt32) : List Call → List ReplicaInfo
  | [] => []
  | c :: cs => c.acceptedBy ids ++ accepted (ids ++ (c.acceptedBy ids).map (·.id)) cs

/-- The maps after the replicas `acc` were accepted in this order over `S` shards, from the roster
`roster`: the `k`-th of `acc` listed in shard `k % S` and mapped to it, and the first of each shard
its coordinator. -/
structure RoundRobin (S : Nat) (roster acc : List ReplicaInfo) (s : SystemInfo) : Prop where
  replicas_eq : s.replicas = roster ++ acc
  shardCount_eq : s.shardCount = S
  ids_nodup : (acc.map (·.id)).Nodup
  shardToNodes_eq : ∀ sh : UInt32,
    s.shardToNodes sh = (acc.enum.filter fun p => p.1 % S == sh.toNat).map (·.2.id)
  nodeToShard_eq : ∀ k (hk : k < acc.length), s.nodeToShard acc[k].id = some (UInt32.ofNat (k % S))
  shardPrimaries_eq : ∀ sh : UInt32,
    s.shardPrimaries sh = if sh.toNat < S then acc[sh.toNat]?.map (·.id) else none

/-- Right after `SetShardCount(S)` nothing is placed. -/
theorem roundRobin_setShardCount (s : SystemInfo) (S : Nat) :
    RoundRobin S s.replicas [] (s.setShardCount S) where
  replicas_eq := (List.append_nil _).symm
  shardCount_eq := rfl
  ids_nodup := List.nodup_nil
  shardToNodes_eq _ := rfl
  nodeToShard_eq _ hk := absurd hk (Nat.not_lt_zero _)
  shardPrimaries_eq _ := by simp

section RoundRobin

variable {S : Nat} {roster acc : List ReplicaInfo} {s : SystemInfo}

/-- A shard below the count holds `n / S + 1` nodes if it is below `n % S`, and `n / S` otherwise,
`n` being the number of accepted replicas. -/
theorem RoundRobin.size_eq (h : RoundRobin S roster acc s) (hS : 0 < S) {sh : UInt32}
    (hsh : sh.toNat < S) :
    s.getShardSize sh = acc.length / S + if sh.toNat < acc.length % S then 1 else 0 := by
  rw [SystemInfo.getShardSize_eq, h.shardToNodes_eq, List.length_map,
    ← List.countP_eq_length_filter, ← countP_range_mod hS hsh, ← List.enum_map_fst,
    List.countP_map]
  rfl

/-- No shard holds more nodes than were accepted. -/
theorem RoundRobin.size_le (h : RoundRobin S roster acc s) (sh : UInt32) :
    s.getShardSize sh ≤ acc.length := by
  rw [SystemInfo.getShardSize_eq, h.shardToNodes_eq, List.length_map, ← List.enum_length (l := acc)]
  exact List.length_filter_le _ _

/-- The shard `n % S` as a 32-bit shard id. -/
theorem toNat_ofNat_mod {n S : Nat} (hS : 0 < S) (hS32 : S < 2 ^ 32) :
    (UInt32.ofNat (n % S)).toNat = n % S :=
  UInt32.toNat_ofNat_of_lt (by have := Nat.mod_lt n hS; unfold UInt32.size; omega)

/-- The next replica goes to shard `n % S`, the first least-loaded one. -/
theorem RoundRobin.isLeastLoaded (h : RoundRobin S roster acc s) (hS : 0 < S) (hS32 : S < 2 ^ 32) :
    IsLeastLoaded s.getShardSize s.shardCount (UInt32.ofNat (acc.length % S)) := by
  have ht := toNat_ofNat_mod (n := acc.length) hS hS32
  have hlt : (UInt32.ofNat (acc.length % S)).toNat < S := by rw [ht]; exact Nat.mod_lt _ hS
  rw [h.shardCount_eq]
  refine ⟨hlt, fun j hj => ?_, fun j hj => ?_⟩ <;>
    rw [h.size_eq hS hlt, h.size_eq hS (by omega), ht] <;> split_ifs <;> omega

/-- Placing a new replica in shard `n % S` extends the description by it. -/
theorem RoundRobin.place (h : RoundRobin S roster acc s) (hS : 0 < S) (hS32 : S < 2 ^ 32)
    {r : ReplicaInfo} (hnew : r.id ∉ acc.map (·.id)) :
    RoundRobin S roster (acc ++ [r]) (s.place r (UInt32.ofNat (acc.length % S))) := by
  have ht := toNat_ofNat_mod (n := acc.length) hS hS32
  have hteq : ∀ sh : UInt32, sh = UInt32.ofNat (acc.length % S) ↔ acc.length % S = sh.toNat :=
    fun sh => ⟨fun e => e ▸ ht.symm, fun e => UInt32.toNat.inj (ht.trans e).symm⟩
  have hmod := Nat.mod_lt acc.length hS
  have hmodle := Nat.mod_le acc.length S
  constructor
  · rw [place_replicas, h.replicas_eq, List.append_assoc]
  · exact h.shardCount_eq
  · rw [List.map_append, List.nodup_append]
    exact ⟨h.ids_nodup, List.nodup_singleton _, List.disjoint_singleton.mpr hnew⟩
  · intro sh
    rw [place_shardToNodes, List.enum_append, List.filter_append, List.map_append,
      h.shardToNodes_eq, h.shardToNodes_eq]
    by_cases e : acc.length % S = sh.toNat
    · obtain rfl := (hteq sh).mpr e
      simp [ht]
    · simp [mt (hteq sh).mp e, e]
  · intro k hk
    rw [place_nodeToShard]
    rcases Nat.lt_or_ge k acc.length with hk' | hk'
    · have hne : acc[k].id ≠ r.id :=
        fun e => hnew (e ▸ List.mem_map_of_mem _ (List.getElem_mem hk'))
      simp only [List.getElem_append_left hk', hne, if_false, h.nodeToShard_eq k hk']
    · have hk2 : k < acc.length + 1 := by simpa using hk
      obtain rfl : k = acc.length := by omega
      simp
  · intro sh
    rw [place_shardPrimaries, h.shardPrimaries_eq, h.shardPrimaries_eq, ht]
    have hnone : (acc[acc.length % S]?.map (·.id) = none) ↔ acc.length < S := by
      rw [Option.map_eq_none', List.getElem?_eq_none_iff]
      exact ⟨fun hle => lt_of_le_of_lt hle hmod, fun hlt => (Nat.mod_eq_of_lt hlt).ge⟩
    simp only [hmod, if_true, hnone, hteq sh]
    by_cases hsh : sh.toNat < S
    · rcases Nat.lt_trichotomy sh.toNat acc.length with hlt | heq | hgt
      · rw [if_neg fun hc => by have := Nat.mod_eq_of_lt hc.2; omega, if_pos hsh, if_pos hsh,
          List.getElem?_append_left hlt]
      · have hn : acc.length < S := heq ▸ hsh
        rw [if_pos ⟨by rw [heq, Nat.mod_eq_of_lt hn], hn⟩, if_pos hsh, heq,
          List.getElem?_append_right le_rfl]
        simp
      · rw [if_neg fun hc => by omega, if_pos hsh, if_pos hsh,
          List.getElem?_eq_none_iff.mpr hgt.le, List.getElem?_eq_none_iff.mpr (by simp; omega)]
    · rw [if_neg fun (hc : acc.length % S = sh.toNat ∧ acc.length < S) => hsh (hc.1 ▸ hmod),
        if_neg hsh, if_neg hsh]

/-- `AddReplica` returns, and extends the description by the replica it accepts, if any: it
accepts the replica into shard `n % S` exactly when the replica passes its checks. -/
theorem RoundRobin.addReplica (h : RoundRobin S roster acc s) (hS : 0 < S) (hS32 : S < 2 ^ 32)
    (r : ReplicaInfo) : ∃ s', s.addReplica r = some s' ∧
      RoundRobin S roster (acc ++ (Call.addReplica r).acceptedBy (s.replicas.map (·.id))) s' := by
  have hacc : (Call.addReplica r).acceptedBy (s.replicas.map (·.id)) =
      if r.id = 0 ∨ r.ip = "" ∨ r.port = 0 ∨ r.id ∈ s.replicas.map (·.id) then [] else [r] := rfl
  unfold SystemInfo.addReplica
  split_ifs with hbad hdup
  · rw [hacc, if_pos (by tauto), List.append_nil]
    exact ⟨s, rfl, h⟩
  · obtain ⟨a, ha, hid⟩ := List.any_eq_true.mp hdup
    rw [hacc, if_pos (.inr (.inr (.inr (List.mem_map.mpr ⟨a, ha, by simpa using hid⟩)))),
      List.append_nil]
    exact ⟨s, rfl, h⟩
  have hnew : r.id ∉ acc.map (·.id) := fun hm => hdup <| by
    obtain ⟨a, ha, hid⟩ := List.mem_map.mp hm
    exact List.any_eq_true.mpr ⟨a, h.replicas_eq ▸ List.mem_append_right _ ha, by simp [hid]⟩
  have hroster : r.id ∉ s.replicas.map (·.id) := fun hm => hdup <| by
    obtain ⟨a, ha, hid⟩ := List.mem_map.mp hm
    exact List.any_eq_true.mpr ⟨a, ha, by simp [hid]⟩
  have hlen : acc.length ≤ 2 ^ 32 := by simpa using length_le_of_nodup_uint32 h.ids_nodup
  obtain ⟨t, ht, hleast⟩ := s.findTarget_isLeastLoaded (h.shardCount_eq ▸ hS)
    (h.shardCount_eq ▸ hS32) fun j _ => (h.size_le j).trans_lt (hlen.trans_lt (by decide))
  obtain rfl := hleast.unique (h.isLeastLoaded hS hS32)
  rw [hacc, if_neg fun hc => hc.elim (fun h0 => hbad (.inl h0))
    fun hc => hc.elim (fun hip => hbad (.inr (.inl hip)))
      fun hc => hc.elim (fun hp => hbad (.inr (.inr hp))) hroster]
  exact ⟨_, by simp [addReplicaToShard, h.shardCount_eq, hS.ne', ht], h.place hS hS32 hnew⟩

/-- Every call of a placement run returns and extends the description by the replica it gets
accepted, if any. -/
theorem RoundRobin.apply (h : RoundRobin S roster acc s) (hS : 0 < S) (hS32 : S < 2 ^ 32)
    {c : Call} (hc : c.isAdd) : ∃ s', s.apply c = some s' ∧
      RoundRobin S roster (acc ++ c.acceptedBy (s.replicas.map (·.id))) s' := by
  cases c with
  | addReplica r => exact h.addReplica hS hS32 r
  | processRequest q =>
    obtain ⟨type, request⟩ := q
    cases type <;> cases request
    · exact ⟨s, rfl, by simpa [Call.acceptedBy, Call.offered] using h⟩
    · exact h.addReplica hS hS32 _
    · exact ⟨s, rfl, by simpa [Call.acceptedBy, Call.offered] using h⟩
    · exact ⟨s, rfl, by simpa [Call.acceptedBy, Call.offered] using h⟩
  | _ => cases hc

/-- A placement run returns and ends in the round-robin state of the replicas it accepted. -/
theorem RoundRobin.run (hS : 0 < S) (hS32 : S < 2 ^ 32) :
    ∀ {cs : List Call} {acc : List ReplicaInfo} {s : SystemInfo}, (∀ c ∈ cs, c.isAdd) →
      RoundRobin S roster acc s → ∃ s', s.run cs = some s' ∧
        RoundRobin S roster (acc ++ accepted (s.replicas.map (·.id)) cs) s'
  | [], acc, s, _, h => ⟨s, rfl, by simpa [accepted] using h⟩
  | c :: _, acc, s, hcs, h => by
    obtain ⟨s₁, h₁, hr₁⟩ := h.apply hS hS32 (hcs c (List.mem_cons_self _ _))
    have hids : s₁.replicas.map (·.id) =
        s.replicas.map (·.id) ++ (c.acceptedBy (s.replicas.map (·.id))).map (·.id) := by
      rw [hr₁.replicas_eq, h.replicas_eq]
      simp
    obtain ⟨s', h', hr'⟩ :=
      RoundRobin.run hS hS32 (fun c' hc' => hcs c' (List.mem_cons_of_mem _ hc')) hr₁
    refine ⟨s', by simp [SystemInfo.run, h₁, h'], ?_⟩
    rw [accepted, ← hids, ← List.append_assoc]
    exact hr'

/-- The `k`-th accepted replica is in shard `k % S`, and is its coordinator iff `k < S`. -/
theorem RoundRobin.placed (h : RoundRobin S roster acc s) (hS : 0 < S) (hS32 : S < 2 ^ 32)
    {k : Nat} (hk : k < acc.length) :
    (s.getShardOfNode acc[k].id).toNat = k % S ∧
      (s.getPrimaryOfShard (UInt32.ofNat (k % S)) = acc[k].id ↔ k < S) := by
  have hkS : k % S < acc.length := (Nat.mod_le k S).trans_lt hk
  have hinj : acc[k % S].id = acc[k].id ↔ k % S = k := by
    have := @List.Nodup.getElem_inj_iff _ _ h.ids_nodup (k % S) (by simpa using hkS) k
      (by simpa using hk)
    rwa [List.getElem_map, List.getElem_map] at this
  refine ⟨by simp [getShardOfNode, h.nodeToShard_eq k hk, toNat_ofNat_mod hS hS32], ?_⟩
  simp only [getPrimaryOfShard, h.shardPrimaries_eq, toNat_ofNat_mod hS hS32, Nat.mod_lt _ hS,
    if_true, List.getElem?_eq_getElem hkS, Option.map_some', Option.getD_some, hinj]
  exact Nat.mod_eq_iff_lt hS.ne'

/-- Shard sizes fall by at most one from the first shard to the last. -/
theorem RoundRobin.balanced (h : RoundRobin S roster acc s) (hS : 0 < S) (hS32 : S < 2 ^ 32)
    {i j : Nat} (hij : i ≤ j) (hj : j < S) :
    s.getShardSize (UInt32.ofNat j) ≤ s.getShardSize (UInt32.ofNat i) ∧
      s.getShardSize (UInt32.ofNat i) ≤ s.getShardSize (UInt32.ofNat j) + 1 := by
  have hi' : (UInt32.ofNat i).toNat = i := UInt32.toNat_ofNat_of_lt (by unfold UInt32.size; omega)
  have hj' : (UInt32.ofNat j).toNat = j := UInt32.toNat_ofNat_of_lt (by unfold UInt32.size; omega)
  rw [h.size_eq hS (by omega), h.size_eq hS (by omega), hi', hj']
  split_ifs <;> omega

end RoundRobin

/-- **Round-robin placement and balance.** From any state right after `SetShardCount(S)` with
`1 ≤ S < 2^32`, every run of `AddReplica` and `ProcessRequest` calls returns. Let `acc` be the
replicas of the calls that pass the checks of `AddReplica`, in order (`accepted`). The roster is the
old roster followed by `acc`; the `k`-th of `acc` is in shard `k % S` and is its coordinator iff
`k < S`; and the shard sizes fall by at most one from shard `0` to shard `S - 1`. -/
theorem roundRobin_placement (s₀ : SystemInfo) {S : Nat} (hS : 0 < S) (hS32 : S < 2 ^ 32)
    {cs : List Call} (hcs : ∀ c ∈ cs, c.isAdd) :
    let acc := accepted (s₀.getReplicas.map (·.id)) cs
    ∃ s, (s₀.setShardCount S).run cs = some s ∧ s.getReplicas = s₀.getReplicas ++ acc ∧
      (∀ k (hk : k < acc.length), (s.getShardOfNode acc[k].id).toNat = k % S ∧
        (s.getPrimaryOfShard (UInt32.ofNat (k % S)) = acc[k].id ↔ k < S)) ∧
      ∀ i j, i ≤ j → j < S →
        s.getShardSize (UInt32.ofNat j) ≤ s.getShardSize (UInt32.ofNat i) ∧
        s.getShardSize (UInt32.ofNat i) ≤ s.getShardSize (UInt32.ofNat j) + 1 := by
  intro acc
  obtain ⟨s, hrun, h⟩ := RoundRobin.run hS hS32 hcs (roundRobin_setShardCount s₀ S)
  rw [List.nil_append] at h
  exact ⟨s, hrun, h.replicas_eq, fun k hk => h.placed hS hS32 hk,
    fun i j hij hj => h.balanced hS hS32 hij hj⟩

/-- Two shards and five calls: replicas `1` and `2`, `1` again (rejected), `3` through an
`ADD_REPLICA` request, and a request of another type (ignored). The accepted replicas are `1`, `2`
and `3`, and the law applies. -/
theorem roundRobin_placement_two_shards :
    let cs := [Call.addReplica ⟨1, "10.0.0.1", 10001⟩, .addReplica ⟨2, "10.0.0.2", 10002⟩,
      .addReplica ⟨1, "10.0.0.9", 10009⟩, .processRequest ⟨.addReplica, some ⟨3, "10.0.0.3", 10003⟩⟩,
      .processRequest ⟨.unknown, some ⟨4, "10.0.0.4", 10004⟩⟩]
    (0 < 2 ∧ 2 < 2 ^ 32 ∧ ∀ c ∈ cs, c.isAdd) ∧
      accepted ((init 0).getReplicas.map (·.id)) cs =
        [⟨1, "10.0.0.1", 10001⟩, ⟨2, "10.0.0.2", 10002⟩, ⟨3, "10.0.0.3", 10003⟩] ∧
      let acc := accepted ((init 0).getReplicas.map (·.id)) cs
      ∃ s, ((init 0).setShardCount 2).run cs = some s ∧ s.getReplicas = (init 0).getReplicas ++ acc ∧
        (∀ k (hk : k < acc.length), (s.getShardOfNode acc[k].id).toNat = k % 2 ∧
          (s.getPrimaryOfShard (UInt32.ofNat (k % 2)) = acc[k].id ↔ k < 2)) ∧
        ∀ i j, i ≤ j → j < 2 →
          s.getShardSize (UInt32.ofNat j) ≤ s.getShardSize (UInt32.ofNat i) ∧
          s.getShardSize (UInt32.ofNat i) ≤ s.getShardSize (UInt32.ofNat j) + 1 := by
  intro cs
  exact ⟨⟨by decide, by decide, by decide⟩, by decide,
    roundRobin_placement (init 0) (by decide) (by decide) (by decide)⟩

end SystemInfo

end ShardedPbft
