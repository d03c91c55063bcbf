import ShardedPbft.Replica.Commitment

/-!
# `highest_prepared_seq` under concurrent prepares

A `ProcessPrepareMsg` call whose `AddConsensusMsg` answers `STATE_CHANGED` runs lines 297-298,

  `if (GetHighestPreparedSeq() < seq_) SetHighestPreparedSeq(seq_);`

The read and the write are two calls of the message manager, and the handlers are re-entrant:
§5 serialises the mutations of one sequence slot, and those of the topology and the duplicate
guard, but no lock spans this read and this write. Even with each of the two calls atomic, a call
is at one of three points (`Pc`): before the read, between a comparison that held and the write,
or past both. `step` lets one call take its next action; a schedule of call indices is an
interleaving, and `run` follows it.

One call run alone is the update `recordPrepared` makes (`run_single`), and calls run one after
another take the value to the maximum of the initial value and their numbers (`run_serial`).
Every interleaving keeps the value at the initial value or one of the calls' numbers, never below
the initial value (`Inv.run`). But two calls can both pass the comparison before either
writes: the larger writes first and the smaller overwrites it, so the value decreases and ends
below the maximum (`highest_prepared_interleavings`).
-/

namespace ShardedPbft

namespace PreparedSeq

/-- Where a call stands in lines 297-298. -/
inductive Pc
  /-- Before `GetHighestPreparedSeq() < seq_`. -/
  | read
  /-- The comparison held; before `SetHighestPreparedSeq(seq_)`. -/
  | write
  /-- Past line 298. -/
  | done
  deriving DecidableEq, Repr

/-- `highest_prepared_seq` and the calls under way, each with its `seq_` and its point. -/
structure State where
  highest : UInt64
  calls : List (UInt64 × Pc)
  deriving DecidableEq, Repr

/-- The value `h0`, and calls with the numbers `seqs`, none of them started. -/
def State.init (h0 : UInt64) (seqs : List UInt64) : State := ⟨h0, seqs.map (·, .read)⟩

/-- Every call is past line 298. -/
def State.Finished (s : State) : Prop := ∀ c ∈ s.calls, c.2 = .done

instance : DecidablePred State.Finished := fun s =>
  inferInstanceAs (Decidable (∀ c ∈ s.calls, c.2 = .done))

/-- Call `i` takes its next action: the read with its comparison, or the write. A finished call,
or an index with no call, does nothing. -/
def step (s : State) (i : Nat) : State :=
  match s.calls[i]? with
  | some (seq, .read) =>
    { s with calls := s.calls.set i (seq, if s.highest < seq then .write else .done) }
  | some (seq, .write) => ⟨seq, s.calls.set i (seq, .done)⟩
  | _ => s

/-- The state after the actions a schedule of call indices names, in order. -/
def run (s : State) (schedule : List Nat) : State := schedule.foldl step s

/-- The first `n` calls one after another, each its read and then its write. -/
def serial : Nat → List Nat
  | 0 => []
  | n + 1 => serial n ++ [n, n]

/-- A schedule run in two parts. -/
theorem run_append (s : State) (a b : List Nat) : run s (a ++ b) = run (run s a) b :=
  List.foldl_append _ _ _ _

/-! ## Calls one after another -/

/-- The value a call leaves when it runs alone: the update of lines 297-298. -/
def raise (highest seq : UInt64) : UInt64 := if highest < seq then seq else highest

/-- The update of lines 297-298 is `max`. -/
theorem raise_eq_max (highest seq : UInt64) : raise highest seq = max highest seq := by
  show _ = if highest ≤ seq then seq else highest
  by_cases hlt : highest < seq
  · rw [raise, if_pos hlt, if_pos (show highest ≤ seq from Nat.le_of_lt hlt)]
  · by_cases hle : highest ≤ seq
    · rw [raise, if_neg hlt, if_pos hle]
      exact UInt64.toNat.inj (Nat.le_antisymm hle (Nat.not_lt.mp hlt))
    · rw [raise, if_neg hlt, if_neg hle]

/-- A call that has not started, run on its own: its read and its write leave the value raised to
its number, and the call past line 298. -/
theorem run_pair {s : State} {i : Nat} {seq : UInt64} (hi : s.calls[i]? = some (seq, .read)) :
    run s [i, i] = ⟨raise s.highest seq, s.calls.set i (seq, .done)⟩ := by
  have hlen : i < s.calls.length := (List.getElem?_eq_some_iff.mp hi).1
  by_cases hlt : s.highest < seq
  · have hw : (s.calls.set i (seq, .write))[i]? = some (seq, .write) := List.getElem?_set_self hlen
    simp only [run, List.foldl, step, hi, if_pos hlt, hw, List.set_set, raise]
  · have hd : (s.calls.set i (seq, .done))[i]? = some (seq, .done) := List.getElem?_set_self hlen
    simp only [run, List.foldl, step, hi, if_neg hlt, hd, raise]

/-- One call run alone from a replica's value is the update `recordPrepared` makes. -/
theorem run_single (r : Replica) (store : UInt64 → Slot) (seq : UInt64) :
    (run ⟨r.highestPreparedSeq, [(seq, .read)]⟩ [0, 0]).highest =
      (r.recordPrepared store seq).highestPreparedSeq := by
  rw [run_pair rfl]
  rfl

/-- After the first `n` calls one after another, they are past line 298, the others have not
started, and the value is the first `n` numbers folded into the initial value by `raise`. -/
theorem run_serial_prefix (h0 : UInt64) (seqs : List UInt64) :
    ∀ n ≤ seqs.length, run (State.init h0 seqs) (serial n) =
      ⟨(seqs.take n).foldl raise h0, (seqs.take n).map (·, .done) ++ (seqs.drop n).map (·, .read)⟩
  | 0, _ => rfl
  | n + 1, hn => by
    have hlt : n < seqs.length := hn
    have hdrop : seqs.drop n = seqs[n] :: seqs.drop (n + 1) := List.drop_eq_getElem_cons hlt
    have hlen : ((seqs.take n).map (·, Pc.done)).length = n := by simp [Nat.le_of_lt hlt]
    have hi : ((seqs.take n).map (·, Pc.done) ++ (seqs.drop n).map (·, .read))[n]? =
        some (seqs[n], .read) := by
      rw [List.getElem?_append_right (by omega), hlen, Nat.sub_self, hdrop, List.map_cons,
        List.getElem?_cons_zero]
    rw [serial, run_append, run_serial_prefix h0 seqs n (Nat.le_of_lt hlt), run_pair hi,
      List.set_append_right _ _ (by omega), hlen, Nat.sub_self, hdrop, List.take_succ,
      List.getElem?_eq_getElem hlt]
    simp only [Option.toList_some, List.foldl_append, List.foldl_cons, List.foldl_nil, List.map_append,
      List.map_cons, List.map_nil, List.set_cons_zero, List.append_assoc, List.singleton_append]

/-- **Calls one after another reach the maximum.** -/
theorem run_serial (h0 : UInt64) (seqs : List UInt64) :
    let s := run (State.init h0 seqs) (serial seqs.length)
    s.Finished ∧ s.highest = seqs.foldl max h0 := by
  intro s
  have hs : s = ⟨seqs.foldl raise h0, seqs.map (·, .done)⟩ := by
    simpa using run_serial_prefix h0 seqs seqs.length le_rfl
  refine ⟨fun c hc => ?_, ?_⟩
  · rw [hs] at hc
    obtain ⟨_, -, rfl⟩ := List.mem_map.mp hc
    rfl
  · rw [hs]
    simp only [funext₂ raise_eq_max]

/-! ## Every interleaving -/

/-- What every interleaving keeps: the calls keep their numbers; the value is never below the
initial one and is the initial one or one of the numbers; and a call about to write has a number
above the initial value. -/
structure Inv (h0 : UInt64) (seqs : List UInt64) (s : State) : Prop where
  seqs_eq : s.calls.map (·.1) = seqs
  le_highest : h0 ≤ s.highest
  highest_mem : s.highest = h0 ∨ s.highest ∈ seqs
  lt_of_write : ∀ c ∈ s.calls, c.2 = .write → h0 < c.1

/-- Before any action. -/
theorem inv_init (h0 : UInt64) (seqs : List UInt64) : Inv h0 seqs (State.init h0 seqs) where
  seqs_eq := by simp [State.init, Function.comp_def]
  le_highest := Nat.le_refl _
  highest_mem := .inl rfl
  lt_of_write := by simp [State.init]

/-- Moving call `i` to another point keeps the numbers. -/
theorem map_fst_set {calls : List (UInt64 × Pc)} {i : Nat} {seq : UInt64} {pc pc' : Pc}
    (hi : calls[i]? = some (seq, pc)) : (calls.set i (seq, pc')).map (·.1) = calls.map (·.1) := by
  rw [List.map_set]
  apply List.ext_getElem?
  intro j
  by_cases hij : i = j
  · subst hij
    have hlen : i < calls.length := (List.getElem?_eq_some_iff.mp hi).1
    rw [List.getElem?_set_self (by simpa using hlen), List.getElem?_map, hi]
    rfl
  · rw [List.getElem?_set_ne hij]

variable {h0 : UInt64} {seqs : List UInt64} {s : State}

/-- Every action keeps the invariant: a read moves only its own call, and a write stores the
number of a call whose comparison held, which is above the initial value. -/
theorem Inv.step (hinv : Inv h0 seqs s) (i : Nat) :
    Inv h0 seqs (step s i) := by
  unfold PreparedSeq.step
  split
  · next seq hi =>
    refine ⟨(map_fst_set hi).trans hinv.seqs_eq, hinv.le_highest, hinv.highest_mem, ?_⟩
    intro c hc hw
    rcases List.mem_or_eq_of_mem_set hc with hc | rfl
    · exact hinv.lt_of_write c hc hw
    · by_cases hlt : s.highest < seq
      · exact Nat.lt_of_le_of_lt hinv.le_highest hlt
      · simp [hlt] at hw
  · next seq hi =>
    have hmem : (seq, Pc.write) ∈ s.calls := List.mem_iff_getElem?.mpr ⟨i, hi⟩
    refine ⟨(map_fst_set hi).trans hinv.seqs_eq,
      Nat.le_of_lt (hinv.lt_of_write _ hmem rfl),
      .inr (hinv.seqs_eq ▸ List.mem_map_of_mem _ hmem), ?_⟩
    intro c hc hw
    rcases List.mem_or_eq_of_mem_set hc with hc | rfl
    · exact hinv.lt_of_write c hc hw
    · cases hw
  · exact hinv

/-- Every interleaving keeps the invariant. -/
theorem Inv.run (hinv : Inv h0 seqs s) (schedule : List Nat) : Inv h0 seqs (run s schedule) := by
  induction schedule generalizing s with
  | nil => exact hinv
  | cons i rest ih => exact ih (hinv.step i)

/-- Two calls `a < b` above the initial value, both compared before either writes, `b` writing
first: the value goes to `b` and then down to `a`, with both calls finished. -/
theorem run_lost_update {a b : UInt64} (ha : h0 < a) (hab : a < b) :
    (run (State.init h0 [a, b]) [0, 1, 1]).highest = b ∧
      (run (State.init h0 [a, b]) [0, 1, 1, 0]).Finished ∧
      (run (State.init h0 [a, b]) [0, 1, 1, 0]).highest = a := by
  have hb : h0 < b := Nat.lt_trans ha hab
  refine ⟨?_, ?_, ?_⟩ <;> simp [run, step, State.init, State.Finished, ha, hb]

/-- **`highest_prepared_seq` under concurrent prepares.** For every initial value `h0` and every
list of calls: every interleaving leaves the value at `h0` or at one of the calls' numbers, never
below `h0`; the calls one after another leave every call finished and the value at the maximum of
`h0` and the numbers. But for any two numbers `a < b` above `h0`, the interleaving in which both
calls compare before either writes, and `b` writes first, takes the value from `b` down to `a`
and finishes every call with the value `a`, below the maximum `b`. -/
theorem highest_prepared_interleavings (h0 : UInt64) (seqs : List UInt64) :
    (∀ schedule, let s := run (State.init h0 seqs) schedule;
      h0 ≤ s.highest ∧ (s.highest = h0 ∨ s.highest ∈ seqs)) ∧
    (let s := run (State.init h0 seqs) (serial seqs.length);
      s.Finished ∧ s.highest = seqs.foldl max h0) ∧
    ∀ a b : UInt64, h0 < a → a < b →
      (run (State.init h0 [a, b]) [0, 1, 1]).highest = b ∧
      (run (State.init h0 [a, b]) [0, 1, 1, 0]).Finished ∧
      (run (State.init h0 [a, b]) [0, 1, 1, 0]).highest = a ∧
      a ≠ [a, b].foldl max h0 := by
  refine ⟨fun schedule => ?_, run_serial h0 seqs, fun a b ha hab => ?_⟩
  · have hinv := (inv_init h0 seqs).run schedule
    exact ⟨hinv.le_highest, hinv.highest_mem⟩
  · obtain ⟨hmid, hfin, hend⟩ := run_lost_update ha hab
    refine ⟨hmid, hfin, hend, ?_⟩
    rw [List.foldl, List.foldl, List.foldl, ← raise_eq_max, ← raise_eq_max,
      show raise h0 a = a from if_pos ha, raise, if_pos hab]
    exact UInt64.ne_of_lt hab

/-- Calls `5` and `7` from the value `0`: after both comparisons and the write of `7` the value is
`7`, and the write of `5` brings it down to `5`, below the maximum `7`. -/
theorem prepared_seq_lost_update :
    (run (State.init 0 [5, 7]) [0, 1, 1]).highest = 7 ∧
      (run (State.init 0 [5, 7]) [0, 1, 1, 0]).Finished ∧
      (run (State.init 0 [5, 7]) [0, 1, 1, 0]).highest = 5 ∧
      (5 : UInt64) ≠ [5, 7].foldl max 0 :=
  (highest_prepared_interleavings 0 [5, 7]).2.2 5 7 (by decide) (by decide)

end PreparedSeq

end ShardedPbft
