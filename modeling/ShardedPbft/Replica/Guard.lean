import Mathlib.Logic.Relation
import Mathlib.Data.Finset.Basic

/-!
# The duplicate manager's guard

What the proposed set of the `DuplicateManager` is for: one replica never proposes a request hash
twice, however its calls of `ProcessNewRequest` and `ProcessProposeMsg` interleave. The set's
operations are atomic (§4.2: "The guard is lock-protected").

`State` is what the guard sees of a replica: the proposed set, the calls under way that have passed
the checks before their `CheckAndAddProposed`, each with its hash and its point (`Pc`), and the
events so far. An event is a PRE_PREPARE sent by `ProcessNewRequest` or one from another replica
handed to `AddConsensusMsg` by `ProcessProposeMsg`. A `Step` is one atomic action of one call.

```text
Inv.step                 every step keeps the invariant
one_event_of_reachable   from any proposed set, at most one event per hash, and it stays marked
```

The invariant counts, for each hash, the marks a state accounts for: the initial mark, the calls
that hold a mark and the events. There is at most one, and the hash is marked exactly when there
is one. `Replica/Interleaving.lean` derives the steps from a fine-grained model of the two handlers.
-/

namespace ShardedPbft

namespace Guard

/-- Where a call stands with respect to the duplicate manager. -/
inductive Pc
  /-- `ProcessNewRequest`, before `CheckAndAddProposed` (line 122). -/
  | checkNew
  /-- The hash marked, before `AssignNextSeq` (line 125). -/
  | assign
  /-- No sequence number left, before `EraseProposed` (line 130). -/
  | erase
  /-- A sequence number drawn, before the sends of the PRE_PREPARE (lines 145-154). -/
  | emit
  /-- `ProcessProposeMsg` on a request from another replica, before `CheckAndAddProposed`
  (line 230). -/
  | checkPropose
  /-- The hash marked, before `AddConsensusMsg` (line 244). -/
  | add
  deriving DecidableEq, Repr

/-- The points at which a call holds the mark it set. -/
def Pc.holds : Pc → Bool
  | .assign | .erase | .emit | .add => true
  | .checkNew | .checkPropose => false

/-- A proposal of a hash: a PRE_PREPARE sent by `ProcessNewRequest`, or one from another replica
handed to `AddConsensusMsg` by `ProcessProposeMsg`. -/
inductive Event
  | emitted (hash : String)
  | handed (hash : String)
  deriving DecidableEq, Repr

/-- The hash an event is about. -/
def Event.hash : Event → String
  | .emitted h => h
  | .handed h => h

/-- The replica as the guard sees it: the proposed set, the calls past their checks with their
hashes and points, and the events so far. -/
structure State where
  proposed : Finset String
  calls : List (String × Pc)
  events : List Event

/-- No call under way and no event, from a proposed set `P₀`. -/
def State.init (P₀ : Finset String) : State := ⟨P₀, [], []⟩

/-- One atomic action of one call; `before` and `after` are the other calls. -/
inductive Step : State → State → Prop
  /-- A call of `h` passes the checks before its `CheckAndAddProposed`. -/
  | start {P : Finset String} {before after : List (String × Pc)} {ev : List Event} (h : String)
      (pc : Pc) (is_check : pc.holds = false) :
      Step ⟨P, before ++ after, ev⟩ ⟨P, before ++ (h, pc) :: after, ev⟩
  /-- `CheckAndAddProposed` finds `h` marked; the call returns `-2`. -/
  | checkMarked {P : Finset String} {before after : List (String × Pc)} {ev : List Event}
      (h : String) (pc : Pc) (is_check : pc.holds = false) (is_marked : h ∈ P) :
      Step ⟨P, before ++ (h, pc) :: after, ev⟩ ⟨P, before ++ after, ev⟩
  /-- `CheckAndAddProposed` marks `h`: `ProcessNewRequest` goes on to `AssignNextSeq`,
  `ProcessProposeMsg` to `AddConsensusMsg`. -/
  | mark {P : Finset String} {before after : List (String × Pc)} {ev : List Event} (h : String)
      (pc pc' : Pc) (is_mark : pc = .checkNew ∧ pc' = .assign ∨ pc = .checkPropose ∧ pc' = .add)
      (is_fresh : h ∉ P) :
      Step ⟨P, before ++ (h, pc) :: after, ev⟩ ⟨insert h P, before ++ (h, pc') :: after, ev⟩
  /-- `AssignNextSeq` gives a number (on to the sends) or fails (on to `EraseProposed`). -/
  | assign {P : Finset String} {before after : List (String × Pc)} {ev : List Event} (h : String)
      (pc' : Pc) (is_next : pc' = .emit ∨ pc' = .erase) :
      Step ⟨P, before ++ (h, .assign) :: after, ev⟩ ⟨P, before ++ (h, pc') :: after, ev⟩
  /-- `EraseProposed` removes the mark; the call returns `-2`. -/
  | erase {P : Finset String} {before after : List (String × Pc)} {ev : List Event} (h : String) :
      Step ⟨P, before ++ (h, .erase) :: after, ev⟩ ⟨P.erase h, before ++ after, ev⟩
  /-- The PRE_PREPARE is sent; the call returns `0`. -/
  | emit {P : Finset String} {before after : List (String × Pc)} {ev : List Event} (h : String) :
      Step ⟨P, before ++ (h, .emit) :: after, ev⟩ ⟨P, before ++ after, ev ++ [.emitted h]⟩
  /-- The PRE_PREPARE goes to `AddConsensusMsg`. -/
  | add {P : Finset String} {before after : List (String × Pc)} {ev : List Event} (h : String) :
      Step ⟨P, before ++ (h, .add) :: after, ev⟩ ⟨P, before ++ after, ev ++ [.handed h]⟩

/-! ### Marks and claims -/

/-- The calls of `h` that hold a mark. -/
def held (calls : List (String × Pc)) (h : String) : Nat :=
  calls.countP fun c => c.1 == h && c.2.holds

/-- The number of events about `h`. -/
def eventsOf (events : List Event) (h : String) : Nat := events.countP (·.hash == h)

/-- The marks a state accounts for at `h`, from the initial proposed set `P₀`. -/
def claims (P₀ : Finset String) (s : State) (h : String) : Nat :=
  (if h ∈ P₀ then 1 else 0) + held s.calls h + eventsOf s.events h

/-- The invariant of the guard: at most one mark per hash, and a hash is marked exactly when it
has one. -/
structure Inv (P₀ : Finset String) (s : State) : Prop where
  claims_le : ∀ h, claims P₀ s h ≤ 1
  proposed_iff : ∀ h, h ∈ s.proposed ↔ 1 ≤ claims P₀ s h

/-- A call among the others adds its own mark, if it holds one. -/
@[simp] theorem held_mid (before after : List (String × Pc)) (c : String × Pc) (h : String) :
    held (before ++ c :: after) h = held (before ++ after) h + if c.1 = h ∧ c.2.holds then 1 else 0 := by
  simp only [held, List.countP_append, List.countP_cons, Bool.and_eq_true, beq_iff_eq]
  omega

/-- An event adds to the count of its hash. -/
@[simp] theorem eventsOf_append (events : List Event) (e : Event) (h : String) :
    eventsOf (events ++ [e]) h = eventsOf events h + if e.hash = h then 1 else 0 := by
  simp [eventsOf, List.countP_append, List.countP_cons]

/-- No call under way and no event: the invariant holds. -/
theorem inv_init (P₀ : Finset String) : Inv P₀ (State.init P₀) where
  claims_le h := by by_cases hh : h ∈ P₀ <;> simp [claims, State.init, held, eventsOf, hh]
  proposed_iff h := by by_cases hh : h ∈ P₀ <;> simp [claims, State.init, held, eventsOf, hh]

variable {P₀ : Finset String} {s s' : State}

/-- A step that changes the claims and the mark of one hash only keeps the invariant when it keeps
it at that hash. -/
theorem Inv.of_local (hi : Inv P₀ s) (h : String)
    (hframe : ∀ x, h ≠ x → claims P₀ s' x = claims P₀ s x ∧ (x ∈ s'.proposed ↔ x ∈ s.proposed))
    (hle : claims P₀ s' h ≤ 1) (hiff : h ∈ s'.proposed ↔ 1 ≤ claims P₀ s' h) : Inv P₀ s' where
  claims_le x := by
    by_cases hx : h = x
    · exact hx ▸ hle
    · exact (hframe x hx).1 ▸ hi.claims_le x
  proposed_iff x := by
    by_cases hx : h = x
    · exact hx ▸ hiff
    · rw [(hframe x hx).1, (hframe x hx).2]; exact hi.proposed_iff x

/-- A step that keeps the claims of every hash and the proposed set keeps the invariant. -/
theorem Inv.of_claims (hi : Inv P₀ s) (hclaims : ∀ x, claims P₀ s' x = claims P₀ s x)
    (hprop : s'.proposed = s.proposed) : Inv P₀ s' where
  claims_le x := hclaims x ▸ hi.claims_le x
  proposed_iff x := by rw [hclaims, hprop]; exact hi.proposed_iff x

/-- The claims of a state with one more call: that call's mark, if it holds one. -/
theorem claims_mid (P : Finset String) (before after : List (String × Pc)) (c : String × Pc)
    (ev : List Event) (x : String) :
    claims P₀ ⟨P, before ++ c :: after, ev⟩ x =
      claims P₀ ⟨P, before ++ after, ev⟩ x + if c.1 = x ∧ c.2.holds then 1 else 0 := by
  simp only [claims, held_mid]
  omega

/-- The claims of a state with one more event: the event's count. -/
theorem claims_event (P : Finset String) (calls : List (String × Pc)) (ev : List Event) (e : Event)
    (x : String) :
    claims P₀ ⟨P, calls, ev ++ [e]⟩ x = claims P₀ ⟨P, calls, ev⟩ x + if e.hash = x then 1 else 0 := by
  simp only [claims, eventsOf_append]
  omega

/-- The claims at `h` of a state with no mark at `h`. -/
theorem Inv.claims_eq_zero (hi : Inv P₀ s) {h : String} (hfresh : h ∉ s.proposed) :
    claims P₀ s h = 0 := by
  by_contra hne
  exact hfresh ((hi.proposed_iff h).mpr (Nat.one_le_iff_ne_zero.mpr hne))

/-- Every step keeps the invariant. Most keep every claim: a call starts or stops at a check
holding nothing, moves on holding its mark, or spends the mark on its event. `CheckAndAddProposed`
on a fresh hash takes the one mark, and `EraseProposed` gives it back. -/
theorem Inv.step (hi : Inv P₀ s) (hs : Step s s') : Inv P₀ s' := by
  cases hs with
  | start h pc hpc =>
    exact hi.of_claims (fun x => by rw [claims_mid, if_neg (by simp [hpc])]; rfl) rfl
  | checkMarked h pc hpc _ =>
    exact hi.of_claims (fun x => by rw [claims_mid, if_neg (by simp [hpc])]; rfl) rfl
  | assign h pc' hnext =>
    rcases hnext with rfl | rfl <;>
      exact hi.of_claims (fun x => by simp only [claims_mid, Pc.holds]) rfl
  | emit h =>
    exact hi.of_claims (fun x => by simp only [claims_event, claims_mid, Event.hash, Pc.holds,
      and_true]) rfl
  | add h =>
    exact hi.of_claims (fun x => by simp only [claims_event, claims_mid, Event.hash, Pc.holds,
      and_true]) rfl
  | @mark P before after ev h pc pc' hmark hfresh =>
    have hpc : pc.holds = false ∧ pc'.holds = true := by
      rcases hmark with ⟨rfl, rfl⟩ | ⟨rfl, rfl⟩ <;> exact ⟨rfl, rfl⟩
    have h0 := hi.claims_eq_zero hfresh
    rw [claims_mid, if_neg (by simp [hpc.1])] at h0
    have hnew : claims P₀ ⟨insert h P, before ++ (h, pc') :: after, ev⟩ h = 1 := by
      rw [claims_mid, if_pos ⟨rfl, hpc.2⟩]
      change claims P₀ ⟨P, before ++ after, ev⟩ h + 1 = 1
      omega
    refine hi.of_local h (fun x hx => ⟨?_, by simp [Ne.symm hx]⟩) hnew.le (by simp [hnew])
    rw [claims_mid, claims_mid, if_neg fun hc => hx hc.1, if_neg fun hc => hx hc.1]
    rfl
  | @erase P before after ev h =>
    have h1 := hi.claims_le h
    rw [claims_mid, if_pos ⟨rfl, rfl⟩] at h1
    have hnew : claims P₀ ⟨P.erase h, before ++ after, ev⟩ h = 0 := by
      change claims P₀ ⟨P, before ++ after, ev⟩ h = 0
      omega
    refine hi.of_local h (fun x hx => ⟨?_, by simp [Ne.symm hx]⟩) (hnew ▸ Nat.zero_le 1)
      (by simp [hnew])
    rw [claims_mid, if_neg fun hc => hx hc.1]
    rfl

/-- Every state reachable from a proposed set `P₀` satisfies the invariant. -/
theorem inv_of_reachable (hs : Relation.ReflTransGen Step (State.init P₀) s) : Inv P₀ s := by
  induction hs with
  | refl => exact inv_init P₀
  | tail _ hstep ih => exact ih.step hstep

/-- In every state reachable from any proposed set, each hash has at most one event, and a hash
with an event is marked proposed. -/
theorem one_event_of_reachable (hs : Relation.ReflTransGen Step (State.init P₀) s) (h : String) :
    eventsOf s.events h ≤ 1 ∧ (0 < eventsOf s.events h → h ∈ s.proposed) := by
  have hi := inv_of_reachable hs
  have hle := hi.claims_le h
  simp only [claims] at hle
  refine ⟨by omega, fun hpos => (hi.proposed_iff h).mpr ?_⟩
  simp only [claims]
  omega

end Guard

end ShardedPbft
