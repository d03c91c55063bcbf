import ShardedPbft.Replica.Guard
import ShardedPbft.Replica.Commitment

/-!
# The two proposing handlers on concurrent threads

A replica runs one ingress worker per connection, and each dispatches into `ProcessNewRequest` and
`ProcessProposeMsg` (§5: the entry points are re-entrant). This module cuts each call of the two
handlers into its atomic actions and lets the calls on one replica interleave.

A call stands at a `Point` between two actions, and `Point.act` is the next action, written from
the handlers' code. An action ends at a call into a component shared by the threads: the duplicate
manager's `CheckAndAddProposed` and `EraseProposed`, the message manager's `AssignNextSeq` and
`AddConsensusMsg`, the sends of the PRE_PREPARE. The checks before each of them are folded into
it: they read the configuration, the executed hashes and the environment, which no call of the two
handlers writes. The recovery path of `ProcessProposeMsg` is one action (`proposeRecovery`).
`Threads` is the replica with the calls under way on it; `Threads.Step` lets a new call enter or
any call under way take its next action.

```text
handlers_run_alone           a call run alone is the handler: same return, state, sends, crash
Threads.Step.simulates       an action is one step of `Guard.Step`, or leaves the guard unchanged
at_most_one_proposal         over every interleaving, each hash is proposed at most once,
                             and stays marked once proposed
```
-/

namespace ShardedPbft

namespace Guard

/-- Where a call of `ProcessNewRequest` or `ProcessProposeMsg` stands, between two of its atomic
actions on the replica. -/
inductive Point
  /-- `ProcessNewRequest(context, request)` entered (line 67). -/
  | newRequest (context : Option String) (request : Request)
  /-- Its checks passed, before `CheckAndAddProposed` (line 122). -/
  | checkNew (request : Request)
  /-- The hash marked, before `AssignNextSeq` (line 125). -/
  | assign (request : Request)
  /-- No sequence number left, before `EraseProposed` (line 130). -/
  | erase (request : Request)
  /-- The number `seq` drawn, before the sends of the PRE_PREPARE (lines 145-154). -/
  | emit (request : Request) (seq : UInt64)
  /-- `ProcessProposeMsg(context, request)` entered (line 161). -/
  | proposeMsg (context : Option String) (request : Request)
  /-- The checks of a request from another replica passed, before `CheckAndAddProposed`
  (line 230). -/
  | checkPropose (request : Request)
  /-- Before `AddConsensusMsg` (line 244). -/
  | add (request : Request)
  deriving DecidableEq

/-- What a call does after an action: its next action, or it returns a value, or the process
crashes. -/
inductive Next
  | goto (p : Point)
  | ret (value : Int)
  | crash

/-- The point a call goes on to after an action, if any. -/
def Next.points : Next → List Point
  | .goto p => [p]
  | .ret _ | .crash => []

/-- Whether the action crashed the process. -/
def Next.isCrash : Next → Bool
  | .crash => true
  | .goto _ | .ret _ => false

/-- The last action of a call that ends as a handler's `Outcome` does. -/
def ofOutcome : Outcome → Replica × List Send × Next
  | .done ret r sent => (r, sent, .ret ret)
  | .crash r sent => (r, sent, .crash)

/-- The next action of a call at `p` on the replica `r`: the replica after it, what it sends, and
what the call does next. -/
def Point.act (env : Env) (r : Replica) : Point → Replica × List Send × Next
  | .newRequest context request =>
    if unsigned context then (r, [], .ret (-2))
    else if r.duplicates.checkIfExecuted request.hash ≠ 0 then
      (r, [.response { request with seq := r.duplicates.checkIfExecuted request.hash }], .ret (-2))
    else if r.selfId ≠ r.coordinator then
      ({ r with requestComplained := r.requestComplained ++ [(context, request)] },
        [.toNode request r.coordinator], .ret (-3))
    else if !env.verifyMessage request.data request.dataSignature then (r, [], .ret (-2))
    else if env.preVerifyFails request then (r, [], .ret (-2))
    else (r, [], .goto (.checkNew request))
  | .checkNew request =>
    match r.duplicates.checkAndAddProposed request.hash with
    | (true, _) => (r, [], .ret (-2))
    | (false, duplicates) => ({ r with duplicates := duplicates }, [], .goto (.assign request))
  | .assign request =>
    match r.assignNextSeq env with
    | none => (r, [], .goto (.erase request))
    | some (seq, r') => (r', [], .goto (.emit request seq))
  | .erase request =>
    ({ r with duplicates := r.duplicates.eraseProposed request.hash },
      [.toNode (r.seqFailResponse request) request.proxyId], .ret (-2))
  | .emit request seq => (r, r.toShardPrimaries (r.prePrepareOf request seq), .ret 0)
  | .proposeMsg context request =>
    if r.forwards request.senderId then ofOutcome (r.forward request)
    else if env.isFaulty || unsigned context then (r, [], .ret (-2))
    else if request.isRecovery then ofOutcome (r.proposeRecovery env request)
    else if request.senderId ≠ r.systemInfo.primaryId ∧ request.senderId ≠ r.coordinator then
      (r, [], .ret (-2))
    else if request.senderId ≠ r.selfId then
      if env.preVerifyFails request then (r, [], .ret (-2))
      else if !env.verifyMessage request.data request.dataSignature then (r, [], .ret (-2))
      else (r, [], .goto (.checkPropose request))
    else (r, [], .goto (.add request))
  | .checkPropose request =>
    match r.duplicates.checkAndAddProposed request.hash with
    | (true, _) => (r, [], .ret (-2))
    | (false, duplicates) => ({ r with duplicates := duplicates }, [], .goto (.add request))
  | .add request => ofOutcome (Replica.addMovedRequest env r request)

/-- `AssignNextSeq` with a number left draws the counter. -/
theorem act_assign_of_room {env : Env} {r : Replica} (request : Request)
    (hroom : ¬ env.maxProcessTxn < r.nextSeq - r.maxExecutedSeq) :
    (Point.assign request).act env r =
      ({ r with nextSeq := r.nextSeq + 1 }, [], .goto (.emit request r.nextSeq)) := by
  rw [Point.act, Replica.assignNextSeq, if_neg hroom]

/-! ### A call run alone -/

/-- A call at `p` on `r` whose actions follow one another, with no action of another call between
them, ends in `o`. -/
inductive Alone (env : Env) : Replica → Point → Outcome → Prop
  /-- The action returns `value`. -/
  | ret {r r' : Replica} {p : Point} {sent : List Send} {value : Int}
      (is_last : p.act env r = (r', sent, .ret value)) : Alone env r p (.done value r' sent)
  /-- The action crashes the process. -/
  | crash {r r' : Replica} {p : Point} {sent : List Send}
      (is_last : p.act env r = (r', sent, .crash)) : Alone env r p (.crash r' sent)
  /-- The action sends nothing and goes on to `p'`. -/
  | goto {r r' : Replica} {p p' : Point} {o : Outcome}
      (is_next : p.act env r = (r', [], .goto p')) (rest : Alone env r' p' o) : Alone env r p o

variable {env : Env} {r : Replica} {p : Point} {o o' : Outcome}

/-- A call run alone has one end. -/
theorem Alone.unique (h : Alone env r p o) (h' : Alone env r p o') : o = o' := by
  induction h generalizing o' with
  | ret hlast => cases h' <;> simp_all
  | crash hlast => cases h' <;> simp_all
  | goto hnext _ ih =>
    cases h' with
    | ret hlast => simp_all
    | crash hlast => simp_all
    | goto hnext' rest' =>
      rw [hnext] at hnext'
      cases hnext'
      exact ih rest'

/-- The guard's view of a call: its hash and point once it has passed the checks before its
`CheckAndAddProposed`. A call of `ProcessProposeMsg` on its own PRE_PREPARE goes to
`AddConsensusMsg` without marking, and holds nothing. -/
def Point.guard (self : UInt32) : Point → Option (String × Pc)
  | .newRequest _ _ | .proposeMsg _ _ => none
  | .checkNew request => some (request.hash, .checkNew)
  | .assign request => some (request.hash, .assign)
  | .erase request => some (request.hash, .erase)
  | .emit request _ => some (request.hash, .emit)
  | .checkPropose request => some (request.hash, .checkPropose)
  | .add request => if request.senderId ≠ self then some (request.hash, .add) else none

/-- The proposal the action at a point makes, as the guard counts it. -/
def Point.event (self : UInt32) : Point → Option Event
  | .emit request _ => some (.emitted request.hash)
  | .add request => if request.senderId ≠ self then some (.handed request.hash) else none
  | _ => none

/-- The replica after a last action is the handler's. -/
@[simp] theorem ofOutcome_fst (o : Outcome) : (ofOutcome o).1 = o.replica := by cases o <;> rfl

/-- A last action goes on to no point. -/
@[simp] theorem ofOutcome_points (o : Outcome) : (ofOutcome o).2.2.points = [] := by
  cases o <;> rfl

/-- `AddConsensusMsg` keeps the replica's id. -/
@[simp] theorem addMovedRequest_selfId :
    (Replica.addMovedRequest env r request).replica.selfId = r.selfId := by
  unfold Replica.addMovedRequest
  dsimp only
  split_ifs <;> rfl

/-- The recovery path keeps the replica's id. -/
@[simp] theorem proposeRecovery_selfId :
    (r.proposeRecovery env request).replica.selfId = r.selfId := by
  unfold Replica.proposeRecovery
  split_ifs <;> rfl

/-- The action ends the call, leaving the replica's id and duplicate manager as they were. -/
def Ends (r : Replica) (res : Replica × List Send × Next) : Prop :=
  res.2.2.points = [] ∧ res.1.selfId = r.selfId ∧ res.1.duplicates = r.duplicates

/-- An action that returns with the replica unchanged ends the call. -/
theorem ends_ret (r : Replica) (sent : List Send) (value : Int) : Ends r (r, sent, .ret value) :=
  ⟨rfl, rfl, rfl⟩

/-- A last action that keeps the id and the duplicate manager ends the call. -/
theorem ends_ofOutcome {o : Outcome} (hid : o.replica.selfId = r.selfId)
    (hdup : o.replica.duplicates = r.duplicates) : Ends r (ofOutcome o) :=
  ⟨ofOutcome_points o, by rw [ofOutcome_fst, hid], by rw [ofOutcome_fst, hdup]⟩

/-- The first action of `ProcessNewRequest` ends the call or passes its checks. -/
theorem act_newRequest_cases (context : Option String) (request : Request) :
    Ends r ((Point.newRequest context request).act env r) ∨
      (Point.newRequest context request).act env r = (r, [], .goto (.checkNew request)) := by
  simp only [Point.act]
  split_ifs
  -- the context, the executed hashes, the coordinator, the signature, the pre-verification
  iterate 5 exact .inl ⟨rfl, rfl, rfl⟩
  exact .inr rfl

/-- The first action of `ProcessProposeMsg` ends the call, or passes the checks of a request from
another replica, or goes on to `AddConsensusMsg` with the replica's own PRE_PREPARE. -/
theorem act_proposeMsg_cases (context : Option String) (request : Request) :
    Ends r ((Point.proposeMsg context request).act env r) ∨
      request.senderId ≠ r.selfId ∧
        (Point.proposeMsg context request).act env r = (r, [], .goto (.checkPropose request)) ∨
      request.senderId = r.selfId ∧
        (Point.proposeMsg context request).act env r = (r, [], .goto (.add request)) := by
  rw [Point.act]
  by_cases h1 : r.forwards request.senderId = true
  · rw [if_pos h1]; exact .inl (ends_ofOutcome rfl rfl)
  rw [if_neg h1]
  by_cases h2 : (env.isFaulty || unsigned context) = true
  · rw [if_pos h2]; exact .inl (ends_ret r _ _)
  rw [if_neg h2]
  by_cases h3 : request.isRecovery = true
  · rw [if_pos h3]
    exact .inl (ends_ofOutcome proposeRecovery_selfId Replica.proposeRecovery_duplicates)
  rw [if_neg h3]
  by_cases h4 : request.senderId ≠ r.systemInfo.primaryId ∧ request.senderId ≠ r.coordinator
  · rw [if_pos h4]; exact .inl (ends_ret r _ _)
  rw [if_neg h4]
  by_cases h5 : request.senderId ≠ r.selfId
  · rw [if_pos h5]
    by_cases h6 : env.preVerifyFails request = true
    · rw [if_pos h6]; exact .inl (ends_ret r _ _)
    by_cases h7 : (!env.verifyMessage request.data request.dataSignature) = true
    · rw [if_neg h6, if_pos h7]; exact .inl (ends_ret r _ _)
    rw [if_neg h6, if_neg h7]
    exact .inr (.inl ⟨h5, rfl⟩)
  · rw [if_neg h5]
    exact .inr (.inr ⟨not_not.mp h5, rfl⟩)

/-- No action changes the replica's id. -/
theorem act_selfId (p : Point) : (p.act env r).1.selfId = r.selfId := by
  cases p with
  | newRequest context request =>
    rcases @act_newRequest_cases env r context request with h | h
    · exact h.2.1
    · rw [h]
  | proposeMsg context request =>
    rcases @act_proposeMsg_cases env r context request with h | ⟨-, h⟩ | ⟨-, h⟩
    · exact h.2.1
    all_goals rw [h]
  | checkNew request | checkPropose request =>
    simp only [Point.act]
    split <;> rfl
  | assign request =>
    simp only [Point.act]
    split
    · rfl
    · next h => rw [(Replica.assignNextSeq_eq_some h).2]
  | erase request | emit request seq => rfl
  | add request => rw [Point.act, ofOutcome_fst, addMovedRequest_selfId]

/-- Only the first action of `ProcessProposeMsg` starts a check of a request, and only for a
request from another replica. -/
theorem act_checkPropose (p : Point) {request : Request}
    (h : .checkPropose request ∈ (p.act env r).2.2.points) : request.senderId ≠ r.selfId := by
  cases p with
  | proposeMsg context request' =>
    rcases @act_proposeMsg_cases env r context request' with he | ⟨hs, he⟩ | ⟨-, he⟩
    · rw [he.1] at h; cases h
    · rw [he] at h; cases List.mem_singleton.mp h; exact hs
    · rw [he] at h; cases List.mem_singleton.mp h
  | newRequest context request' =>
    rcases @act_newRequest_cases env r context request' with he | he
    · rw [he.1] at h; cases h
    · rw [he] at h; cases List.mem_singleton.mp h
  | checkNew request' | checkPropose request' =>
    simp only [Point.act] at h
    split at h <;> simp [Next.points] at h
  | assign request' =>
    simp only [Point.act] at h
    split at h <;> simp [Next.points] at h
  | erase request' | emit request' seq => simp [Point.act, Next.points] at h
  | add request' => rw [Point.act, ofOutcome_points] at h; cases h

/-- An action that ends a call holding no mark and making no proposal leaves the guard as it was. -/
theorem moves_of_ends {p : Point} (h : Ends r (p.act env r)) (hguard : p.guard r.selfId = none)
    (hevent : p.event r.selfId = none) (before after : List (String × Pc)) (ev : List Event) :
    Relation.ReflGen Step ⟨r.duplicates.proposed, before ++ (p.guard r.selfId).toList ++ after, ev⟩
      ⟨(p.act env r).1.duplicates.proposed,
        before ++ (p.act env r).2.2.points.filterMap (·.guard r.selfId) ++ after,
        ev ++ (p.event r.selfId).toList⟩ := by
  rw [h.1, h.2.2, hguard, hevent]
  simp only [Option.toList_none, List.filterMap_nil, List.append_nil]
  exact .refl

/-- **An action is at most one step of the guard.** From the proposed set and the mark of the call
at `p`, among any other calls and events, the action leads in one step of `Guard.Step`, or none, to
the proposed set after it, the marks of the point it goes on to, and its proposal. -/
theorem act_moves (p : Point)
    (hsound : ∀ request, p = .checkPropose request → request.senderId ≠ r.selfId)
    (before after : List (String × Pc)) (ev : List Event) :
    Relation.ReflGen Step ⟨r.duplicates.proposed, before ++ (p.guard r.selfId).toList ++ after, ev⟩
      ⟨(p.act env r).1.duplicates.proposed,
        before ++ (p.act env r).2.2.points.filterMap (·.guard r.selfId) ++ after,
        ev ++ (p.event r.selfId).toList⟩ := by
  cases p with
  | newRequest context request =>
    rcases @act_newRequest_cases env r context request with h | h
    · exact moves_of_ends h rfl rfl before after ev
    · simp only [h, Point.guard, Point.event, Next.points, List.filterMap_cons, List.filterMap_nil,
        Option.toList_none, List.append_nil, List.append_assoc, List.singleton_append]
      exact .single (.start _ _ rfl)
  | proposeMsg context request =>
    rcases @act_proposeMsg_cases env r context request with h | ⟨_, h⟩ | ⟨hs, h⟩
    · exact moves_of_ends h rfl rfl before after ev
    · simp only [h, Point.guard, Point.event, Next.points, List.filterMap_cons, List.filterMap_nil,
        Option.toList_none, List.append_nil, List.append_assoc, List.singleton_append]
      exact .single (.start _ _ rfl)
    · simp only [h, Point.guard, Point.event, Next.points, List.filterMap_cons, List.filterMap_nil,
        Option.toList_none, List.append_nil, hs, ne_eq, not_true_eq_false, if_false]
      exact .refl
  | checkNew request =>
    by_cases hm : request.hash ∈ r.duplicates.proposed
    all_goals simp only [Point.act, hm, DuplicateManager.checkAndAddProposed_of_mem,
      DuplicateManager.checkAndAddProposed_of_not_mem, not_false_eq_true, Point.guard, Point.event,
      Next.points, List.filterMap_cons, List.filterMap_nil, Option.toList_some, Option.toList_none,
      List.append_nil, List.nil_append, List.append_assoc, List.singleton_append]
    · exact .single (.checkMarked _ _ rfl hm)
    · exact .single (.mark _ _ _ (.inl ⟨rfl, rfl⟩) hm)
  | checkPropose request =>
    by_cases hm : request.hash ∈ r.duplicates.proposed
    all_goals simp only [Point.act, hm, DuplicateManager.checkAndAddProposed_of_mem,
      DuplicateManager.checkAndAddProposed_of_not_mem, not_false_eq_true, Point.guard, Point.event,
      Next.points, List.filterMap_cons, List.filterMap_nil, Option.toList_some, Option.toList_none,
      List.append_nil, List.nil_append, List.append_assoc, List.singleton_append,
      if_pos (hsound _ rfl)]
    · exact .single (.checkMarked _ _ rfl hm)
    · exact .single (.mark _ _ _ (.inr ⟨rfl, rfl⟩) hm)
  | assign request =>
    simp only [Point.act]
    split
    next =>
      simp only [Point.guard, Point.event, Next.points, List.filterMap_cons, List.filterMap_nil,
        Option.toList_some, Option.toList_none, List.append_nil, List.append_assoc,
        List.singleton_append]
      exact .single (.assign _ _ (.inr rfl))
    next seq r' h =>
      simp only [(Replica.assignNextSeq_eq_some h).2, Point.guard, Point.event, Next.points,
        List.filterMap_cons, List.filterMap_nil, Option.toList_some, Option.toList_none,
        List.append_nil, List.append_assoc, List.singleton_append]
      exact .single (.assign _ _ (.inl rfl))
  | erase request =>
    simp only [Point.act, DuplicateManager.eraseProposed, Point.guard, Point.event, Next.points,
      List.filterMap_nil, Option.toList_some, Option.toList_none, List.append_nil, List.append_assoc,
      List.singleton_append]
    exact .single (.erase _)
  | emit request seq =>
    simp only [Point.act, Point.guard, Point.event, Next.points, List.filterMap_nil,
      Option.toList_some, List.append_nil, List.append_assoc, List.singleton_append]
    exact .single (.emit _)
  | add request =>
    by_cases hs : request.senderId ≠ r.selfId
    · simp only [Point.act, ofOutcome_fst, ofOutcome_points, Replica.addMovedRequest_duplicates,
        Point.guard, Point.event, if_pos hs, List.filterMap_nil, Option.toList_some,
        List.append_nil, List.append_assoc, List.singleton_append]
      exact .single (.add _)
    · exact moves_of_ends (show Ends r ((Point.add request).act env r) from
          ends_ofOutcome addMovedRequest_selfId Replica.addMovedRequest_duplicates)
        (by simp only [Point.guard, if_neg hs]) (by simp only [Point.event, if_neg hs]) before after ev

/-! ### The replica's threads -/

/-- Whether a call can begin at `p`: the entry of one of the two handlers. -/
def Point.isEntry : Point → Bool
  | .newRequest _ _ | .proposeMsg _ _ => true
  | _ => false

/-- One replica with the calls under way on its threads: the point each stands at, the actions
taken so far in order, everything sent, and whether the process has crashed. -/
structure Threads where
  replica : Replica
  calls : List Point
  trace : List Point
  sent : List Send
  crashed : Bool

/-- The replica `r` before any call. -/
def Threads.init (r : Replica) : Threads := ⟨r, [], [], [], false⟩

/-- The call at `p`, among the calls `before` and `after`, takes its next action. -/
def Threads.take (env : Env) (t : Threads) (before after : List Point) (p : Point) : Threads :=
  let res := p.act env t.replica
  ⟨res.1, before ++ res.2.2.points ++ after, t.trace ++ [p], t.sent ++ res.2.1, res.2.2.isCrash⟩

/-- One step of a live replica's threads: a handler is called, or a call under way takes its next
action. -/
inductive Threads.Step (env : Env) : Threads → Threads → Prop
  /-- A handler is called: a new call at its entry. -/
  | enter {t : Threads} (p : Point) (is_entry : p.isEntry) (is_live : t.crashed = false) :
      Threads.Step env t { t with calls := t.calls ++ [p] }
  /-- The call at `p` takes its next action. -/
  | act {t : Threads} (before after : List Point) (p : Point)
      (is_next : t.calls = before ++ p :: after) (is_live : t.crashed = false) :
      Threads.Step env t (t.take env before after p)

/-- The step of a call whose action goes on to the point `p'`. -/
theorem Threads.Step.goto {t : Threads} (before after : List Point) (p : Point) {p' : Point}
    {r' : Replica} {sent : List Send} (is_next : t.calls = before ++ p :: after)
    (is_live : t.crashed = false) (hact : p.act env t.replica = (r', sent, .goto p')) :
    Threads.Step env t ⟨r', before ++ p' :: after, t.trace ++ [p], t.sent ++ sent, false⟩ := by
  have h := @Threads.Step.act env t before after p is_next is_live
  rw [Threads.take, hact] at h
  simpa only [Next.points, List.append_assoc, List.singleton_append] using h

/-- The step of a call whose action returns. -/
theorem Threads.Step.ret {t : Threads} (before after : List Point) (p : Point) {value : Int}
    {r' : Replica} {sent : List Send} (is_next : t.calls = before ++ p :: after)
    (is_live : t.crashed = false) (hact : p.act env t.replica = (r', sent, .ret value)) :
    Threads.Step env t ⟨r', before ++ after, t.trace ++ [p], t.sent ++ sent, false⟩ := by
  have h := @Threads.Step.act env t before after p is_next is_live
  rw [Threads.take, hact] at h
  simpa only [Next.points, List.append_nil] using h

/-- What the guard sees of the threads: the proposed set, the marks of the calls under way, and the
proposals made so far. -/
def Threads.view (t : Threads) : State :=
  ⟨t.replica.duplicates.proposed, t.calls.filterMap (·.guard t.replica.selfId),
    t.trace.filterMap (·.event t.replica.selfId)⟩

/-- Every call of `ProcessProposeMsg` waiting on `CheckAndAddProposed` is on a request from another
replica. -/
def Threads.Sound (t : Threads) : Prop :=
  ∀ request, .checkPropose request ∈ t.calls → request.senderId ≠ t.replica.selfId

/-- The guard's view of the calls around one call. -/
theorem filterMap_mid {α β : Type} (f : α → Option β) (before after : List α) (a : α) :
    (before ++ a :: after).filterMap f = before.filterMap f ++ (f a).toList ++ after.filterMap f := by
  cases h : f a <;> simp [List.filterMap_append, List.filterMap_cons, h]

/-- **A step of the threads is at most one step of the guard**, and keeps the replica's id and the
soundness of the calls under way. -/
theorem Threads.Step.simulates {t t' : Threads} (hstep : Threads.Step env t t') (hsound : t.Sound) :
    t'.replica.selfId = t.replica.selfId ∧ t'.Sound ∧ Relation.ReflGen Guard.Step t.view t'.view := by
  cases hstep with
  | enter p hentry _ =>
    have hguard : p.guard t.replica.selfId = none := by cases p <;> first | rfl | cases hentry
    refine ⟨rfl, fun request hmem => ?_, ?_⟩
    · rcases List.mem_append.mp hmem with h | h
      · exact hsound request h
      · cases List.mem_singleton.mp h
        cases hentry
    · simp only [Threads.view, List.filterMap_append, List.filterMap_cons, hguard,
        List.filterMap_nil, List.append_nil]
      exact .refl
  | act before after p hnext _ =>
    have hid : (p.act env t.replica).1.selfId = t.replica.selfId := act_selfId p
    have hp : ∀ request, p = .checkPropose request → request.senderId ≠ t.replica.selfId :=
      fun request h =>
        hsound request (hnext ▸ h ▸ List.mem_append_right _ (List.mem_cons_self _ _))
    refine ⟨hid, fun request hmem => ?_, ?_⟩
    · simp only [Threads.take, List.mem_append] at hmem
      rw [Threads.take, hid]
      rcases hmem with (h | h) | h
      · exact hsound request (hnext ▸ List.mem_append_left _ h)
      · exact act_checkPropose p h
      · exact hsound request (hnext ▸ List.mem_append_right _ (List.mem_cons_of_mem _ h))
    · have := @act_moves env t.replica p hp (before.filterMap (·.guard t.replica.selfId))
        (after.filterMap (·.guard t.replica.selfId)) (t.trace.filterMap (·.event t.replica.selfId))
      simp only [Threads.view, Threads.take, hnext, hid, filterMap_mid, List.filterMap_nil,
        List.append_nil]
      rw [List.filterMap_append, List.filterMap_append]
      exact this

/-- Every run of the threads from a replica `r` is a run of the guard from `r`'s proposed set. -/
theorem Threads.reachable_view {t : Threads}
    (hrun : Relation.ReflTransGen (Threads.Step env) (Threads.init r) t) :
    t.replica.selfId = r.selfId ∧ t.Sound ∧
      Relation.ReflTransGen Guard.Step (State.init r.duplicates.proposed) t.view := by
  induction hrun with
  | refl => exact ⟨rfl, fun _ h => absurd h (List.not_mem_nil _), .refl⟩
  | tail _ hstep ih =>
    obtain ⟨hid, hsound, hview⟩ := ih
    obtain ⟨hid', hsound', hguard⟩ := hstep.simulates hsound
    exact ⟨hid'.trans hid, hsound', hview.trans hguard.to_reflTransGen⟩

/-- Whether the action at `p` proposes `h`: `ProcessNewRequest` sends its PRE_PREPARE for `h`, or
`ProcessProposeMsg` hands a non-recovery PRE_PREPARE for `h` from another replica to
`AddConsensusMsg`. -/
def Point.proposes (self : UInt32) (h : String) : Point → Bool
  | .emit request _ => request.hash == h
  | .add request => request.hash == h && !request.isRecovery && request.senderId != self
  | _ => false

/-- Every proposal in a trace is a proposal the guard counts. -/
theorem proposes_le_events (self : UInt32) (h : String) (trace : List Point) :
    trace.countP (·.proposes self h) ≤ eventsOf (trace.filterMap (·.event self)) h := by
  rw [eventsOf, List.countP_filterMap]
  refine List.countP_mono_left fun p _ hp => ?_
  cases p with
  | emit request seq => simpa [Point.proposes, Point.event, Event.hash] using hp
  | add request =>
    simp only [Point.proposes, Bool.and_eq_true, bne_iff_ne] at hp
    simp [Point.event, hp.2, Event.hash, beq_iff_eq.mp hp.1.1]
  | _ => cases hp

/-- **No re-proposal at a replica.** However the calls of `ProcessNewRequest` and
`ProcessProposeMsg` on a replica interleave, each request hash is proposed at most once, by a
PRE_PREPARE sent or one from another replica handed to `AddConsensusMsg`, and once proposed it
stays marked in the duplicate manager. -/
theorem at_most_one_proposal (env : Env) (r : Replica) {t : Threads}
    (hrun : Relation.ReflTransGen (Threads.Step env) (Threads.init r) t) (h : String) :
    t.trace.countP (·.proposes r.selfId h) ≤ 1 ∧
      (0 < t.trace.countP (·.proposes r.selfId h) → h ∈ t.replica.duplicates.proposed) := by
  obtain ⟨hid, -, hview⟩ := Threads.reachable_view hrun
  have hone := one_event_of_reachable hview h
  have hle := proposes_le_events t.replica.selfId h t.trace
  rw [← hid]
  exact ⟨hle.trans hone.1, fun hpos => hone.2 (lt_of_lt_of_le hpos hle)⟩

/-- Two calls of `ProcessNewRequest` with one request, on the coordinator `1` of a one-shard
cluster, interleaved so that both pass the checks before either reaches `CheckAndAddProposed`: the
second finds the hash marked, and the request is proposed once. -/
theorem concurrent_requests_one_proposal :
    let env : Env := { verifyMessage := fun _ _ => true, signMessage := some,
                       preVerifyFunc := none, needQc := false, isFaulty := false,
                       maxProcessTxn := 8, quorum := 1 }
    ∃ t, Relation.ReflTransGen (Threads.Step env) (Threads.init (Replica.init 1
        (((SystemInfo.init 0).setShardCount 1).place ⟨1, "10.0.0.1", 10001⟩ 0))) t ∧
      t.calls = [] ∧ t.trace.countP (·.isEntry) = 2 ∧ t.trace.countP (·.proposes 1 "a") = 1 ∧
      t.trace.countP (·.proposes 1 "a") ≤ 1 ∧
        (0 < t.trace.countP (·.proposes 1 "a") → "a" ∈ t.replica.duplicates.proposed) := by
  intro env
  let request : Request := { (default : Request) with hash := "a" }
  let call := Point.newRequest (some "sig") request
  -- both calls enter and pass the checks
  have h₂ := (Relation.ReflTransGen.single (@Threads.Step.enter env (Threads.init (Replica.init 1
    (((SystemInfo.init 0).setShardCount 1).place ⟨1, "10.0.0.1", 10001⟩ 0))) call rfl rfl)).tail
      (.enter call rfl rfl)
  have h₄ := (h₂.tail (.goto [] [call] call rfl rfl rfl)).tail
    (.goto [.checkNew request] [] call rfl rfl rfl)
  -- the first marks the hash, and the second finds it marked
  have h₆ : Relation.ReflTransGen (Threads.Step env) (Threads.init (Replica.init 1
      (((SystemInfo.init 0).setShardCount 1).place ⟨1, "10.0.0.1", 10001⟩ 0)))
      ⟨(Replica.init 1 (((SystemInfo.init 0).setShardCount 1).place ⟨1, "10.0.0.1", 10001⟩ 0))
        |>.markProposed "a", [.assign request], [call, call, .checkNew request, .checkNew request],
        [], false⟩ :=
    (h₄.tail (.goto [] [.checkNew request] (.checkNew request) rfl rfl rfl)).tail
      (.ret [.assign request] [] (.checkNew request) rfl rfl rfl)
  -- the first draws number `1` and sends its PRE_PREPARE
  have h₈ :=
    (h₆.tail (.goto [] [] (.assign request) rfl rfl (act_assign_of_room _ (by decide)))).tail
    (.ret [] [] (.emit request _) rfl rfl rfl)
  exact ⟨_, h₈, rfl, rfl, by decide, at_most_one_proposal env _ h₈ "a"⟩

end Guard

end ShardedPbft
