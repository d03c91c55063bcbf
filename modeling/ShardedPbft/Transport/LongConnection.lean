import Mathlib.Data.List.Nodup
import ShardedPbft.Transport.ReplicaCommunicator

/-!
# Order and duplication on long connections

With long connections a `ReplicaCommunicator` has three ways out:

* `BroadCast` and `SendMessage(message)` push onto `batch_queue_`, whose thread pops a batch and
  writes it to every replica of `replicas_` (lines 104-125);
* `SendMessage(message, replica_info)` and `SendMessage(message, node_id)` reach
  `SendSingleMessage`, which pushes onto the queue of the endpoint in `single_bq_`, starting its
  thread first if there is none (lines 172-187); that thread writes to the replica it looked up
  for its endpoint when it started (lines 127-169);
* `SendBatchMessage` writes its messages at once, from the caller's thread (lines 223-231).

Each write goes through `SendMessageFromPool` under `mutex_`, so one batch's writes are one
atomic step. A run is one caller thread's calls interleaved with any schedule of the threads
(`run`). The threads share no queue, so a payload of one queue can overtake a payload issued
earlier on another: a broadcast followed by a unicast to one replica can reach it in the other
order (`broadcast_overtaken`).

What holds is order per path: when the endpoints of `replicas_` are distinct and every
`SendMessage(message, replica_info)` names an endpoint that `replicas_` or the clients list, the
payloads each path writes to an endpoint come in issue order, every payload written to an
endpoint is addressed to it, and none is written twice (`long_connection_per_path_fifo`). The
invariant behind it says, for each endpoint and path, that what was written followed by what is
still queued is what was addressed (`Inv`).

The bytes of a payload play no part in where and in which order it is written, so the model
follows each payload by its number in issue order and its path. How many items a thread pops at
once (`tcp_batch`, the waiting time) is left open: any non-empty prefix of its queue.
-/

namespace ShardedPbft

namespace LongConnection

/-- The way a payload leaves the communicator. -/
inductive Path
  /-- Through `batch_queue_` and the broadcast thread. -/
  | broadcast
  /-- Through the queue of one endpoint and its thread. -/
  | single
  /-- Written at once by `SendBatchMessage`. -/
  | batch
  deriving DecidableEq, Repr

/-- A payload: its number in issue order and the path it was issued on. -/
structure Payload where
  id : Nat
  path : Path
  deriving DecidableEq, Repr

/-- A long-connection communicator: `batch_queue_`; the queues of `single_bq_`, each with the
replica its thread writes to; the writes so far, in order, each to an endpoint; and, as ghost
state, the payloads issued so far with the endpoints each is addressed to. -/
structure State where
  broadcastQueue : List Payload
  singleBq : String × UInt16 → Option (ReplicaInfo × List Payload)
  written : List ((String × UInt16) × Payload)
  issued : List (Payload × List (String × UInt16))

/-- Nothing queued, written or issued, and no endpoint thread. -/
def State.init : State := ⟨[], fun _ => none, [], []⟩

/-- The queue of an endpoint, empty while it has no thread. -/
def State.queueOf (s : State) (e : String × UInt16) : List Payload :=
  ((s.singleBq e).map (·.2)).getD []

/-- The calls of the caller's thread. -/
inductive Call
  /-- `BroadCast(message)`, or `SendMessage(message)`. -/
  | broadCast
  /-- `SendMessage(message, replica_info)`. -/
  | sendMessage (replicaInfo : ReplicaInfo)
  /-- `SendMessage(message, node_id)`. -/
  | sendMessageToNode (nodeId : UInt32)
  /-- `SendBatchMessage(messages, replica_info)` with `count` messages. -/
  | sendBatchMessage (count : Nat) (replicaInfo : ReplicaInfo)

/-- One atomic step: a call of the caller's thread, or a batch of `count` payloads popped and
written by the broadcast thread or by the thread of an endpoint. -/
inductive Action
  | call (c : Call)
  | broadcastWorker (count : Nat)
  | singleWorker (endpoint : String × UInt16) (count : Nat)

/-- The writes of one `SendMessageFromPool(batch, replicas)`: the whole batch to each replica in
turn (lines 233-255). -/
def poolWrites (replicas : List ReplicaInfo) (batch : List Payload) :
    List ((String × UInt16) × Payload) :=
  replicas.flatMap fun ri => batch.map fun p => (ri.endpoint, p)

/-- `SendSingleMessage(message, replica_info)` with long connections, lines 180-187: push onto
the queue of the endpoint, after starting its thread, which looks its replica up, if there is
none. -/
def sendSingleMessage (comm : ReplicaCommunicator) (s : State) (e : String × UInt16) : State :=
  let p : Payload := ⟨s.issued.length, .single⟩
  let entry := (s.singleBq e).getD (comm.workerTarget e, [])
  { s with singleBq := Function.update s.singleBq e (some (entry.1, entry.2 ++ [p])),
           issued := s.issued ++ [(p, [e])] }

/-- A call of the caller's thread. `SendMessage(message, node_id)` looks the id up and sends
nothing when no entry has an ip (lines 466-493). -/
def issue (comm : ReplicaCommunicator) (s : State) : Call → State
  | .broadCast =>
    let p : Payload := ⟨s.issued.length, .broadcast⟩
    { s with broadcastQueue := s.broadcastQueue ++ [p],
             issued := s.issued ++ [(p, comm.replicas.map (·.endpoint))] }
  | .sendMessage replicaInfo => sendSingleMessage comm s replicaInfo.endpoint
  | .sendMessageToNode nodeId =>
    let target := comm.lookup (·.id == nodeId)
    if target.ip.isEmpty then s else sendSingleMessage comm s target.endpoint
  | .sendBatchMessage count replicaInfo =>
    let batch := (List.range count).map fun i => (⟨s.issued.length + i, .batch⟩ : Payload)
    { s with written := s.written ++ poolWrites [replicaInfo] batch,
             issued := s.issued ++ batch.map fun p => (p, [replicaInfo.endpoint]) }

/-- One step, `none` when the thread has fewer payloads than it is to pop. -/
def step (comm : ReplicaCommunicator) (s : State) : Action → Option State
  | .call c => some (issue comm s c)
  | .broadcastWorker count =>
    if 0 < count ∧ count ≤ s.broadcastQueue.length then
      some { s with broadcastQueue := s.broadcastQueue.drop count,
                    written := s.written ++ poolWrites comm.replicas (s.broadcastQueue.take count) }
    else none
  | .singleWorker e count =>
    match s.singleBq e with
    | some (target, queue) =>
      if 0 < count ∧ count ≤ queue.length then
        some { s with singleBq := Function.update s.singleBq e (some (target, queue.drop count)),
                      written := s.written ++ poolWrites [target] (queue.take count) }
      else none
    | none => none

/-- A run of steps. -/
def run (comm : ReplicaCommunicator) (s : State) : List Action → Option State
  | [] => some s
  | a :: as => (step comm s a).bind fun s' => run comm s' as

/-- The payloads of a list of writes that went to an endpoint, in order. -/
def sentTo (ws : List ((String × UInt16) × Payload)) (d : String × UInt16) : List Payload :=
  (ws.filter fun w => w.1 = d).map (·.2)

/-- The payloads of a list of issued payloads that are addressed to an endpoint, in order. -/
def addressed (xs : List (Payload × List (String × UInt16))) (d : String × UInt16) :
    List Payload :=
  (xs.filter fun x => d ∈ x.2).map (·.1)

/-- The payloads written to an endpoint, in the order they were written. -/
def writtenTo (s : State) (d : String × UInt16) : List Payload := sentTo s.written d

/-- The payloads addressed to an endpoint, in issue order. -/
def addressedTo (s : State) (d : String × UInt16) : List Payload := addressed s.issued d

/-- One replica; a broadcast and then a unicast to it. The replica's thread writes the unicast
before the broadcast thread writes the broadcast, so the replica gets them in the other order. -/
theorem broadcast_overtaken :
    ∃ (comm : ReplicaCommunicator) (actions : List Action) (s : State),
      run comm State.init actions = some s ∧
        ∃ d, ¬ (writtenTo s d).Sublist (addressedTo s d) :=
  ⟨⟨[⟨1, "10.0.0.1", 10001⟩], [], true⟩,
    [.call .broadCast, .call (.sendMessage ⟨1, "10.0.0.1", 10001⟩),
      .singleWorker ("10.0.0.1", 10001) 1, .broadcastWorker 1],
    _, rfl, ("10.0.0.1", 10001), by decide⟩

/-! ## Reading writes and addresses -/

@[simp] theorem sentTo_append (ws ws' : List ((String × UInt16) × Payload)) (d : String × UInt16) :
    sentTo (ws ++ ws') d = sentTo ws d ++ sentTo ws' d := by
  simp [sentTo, List.filter_append]

@[simp] theorem addressed_append (xs xs' : List (Payload × List (String × UInt16)))
    (d : String × UInt16) : addressed (xs ++ xs') d = addressed xs d ++ addressed xs' d := by
  simp [addressed, List.filter_append]

/-- With distinct endpoints, `SendMessageFromPool` writes its batch once to each listed endpoint
and nowhere else. -/
theorem sentTo_poolWrites {replicas : List ReplicaInfo}
    (hnodup : (replicas.map (·.endpoint)).Nodup) (batch : List Payload) (d : String × UInt16) :
    sentTo (poolWrites replicas batch) d = if d ∈ replicas.map (·.endpoint) then batch else [] := by
  induction replicas with
  | nil => simp [poolWrites, sentTo]
  | cons ri rest ih =>
    rw [List.map_cons, List.nodup_cons] at hnodup
    have hrest := ih hnodup.2
    simp only [poolWrites, sentTo, List.flatMap_cons, List.filter_append, List.map_append] at hrest ⊢
    rw [hrest]
    by_cases hd : ri.endpoint = d
    · subst hd
      simp [List.filter_map, Function.comp_def, hnodup.1]
    · simp [List.filter_map, Function.comp_def, hd, Ne.symm hd]

/-- A list whose payloads all took one path passes the filter of that path whole, and that of any
other path not at all. -/
theorem filter_path_of_forall {l : List Payload} {P : Path} (h : ∀ p ∈ l, p.path = P)
    (Q : Path) : l.filter (fun p => p.path = Q) = if P = Q then l else [] := by
  split_ifs with hPQ
  · exact List.filter_eq_self.mpr fun p hp => by simp [h p hp, hPQ]
  · exact List.filter_eq_nil_iff.mpr fun p hp => by simp [h p hp, hPQ]

/-! ## The invariant -/

/-- Every `SendMessage(message, replica_info)` of a run names a known endpoint. -/
def Action.namesKnown (comm : ReplicaCommunicator) : Action → Bool
  | .call (.sendMessage replicaInfo) => comm.known replicaInfo.endpoint
  | _ => true

/-- What a path still holds for an endpoint: the broadcast queue for every replica, the queue of
the endpoint's thread, and nothing for `SendBatchMessage`, which writes at once. -/
def pending (comm : ReplicaCommunicator) (s : State) (d : String × UInt16) : Path → List Payload
  | .broadcast => if d ∈ comm.replicas.map (·.endpoint) then s.broadcastQueue else []
  | .single => s.queueOf d
  | .batch => []

/-- For each endpoint and path, what was written followed by what is still pending is what was
addressed; payloads are numbered in issue order; each queue holds payloads of its own path; and
each endpoint's thread writes to that endpoint. -/
structure Inv (comm : ReplicaCommunicator) (s : State) : Prop where
  ids : s.issued.map (·.1.id) = List.range s.issued.length
  target_endpoint : ∀ e t q, s.singleBq e = some (t, q) → t.endpoint = e
  broadcastQueue_path : ∀ p ∈ s.broadcastQueue, p.path = .broadcast
  queue_path : ∀ e t q, s.singleBq e = some (t, q) → ∀ p ∈ q, p.path = .single
  fifo : ∀ d P, (writtenTo s d).filter (fun p => p.path = P) ++ pending comm s d P =
    (addressedTo s d).filter (fun p => p.path = P)

/-- Before any call the invariant holds. -/
theorem inv_init (comm : ReplicaCommunicator) : Inv comm State.init where
  ids := rfl
  target_endpoint _ _ _ h := by cases h
  broadcastQueue_path _ h := by cases h
  queue_path _ _ _ h := by cases h
  fifo _ P := by cases P <;> simp [State.init, writtenTo, addressedTo, sentTo, addressed, pending,
    State.queueOf]

@[simp] theorem addressed_singleton (p : Payload) (E : List (String × UInt16))
    (d : String × UInt16) : addressed [(p, E)] d = if d ∈ E then [p] else [] := by
  by_cases hd : d ∈ E <;> simp [addressed, hd]

/-- The payloads of a list addressed each to one endpoint `e`: all of them at `e`, none
elsewhere. -/
theorem addressed_to_one (l : List Payload) (e d : String × UInt16) :
    addressed (l.map fun p => (p, [e])) d = if d = e then l else [] := by
  split_ifs with hd
  · simp [addressed, List.filter_map, Function.comp_def, hd]
  · simp [addressed, List.filter_map, Function.comp_def, hd]

/-- A thread writes its batch to its own endpoint only. -/
theorem sentTo_poolWrites_single (target : ReplicaInfo) (batch : List Payload)
    (d : String × UInt16) :
    sentTo (poolWrites [target] batch) d = if d = target.endpoint then batch else [] := by
  simpa using sentTo_poolWrites (by simp : ([target].map (·.endpoint)).Nodup) batch d

variable {comm : ReplicaCommunicator} {s s' : State}

/-- A step that writes `w d` and addresses `a d` at each endpoint keeps the order of each path
when, for every endpoint and path, what it writes followed by what is then pending is what was
pending followed by what it addresses. -/
theorem Inv.fifo_step (hi : Inv comm s) (w a : String × UInt16 → List Payload)
    (hw : ∀ d, writtenTo s' d = writtenTo s d ++ w d)
    (ha : ∀ d, addressedTo s' d = addressedTo s d ++ a d)
    (hstep : ∀ d P, (w d).filter (fun p => p.path = P) ++ pending comm s' d P =
      pending comm s d P ++ (a d).filter (fun p => p.path = P)) (d : String × UInt16) (P : Path) :
    (writtenTo s' d).filter (fun p => p.path = P) ++ pending comm s' d P =
      (addressedTo s' d).filter (fun p => p.path = P) := by
  rw [hw, ha, List.filter_append, List.filter_append, List.append_assoc, hstep,
    ← List.append_assoc, hi.fifo]

/-- A fact about every thread's entry survives setting the entry of `e` to one that has it. -/
theorem forall_update_entry {Q : String × UInt16 → ReplicaInfo → List Payload → Prop}
    {bq : String × UInt16 → Option (ReplicaInfo × List Payload)}
    (h : ∀ x t q, bq x = some (t, q) → Q x t q) {e : String × UInt16} {t' : ReplicaInfo}
    {q' : List Payload} (he : Q e t' q') :
    ∀ x t q, Function.update bq e (some (t', q')) x = some (t, q) → Q x t q := by
  intro x t q hx
  by_cases hxe : x = e
  · subst hxe
    simp only [Function.update_same, Option.some.injEq, Prod.mk.injEq] at hx
    obtain ⟨rfl, rfl⟩ := hx
    exact he
  · exact h x t q (by rwa [Function.update_noteq hxe] at hx)

/-! ## Each step keeps the invariant -/

/-- `BroadCast` keeps the invariant. -/
theorem Inv.broadCast (hi : Inv comm s) : Inv comm (issue comm s .broadCast) where
  ids := by simp [issue, List.range_succ, hi.ids]
  target_endpoint := hi.target_endpoint
  broadcastQueue_path p hp := by
    rcases List.mem_append.mp hp with hp | hp
    · exact hi.broadcastQueue_path p hp
    · simp at hp; simp [hp]
  queue_path := hi.queue_path
  fifo := hi.fifo_step (fun _ => [])
    (fun d => if d ∈ comm.replicas.map (·.endpoint) then [⟨s.issued.length, .broadcast⟩] else [])
    (fun d => by simp [issue, writtenTo])
    (fun d => by simp [issue, addressedTo])
    (fun d P => by
      by_cases hd : d ∈ comm.replicas.map (·.endpoint) <;>
        cases P <;> simp [hd, pending, issue, State.queueOf])

/-- Queueing a message for a known endpoint keeps the invariant. -/
theorem Inv.enqueueSingle (hi : Inv comm s) {e : String × UInt16} (he : comm.known e = true) :
    Inv comm (sendSingleMessage comm s e) := by
  have hentry : ((s.singleBq e).getD (comm.workerTarget e, [])).2 = s.queueOf e := by
    cases h : s.singleBq e <;> simp [State.queueOf, h]
  have htarget : ((s.singleBq e).getD (comm.workerTarget e, [])).1.endpoint = e := by
    cases h : s.singleBq e with
    | none => exact ReplicaCommunicator.workerTarget_endpoint he
    | some tq => exact hi.target_endpoint e tq.1 tq.2 h
  have hqpath : ∀ p ∈ s.queueOf e, p.path = .single := by
    cases h : s.singleBq e with
    | none => simp [State.queueOf, h]
    | some tq => simpa [State.queueOf, h] using hi.queue_path e tq.1 tq.2 h
  refine ⟨by simp [sendSingleMessage, List.range_succ, hi.ids],
    forall_update_entry hi.target_endpoint htarget, hi.broadcastQueue_path,
    forall_update_entry hi.queue_path fun p hp => ?_,
    hi.fifo_step (fun _ => []) (fun d => if d = e then [⟨s.issued.length, .single⟩] else [])
      (fun d => by simp [sendSingleMessage, writtenTo])
      (fun d => by simp [sendSingleMessage, addressedTo]) (fun d P => ?_)⟩
  · rcases List.mem_append.mp hp with hp | hp
    · exact hqpath p (hentry ▸ hp)
    · simp at hp; simp [hp]
  · by_cases hd : d = e
    · subst hd
      cases P <;> simp [pending, sendSingleMessage, State.queueOf]
      exact hentry
    · cases P <;> simp [hd, pending, sendSingleMessage, State.queueOf, Function.update_noteq hd]

/-- `SendBatchMessage` keeps the invariant. -/
theorem Inv.sendBatchMessage (hi : Inv comm s) (count : Nat) (replicaInfo : ReplicaInfo) :
    Inv comm (issue comm s (.sendBatchMessage count replicaInfo)) := by
  let batch := (List.range count).map fun i => (⟨s.issued.length + i, .batch⟩ : Payload)
  have hpath : ∀ p ∈ batch, p.path = .batch := by simp [batch]
  constructor
  · simp [issue, List.range_add, hi.ids, Function.comp_def]
  · exact hi.target_endpoint
  · exact hi.broadcastQueue_path
  · exact hi.queue_path
  · refine hi.fifo_step (fun d => if d = replicaInfo.endpoint then batch else [])
      (fun d => if d = replicaInfo.endpoint then batch else [])
      (fun d => by simp only [issue, writtenTo, sentTo_append, sentTo_poolWrites_single])
      (fun d => by simp only [issue, addressedTo, addressed_append, addressed_to_one])
      (fun d P => ?_)
    dsimp only
    split_ifs
    · cases P <;> simp [pending, issue, State.queueOf, filter_path_of_forall hpath]
    · cases P <;> simp [pending, issue, State.queueOf]

/-- The broadcast thread writing a batch keeps the invariant. -/
theorem Inv.broadcastWorker (hnodup : (comm.replicas.map (·.endpoint)).Nodup) (hi : Inv comm s)
    (count : Nat) :
    Inv comm ⟨s.broadcastQueue.drop count, s.singleBq,
      s.written ++ poolWrites comm.replicas (s.broadcastQueue.take count), s.issued⟩ := by
  have htake : ∀ p ∈ s.broadcastQueue.take count, p.path = .broadcast :=
    fun p hp => hi.broadcastQueue_path p (List.mem_of_mem_take hp)
  refine ⟨hi.ids, hi.target_endpoint,
    fun p hp => hi.broadcastQueue_path p (List.mem_of_mem_drop hp), hi.queue_path,
    hi.fifo_step
      (fun d => if d ∈ comm.replicas.map (·.endpoint) then s.broadcastQueue.take count else [])
      (fun _ => []) (fun d => by simp only [writtenTo, sentTo_append, sentTo_poolWrites hnodup])
      (fun d => (List.append_nil _).symm) (fun d P => ?_)⟩
  by_cases hd : d ∈ comm.replicas.map (·.endpoint)
  · cases P <;> simp [hd, pending, filter_path_of_forall htake, State.queueOf]
  · cases P <;> simp [hd, pending, State.queueOf]

/-- An endpoint's thread writing a batch keeps the invariant. -/
theorem Inv.singleWorker (hi : Inv comm s) {e : String × UInt16} {target : ReplicaInfo}
    {queue : List Payload} (hq : s.singleBq e = some (target, queue)) (count : Nat) :
    Inv comm ⟨s.broadcastQueue, Function.update s.singleBq e (some (target, queue.drop count)),
      s.written ++ poolWrites [target] (queue.take count), s.issued⟩ := by
  have hte : target.endpoint = e := hi.target_endpoint e target queue hq
  have htake : ∀ p ∈ queue.take count, p.path = .single :=
    fun p hp => hi.queue_path e target queue hq p (List.mem_of_mem_take hp)
  refine ⟨hi.ids, forall_update_entry hi.target_endpoint hte, hi.broadcastQueue_path,
    forall_update_entry hi.queue_path
      fun p hp => hi.queue_path e target queue hq p (List.mem_of_mem_drop hp),
    hi.fifo_step (fun d => if d = e then queue.take count else []) (fun _ => [])
      (fun d => by simp only [writtenTo, sentTo_append, sentTo_poolWrites_single, hte])
      (fun d => (List.append_nil _).symm) (fun d P => ?_)⟩
  by_cases hd : d = e
  · subst hd
    cases P <;> simp [pending, filter_path_of_forall htake, State.queueOf, hq]
  · cases P <;> simp [hd, pending, State.queueOf, Function.update_noteq hd]

/-- Every step of a run whose unicast calls name known endpoints keeps the invariant. -/
theorem Inv.of_step (hnodup : (comm.replicas.map (·.endpoint)).Nodup) (hi : Inv comm s)
    {a : Action} (ha : a.namesKnown comm = true) (h : step comm s a = some s') : Inv comm s' := by
  cases a with
  | call c =>
    cases h
    cases c with
    | broadCast => exact hi.broadCast
    | sendMessage replicaInfo => exact hi.enqueueSingle ha
    | sendMessageToNode nodeId =>
      simp only [issue]
      split_ifs with hip
      · exact hi
      · exact hi.enqueueSingle (ReplicaCommunicator.lookup_known (by simpa using hip))
    | sendBatchMessage count replicaInfo => exact hi.sendBatchMessage count replicaInfo
  | broadcastWorker count =>
    simp only [step] at h
    split_ifs at h
    cases h
    exact hi.broadcastWorker hnodup count
  | singleWorker e count =>
    simp only [step] at h
    split at h
    · split_ifs at h
      cases h
      exact hi.singleWorker ‹_› count
    · cases h

/-- A run whose unicast calls name known endpoints keeps the invariant. -/
theorem Inv.of_run (hnodup : (comm.replicas.map (·.endpoint)).Nodup) :
    ∀ {s : State} (actions : List Action), Inv comm s →
      (∀ a ∈ actions, a.namesKnown comm = true) → ∀ {s'}, run comm s actions = some s' →
      Inv comm s'
  | _, [], hi, _, _, h => by cases h; exact hi
  | _, a :: as, hi, hknown, _, h => by
    simp only [run, Option.bind_eq_some] at h
    obtain ⟨s₁, h₁, h₂⟩ := h
    exact Inv.of_run hnodup as (hi.of_step hnodup (hknown a (List.mem_cons_self _ _)) h₁)
      (fun b hb => hknown b (List.mem_cons_of_mem _ hb)) h₂

/-! ## Order per path -/

/-- Payloads are numbered in issue order, so no payload is addressed to an endpoint twice. -/
theorem Inv.addressedTo_nodup (hi : Inv comm s) (d : String × UInt16) :
    (addressedTo s d).Nodup := by
  have hids : (s.issued.map (·.1)).Nodup :=
    List.Nodup.of_map Payload.id (by simpa [Function.comp_def, hi.ids] using List.nodup_range _)
  exact hids.sublist ((List.filter_sublist _).map _)

/-- What each path has written to an endpoint came in issue order. -/
theorem Inv.path_prefix (hi : Inv comm s) (d : String × UInt16) (P : Path) :
    (writtenTo s d).filter (fun p => p.path = P) <+: (addressedTo s d).filter (fun p => p.path = P) :=
  ⟨_, hi.fifo d P⟩

/-- Every payload written to an endpoint was addressed to it, as many times as it was written. -/
theorem Inv.count_le (hi : Inv comm s) (d : String × UInt16) (x : Payload) :
    (writtenTo s d).count x ≤ (addressedTo s d).count x :=
  calc (writtenTo s d).count x
      = ((writtenTo s d).filter (fun p => p.path = x.path)).count x :=
        (List.count_filter (by simp)).symm
    _ ≤ ((addressedTo s d).filter (fun p => p.path = x.path)).count x :=
        (hi.path_prefix d x.path).sublist.count_le x
    _ ≤ (addressedTo s d).count x := (List.filter_sublist _).count_le x

/-- **Order per path on long connections.** When the endpoints of `replicas_` are distinct and
every `SendMessage(message, replica_info)` of a run names an endpoint that `replicas_` or the
clients list, then at every endpoint, after any interleaving of the caller's calls with the
threads: the payloads each path has written there are a prefix, in issue order, of the payloads
addressed there by that path; every payload written there is addressed there; and none is written
twice. -/
theorem long_connection_per_path_fifo (comm : ReplicaCommunicator)
    (hendpoints : (comm.replicas.map (·.endpoint)).Nodup) (actions : List Action)
    (hknown : ∀ a ∈ actions, a.namesKnown comm = true) {s : State}
    (hrun : run comm State.init actions = some s) (d : String × UInt16) :
    (∀ P : Path,
      (writtenTo s d).filter (fun p => p.path = P) <+: (addressedTo s d).filter (fun p => p.path = P)) ∧
    (∀ x ∈ writtenTo s d, x ∈ addressedTo s d) ∧ (writtenTo s d).Nodup := by
  have hi := Inv.of_run hendpoints actions (inv_init comm) hknown hrun
  refine ⟨hi.path_prefix d, fun x hx => ?_, ?_⟩
  · exact List.count_pos_iff.mp
      (lt_of_lt_of_le (List.count_pos_iff.mpr hx) (hi.count_le d x))
  · exact List.nodup_iff_count_le_one.mpr fun x =>
      (hi.count_le d x).trans (List.nodup_iff_count_le_one.mp (hi.addressedTo_nodup d) x)

/-- The run of `broadcast_overtaken` names only known endpoints: each path keeps its order there,
though the two paths cross. -/
theorem long_connection_per_path_fifo_overtaken :
    let comm : ReplicaCommunicator := ⟨[⟨1, "10.0.0.1", 10001⟩], [], true⟩
    let actions : List Action := [.call .broadCast, .call (.sendMessage ⟨1, "10.0.0.1", 10001⟩),
      .singleWorker ("10.0.0.1", 10001) 1, .broadcastWorker 1]
    ∃ s, run comm State.init actions = some s ∧
      (∀ P : Path, (writtenTo s ("10.0.0.1", 10001)).filter (fun p => p.path = P) <+:
        (addressedTo s ("10.0.0.1", 10001)).filter (fun p => p.path = P)) ∧
      (∀ x ∈ writtenTo s ("10.0.0.1", 10001), x ∈ addressedTo s ("10.0.0.1", 10001)) ∧
      (writtenTo s ("10.0.0.1", 10001)).Nodup := by
  intro comm actions
  exact ⟨_, rfl, long_connection_per_path_fifo comm (by decide) actions (by decide) rfl _⟩

end LongConnection

end ShardedPbft
