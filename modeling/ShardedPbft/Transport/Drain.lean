import ShardedPbft.Transport.LongConnection

/-!
# Draining the long-connection queues

`long_connection_per_path_fifo` bounds what the threads have written to an endpoint: per path, a
prefix of what was addressed there. This file gives the other half. Whatever the caller has
issued, the threads alone can write all of it. The broadcast thread pops its whole queue
(`drain_broadcast`), then each endpoint's thread pops its own (`drain_one`, `drain_singles`).
After that schedule no queue holds anything, and every endpoint has been written exactly the
payloads addressed to it, each once and, per path, in issue order (`long_connection_drain`). So a
payload that a call has queued is lost only if a thread stops.

`ReplicaCommunicator.transmit`, which the forwarding and delivery results use, says where one send
of a handler ends up, with no queue and no thread. `long_connection_refines_transmit` connects
the two models: with long connections, once the threads have drained the queues after the calls
of a list of sends, every endpoint has been written exactly the messages that `transmit` sends to
a replica there.
-/

namespace ShardedPbft

namespace LongConnection

/-- A step of a thread, as opposed to a call of the caller's thread. -/
def Action.isWorker : Action → Bool
  | .call _ => false
  | _ => true

variable {comm : ReplicaCommunicator}

/-- A worker's step names no endpoint the communicator does not know. -/
theorem Action.namesKnown_of_isWorker {a : Action} (h : a.isWorker = true) :
    a.namesKnown comm = true := by
  cases a <;> simp_all [Action.isWorker, Action.namesKnown]

/-- Two lists of steps run one after the other. -/
theorem run_append (s : State) (as bs : List Action) :
    run comm s (as ++ bs) = (run comm s as).bind fun s' => run comm s' bs := by
  induction as generalizing s with
  | nil => rfl
  | cons a as ih => rw [List.cons_append, run, run, Option.bind_assoc]; simp only [ih]

/-! ## Each thread empties its queue -/

/-- The broadcast thread pops its whole queue and writes it to every replica. -/
theorem drain_broadcast (comm : ReplicaCommunicator) (s : State) :
    ∃ as s', (∀ a ∈ as, a.isWorker) ∧ run comm s as = some s' ∧ s'.broadcastQueue = [] ∧
      s'.singleBq = s.singleBq ∧ s'.issued = s.issued ∧ s.written <+: s'.written := by
  by_cases hnil : s.broadcastQueue = []
  · exact ⟨[], s, by simp, rfl, hnil, rfl, rfl, List.prefix_refl _⟩
  refine ⟨[.broadcastWorker s.broadcastQueue.length], ⟨[], s.singleBq,
    s.written ++ poolWrites comm.replicas s.broadcastQueue, s.issued⟩, by simp [Action.isWorker],
    ?_, rfl, rfl, rfl, List.prefix_append _ _⟩
  simp [run, step, List.length_pos.mpr hnil]

/-- The thread of `e` pops its whole queue and writes it to its replica; no other queue changes. -/
theorem drain_one (comm : ReplicaCommunicator) (e : String × UInt16) (s : State) :
    ∃ as s', (∀ a ∈ as, a.isWorker) ∧ run comm s as = some s' ∧
      s'.broadcastQueue = s.broadcastQueue ∧ s'.issued = s.issued ∧ s.written <+: s'.written ∧
      ∀ e', s'.queueOf e' = if e' = e then [] else s.queueOf e' := by
  by_cases hnil : s.queueOf e = []
  · exact ⟨[], s, by simp, rfl, rfl, rfl, List.prefix_refl _,
      fun e' => by split_ifs with h <;> simp [h, hnil]⟩
  obtain ⟨target, queue, hq⟩ : ∃ target queue, s.singleBq e = some (target, queue) := by
    cases h : s.singleBq e with
    | none => simp [State.queueOf, h] at hnil
    | some tq => exact ⟨tq.1, tq.2, rfl⟩
  have hlen : 0 < queue.length := List.length_pos.mpr (by simpa [State.queueOf, hq] using hnil)
  refine ⟨[.singleWorker e queue.length], ⟨s.broadcastQueue,
    Function.update s.singleBq e (some (target, [])), s.written ++ poolWrites [target] queue,
    s.issued⟩, by simp [Action.isWorker], ?_, rfl, rfl, List.prefix_append _ _, fun e' => ?_⟩
  · simp [run, step, hq, hlen]
  · by_cases h : e' = e
    · subst h; simp [State.queueOf]
    · simp [State.queueOf, h, Function.update_noteq h]

/-- The threads of the endpoints of `L` pop their whole queues, one after another; every other
queue stays. -/
theorem drain_singles (comm : ReplicaCommunicator) (L : List (String × UInt16)) (s : State) :
    ∃ as s', (∀ a ∈ as, a.isWorker) ∧ run comm s as = some s' ∧
      s'.broadcastQueue = s.broadcastQueue ∧ s'.issued = s.issued ∧ s.written <+: s'.written ∧
      ∀ e, s'.queueOf e = if e ∈ L then [] else s.queueOf e := by
  induction L generalizing s with
  | nil => exact ⟨[], s, by simp, rfl, rfl, rfl, List.prefix_refl _, fun e => by simp⟩
  | cons e L ih =>
    obtain ⟨as₁, s₁, hw₁, hrun₁, hb₁, hi₁, hwr₁, hq₁⟩ := drain_one comm e s
    obtain ⟨as₂, s₂, hw₂, hrun₂, hb₂, hi₂, hwr₂, hq₂⟩ := ih s₁
    refine ⟨as₁ ++ as₂, s₂, fun a ha => ?_, by rw [run_append, hrun₁]; exact hrun₂,
      hb₂.trans hb₁, hi₂.trans hi₁, hwr₁.trans hwr₂, fun e' => ?_⟩
    · rcases List.mem_append.mp ha with ha | ha
      · exact hw₁ a ha
      · exact hw₂ a ha
    · rw [hq₂, hq₁]
      by_cases h : e' = e <;> by_cases hL : e' ∈ L <;> simp [h, hL]

/-! ## Nothing is lost -/

variable {s : State}

/-- A payload queued for an endpoint was addressed to it, so the endpoint is among those that an
issued payload names. -/
theorem Inv.mem_issued_of_queueOf (hi : Inv comm s) {d : String × UInt16} {p : Payload}
    (hp : p ∈ s.queueOf d) : d ∈ s.issued.flatMap (·.2) := by
  have hmem : p ∈ (addressedTo s d).filter (fun p => p.path = .single) :=
    hi.fifo d .single ▸ List.mem_append_right _ hp
  obtain ⟨x, hx, -⟩ := List.mem_map.mp (List.mem_filter.mp hmem).1
  obtain ⟨hx, hd⟩ := List.mem_filter.mp hx
  exact List.mem_flatMap.mpr ⟨x, hx, of_decide_eq_true hd⟩

/-- The threads alone empty every queue: the broadcast thread first, then the thread of every
endpoint that an issued payload names. Nothing more is addressed, and what was written stays. -/
theorem Inv.drain (hendpoints : (comm.replicas.map (·.endpoint)).Nodup) (hi : Inv comm s) :
    ∃ workers s', (∀ a ∈ workers, a.isWorker) ∧ run comm s workers = some s' ∧ Inv comm s' ∧
      s'.issued = s.issued ∧ s.written <+: s'.written ∧ ∀ d P, pending comm s' d P = [] := by
  obtain ⟨as₁, s₁, hw₁, hrun₁, hb₁, -, his₁, hwr₁⟩ := drain_broadcast comm s
  obtain ⟨as₂, s₂, hw₂, hrun₂, hb₂, his₂, hwr₂, hq₂⟩ :=
    drain_singles comm (s₁.issued.flatMap (·.2)) s₁
  have hi₁ := Inv.of_run hendpoints as₁ hi
    (fun a ha => Action.namesKnown_of_isWorker (hw₁ a ha)) hrun₁
  refine ⟨as₁ ++ as₂, s₂, fun a ha => ?_, by rw [run_append, hrun₁]; exact hrun₂,
    Inv.of_run hendpoints as₂ hi₁ (fun a ha => Action.namesKnown_of_isWorker (hw₂ a ha)) hrun₂,
    his₂.trans his₁, hwr₁.trans hwr₂, fun d P => ?_⟩
  · rcases List.mem_append.mp ha with ha | ha
    · exact hw₁ a ha
    · exact hw₂ a ha
  · cases P with
    | broadcast => simp [pending, hb₂, hb₁]
    | single =>
      -- a non-empty queue names an issued endpoint, and all of those were drained
      rw [pending, hq₂]
      split_ifs with hd
      · rfl
      · exact List.eq_nil_iff_forall_not_mem.mpr fun p hp => hd (hi₁.mem_issued_of_queueOf hp)
    | batch => rfl

/-- With nothing pending, each path has written to an endpoint exactly what it addressed there. -/
theorem Inv.filter_eq_of_drained (hi : Inv comm s) (hpend : ∀ d P, pending comm s d P = [])
    (d : String × UInt16) (P : Path) :
    (writtenTo s d).filter (fun p => p.path = P) = (addressedTo s d).filter (fun p => p.path = P) :=
  by rw [← hi.fifo d P, hpend, List.append_nil]

/-- With nothing pending, an endpoint has been written each payload addressed to it, once. -/
theorem Inv.perm_of_drained (hi : Inv comm s) (hpend : ∀ d P, pending comm s d P = [])
    (d : String × UInt16) : (writtenTo s d).Perm (addressedTo s d) :=
  List.perm_iff_count.mpr fun x =>
    calc (writtenTo s d).count x
        = ((writtenTo s d).filter (fun p => p.path = x.path)).count x :=
          (List.count_filter (by simp)).symm
      _ = ((addressedTo s d).filter (fun p => p.path = x.path)).count x := by
          rw [hi.filter_eq_of_drained hpend]
      _ = (addressedTo s d).count x := List.count_filter (by simp)

/-- **Nothing queued is lost on long connections.** When the endpoints of `replicas_` are
distinct and every `SendMessage(message, replica_info)` of a run names an endpoint that
`replicas_` or the clients list, then from the state the run reaches, a schedule of the threads
alone (no further call) leads to a state where: nothing more is addressed, what was written
before is still written, and at every endpoint the payloads each path has written are exactly
those it addressed there, in issue order; so every payload addressed to an endpoint has been
written to it exactly once. -/
theorem long_connection_drain (comm : ReplicaCommunicator)
    (hendpoints : (comm.replicas.map (·.endpoint)).Nodup) (actions : List Action)
    (hknown : ∀ a ∈ actions, a.namesKnown comm = true)
    (hrun : run comm State.init actions = some s) :
    ∃ workers s', (∀ a ∈ workers, a.isWorker) ∧ run comm s workers = some s' ∧
      ∀ d, addressedTo s' d = addressedTo s d ∧ writtenTo s d <+: writtenTo s' d ∧
        (∀ P : Path, (writtenTo s' d).filter (fun p => p.path = P) =
          (addressedTo s d).filter (fun p => p.path = P)) ∧
        (writtenTo s' d).Perm (addressedTo s d) := by
  obtain ⟨workers, s', hw, hrun', hi', his, hwr, hpend⟩ :=
    (Inv.of_run hendpoints actions (inv_init comm) hknown hrun).drain hendpoints
  have haddr : ∀ d, addressedTo s' d = addressedTo s d := fun d => by
    rw [addressedTo, addressedTo, his]
  refine ⟨workers, s', hw, hrun', fun d => ⟨haddr d, ?_,
    fun P => haddr d ▸ hi'.filter_eq_of_drained hpend d P, haddr d ▸ hi'.perm_of_drained hpend d⟩⟩
  obtain ⟨w, hw⟩ := hwr
  rw [writtenTo, writtenTo, ← hw, sentTo_append]
  exact List.prefix_append _ _

/-- One broadcast and one unicast to replica `2`, of which the broadcast thread has written the
first: the hypotheses hold, and the threads can write the rest. -/
theorem long_connection_drain_two_calls :
    let comm : ReplicaCommunicator := ⟨[⟨1, "10.0.0.1", 10001⟩, ⟨2, "10.0.0.2", 10002⟩], [], true⟩
    let actions : List Action :=
      [.call .broadCast, .call (.sendMessage ⟨2, "10.0.0.2", 10002⟩), .broadcastWorker 1]
    ∃ s, run comm State.init actions = some s ∧ (comm.replicas.map (·.endpoint)).Nodup ∧
      (∀ a ∈ actions, a.namesKnown comm = true) ∧
      ∃ workers s', (∀ a ∈ workers, a.isWorker) ∧ run comm s workers = some s' ∧
        ∀ d, addressedTo s' d = addressedTo s d ∧ writtenTo s d <+: writtenTo s' d ∧
          (∀ P : Path, (writtenTo s' d).filter (fun p => p.path = P) =
            (addressedTo s d).filter (fun p => p.path = P)) ∧
          (writtenTo s' d).Perm (addressedTo s d) := by
  intro comm actions
  exact ⟨_, rfl, by decide, by decide, long_connection_drain comm (by decide) actions (by decide) rfl⟩

/-! ## The queues deliver what `transmit` says

`ReplicaCommunicator.transmit` says where one send of a handler ends up, with no queue and no
thread. The queue model refines it: with long connections, once the threads have drained the
queues, every endpoint has been written exactly the messages that `transmit` sends there. -/

/-- The call of the caller's thread that a handler's send makes. A response goes to the client
through `MessageManager::SendResponse`, not through this communicator. -/
def callOfSend : Send → Option Call
  | .toNode _ nodeId => some (.sendMessageToNode nodeId)
  | .broadCast _ => some .broadCast
  | .response _ => none

/-- The calls of a list of sends, made one after another. -/
def sendCalls (sent : List Send) : List Action := sent.filterMap fun x => (callOfSend x).map .call

/-- Whether a send issues a payload: a broadcast always does, and a send to a node id does when
the lookup finds an entry with an ip (lines 466-493). -/
def issuesPayload (comm : ReplicaCommunicator) : Send → Bool
  | .toNode _ nodeId => !(comm.lookup (·.id == nodeId)).ip.isEmpty
  | .broadCast _ => true
  | .response _ => false

/-- The path a send's payload takes. -/
def pathOfSend : Send → Path
  | .broadCast _ => .broadcast
  | _ => .single

/-- The issued entry of the payload numbered `ix.1`, made by the send `ix.2`: it is addressed to
the endpoints of the replicas `transmit` sends it to. -/
def issuedEntry (comm : ReplicaCommunicator) (ix : Nat × Send) : Payload × List (String × UInt16) :=
  (⟨ix.1, pathOfSend ix.2⟩, (comm.transmit ix.2).map (·.endpoint))

/-- A send that issues no payload reaches no replica. -/
theorem transmit_eq_nil_of_not_issues {x : Send} (h : issuesPayload comm x = false) :
    comm.transmit x = [] := by
  cases x with
  | toNode m n =>
    have hip : (comm.lookup (·.id == n)).ip.isEmpty = true := by simpa [issuesPayload] using h
    simp only [ReplicaCommunicator.transmit, ReplicaCommunicator.sendMessageToNode, hip, if_true]
  | broadCast m => cases h
  | response m => rfl

/-- A list of replicas with distinct endpoints has at most one at `d`: one copy of `m` per
replica at `d` is one copy when `d` is among the endpoints, and none otherwise. -/
theorem map_filter_endpoint {l : List ReplicaInfo} (hl : (l.map (·.endpoint)).Nodup)
    (d : String × UInt16) (m : Request) :
    (l.filter (·.endpoint == d)).map (fun _ => m) = if d ∈ l.map (·.endpoint) then [m] else [] := by
  induction l with
  | nil => simp
  | cons ri l ih =>
    rw [List.map_cons, List.nodup_cons] at hl
    by_cases hd : ri.endpoint = d
    · subst hd
      have hnil : l.filter (·.endpoint == ri.endpoint) = [] :=
        List.filter_eq_nil_iff.mpr fun x hx he => hl.1 (List.mem_map.mpr ⟨x, hx, by simpa using he⟩)
      simp [List.filter_cons, hnil]
    · simp [List.filter_cons, hd, ih hl.2, Ne.symm hd]

section Refinement

variable (hlong : comm.isUseLongConn = true)
include hlong

/-- One send, issued with long connections: the payload it issues, if any, is addressed to the
endpoints of the replicas `transmit` gives. -/
theorem issue_callOfSend (s : State) {x : Send} {c : Call} (hc : callOfSend x = some c) :
    (issue comm s c).issued =
      s.issued ++ if issuesPayload comm x then [issuedEntry comm (s.issued.length, x)] else [] := by
  cases x with
  | toNode m n =>
    cases hc
    by_cases hip : (comm.lookup (·.id == n)).ip.isEmpty = true
    · simp [issue, issuesPayload, hip]
    · have hknown := ReplicaCommunicator.lookup_known (by simpa using hip)
      simp [issue, issuesPayload, hip, sendSingleMessage, issuedEntry, pathOfSend,
        ReplicaCommunicator.transmit, ReplicaCommunicator.sendMessageToNode,
        ReplicaCommunicator.sendMessageTo, ReplicaCommunicator.sendSingleMessage_long hlong,
        ReplicaCommunicator.workerTarget_endpoint hknown]
  | broadCast m =>
    cases hc
    simp [issue, issuesPayload, issuedEntry, pathOfSend, ReplicaCommunicator.transmit,
      ReplicaCommunicator.broadCast]
  | response m => cases hc

/-- The calls of a list of sends issue, in order, one entry per send that issues a payload. -/
theorem run_sendCalls (sent : List Send) (s : State) :
    ∃ s', run comm s (sendCalls sent) = some s' ∧ s'.issued =
      s.issued ++ ((sent.filter (issuesPayload comm)).enumFrom s.issued.length).map
        (issuedEntry comm) := by
  induction sent generalizing s with
  | nil => exact ⟨s, rfl, by simp⟩
  | cons x xs ih =>
    cases hc : callOfSend x with
    | none =>
      have hx : issuesPayload comm x = false := by cases x <;> simp_all [callOfSend, issuesPayload]
      obtain ⟨s', hrun, his⟩ := ih s
      exact ⟨s', by simpa [sendCalls, hc] using hrun, by simp [hx, his]⟩
    | some c =>
      obtain ⟨s', hrun, his⟩ := ih (issue comm s c)
      refine ⟨s', by simpa [sendCalls, hc, run, step] using hrun, ?_⟩
      rw [his, issue_callOfSend hlong s hc]
      by_cases hx : issuesPayload comm x = true <;> simp [hx, List.filter_cons, List.enumFrom]

/-- The replicas `transmit` gives for one send have distinct endpoints. -/
theorem transmit_endpoints_nodup (hendpoints : (comm.replicas.map (·.endpoint)).Nodup)
    (x : Send) : ((comm.transmit x).map (·.endpoint)).Nodup := by
  cases x with
  | toNode m n =>
    simp only [ReplicaCommunicator.transmit, ReplicaCommunicator.sendMessageToNode,
      ReplicaCommunicator.sendMessageTo, ReplicaCommunicator.sendSingleMessage_long hlong]
    split_ifs <;> simp
  | broadCast m => exact hendpoints
  | response m => exact List.nodup_nil

/-- The messages `transmit` sends to a replica at `d`, one per send and replica, are those of the
sends that issue a payload addressed to `d`. -/
theorem flatMap_transmit_filter (hendpoints : (comm.replicas.map (·.endpoint)).Nodup)
    (sent : List Send) (d : String × UInt16) :
    sent.flatMap (fun x => ((comm.transmit x).filter (·.endpoint == d)).map fun _ => x.message) =
      ((sent.filter (issuesPayload comm)).filter
        fun x => d ∈ (comm.transmit x).map (·.endpoint)).map (·.message) := by
  induction sent with
  | nil => rfl
  | cons x xs ih =>
    rw [List.flatMap_cons, ih, map_filter_endpoint (transmit_endpoints_nodup hlong hendpoints x)]
    by_cases hx : issuesPayload comm x = true
    · rw [List.filter_cons_of_pos hx]
      by_cases hd : d ∈ (comm.transmit x).map (·.endpoint)
      · rw [if_pos hd, List.filter_cons_of_pos (by simpa using hd)]
        rfl
      · rw [if_neg hd, List.filter_cons_of_neg (by simpa using hd)]
        rfl
    · rw [List.filter_cons_of_neg hx, transmit_eq_nil_of_not_issues (by simpa using hx)]
      rfl

end Refinement

/-- **The long-connection queues deliver what `transmit` says.** With long connections and
distinct replica endpoints, let the caller make the calls of a list of handler sends. Then a
schedule of the threads alone brings the communicator to a state where every endpoint `d` has
been written, as a multiset, exactly the messages that `transmit` sends to a replica at `d`: one
copy per send and replica. A written payload is read back as the message of the send that issued
it, the payloads being numbered in issue order. -/
theorem long_connection_refines_transmit (comm : ReplicaCommunicator)
    (hlong : comm.isUseLongConn = true) (hendpoints : (comm.replicas.map (·.endpoint)).Nodup)
    (sent : List Send) :
    ∃ s, run comm State.init (sendCalls sent) = some s ∧
      ∃ workers s', (∀ a ∈ workers, a.isWorker) ∧ run comm s workers = some s' ∧
        ∀ d, ((writtenTo s' d).filterMap
            fun p => ((sent.filter (issuesPayload comm))[p.id]?).map (·.message)).Perm
          (sent.flatMap fun x => ((comm.transmit x).filter (·.endpoint == d)).map fun _ => x.message) := by
  obtain ⟨s, hrun, his⟩ := run_sendCalls hlong sent State.init
  have hknown : ∀ a ∈ sendCalls sent, a.namesKnown comm = true := fun a ha => by
    obtain ⟨x, -, hx⟩ := List.mem_filterMap.mp ha
    cases x <;> cases hx <;> rfl
  obtain ⟨workers, s', hw, hrun', hi', his', -, hpend⟩ :=
    (Inv.of_run hendpoints _ (inv_init comm) hknown hrun).drain hendpoints
  refine ⟨s, hrun, workers, s', hw, hrun', fun d => ?_⟩
  set L := sent.filter (issuesPayload comm)
  have hissued : s'.issued = L.enum.map (issuedEntry comm) := his'.trans (his.trans rfl)
  have hmsg : ∀ ix ∈ L.enum, (L[ix.1]?).map (·.message) = some ix.2.message := fun ix hix => by
    rw [List.mem_enum_iff_getElem?.mp hix, Option.map_some']
  -- the messages addressed to `d`, read through the payload numbers
  have haddr : (addressedTo s' d).filterMap (fun p => (L[p.id]?).map (·.message)) =
      (L.filter fun x => d ∈ (comm.transmit x).map (·.endpoint)).map (·.message) := by
    rw [addressedTo, hissued, addressed, List.filter_map, List.map_map, List.filterMap_map]
    simp only [Function.comp_def, issuedEntry]
    rw [List.filterMap_congr fun ix hix => hmsg ix (List.mem_of_mem_filter hix)]
    conv_rhs => rw [← List.enum_map_snd L, List.filter_map, List.map_map]
    exact congrFun (List.filterMap_eq_map _) _
  rw [flatMap_transmit_filter hlong hendpoints, ← haddr]
  exact (hi'.perm_of_drained hpend d).filterMap _

/-- One broadcast, a send to replica `2` and a response, over two replicas: the response issues
nothing, and the two messages reach the endpoints `transmit` gives. -/
theorem long_connection_refines_transmit_two_replicas :
    let comm : ReplicaCommunicator := ⟨[⟨1, "10.0.0.1", 10001⟩, ⟨2, "10.0.0.2", 10002⟩], [], true⟩
    let sent : List Send := [.broadCast { (default : Request) with hash := "b" },
      .toNode { (default : Request) with hash := "u" } 2, .response default]
    comm.isUseLongConn = true ∧ (comm.replicas.map (·.endpoint)).Nodup ∧
      ∃ s, run comm State.init (sendCalls sent) = some s ∧
        ∃ workers s', (∀ a ∈ workers, a.isWorker) ∧ run comm s workers = some s' ∧
          ∀ d, ((writtenTo s' d).filterMap
              fun p => ((sent.filter (issuesPayload comm))[p.id]?).map (·.message)).Perm
            (sent.flatMap fun x =>
              ((comm.transmit x).filter (·.endpoint == d)).map fun _ => x.message) := by
  intro comm sent
  exact ⟨rfl, by decide, long_connection_refines_transmit comm rfl (by decide) sent⟩

end LongConnection

end ShardedPbft
