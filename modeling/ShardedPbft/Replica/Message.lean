import ShardedPbft.Topology.SystemInfo

/-!
# Consensus messages and what a handler sends

The four entry points of `Commitment` (platform/consensus/ordering/pbft/commitment.cpp) read and
write the `Request` protobuf record and hand messages to the `ReplicaCommunicator` and to
`MessageManager::SendResponse`. Neither the protobuf declarations nor `resdb::NewRequest` are in
the repository; they are modelled from §3 of the spec and from the way the handlers use them.

A signature is a string here, and a cleared signature (`Clear()`) is the empty string. The
`Context` a handler receives is `none` for a null pointer and `some signature` otherwise.
-/

namespace ShardedPbft

/-- Modelled from the spec: the request types of §3, `TYPE_NEW_REQUEST`, `TYPE_PRE_PREPARE`,
`TYPE_PREPARE`, `TYPE_COMMIT` and `TYPE_RESPONSE`. The first is the protobuf default. -/
inductive RequestType
  | newRequest
  | prePrepare
  | prepare
  | commit
  | response
  deriving DecidableEq, Repr, Inhabited

/-- Modelled from the spec: the `Request` record of §3 with the fields the handlers read or set:
`type`, `seq`, `current_view`, `sender_id`, `primary_id`, `proxy_id`, `hash`, `data`,
`data_signature`, `is_recovery` and `ret`. The default value is the empty protobuf message. -/
structure Request where
  type : RequestType
  seq : UInt64
  currentView : UInt64
  senderId : UInt32
  primaryId : UInt32
  proxyId : UInt32
  hash : String
  data : String
  dataSignature : String
  isRecovery : Bool
  ret : Int
  deriving DecidableEq, Repr, Inhabited

/-- Modelled from the spec: `resdb::NewRequest(type, request, sender_id)`, which is not in the
repository, read as the handlers use it: a copy of `request` with a new type and sender. -/
def newRequest (type : RequestType) (request : Request) (senderId : UInt32) : Request :=
  { request with type := type, senderId := senderId }

@[simp] theorem newRequest_type (t : RequestType) (r : Request) (n : UInt32) :
    (newRequest t r n).type = t := rfl

@[simp] theorem newRequest_senderId (t : RequestType) (r : Request) (n : UInt32) :
    (newRequest t r n).senderId = n := rfl

@[simp] theorem newRequest_seq (t : RequestType) (r : Request) (n : UInt32) :
    (newRequest t r n).seq = r.seq := rfl

@[simp] theorem newRequest_hash (t : RequestType) (r : Request) (n : UInt32) :
    (newRequest t r n).hash = r.hash := rfl

@[simp] theorem newRequest_data (t : RequestType) (r : Request) (n : UInt32) :
    (newRequest t r n).data = r.data := rfl

@[simp] theorem newRequest_dataSignature (t : RequestType) (r : Request) (n : UInt32) :
    (newRequest t r n).dataSignature = r.dataSignature := rfl

/-- `context == nullptr || context->signature.signature().empty()`: the test every handler makes
before it trusts a message. -/
def unsigned : Option String → Bool
  | none => true
  | some signature => signature.isEmpty

/-- One message a handler hands on, in the order of the calls: `SendMessage(message, node_id)`
of the `ReplicaCommunicator`, its `BroadCast(message)`, or `MessageManager::SendResponse`. -/
inductive Send
  | toNode (message : Request) (nodeId : UInt32)
  | broadCast (message : Request)
  | response (message : Request)
  deriving DecidableEq, Repr

/-- The message a send carries. -/
def Send.message : Send → Request
  | .toNode m _ => m
  | .broadCast m => m
  | .response m => m

@[simp] theorem Send.message_toNode (m : Request) (n : UInt32) : (Send.toNode m n).message = m := rfl

@[simp] theorem Send.message_broadCast (m : Request) : (Send.broadCast m).message = m := rfl

end ShardedPbft
