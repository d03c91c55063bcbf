import ShardedPbft.Topology.SystemInfo
import ShardedPbft.Topology.ClusterView
import ShardedPbft.Topology.RoundRobin
import ShardedPbft.Topology.AddReplica
import ShardedPbft.Topology.Reshard
import ShardedPbft.Replica.Message
import ShardedPbft.Replica.MessageStore
import ShardedPbft.Replica.State
import ShardedPbft.Replica.Commitment
import ShardedPbft.Replica.Recovery
import ShardedPbft.Replica.InnerSends
import ShardedPbft.Replica.Response
import ShardedPbft.Replica.Rejection
import ShardedPbft.Replica.Proposal
import ShardedPbft.Replica.Levels
import ShardedPbft.Replica.Guard
import ShardedPbft.Replica.Interleaving
import ShardedPbft.Replica.PreparedSeq
import ShardedPbft.Transport.ReplicaCommunicator
import ShardedPbft.Transport.Forwarding
import ShardedPbft.Transport.LongConnection
import ShardedPbft.Transport.Drain
import ShardedPbft.Transport.Delivery
import ShardedPbft.Transport.Stranded
import ShardedPbft.Transport.Stall
import ShardedPbft.Transport.Numbering
import ShardedPbft.Transport.ForwardingBound
import ShardedPbft.Transport.Duplicates
import ShardedPbft.Transport.Certificates
import ShardedPbft.Transport.HighestPrepared
import ShardedPbft.Transport.Progress
