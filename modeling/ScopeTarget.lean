import ScopeTarget.Base.Fifo
import ScopeTarget.Base.Run
import ScopeTarget.Core.ScopeTypes
import ScopeTarget.Core.Channel
import ScopeTarget.Core.Timestamper
import ScopeTarget.Core.Trigger
import ScopeTarget.Core.Scope
import ScopeTarget.Control.CommandPackData
import ScopeTarget.Control.Commands
import ScopeTarget.Control.Controller
import ScopeTarget.Control.ChannelLists
import ScopeTarget.Core.Operations
import ScopeTarget.Core.Invariants
import ScopeTarget.Core.Alignment
import ScopeTarget.Core.CleanUp
import ScopeTarget.Core.StoppedChannels
import ScopeTarget.Core.HostView
import ScopeTarget.Communication.FramedIORx
import ScopeTarget.Communication.ByteMachine
import ScopeTarget.Communication.Frame
import ScopeTarget.Communication.Observer
import ScopeTarget.Communication.Streaming
import ScopeTarget.Communication.Recovery
import ScopeTarget.Base.Outbox
import ScopeTarget.Communication.FramedIOTx
import ScopeTarget.Communication.TxOutbox
import ScopeTarget.Communication.Wire
import ScopeTarget.Control.EventQueue
import ScopeTarget.Serialisation.Serializer
import ScopeTarget.Builders.SendingStack
import ScopeTarget.Serialisation.NanopbUnpacker
import ScopeTarget.Builders.ScopeThreadRunner
import ScopeTarget.Builders.HandledCommands
import ScopeTarget.Base.Protobuf
import ScopeTarget.Serialisation.NanopbPacker
import ScopeTarget.Builders.HostReply
import ScopeTarget.Communication.RoundTrip
import ScopeTarget.Core.Coherence
import ScopeTarget.Core.SwapSide
import ScopeTarget.Control.DataPacking
import ScopeTarget.Control.UnsentSets
import ScopeTarget.Control.DataMessages
import ScopeTarget.Control.TriggerRecord
import ScopeTarget.Core.Continuous
import ScopeTarget.Builders.InputBuffer
import ScopeTarget.Base.DoWhile
import ScopeTarget.Communication.PutLoop
import ScopeTarget.Communication.Reception
import ScopeTarget.Communication.Transmission
import ScopeTarget.Base.CountedArray
import ScopeTarget.Serialisation.ListWrites
import ScopeTarget.Base.Signal
import ScopeTarget.Base.WrappingClock
import ScopeTarget.Core.Clock
import ScopeTarget.Core.EdgeTrigger
import ScopeTarget.Base.CString
import ScopeTarget.Serialisation.Announcement
import ScopeTarget.Serialisation.LogMessage
import ScopeTarget.Serialisation.TransmitBuffer
import ScopeTarget.Control.AnnounceStorage
import ScopeTarget.Control.CommandPackAnnounce
import ScopeTarget.Control.CommandPackLog
import ScopeTarget.Core.Lockstep
import ScopeTarget.Builders.AnnouncedAddresses
import ScopeTarget.Builders.LogStream
import ScopeTarget.Builders.ReceiveBuffer
import ScopeTarget.Base.Refinement
import ScopeTarget.Base.Progress
import ScopeTarget.Base.Mutex
import ScopeTarget.Builders.Target
import ScopeTarget.Builders.TargetData
import ScopeTarget.Builders.Threads
import ScopeTarget.Builders.Interleavings
import ScopeTarget.Builders.HostRequests
import ScopeTarget.Builders.Remote
import ScopeTarget.Control.SentSets
import ScopeTarget.Builders.DataStream
import ScopeTarget.Control.StampOrder
import ScopeTarget.Control.OneShot
import ScopeTarget.Builders.PolledAddresses
import ScopeTarget.Builders.Runners
import ScopeTarget.Builders.Draining
import ScopeTarget.Builders.Exchange
import ScopeTarget.Control.AnnouncedPlaces
import ScopeTarget.Builders.ScopeFramedStack
import ScopeTarget.Builders.Reports
import ScopeTarget.Control.SentRows
import ScopeTarget.Builders.ArrivedRows
