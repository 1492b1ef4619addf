import OzoPg.Lib.Positional
import OzoPg.Lib.Numeral
import OzoPg.Lib.Decoder
import OzoPg.Lib.Transition
import OzoPg.Lib.Except
import OzoPg.Lib.Peg
import OzoPg.Lib.Checked
import OzoPg.Lib.Share
import OzoPg.Lib.Growable
import OzoPg.Lib.Multimap
import OzoPg.Lib.Ownership
import OzoPg.Types.Basic
import OzoPg.Types.Chrono
import OzoPg.Types.Parts
import OzoPg.Types.Interval
import OzoPg.Types.TimePoint
import OzoPg.Error
import OzoPg.Errc
import OzoPg.Base36
import OzoPg.Sqlstate.Code
import OzoPg.Io.Stream
import OzoPg.Io.ByteOrder
import OzoPg.Io.Send
import OzoPg.Io.SizeLaw
import OzoPg.Io.BinaryQuery
import OzoPg.Io.BufferLayout
import OzoPg.Io.Recv
import OzoPg.Io.Result
import OzoPg.Io.RowBinding
import OzoPg.Io.Truncation
import OzoPg.Io.RoundTrip
import OzoPg.Io.Memory
import OzoPg.Io.Layout
import OzoPg.Io.ArrayContents
import OzoPg.Io.Chrono
import OzoPg.Io.Transport
import OzoPg.Io.FrameDiscipline
import OzoPg.Request.Model
import OzoPg.Sqlstate.Conditions
import OzoPg.Sqlstate.Message
import OzoPg.Request.Invariant
import OzoPg.Request.Completion
import OzoPg.Request.ServerErrors
import OzoPg.Request.Deadline
import OzoPg.Request.Finality
import OzoPg.Request.Draining
import OzoPg.Request.Ledger
import OzoPg.Request.Liveness
import OzoPg.Request.Expiry
import OzoPg.Cancel
import OzoPg.Connection
import OzoPg.Connect.OidMap
import OzoPg.Connect.Model
import OzoPg.Connect.Outcome
import OzoPg.Connect.Calls
import OzoPg.Connect.Liveness
import OzoPg.Connect.Pipeline
import OzoPg.Connect.FailedRequest
import OzoPg.Connect.Discovery
import OzoPg.ResourcePool.Storage
import OzoPg.ResourcePool.Model
import OzoPg.ResourcePool.Invariant
import OzoPg.ResourcePool.Handle
import OzoPg.ResourcePool.Service
import OzoPg.ResourcePool.Sync
import OzoPg.ResourcePool.Queue
import OzoPg.ResourcePool.Timed
import OzoPg.Pool.Model
import OzoPg.Pool.Reuse
import OzoPg.Pool.Stored
import OzoPg.Pool.OidMaps
import OzoPg.Pool.ErrorContexts
import OzoPg.Pool.Impl
import OzoPg.Pool.Refinement
import OzoPg.Descriptor.Model
import OzoPg.Descriptor.Effects
import OzoPg.Descriptor.Safety
import OzoPg.Failover.Strategy
import OzoPg.Failover.Retry
import OzoPg.Failover.RoleBased
import OzoPg.Failover.RetryRequest
import OzoPg.Failover.TimeBudget
import OzoPg.Request.TypeMismatch
import OzoPg.Request.Output
import OzoPg.Request.Delivery
import OzoPg.QueryBuilder
import OzoPg.QueryBuilder.Meaning
import OzoPg.Transaction
import OzoPg.QueryConf.Model
import OzoPg.QueryConf.Lines
import OzoPg.QueryConf.Elements
import OzoPg.QueryConf.Parse
import OzoPg.QueryConf.Description
import OzoPg.QueryConf.Repository
import OzoPg.QueryConf.Placeholders
