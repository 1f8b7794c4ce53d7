import VoodooI2C.Interaction.Basic
import VoodooI2C.Interaction.WP
import VoodooI2C.Interaction.Interrupt
import VoodooI2C.Segments
import VoodooI2C.Driver.Constants
import VoodooI2C.Driver.Basic
import VoodooI2C.Driver.Impl.Handler
import VoodooI2C.Driver.Impl.Transfer
import VoodooI2C.Hardware.Basic
import VoodooI2C.Driver.System
import VoodooI2C.Driver.Lemmas.WP
import VoodooI2C.Transfer.Basic
import VoodooI2C.Transfer.Lemmas
import VoodooI2C.Transfer.Invariant
import VoodooI2C.Transfer.Receive
import VoodooI2C.Transfer.Send
import VoodooI2C.Driver.Lemmas.Quiet
import VoodooI2C.Transfer.Handler
import VoodooI2C.Driver.Lemmas.Main
import VoodooI2C.Transfer.Caller
import VoodooI2C.Transfer.Run
import VoodooI2C.Transfer.Frame
import VoodooI2C.Transfer.Calls
import VoodooI2C.Transfer.Stream
import VoodooI2C.Hardware.Fifo
import VoodooI2C.Driver.Play
import VoodooI2C.Configuration.Basic
import VoodooI2C.Configuration.Transfer
import VoodooI2C.Configuration.Calls
import VoodooI2C.Interaction.Eval
import VoodooI2C.ResourcesParser.Basic
import VoodooI2C.ResourcesParser.Walk
import VoodooI2C.ResourcesParser.Template
import VoodooI2C.ResourcesParser.Reads
import VoodooI2C.ResourcesParser.Append
import VoodooI2C.Multitouch.Basic
import VoodooI2C.Multitouch.Dispatch
import VoodooI2C.Interaction.Threads
import VoodooI2C.Lifecycle.Basic
import VoodooI2C.Lifecycle.Lock
import VoodooI2C.Interaction.Interleave
import VoodooI2C.Power.Basic
import VoodooI2C.Power.Composition
import VoodooI2C.Power.Stop
import VoodooI2C.Handshake.Basic
import VoodooI2C.Handshake.Calls
import VoodooI2C.Handshake.Timeout
import VoodooI2C.Nub.Basic
import VoodooI2C.Nub.Address
import VoodooI2C.Transfer.Extend
import VoodooI2C.Restart.Basic
import VoodooI2C.Restart.Send
import VoodooI2C.Restart.Run
import VoodooI2C.Flow.Basic
import VoodooI2C.Flow.Handler
import VoodooI2C.Flow.Run
import VoodooI2C.Refusal.Basic
import VoodooI2C.Refusal.Handler
import VoodooI2C.Refusal.Run
import VoodooI2C.Completion.Wakeup
import VoodooI2C.Nub.Irq
import VoodooI2C.Power.Mapping
import VoodooI2C.BusConfig.Basic
import VoodooI2C.BusConfig.Timing
import VoodooI2C.Nub.Publish
import VoodooI2C.BusConfig.Source
import VoodooI2C.NativeEngine.Basic
import VoodooI2C.NativeEngine.Fill
import VoodooI2C.NativeEngine.Thumb
import VoodooI2C.NativeEngine.Stylus
import VoodooI2C.NativeEngine.Client
import VoodooI2C.Completion.Basic
import VoodooI2C.Completion.Handler
import VoodooI2C.Completion.Service
import VoodooI2C.Completion.Run
import VoodooI2C.Progress.Parts
import VoodooI2C.Progress.Service
import VoodooI2C.Progress.Run
import VoodooI2C.Interaction.Pair
import VoodooI2C.Isolation.Basic
import VoodooI2C.Isolation.WP
import VoodooI2C.Isolation.Twin
import VoodooI2C.Isolation.Handler
import VoodooI2C.Isolation.Run
import VoodooI2C.Isolation.Transfer
import VoodooI2C.Interaction.Locks
import VoodooI2C.Interaction.Trace
import VoodooI2C.Interaction.Serial
import VoodooI2C.Concurrency.Basic
import VoodooI2C.Concurrency.Threads
import VoodooI2C.Concurrency.Run
import VoodooI2C.Interaction.Projection
import VoodooI2C.Transaction.Basic
import VoodooI2C.Transaction.Commands
import VoodooI2C.Transaction.Target
import VoodooI2C.Transaction.Run
import VoodooI2C.Transaction.Link
import VoodooI2C.Transaction.Wire
import VoodooI2C.Transaction.Steady
import VoodooI2C.Refusal.Wakes
import VoodooI2C.Transaction.History
import VoodooI2C.Transaction.Levels
import VoodooI2C.Transaction.Nub
import VoodooI2C.Interaction.Recording
import VoodooI2C.Concurrency.Registration
import VoodooI2C.Lifecycle.Controller
import VoodooI2C.Lifecycle.Ledger
import VoodooI2C.Power.Unmapped
