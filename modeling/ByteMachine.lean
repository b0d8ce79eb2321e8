import ByteMachine.CommandLine.Invocation
import ByteMachine.Console.Basic
import ByteMachine.Console.Stream
import ByteMachine.Device.Recorded
import ByteMachine.Image.Load
import ByteMachine.Machine.Snapshot
import ByteMachine.Monitor
import ByteMachine.Proofs.BoundedRuns
import ByteMachine.Proofs.Calls
import ByteMachine.Proofs.Comparison
import ByteMachine.Proofs.Console.Account
import ByteMachine.Proofs.Console.Decimal
import ByteMachine.Proofs.Console.Delivery
import ByteMachine.Proofs.Console.Output
import ByteMachine.Proofs.Console.Run
import ByteMachine.Proofs.Execution
import ByteMachine.Proofs.Faults
import ByteMachine.Proofs.Footprint
import ByteMachine.Proofs.ImageBytes
import ByteMachine.Proofs.LastWrites
import ByteMachine.Proofs.LineGrammar
import ByteMachine.Proofs.Loading
import ByteMachine.Proofs.LogSettings
import ByteMachine.Proofs.Observation
import ByteMachine.Proofs.Outcome
import ByteMachine.Proofs.Program
import ByteMachine.Proofs.Rendering
import ByteMachine.Proofs.Stack
import ByteMachine.Proofs.StackBounds
import ByteMachine.Proofs.Status
import ByteMachine.Proofs.TraceReading
import ByteMachine.Proofs.Tracing
import ByteMachine.System.Run
import ByteMachine.Text.Pattern.Read
import ByteMachine.Text.Pattern.Search
import ByteMachine.Text.Quoted
import ByteMachine.Text.Utf8
