import GuardedSum.Action
import GuardedSum.Block
import GuardedSum.CommandLine.Arguments
import GuardedSum.CommandLine.Invocation
import GuardedSum.CommandLine.ProgramName
import GuardedSum.CommandLine.Usage
import GuardedSum.Completion
import GuardedSum.Completion.Registry
import GuardedSum.Console
import GuardedSum.Console.Script
import GuardedSum.Console.Sink
import GuardedSum.Console.Stdout
import GuardedSum.Error.Basic
import GuardedSum.Error.Chain
import GuardedSum.Error.Errno
import GuardedSum.Error.Kind
import GuardedSum.Guarded
import GuardedSum.Log.Directive
import GuardedSum.Log.Entry
import GuardedSum.Log.Filter
import GuardedSum.Log.Line
import GuardedSum.Log.Number
import GuardedSum.Main
import GuardedSum.Outcome
import GuardedSum.Pattern.Atom
import GuardedSum.Pattern.Basic
import GuardedSum.Pattern.Modes
import GuardedSum.Pattern.Set
import GuardedSum.Program.Options
import GuardedSum.Program.Run
import GuardedSum.Sum
import GuardedSum.Text.Alphabetic
import GuardedSum.Text.Alphanumeric
import GuardedSum.Text.Blank
import GuardedSum.Text.Bytes
import GuardedSum.Text.Control
import GuardedSum.Text.Inspect
import GuardedSum.Text.Quoted
import GuardedSum.Text.Runs
import GuardedSum.Text.Unprintable
import GuardedSum.Proofs.Block.Activation
import GuardedSum.Proofs.Block.Bracketing
import GuardedSum.Proofs.Block.Failures
import GuardedSum.Proofs.Block.Phase
import GuardedSum.Proofs.Block.Steps
import GuardedSum.Proofs.Block.Unwinding
import GuardedSum.Proofs.CommandLine.Spelling
import GuardedSum.Proofs.Completion.Ending
import GuardedSum.Proofs.Completion.Session
import GuardedSum.Proofs.Console.Asked
import GuardedSum.Proofs.Console.Echoed
import GuardedSum.Proofs.Console.Sink.Budget
import GuardedSum.Proofs.Console.Sink.Calls
import GuardedSum.Proofs.Console.Sink.Interruptions
import GuardedSum.Proofs.Console.Sink.Line
import GuardedSum.Proofs.Console.Sink.Lines
import GuardedSum.Proofs.Console.Sink.Room
import GuardedSum.Proofs.Console.Sink.Turns
import GuardedSum.Proofs.Console.Sink.Writing
import GuardedSum.Proofs.Error.Message
import GuardedSum.Proofs.Guarded.Recording
import GuardedSum.Proofs.Guarded.Returning
import GuardedSum.Proofs.Guarded.TryCatchFinally
import GuardedSum.Proofs.Program.Bytes
import GuardedSum.Proofs.Program.Calls
import GuardedSum.Proofs.Program.FullDisk
import GuardedSum.Proofs.Program.Inspection
import GuardedSum.Proofs.Program.Interruptions
import GuardedSum.Proofs.Program.Logged
import GuardedSum.Proofs.Program.Protocol
import GuardedSum.Proofs.Program.Replay
import GuardedSum.Proofs.Program.Result
import GuardedSum.Proofs.Program.Returning
import GuardedSum.Proofs.Program.Settings
import GuardedSum.Proofs.Program.Stdout
import GuardedSum.Proofs.Program.Transcript
import GuardedSum.Proofs.Program.Unprinted
import GuardedSum.Proofs.Sum.Running
import GuardedSum.Proofs.Text.Escaped
import GuardedSum.Proofs.Text.Shown
import GuardedSum.Proofs.Text.Visible
