import Pipework.Text.Quoted
import Pipework.Text.CharSet
import Pipework.Json.Printer
import Pipework.Json.Reader
import Pipework.Value.Json
import Pipework.Pipe.Traffic
import Pipework.Line.CommandLine
import Pipework.Line.Count
import Pipework.Log.ProcessFilter
import Pipework.History
import Pipework.Job.Console
import Pipework.Pattern
import Pipework.Host
import Pipework.Timer.Waits
import Pipework.Command.Catalogue
import Pipework.Command.Programs
import Pipework.Main
import Pipework.Proofs.Job.Settling
import Pipework.Proofs.Pipe.Order
import Pipework.Proofs.Command.Functions
import Pipework.Proofs.Pipe.Link
import Pipework.Proofs.Pipe.Abandoned
import Pipework.Proofs.Pipe.Pressure
import Pipework.Proofs.Pipe.Handles
import Pipework.Proofs.Job.Signals
import Pipework.Proofs.Command.Mortal
import Pipework.Proofs.Job.Interrupted
import Pipework.Proofs.Session
import Pipework.Proofs.Command.Endless
import Pipework.Proofs.Job.Alike
import Pipework.Proofs.Session.Submitting
import Pipework.Proofs.Job.Calm
import Pipework.Proofs.Job.Validating
import Pipework.Proofs.Session.Drivers
import Pipework.Proofs.Session.Recording
import Pipework.Proofs.Command.Aliasing
import Pipework.Proofs.Session.Aliases
import Pipework.Proofs.History
import Pipework.Proofs.Job.Severing
import Pipework.Proofs.Job.Blaming
import Pipework.Proofs.Command.Tiring
import Pipework.Proofs.Command.Registering
import Pipework.Proofs.History.Saving
import Pipework.Proofs.Session.Pruning
import Pipework.Proofs.Session.Presses
import Pipework.Proofs.Pipe.Callbacks
import Pipework.Proofs.Job.Timekeeping
import Pipework.Proofs.Job.Cancelling
import Pipework.Proofs.Job.Phases
import Pipework.Proofs.Line.Spacing
import Pipework.Proofs.Log.Restarting
import Pipework.Proofs.Log.Leveling
import Pipework.Proofs.Command.FlagGroups
import Pipework.Proofs.Config.ReadBack
import Pipework.Proofs.Config.Frame
import Pipework.Proofs.Command.Recalling
import Pipework.Proofs.Command.Configuring
import Pipework.Proofs.Command.Sorting
import Pipework.Proofs.Command.Slicing
import Pipework.Proofs.Command.Matching
import Pipework.Proofs.Command.Messaging
