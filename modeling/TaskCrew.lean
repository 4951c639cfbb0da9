import TaskCrew.Body
import TaskCrew.Config.Basic
import TaskCrew.Config.Document
import TaskCrew.Config.Environment
import TaskCrew.Config.Variables
import TaskCrew.Contention
import TaskCrew.Counters
import TaskCrew.Crew.Cost
import TaskCrew.Crew.Drive
import TaskCrew.Crew.History
import TaskCrew.Crew.Log
import TaskCrew.Crew.Notice
import TaskCrew.Crew.State
import TaskCrew.Crew.Step
import TaskCrew.Decimal.Basic
import TaskCrew.Decimal.Numeral
import TaskCrew.Decimal.Shortest
import TaskCrew.Environment.Basic
import TaskCrew.Environment.File
import TaskCrew.Executor.Basic
import TaskCrew.Executor.Builder
import TaskCrew.Executor.Pool
import TaskCrew.Executor.Run
import TaskCrew.Exit
import TaskCrew.Failure
import TaskCrew.Json.Fault
import TaskCrew.Json.Number
import TaskCrew.Json.Text
import TaskCrew.Json.Value
import TaskCrew.Ledger.Basic
import TaskCrew.Ledger.Session
import TaskCrew.Pattern.Basic
import TaskCrew.Pattern.Brackets
import TaskCrew.Pattern.CharSet
import TaskCrew.Pattern.Mode
import TaskCrew.Pattern.Reader
import TaskCrew.Report
import TaskCrew.RunError
import TaskCrew.Script
import TaskCrew.Signal.Basic
import TaskCrew.Signal.Session
import TaskCrew.Telemetry.Directive
import TaskCrew.Telemetry.Filter
import TaskCrew.Telemetry.Lines
import TaskCrew.Telemetry.Verbosity
import TaskCrew.Text.Alphanumeric
import TaskCrew.Text.Blank
import TaskCrew.Text.Class
import TaskCrew.Text.Digit
import TaskCrew.Text.Quoted
import TaskCrew.Text.Unprintable
import TaskCrew.Total
import TaskCrew.Proofs.Staffing
import TaskCrew.Proofs.Locking
import TaskCrew.Proofs.Conservation
import TaskCrew.Proofs.Termination
import TaskCrew.Proofs.Accounting
import TaskCrew.Proofs.Endings
import TaskCrew.Proofs.Limit
import TaskCrew.Proofs.Diligence
import TaskCrew.Proofs.Precedence
import TaskCrew.Proofs.Verdict
import TaskCrew.Proofs.Course
import TaskCrew.Proofs.Serial
import TaskCrew.Proofs.Overshoot
import TaskCrew.Proofs.Custody
import TaskCrew.Proofs.Exhaustion
import TaskCrew.Proofs.Cancellation
import TaskCrew.Proofs.Deaths
import TaskCrew.Proofs.Contention
import TaskCrew.Proofs.Calls
import TaskCrew.Proofs.Winner
import TaskCrew.Proofs.Supply
import TaskCrew.Proofs.Meeting
import TaskCrew.Proofs.Refusal
import TaskCrew.Proofs.Startup
import TaskCrew.Proofs.Visibility
import TaskCrew.Proofs.Waste
import TaskCrew.Proofs.Exactness
import TaskCrew.Proofs.Grammar
import TaskCrew.Proofs.Scalars
import TaskCrew.Proofs.Passing
import TaskCrew.Proofs.Spelling
import TaskCrew.Proofs.Settings
import TaskCrew.Proofs.Members
import TaskCrew.Proofs.Documents
import TaskCrew.Proofs.RoundTrip
import TaskCrew.Proofs.Lists
import TaskCrew.Proofs.Entries
import TaskCrew.Proofs.Numerals
import TaskCrew.Proofs.Variables
import TaskCrew.Proofs.Sources
import TaskCrew.Proofs.Lines
import TaskCrew.Proofs.Loading
import TaskCrew.Proofs.Building
