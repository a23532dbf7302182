import PhpCompletion.Text.Basic
import PhpCompletion.Text.Blank
import PhpCompletion.Text.Alnum
import PhpCompletion.Json.Integer
import PhpCompletion.Text.Printable
import PhpCompletion.Text.Utf8
import PhpCompletion.Text.Template
import PhpCompletion.Binary64
import PhpCompletion.Decimal.Shortest
import PhpCompletion.Decimal.Layout
import PhpCompletion.Decimal.Nearest
import PhpCompletion.Json.Value
import PhpCompletion.Json.Reader
import PhpCompletion.Json.Writer
import PhpCompletion.Json.Display
import PhpCompletion.Fault
import PhpCompletion.Json.Key
import PhpCompletion.Candidate
import PhpCompletion.PrefixCache
import PhpCompletion.Envelope
import PhpCompletion.Settings
import PhpCompletion.Disk
import PhpCompletion.Client
import PhpCompletion.Program
import PhpCompletion.Background
import PhpCompletion.Service
import PhpCompletion.Manager
import PhpCompletion.Editor
import PhpCompletion.Main
import PhpCompletion.Proofs.Cache.Lookup
import PhpCompletion.Proofs.Cache.Narrowing
import PhpCompletion.Proofs.Cache.Frame
import PhpCompletion.Proofs.Client.Query
import PhpCompletion.Proofs.Manager.State
import PhpCompletion.Proofs.Manager.Steps
import PhpCompletion.Proofs.Manager.Run
import PhpCompletion.Proofs.Manager.Frame
import PhpCompletion.Proofs.Manager.Transparency
import PhpCompletion.Proofs.Manager.Isolation
import PhpCompletion.Proofs.Manager.Supersession
import PhpCompletion.Proofs.Manager.Delivery
import PhpCompletion.Proofs.Settings.Load
import PhpCompletion.Proofs.Manager.Cancellation
import PhpCompletion.Proofs.Manager.Entries
import PhpCompletion.Proofs.Manager.Overwrites
import PhpCompletion.Proofs.Binary64.Fields
import PhpCompletion.Proofs.Decimal.Nearest
import PhpCompletion.Proofs.Decimal.Shortest
import PhpCompletion.Proofs.Json.Numbers
import PhpCompletion.Proofs.Client.Background
import PhpCompletion.Proofs.Program.Exit
import PhpCompletion.Proofs.Envelope.Request
import PhpCompletion.Proofs.Manager.Foreground
import PhpCompletion.Proofs.Symbol.Longest
import PhpCompletion.Proofs.Settings.Normal
import PhpCompletion.Proofs.Decimal.Quotient
import PhpCompletion.Proofs.Client.Settings
import PhpCompletion.Proofs.Cli.Grammar
import PhpCompletion.Proofs.Client.Offset
import PhpCompletion.Proofs.Client.Items
import PhpCompletion.Proofs.Manager.Reports
import PhpCompletion.Proofs.Editor.Disabled
import PhpCompletion.Proofs.Cache.Scan
