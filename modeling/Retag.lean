import Retag.Main
import Retag.Proofs.Action.Perform
import Retag.Proofs.Text.Encoding
import Retag.Proofs.Text.Occurrence
import Retag.Proofs.Rule.Agreement
import Retag.Proofs.Document.Lines
import Retag.Proofs.FileSystem.View
import Retag.Proofs.FileSystem.Calls
import Retag.Proofs.FileSystem.Directories
import Retag.Proofs.FileSystem.Paths
import Retag.Proofs.FileSystem.LinkFree
import Retag.Proofs.Candidate.Names
import Retag.Proofs.Candidate.Selection
import Retag.Proofs.Conversion.Transfer
import Retag.Proofs.Conversion.Failures
import Retag.Proofs.Conversion.Effect
import Retag.Proofs.Conversion.Quiet
import Retag.Proofs.Batch.Protocol
import Retag.Proofs.Batch.Turns
import Retag.Proofs.Batch.Sources
import Retag.Proofs.Batch.Apart
import Retag.Proofs.Batch.EndToEnd
import Retag.Proofs.Document.Count
import Retag.Proofs.Document.Reread
import Retag.Proofs.Conversion.Reread
import Retag.Proofs.Conversion.LineCount
import Retag.Proofs.FileSystem.Reached
import Retag.Proofs.Conversion.Verdict
import Retag.Proofs.Batch.Order
import Retag.Proofs.FileSystem.Again
import Retag.Proofs.Candidate.Order
import Retag.Proofs.Batch.Again
import Retag.Proofs.Conversion.Preview
import Retag.Proofs.Batch.Records
import Retag.Proofs.Batch.Preview
import Retag.Proofs.Command.Printed
import Retag.Proofs.Command.Listing
import Retag.Proofs.Json.Grammar
import Retag.Proofs.Json.Unambiguity
import Retag.Proofs.Command.Stream
import Retag.Proofs.Toml.Keys
import Retag.Proofs.Settings.Fields
import Retag.Proofs.Settings.Layer
import Retag.Proofs.Settings.Precedence
import Retag.Proofs.Conversion.Atomicity
import Retag.Proofs.Conversion.Convertible
import Retag.Proofs.Candidate.Distinct
import Retag.Proofs.Text.Places
import Retag.Proofs.Rule.Hits
import Retag.Proofs.Rule.Independence
import Retag.Proofs.Conversion.Accounting
import Retag.Proofs.Candidate.Exact
import Retag.Proofs.Toml.Rest
import Retag.Proofs.Toml.Tables
import Retag.Proofs.Toml.Written
import Retag.Proofs.Document.Stretch
import Retag.Proofs.Settings.Plain
import Retag.Proofs.Settings.Unknown
import Retag.Proofs.Settings.Warnings
import Retag.Proofs.Text.Edits
import Retag.Proofs.Text.Distance
import Retag.Proofs.Settings.Suggestion
import Retag.Proofs.Candidate.Extension
import Retag.Proofs.Rule.Replacement
