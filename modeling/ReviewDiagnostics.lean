import ReviewDiagnostics.Text.Blank
import ReviewDiagnostics.Text.DecimalDigit
import ReviewDiagnostics.Text.UpperCase
import ReviewDiagnostics.Text.Utf8
import ReviewDiagnostics.Number.Decimal
import ReviewDiagnostics.Document.Printer
import ReviewDiagnostics.Fault
import ReviewDiagnostics.Document.Comments
import ReviewDiagnostics.Document.Reader
import ReviewDiagnostics.Document.Path
import ReviewDiagnostics.Document.Source
import ReviewDiagnostics.Pattern.Reader
import ReviewDiagnostics.Schema.Written
import ReviewDiagnostics.Schema.ReviewFormat
import ReviewDiagnostics.Validation.Conformity
import ReviewDiagnostics.Validation.Validator
import ReviewDiagnostics.Repair.Session
import ReviewDiagnostics.Report.Json
import ReviewDiagnostics.Report.Summary
import ReviewDiagnostics.Files.FileTree
import ReviewDiagnostics.Host
import ReviewDiagnostics.Desk
import ReviewDiagnostics.Logging.Work
import ReviewDiagnostics.Settings.File
import ReviewDiagnostics.Command.Run
import ReviewDiagnostics.Main
import ReviewDiagnostics.Proofs.Choice
import ReviewDiagnostics.Proofs.Parts
import ReviewDiagnostics.Proofs.WellTyped
import ReviewDiagnostics.Proofs.Conformance
import ReviewDiagnostics.Proofs.Merging
import ReviewDiagnostics.Proofs.SecondLook
import ReviewDiagnostics.Proofs.Agreement
import ReviewDiagnostics.Proofs.Rounding
import ReviewDiagnostics.Proofs.Places
import ReviewDiagnostics.Proofs.Distance
import ReviewDiagnostics.Proofs.ListDocument
import ReviewDiagnostics.Proofs.SingleDiagnostic
import ReviewDiagnostics.Proofs.PathText
import ReviewDiagnostics.Proofs.Slots
import ReviewDiagnostics.Proofs.Forms
import ReviewDiagnostics.Proofs.Writing
import ReviewDiagnostics.Proofs.Origins
import ReviewDiagnostics.Proofs.FormatParts
import ReviewDiagnostics.Proofs.Addresses
import ReviewDiagnostics.Proofs.Separation
import ReviewDiagnostics.Proofs.Reconciliation
import ReviewDiagnostics.Proofs.RepairRound
import ReviewDiagnostics.Proofs.Rounds
import ReviewDiagnostics.Proofs.ResultKept
import ReviewDiagnostics.Proofs.PartEdits
import ReviewDiagnostics.Proofs.NodeRepairs
import ReviewDiagnostics.Proofs.PlannedValues
import ReviewDiagnostics.Proofs.SecondRound
import ReviewDiagnostics.Proofs.Journal
import ReviewDiagnostics.Proofs.Passes
import ReviewDiagnostics.Proofs.FinalVerdict
import ReviewDiagnostics.Proofs.Causes
import ReviewDiagnostics.Proofs.LastingRepairs
import ReviewDiagnostics.Proofs.Effort
import ReviewDiagnostics.Proofs.Convergence
import ReviewDiagnostics.Proofs.WrappedList
import ReviewDiagnostics.Proofs.Comparison
import ReviewDiagnostics.Proofs.Strictness
import ReviewDiagnostics.Proofs.FieldOrder
import ReviewDiagnostics.Proofs.DistinctPaths
import ReviewDiagnostics.Proofs.Resolution
import ReviewDiagnostics.Proofs.Reading
import ReviewDiagnostics.Proofs.CommentedText
import ReviewDiagnostics.Proofs.ExitCode
import ReviewDiagnostics.Proofs.Scaling
import ReviewDiagnostics.Proofs.DecimalValue
import ReviewDiagnostics.Proofs.NumberText
import ReviewDiagnostics.Proofs.WrittenText
import ReviewDiagnostics.Proofs.ReadDocuments
import ReviewDiagnostics.Proofs.ReadBack
import ReviewDiagnostics.Proofs.MergeOrder
import ReviewDiagnostics.Proofs.IndependentParts
import ReviewDiagnostics.Proofs.ApartRepairs
import ReviewDiagnostics.Proofs.SeverityRepair
import ReviewDiagnostics.Proofs.LawfulWriting
import ReviewDiagnostics.Proofs.BlankedText
import ReviewDiagnostics.Proofs.Respacing
import ReviewDiagnostics.Proofs.LineEnds
import ReviewDiagnostics.Proofs.WrittenSchema
import ReviewDiagnostics.Proofs.VastNumbers
import ReviewDiagnostics.Proofs.Answers
import ReviewDiagnostics.Proofs.UsableSettings
