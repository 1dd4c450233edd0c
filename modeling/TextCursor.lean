import TextCursor.CommandLine.Options
import TextCursor.Checkpoints
import TextCursor.CommandLine.Report
import TextCursor.Main
import TextCursor.Operation
import TextCursor.Proofs.Script.CheckpointHistory
import TextCursor.Proofs.Script.CommandSpelling
import TextCursor.Proofs.Script.CheckedRun
import TextCursor.Proofs.Script.ErrorPlace
import TextCursor.Proofs.Script.QuotedReading
import TextCursor.Proofs.Script.Transcript
import TextCursor.Text.Enumeration
import TextCursor.Proofs.Cursor.Conservation
import TextCursor.Proofs.Cursor.Ranking
import TextCursor.Proofs.Cursor.Transactions
import TextCursor.Proofs.Cursor.CheckedOperation
import TextCursor.Proofs.Script.Expectation
import TextCursor.Proofs.Script.Replay
import TextCursor.Proofs.Script.CommandTable
import TextCursor.Proofs.Script.ViablePrefix
import TextCursor.Proofs.Cursor.TestCalls
import TextCursor.Proofs.Script.FirstOffence
import TextCursor.Proofs.Cursor.Lookbehind
import TextCursor.Proofs.Script.FailedCommands
import TextCursor.Proofs.Script.IntegerLiterals
import TextCursor.Proofs.Script.CarriageReturns
import TextCursor.Proofs.CommandLine.Reporting
import TextCursor.Proofs.Script.Hull
import TextCursor.Proofs.Text.Phrase
import TextCursor.Proofs.Script.BoundedReading
