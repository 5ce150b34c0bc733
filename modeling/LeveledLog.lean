import LeveledLog.Text.Blank
import LeveledLog.Text.Case
import LeveledLog.Text.Column
import LeveledLog.Text.Decimal
import LeveledLog.Text.Utf8
import LeveledLog.Level.Severity
import LeveledLog.Level.Basic
import LeveledLog.Level.Parse
import LeveledLog.Environment
import LeveledLog.Caller.MarkerPath
import LeveledLog.Caller.Basic
import LeveledLog.Header.Escape
import LeveledLog.Header.Identity
import LeveledLog.Header.Layout
import LeveledLog.Metered
import LeveledLog.Message
import LeveledLog.Sink
import LeveledLog.Stream
import LeveledLog.Logger.Basic
import LeveledLog.Logger.Session
import LeveledLog.Program.Basic
import LeveledLog.Program.Run
import LeveledLog.Proofs.LevelOrder
import LeveledLog.Proofs.Emission
import LeveledLog.Proofs.LevelGrammar
import LeveledLog.Proofs.SessionState
import LeveledLog.Proofs.HandOff
import LeveledLog.Proofs.HeaderByRank
import LeveledLog.Proofs.LineReading
import LeveledLog.Proofs.MarkerSites
import LeveledLog.Proofs.StepByStep
import LeveledLog.Proofs.LogStatements
import LeveledLog.Proofs.SharedLogger
import LeveledLog.Proofs.FatalExit
import LeveledLog.Proofs.ShortWrites
import LeveledLog.Proofs.FunctionName
import LeveledLog.Proofs.DisabledLogging
import LeveledLog.Proofs.DirectEmission
import LeveledLog.Proofs.Coloring
import LeveledLog.Proofs.RaisedThreshold
import LeveledLog.Proofs.WrittenLayouts
import LeveledLog.Proofs.Diagnostics
import LeveledLog.Proofs.LetterCase
import LeveledLog.Proofs.Respelling
import LeveledLog.Proofs.LevelTables
import LeveledLog.Proofs.Seeding
import LeveledLog.Proofs.ColumnLaws
import LeveledLog.Proofs.VisibleColumns
import LeveledLog.Proofs.DebugColumns
