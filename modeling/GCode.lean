import GCode.Configuration.OfText
import GCode.Proofs.Building
import GCode.Proofs.CanonicalText
import GCode.Proofs.ClosingRun
import GCode.Proofs.CommentSettings
import GCode.Proofs.ConfigurationText
import GCode.Proofs.Conservation
import GCode.Proofs.Distinction
import GCode.Proofs.EndOfFile
import GCode.Proofs.Idempotence
import GCode.Proofs.Interleaving
import GCode.Proofs.JsonScalars
import GCode.Proofs.Kinds
import GCode.Proofs.MachineLines
import GCode.Proofs.OnePass
import GCode.Proofs.PassLog
import GCode.Proofs.Remaining
import GCode.Proofs.Replacement
import GCode.Proofs.Requests
import GCode.Proofs.Rewording
import GCode.Proofs.SafeSweeps
import GCode.Proofs.Settings
import GCode.Proofs.Skipping
import GCode.Proofs.TooWide
import GCode.Proofs.Unambiguous
import GCode.Proofs.Words
import GCode.Proofs.Writing
import GCode.Proofs.WritingLog
import GCode.Script
import GCode.Session
import GCode.Writing
