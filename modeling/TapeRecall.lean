import TapeRecall.World
import TapeRecall.Log.Host
import TapeRecall.Proofs.Outcome.Archive
import TapeRecall.Proofs.Outcome.Scan
import TapeRecall.Proofs.Outcome.Agent
import TapeRecall.Proofs.History
import TapeRecall.Proofs.Ordinary
import TapeRecall.Proofs.FileWork
import TapeRecall.Proofs.Accounts
import TapeRecall.Proofs.Discipline
import TapeRecall.Proofs.Course
import TapeRecall.Proofs.Lifecycle
import TapeRecall.Proofs.RecallOrder
import TapeRecall.Proofs.FirstRefusal
import TapeRecall.Proofs.QueryRefinement
import TapeRecall.Proofs.Alike
import TapeRecall.Proofs.Independence
import TapeRecall.Proofs.Credentials
import TapeRecall.Proofs.Access
import TapeRecall.Proofs.HandleProtocol
import TapeRecall.Proofs.FirstMatch
import TapeRecall.Proofs.RecallProtocol
import TapeRecall.Proofs.Latches
import TapeRecall.Proofs.ScanOrder
import TapeRecall.Proofs.StepOrder
import TapeRecall.Proofs.EntryAndExit
import TapeRecall.Proofs.DiskMarks
import TapeRecall.Proofs.ScanAccount
import TapeRecall.Proofs.Wording
import TapeRecall.Proofs.Warnings
import TapeRecall.Proofs.Fallback
