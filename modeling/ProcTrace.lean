import ProcTrace.Drive.Parts
import ProcTrace.Log
import ProcTrace.Proofs.Course
import ProcTrace.Session
import ProcTrace.Transcript
import ProcTrace.World
import ProcTrace.Proofs.Course.Drive
import ProcTrace.Inspect.Words
import ProcTrace.Proofs.Course.Inspect
import ProcTrace.Proofs.Ledger
import ProcTrace.Proofs.Ledger.Session
import ProcTrace.Proofs.Stillness
import ProcTrace.Proofs.Ownership
import ProcTrace.Proofs.KeptStops
import ProcTrace.Proofs.InitialStack
import ProcTrace.Proofs.Dialogue
import ProcTrace.Proofs.Dialogue.Wait
import ProcTrace.Proofs.Dialogue.Drive
import ProcTrace.Proofs.Dialogue.Turns
import ProcTrace.Proofs.Dialogue.Run
import ProcTrace.Proofs.Dialogue.Refusals
import ProcTrace.Proofs.Reports
import ProcTrace.Proofs.Orphans
import ProcTrace.Proofs.Reaping
import ProcTrace.Proofs.Lives
import ProcTrace.Proofs.Doings
import ProcTrace.Proofs.Rejections
import ProcTrace.Proofs.Changes
import ProcTrace.Proofs.Changes.Accounts
import ProcTrace.Proofs.History
import ProcTrace.Proofs.Sightings
import ProcTrace.Inspect.Scans
import ProcTrace.Proofs.Independence.Blind
import ProcTrace.Proofs.Independence
import ProcTrace.Proofs.Building
import ProcTrace.Proofs.Failures
import ProcTrace.Proofs.Bouts
import ProcTrace.Proofs.Bouts.Events
import ProcTrace.Proofs.Endings
import ProcTrace.Proofs.OptionsSet
import ProcTrace.Proofs.Rows
import ProcTrace.Proofs.Scan
import ProcTrace.Proofs.Strings
import ProcTrace.Proofs.Strings.Mapped
import ProcTrace.Proofs.Strings.Arrays
import ProcTrace.Proofs.Killable
import ProcTrace.Proofs.Strings.Addresses
import ProcTrace.Proofs.Sentinel
import ProcTrace.Proofs.ExecWaits
import ProcTrace.Proofs.Interruptions
import ProcTrace.Proofs.Interruptions.Drive
import ProcTrace.Proofs.Interruptions.Session
import ProcTrace.Proofs.ForkSides
import ProcTrace.Proofs.WaitBounds
import ProcTrace.Proofs.WaitBounds.Pace
import ProcTrace.Proofs.WaitBounds.Session
import ProcTrace.Proofs.DeathNotices
import ProcTrace.Proofs.DeathNotices.Session
import ProcTrace.Proofs.RegisterSlots
