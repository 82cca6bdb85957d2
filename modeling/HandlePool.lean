import HandlePool.Limits.Reader
import HandlePool.Event
import HandlePool.Depot.Work
import HandlePool.Depot.Action
import HandlePool.Scenario.Report
import HandlePool.Numbered
import HandlePool.Idle.Session
import HandlePool.Depot.Progress
import HandlePool.Proofs.Books
import HandlePool.Proofs.Effect
import HandlePool.Proofs.Moves
import HandlePool.Proofs.Turns
import HandlePool.Proofs.Census
import HandlePool.Proofs.Custody
import HandlePool.Proofs.Conservation
import HandlePool.Proofs.Queue
import HandlePool.Proofs.Slots
import HandlePool.Proofs.Capacity
import HandlePool.Proofs.OwnTurns
import HandlePool.Proofs.Fruitless
import HandlePool.Proofs.Sequence
import HandlePool.Proofs.Deeds
import HandlePool.Proofs.Ownership
import HandlePool.Proofs.Owed
import HandlePool.Proofs.Slack
import HandlePool.Proofs.Closed
import HandlePool.Proofs.Supply
import HandlePool.Proofs.Ledger
import HandlePool.Proofs.Shutdown
import HandlePool.Proofs.Forsaken
import HandlePool.Proofs.Directories
import HandlePool.Proofs.Sweep
import HandlePool.Proofs.Crowding
import HandlePool.Proofs.Strays
import HandlePool.Proofs.Panics
import HandlePool.Proofs.Lexemes
import HandlePool.Proofs.Grammar
import HandlePool.Proofs.Reading
import HandlePool.Proofs.RoundTrip
import HandlePool.Proofs.Failures
import HandlePool.Proofs.Choice
import HandlePool.Proofs.Restock
import HandlePool.Proofs.Reuse
import HandlePool.Proofs.Exhaustion
import HandlePool.Proofs.Plain
import HandlePool.Proofs.Abort
import HandlePool.Proofs.Contexts
import HandlePool.Proofs.Waits
import HandlePool.Proofs.Precedence
import HandlePool.Proofs.Drain
import HandlePool.Proofs.Keys
import HandlePool.Proofs.Recycling
import HandlePool.Proofs.Endings
