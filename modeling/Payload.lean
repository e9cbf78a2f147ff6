import Payload.Body
import Payload.Buffer
import Payload.Bytes
import Payload.Describe
import Payload.Engine
import Payload.Engine.Buffered
import Payload.Engine.Custody
import Payload.Engine.Direct
import Payload.Engine.Memory
import Payload.Error
import Payload.Fault
import Payload.Fitful
import Payload.Note
import Payload.Opening
import Payload.Options
import Payload.Outcome
import Payload.Pool
import Payload.Proofs.Accounts
import Payload.Proofs.Announcing
import Payload.Proofs.Arrival
import Payload.Proofs.Buffered.Backing
import Payload.Proofs.Buffered.Balance
import Payload.Proofs.Buffered.Checks
import Payload.Proofs.Buffered.Delivery
import Payload.Proofs.Buffered.Demand
import Payload.Proofs.Buffered.Emptying
import Payload.Proofs.Buffered.Ending
import Payload.Proofs.Buffered.Facing
import Payload.Proofs.Buffered.Fidelity
import Payload.Proofs.Buffered.Generosity
import Payload.Proofs.Buffered.Heeding
import Payload.Proofs.Buffered.Length
import Payload.Proofs.Buffered.Likeness
import Payload.Proofs.Buffered.Metering
import Payload.Proofs.Buffered.Outlook
import Payload.Proofs.Buffered.Poisoning
import Payload.Proofs.Buffered.ReadAhead
import Payload.Proofs.Buffered.Reading
import Payload.Proofs.Buffered.Uses
import Payload.Proofs.Calls
import Payload.Proofs.Charting
import Payload.Proofs.Closing
import Payload.Proofs.Copies
import Payload.Proofs.Declared
import Payload.Proofs.Direct.Accounts
import Payload.Proofs.Direct.Agreement
import Payload.Proofs.Direct.Confinement
import Payload.Proofs.Direct.Ending
import Payload.Proofs.Direct.Facing
import Payload.Proofs.Direct.Fidelity
import Payload.Proofs.Direct.Likeness
import Payload.Proofs.Direct.Logging
import Payload.Proofs.Direct.Poisoning
import Payload.Proofs.Direct.Reading
import Payload.Proofs.Direct.Serving
import Payload.Proofs.Direct.Uses
import Payload.Proofs.Draining
import Payload.Proofs.Facing
import Payload.Proofs.Failures
import Payload.Proofs.Finality
import Payload.Proofs.Fitful
import Payload.Proofs.Honesty
import Payload.Proofs.Interruption
import Payload.Proofs.Lagging
import Payload.Proofs.Memory
import Payload.Proofs.Opening
import Payload.Proofs.Outlook
import Payload.Proofs.Pairing
import Payload.Proofs.Poisoning
import Payload.Proofs.Pouring
import Payload.Proofs.Probing
import Payload.Proofs.Pump
import Payload.Proofs.Refusal
import Payload.Proofs.Rounds
import Payload.Proofs.Run
import Payload.Proofs.Scripted
import Payload.Proofs.Sharing
import Payload.Proofs.Sliding
import Payload.Proofs.States
import Payload.Proofs.Steering
import Payload.Proofs.Stream
import Payload.Proofs.Termination
import Payload.Proofs.Trouble
import Payload.Proofs.Yielding
import Payload.Pump
import Payload.Reader
import Payload.Seek
import Payload.Session.Command
import Payload.Session.Feed
import Payload.Session.Request
import Payload.Session.Run
import Payload.Sink
import Payload.Sink.Watched
import Payload.Source
import Payload.Source.Device
import Payload.Source.Irregular
import Payload.Source.Recorded
import Payload.Source.Restricted
import Payload.Source.Tape
import Payload.Tally
import Payload.Text.Printable
import Payload.Text.Quoted
import Payload.Window
