import OpticalTiming.Config.Format
import OpticalTiming.Design.Registry
import OpticalTiming.Json.Parser
import OpticalTiming.Proofs.Advancing
import OpticalTiming.Proofs.Agreeing
import OpticalTiming.Proofs.Aliasing
import OpticalTiming.Proofs.Applying
import OpticalTiming.Proofs.Awaiting
import OpticalTiming.Proofs.ByteOrder
import OpticalTiming.Proofs.Cancelling
import OpticalTiming.Proofs.Capturing
import OpticalTiming.Proofs.Commissioning
import OpticalTiming.Proofs.Completing
import OpticalTiming.Proofs.Configuring
import OpticalTiming.Proofs.Confining
import OpticalTiming.Proofs.Conserving
import OpticalTiming.Proofs.Counting
import OpticalTiming.Proofs.Deadline
import OpticalTiming.Proofs.Draining
import OpticalTiming.Proofs.Echoing
import OpticalTiming.Proofs.Excerpt
import OpticalTiming.Proofs.Exchange
import OpticalTiming.Proofs.Faulting
import OpticalTiming.Proofs.Fields
import OpticalTiming.Proofs.Firmware
import OpticalTiming.Proofs.Footprint
import OpticalTiming.Proofs.Foretelling
import OpticalTiming.Proofs.Handles
import OpticalTiming.Proofs.Harmless
import OpticalTiming.Proofs.Issuing
import OpticalTiming.Proofs.Keeping
import OpticalTiming.Proofs.Latching
import OpticalTiming.Proofs.Lifecycle
import OpticalTiming.Proofs.Millis
import OpticalTiming.Proofs.Pacing
import OpticalTiming.Proofs.Polling
import OpticalTiming.Proofs.Programming
import OpticalTiming.Proofs.Pulsing
import OpticalTiming.Proofs.Refusing
import OpticalTiming.Proofs.RegisterPath
import OpticalTiming.Proofs.Registering
import OpticalTiming.Proofs.Rejecting
import OpticalTiming.Proofs.Release
import OpticalTiming.Proofs.Repeating
import OpticalTiming.Proofs.Replaying
import OpticalTiming.Proofs.Restarting
import OpticalTiming.Proofs.Reverting
import OpticalTiming.Proofs.Rounds
import OpticalTiming.Proofs.Routing
import OpticalTiming.Proofs.Scanning
import OpticalTiming.Proofs.Sending
import OpticalTiming.Proofs.Sequencing
import OpticalTiming.Proofs.Session
import OpticalTiming.Proofs.Storing
import OpticalTiming.Proofs.Strobe
import OpticalTiming.Proofs.Ticking
import OpticalTiming.Proofs.Timing
import OpticalTiming.Proofs.Validating
import OpticalTiming.Proofs.Wrapping
import OpticalTiming.Time.Duration
