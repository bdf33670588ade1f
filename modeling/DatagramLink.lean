import DatagramLink.Simulation.Basic
import DatagramLink.Proofs.Framing.Grammar
import DatagramLink.Proofs.Framing.Padding
import DatagramLink.Proofs.Framing.Detection
import DatagramLink.Proofs.Framing.Damaged
import DatagramLink.Proofs.Checksum.Bursts
import DatagramLink.Proofs.Line.Flight
import DatagramLink.Proofs.Line.Tracking
import DatagramLink.Proofs.Session.Profile
import DatagramLink.Proofs.Line.Phases
import DatagramLink.Proofs.Line.Lane
import DatagramLink.Proofs.Line.Coherence
import DatagramLink.Proofs.Line.Delivery
import DatagramLink.Proofs.Line.BitErrors
import DatagramLink.Proofs.Session.Accord
import DatagramLink.Proofs.Line.Rendezvous
import DatagramLink.Proofs.Session.Inputs
import DatagramLink.Proofs.Session.Countdowns
import DatagramLink.Proofs.Session.Diligence
import DatagramLink.Proofs.Session.Timely
import DatagramLink.Proofs.Exchange.ComingUp
import DatagramLink.Proofs.Checked.Basic
import DatagramLink.Proofs.Checked.Queue
import DatagramLink.Proofs.Checked.Framer
import DatagramLink.Proofs.Checked.Streams
import DatagramLink.Proofs.Checked.Session
import DatagramLink.Proofs.Checked.Runs
import DatagramLink.Proofs.Session.Acquaintance
import DatagramLink.Proofs.Line.Introductions
import DatagramLink.Proofs.Exchange.Turns
import DatagramLink.Proofs.Exchange.Recovery
import DatagramLink.Proofs.Line.Calm
import DatagramLink.Proofs.Sender.Load
import DatagramLink.Proofs.Exchange.Draining
import DatagramLink.Proofs.Exchange.Drained
import DatagramLink.Proofs.Session.Departures
import DatagramLink.Proofs.Session.FreshStart
import DatagramLink.Proofs.Endpoint.Interplay
import DatagramLink.Proofs.Endpoint.Undisturbed
import DatagramLink.Proofs.Endpoint.Vigilance
import DatagramLink.Proofs.Session.Timeouts
import DatagramLink.Proofs.Endpoint.Expiries
import DatagramLink.Proofs.Endpoint.Lapses
import DatagramLink.Proofs.Session.Chunking
import DatagramLink.Proofs.Session.Rejections
import DatagramLink.Proofs.Receiver.Reassembly
import DatagramLink.Proofs.Sender.Stint
import DatagramLink.Proofs.Checksum.Period
import DatagramLink.Proofs.Negotiation
import DatagramLink.Proofs.FlaggedHandshake
import DatagramLink.Proofs.Session.Chronicle
import DatagramLink.Proofs.Session.Custody
import DatagramLink.Proofs.Session.Tidings
import DatagramLink.Proofs.Advertisement
import DatagramLink.Proofs.Framing.Calls
import DatagramLink.Proofs.Framing.Buffers
import DatagramLink.Proofs.Framing.Resynchronization
import DatagramLink.Proofs.Framing.Progress
import DatagramLink.Proofs.Endpoint.Worklog
import DatagramLink.Proofs.Endpoint.Shutdown
import DatagramLink.Proofs.Layouts
import DatagramLink.Proofs.QueueCalls
import DatagramLink.Proofs.Sender.Consistency
import DatagramLink.Proofs.Sender.Readiness
