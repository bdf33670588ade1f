import DatagramLink.Damage
import DatagramLink.Endpoint.Basic

namespace DatagramLink

/-- A link takes whole packets, or is a stream of bytes that is written to piece by piece and
then flushed. -/
inductive LinkKind where
  | packets | stream
  deriving DecidableEq, Repr

/-- How a link behaves. A packet link is normal or pending, a stream normal or failing; any other
mode is normal for it. -/
inductive LinkMode where
  | normal
  /-- sends stay pending until they are reported done -/
  | pending
  | failWrite
  /-- writes accept no bytes -/
  | zeroWrite
  | failFlush
  deriving DecidableEq, Repr

/-- One line of a site's log. -/
inductive Activity where
  | sent (packet : Bytes)
  | written (bytes : Bytes)
  | flushed
  | writeFailed
  | writtenNothing
  | flushFailed
  | datagram (bytes : Bytes)
  | linkReset
  | timedOut (timeouts : UInt32) (givesUp : Bool)
  /-- a packet arrived after the endpoint had stopped -/
  | arrivalRefused
  | readerEnded
  | shutdownDone
  deriving DecidableEq, Repr

/-- How the link and the application of a simulated endpoint behave. -/
structure SiteSettings where
  kind : LinkKind := .packets
  mode : LinkMode := .normal
  /-- After how many ticks a pending send is reported done. Without a number it is not. -/
  pendingTicks : Option Nat := none
  /-- The most bytes that a stream accepts in one write. -/
  maxWrite : Option Nat := none
  latency : Nat := 1
  /-- The application gives up after so many timeouts in a row, or never. -/
  giveUpAfter : Option Nat := none
  deriving DecidableEq, Repr

/-- Something that happens at a given time. -/
structure Timed (α : Type) where
  time : Nat
  what : α
  deriving DecidableEq, Repr

/-- Something that a site leaves to be done later. -/
inductive Errand where
  | deliver (bytes : Bytes)
  /-- a pending send is to be reported done -/
  | completeSend
  deriving DecidableEq, Repr

/-- The link and the application of a simulated endpoint. Both write down what is asked of them.
What goes through the link is put on the wire and arrives elsewhere after a fixed latency. -/
structure Site where
  settings : SiteSettings
  mode : LinkMode
  now : Nat
  /-- Damage to the next packets put on the wire, one each. -/
  damages : List Damage
  /-- Latest first. -/
  log : List (Timed Activity)
  errands : List (Timed Errand)
  deriving DecidableEq, Repr

/-- A site where nothing has happened yet. -/
def Site.ofSettings (settings : SiteSettings) : Site :=
  { settings, mode := settings.mode, now := 0, damages := [], log := [], errands := [] }

/-- Writes down what has happened. -/
def Site.note (site : Site) (activity : Activity) : Site :=
  { site with log := ⟨site.now, activity⟩ :: site.log }

/-- Leaves something to be done later. -/
def Site.leave (site : Site) (ticks : Nat) (errand : Errand) : Site :=
  { site with errands := site.errands ++ [⟨site.now + ticks, errand⟩] }

/-- Puts bytes on the wire. -/
def Site.launch (site : Site) (bytes : Bytes) : Site :=
  let damage := site.damages.head?.getD .harmless
  let site := { site with damages := site.damages.tail }
  match damage.apply bytes with
  | none => site
  | some arriving => site.leave site.settings.latency (.deliver arriving)

/-- A packet link takes a packet whole. -/
def Site.sendPacket (site : Site) (packet : Bytes) : Acceptance × Site :=
  let site := (site.note (.sent packet)).launch packet
  if site.mode = .pending then
    match site.settings.pendingTicks with
    | none => (.pending, site)
    | some ticks => (.pending, site.leave ticks .completeSend)
  else (.complete, site)

/-- The pieces in which a stream accepts some bytes. A stream that accepts none in a write accepts
an empty piece. -/
def SiteSettings.pieces (settings : SiteSettings) (bytes : Bytes) : List Bytes :=
  match settings.maxWrite with
  | none => [bytes]
  | some 0 => [[]]
  | some size => chunksOf size bytes

/-- A flush puts everything on the wire that was written before. -/
def Site.flush (site : Site) (written : Bytes) : Site :=
  if site.mode = .failFlush then site.note .flushFailed else (site.note .flushed).launch written

/-- A stream is done with a packet at once, whether all of it was written or not. A write that did
not get everything through is not followed by a flush. -/
def Site.sendStream (site : Site) (packet : Bytes) : Site :=
  match site.mode with
  | .failWrite => site.note .writeFailed
  | .zeroWrite => site.note .writtenNothing
  | .normal | .pending | .failFlush =>
    let pieces := site.settings.pieces packet
    let site := pieces.foldl (fun site piece => site.note (.written piece)) site
    if pieces.flatten = packet then site.flush packet else site

/-- The link is given a packet. A stream is done with it when it returns. -/
def Site.send (packet : Bytes) (site : Site) : Acceptance × Site :=
  match site.settings.kind with
  | .packets => site.sendPacket packet
  | .stream => (.complete, site.sendStream packet)

/-- The application is told something. -/
def Site.notice : Notice → Site → Site
  | .datagram bytes, site => site.note (.datagram bytes)
  | .linkReset, site => site.note .linkReset

/-- The application is asked whether to start over after so many timeouts in a row. -/
def Site.givesUp (timeouts : UInt32) (site : Site) : Bool × Site :=
  let answer := site.settings.giveUpAfter.any (· ≤ timeouts.toNat)
  (answer, site.note (.timedOut timeouts answer))

/-- The site as the endpoint knows it. -/
def Site.host : Host Site := ⟨Site.send, Site.notice, Site.givesUp⟩

end DatagramLink
