import ControlChannel.Listener
import ControlChannel.Machine

/-!
# A listener and its visitors

A listener on a machine, and what comes from outside: clients, a rival that wants the same
socket, and changes to the file tree.

* `Trace`, `Listener.trace` — what happens inside the listener meanwhile;
* `Site` — the listener, the machine, and the address that clients use;
* `Site.reach` — one connection, to the listener if the address leads to its socket;
* `Visit`, `Finding`, `Site.visit` — a visit, and what the visitor finds.
-/

namespace ControlChannel

/-- A listener on a machine. -/
structure Site (Facts : Type) where
  machine : Machine
  listener : Listener Facts
  /-- The address that clients use. -/
  address : Text

/-- What happened inside the listener meanwhile. -/
structure Trace where
  /-- The results of the sends of handlers. -/
  results : List Bool := []
  notices : List Notice := []
  /-- How many releases are under way in the end. -/
  pending : Nat := 0
  deriving DecidableEq

/-- One after the other. -/
def Trace.append (s t : Trace) : Trace :=
  { results := s.results ++ t.results, notices := s.notices ++ t.notices
    pending := s.pending + t.pending }

namespace Listener

variable {Facts Command : Type}

/-- What happens inside a listener from the beginning of a connection until nothing moves any more.
The release of a command runs by itself.  **Where the command ends the loop, the release is waited
for first**, as far as there is time for closing. -/
def trace (d : Dispatch Facts Command) (l : Listener Facts) (delivery : Delivery) : Trace :=
  match d.command? l.settings delivery with
  | none =>
    let (served, _) := l.accept d delivery
    { results := served.results, notices := served.notices }
  | some command =>
    let (served, handle) := Dispatch.engage l.settings l.nextClient (d.handle l.facts command).1
    let time := l.settings.closeTimeout
    let (handle, waiting) :=
      if served.terminates then handle.awaitRelease time.twice else (handle, [])
    let (handle, closing) := handle.runRelease
    { results := served.results, notices := served.notices ++ waiting ++ closing
      pending := handle.pending }

/-- What happens inside a listener during connections in order. -/
def traceAll (d : Dispatch Facts Command) (l : Listener Facts) : List Delivery → Trace
  | [] => {}
  | delivery :: later =>
    if l.token.retired then {}
    else (l.trace d delivery).append (traceAll d (l.accept d delivery).2 later)

end Listener

/-- The octets of messages, as far as they have any, and the end. -/
def Delivery.ofMessages (messages : List Message) : Delivery :=
  { bytes := messages.flatMap fun m => ((Frame.encode m).toOption).getD [] }

/-- Something that comes from outside. -/
inductive Visit
  /-- A connection with any octets. -/
  | connect (delivery : Delivery)
  | probe
  | forward (argv : List Text)
  /-- Clients that connect before the first of them is served. -/
  | forwardAll (argvs : List (List Text))
  /-- Another listener starts on the same path, and is closed at once if it could. -/
  | rival
  | retire (reason : Text)
  /-- The listener is closed, and goes on to wait for its token. -/
  | close
  /-- The file at the path is removed. -/
  | unlink
  /-- The file at the path is replaced by a regular one. -/
  | replace
  /-- A look at the permissions of the file at the path. -/
  | look

/-- What a visitor finds. -/
inductive Finding
  | nothing
  /-- The address leads to no one. -/
  | refused
  | answer (delivery : Delivery)
  | pid (result : Except Failure (Option Pid))
  | relay (relay : Relay)
  | relays (relays : List Relay)
  | start (result : Except Failure Unit)
  | permissions (bits : Option Nat)

/-- The permissions of what lies at a place: a socket is for its owner alone. -/
def Node.permissions : Node → Nat
  | .directory => 0o755
  | .file _ => 0o644
  | .link _ => 0o777
  | .socket _ => 0o600

namespace Site

variable {Facts Command : Type}

/-- Whether the address leads to the socket of the listener. -/
def reaches (s : Site Facts) : Bool :=
  match s.machine.files.socketAt s.address with
  | .ok inode => s.listener.inode = some inode
  | .error _ => false

/-- The site with other files. -/
def withFiles (s : Site Facts) (files : FileTree) : Site Facts :=
  { s with machine := { s.machine with files } }

/-- Closes the socket of the listener. -/
def close (s : Site Facts) : Site Facts :=
  let (listener, files) := s.listener.close s.machine.files
  { s with listener }.withFiles files

/-- Closes the socket of the listener once its token is retired. -/
def settle (s : Site Facts) : Site Facts := if s.listener.token.retired then s.close else s

/-- Connects to the address, where messages are delivered. -/
def reach (d : Dispatch Facts Command) (s : Site Facts) (delivery : Delivery) :
    Contact × Trace × Site Facts :=
  if s.reaches then
    let (served, listener) := s.listener.accept d delivery
    (.ok served.delivery, s.listener.trace d delivery, { s with listener }.settle)
  else
    let (contact, machine) := s.machine.converse s.address []
    (contact, {}, { s with machine })

/-- Probes the address. -/
def probe (d : Dispatch Facts Command) (s : Site Facts) (timeout : Instant) :
    Except Failure (Option Pid) × Trace × Site Facts :=
  if timeout.isAtMostZero then (Client.probe s.address timeout (.ok {}), {}, s)
  else
    let (contact, trace, s) := s.reach d (.ofMessages (Client.probeRequest timeout))
    (Client.probe s.address timeout contact, trace, s)

/-- Forwards an argument vector to the address. -/
def forward (d : Dispatch Facts Command) (s : Site Facts) (argv : List Text) :
    Relay × Trace × Site Facts :=
  let (contact, trace, s) := s.reach d (.ofMessages (Client.forwardRequest argv))
  (Client.forward s.address argv contact, trace, s)

/-- Forwards argument vectors from clients that are all connected before the first of them is
served.  The connections that are still waiting when the listener ends are reset. -/
def forwardAll (d : Dispatch Facts Command) (s : Site Facts) (argvs : List (List Text)) :
    List Relay × Trace × Site Facts :=
  if s.reaches then
    let deliveries := argvs.map fun argv => Delivery.ofMessages (Client.forwardRequest argv)
    let (outcomes, listener) := s.listener.acceptAll d deliveries
    let relays := List.zipWith
      (fun argv outcome =>
        let delivery : Delivery := outcome.elim { manner := .breaks } Served.delivery
        Client.forward s.address argv (.ok delivery))
      argvs outcomes
    (relays, s.listener.traceAll d deliveries, { s with listener }.settle)
  else
    let (contact, _) := s.machine.converse s.address []
    (argvs.map fun argv => Client.forward s.address argv contact, {}, s)

/-- An inode that no socket file has, nor that of the listener if it was removed. -/
def freshInode (s : Site Facts) : Nat :=
  max s.machine.files.freshInode (s.listener.inode.elim 0 (· + 1))

/-- Starts the listener, once its path was probed if a socket lies there. -/
def start (s : Site Facts) : Except Failure Unit × Site Facts :=
  let (probed, machine) :=
    match Binding.inspect s.machine.files s.listener.path with
    | .ok .socket => s.machine.probe s.listener.path s.listener.settings.requestTimeout
    | _ => (.ok none, s.machine)
  let s := { s with machine }
  match s.listener.start machine.files s.freshInode probed with
  | (.ok listener, files) => (.ok (), { s with listener }.withFiles files)
  | (.error failure, files) => (.error failure, s.withFiles files)

/-- Starts another listener on the same path, and closes it at once if it could be started. -/
def rival (d : Dispatch Facts Command) (s : Site Facts) :
    Except Failure Unit × Trace × Site Facts :=
  let path := s.listener.path
  let (probed, trace, s) :=
    match Binding.inspect s.machine.files path with
    | .ok .socket => s.probe d s.listener.settings.requestTimeout
    | _ => (.ok none, {}, s)
  let inode := s.freshInode
  match Binding.start s.machine.files path inode probed with
  | (.ok (), files) => (.ok (), trace, s.withFiles (Binding.close files path inode))
  | (.error failure, files) => (.error failure, trace, s.withFiles files)

/-- A visit.  What clients allow for an answer is `patience`. -/
def visit (d : Dispatch Facts Command) (patience : Instant) (s : Site Facts) :
    Visit → Finding × Trace × Site Facts
  | .connect delivery =>
    match s.reach d delivery with
    | (.ok reply, trace, s) => (.answer reply.toDelivery, trace, s)
    | (.error _, trace, s) => (.refused, trace, s)
  | .probe => let (result, trace, s) := s.probe d patience; (.pid result, trace, s)
  | .forward argv => let (relay, trace, s) := s.forward d argv; (.relay relay, trace, s)
  | .forwardAll argvs => let (relays, trace, s) := s.forwardAll d argvs; (.relays relays, trace, s)
  | .rival => let (result, trace, s) := s.rival d; (.start result, trace, s)
  | .retire reason => (.nothing, {}, { s with listener := s.listener.retire reason }.settle)
  | .close => (.nothing, {}, s.close)
  | .unlink => (.nothing, {}, s.withFiles (Binding.remove s.machine.files s.address))
  | .replace =>
    let files := match s.machine.files.locate (Path.ofText s.address) with
      | .ok place => s.machine.files.put place (.file [])
      | .error _ => s.machine.files
    (.nothing, {}, s.withFiles files)
  | .look =>
    let bits := match s.machine.files.target (Path.ofText s.address) with
      | .ok node => some node.permissions
      | .error _ => none
    (.permissions bits, {}, s)

end Site

end ControlChannel
