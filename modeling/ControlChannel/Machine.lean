import ControlChannel.Client.Forward
import ControlChannel.FileTree

/-!
# A machine with listening processes

For a client the world is a file tree and the processes that listen on its socket files.  Such
a process is told by how it behaves on each of its next connections; after the last one it is
gone and leaves its socket file behind.

* `Peer`, `Machine` — a listening process, and the world;
* `Machine.converse` — one connection to an address;
* `Machine.probe`, `Machine.forward` — what clients do with a connection.
-/

namespace ControlChannel

/-- A process that listens on a socket file. -/
structure Peer where
  inode : Nat
  /-- How it behaves on its next connections. -/
  replies : List Reply
  /-- The messages that reached it. -/
  received : List Message := []

/-- The file tree and the processes that listen on its sockets. -/
structure Machine where
  files : FileTree
  peers : List Peer := []

namespace Machine

/-- Connects to an address and sends messages there. -/
def converse (m : Machine) (address : Text) (sent : List Message) : Contact × Machine :=
  match m.files.socketAt address with
  | .error fault => (.error fault, m)
  | .ok inode =>
    match m.peers.find? (·.inode = inode) with
    | some { replies := reply :: replies, received, .. } =>
      let received := received ++ reply.intake.passed sent
      let peers := m.peers.map fun peer =>
        if peer.inode = inode then { peer with replies, received } else peer
      (.ok reply, { m with peers })
    | _ => (.error .connectionRefused, m)

/-- Probes an address; without any time for it nothing is connected to. -/
def probe (m : Machine) (path : Text) (timeout : Instant) :
    Except Failure (Option Pid) × Machine :=
  let (contact, next) := m.converse path (Client.probeRequest timeout)
  (Client.probe path timeout contact, if timeout.isAtMostZero then m else next)

/-- Forwards an argument vector to an address. -/
def forward (m : Machine) (path : Text) (argv : List Text) : Relay × Machine :=
  let (contact, m) := m.converse path (Client.forwardRequest argv)
  (Client.forward path argv contact, m)

/-- How many connections the listening processes still answer. -/
def patience (m : Machine) : Nat := m.peers.foldl (fun n peer => n + peer.replies.length) 0

end Machine

end ControlChannel
