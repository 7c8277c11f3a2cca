import SyslogRelay.Net.Address
import SyslogRelay.IoError

namespace SyslogRelay.Net

/-- Why a datagram link failed. -/
inductive LinkError
  /-- The socket could not be created. -/
  | socket (e : IoError)
  /-- The socket could not be set up or bound. -/
  | configure (e : IoError)
  /-- A datagram was refused. -/
  | send (dest : SocketAddr) (source : IoError)
  /-- The link was closed before the send. -/
  | closed
  deriving DecidableEq, Repr

def LinkError.message : LinkError → String
  | .socket e => "cannot open UDP socket: " ++ e.message
  | .configure e => "cannot configure UDP socket: " ++ e.message
  | .send dest e => "sendto " ++ dest.text ++ " failed: " ++ e.message
  | .closed => "transport is closed"

/-- How the network treats datagrams. -/
structure Network where
  /-- For a destination, the outcome of each attempt to send one datagram in
  turn (`none` for delivery); attempts past the list are delivered. -/
  attempts : SocketAddr → List (Option IoError)
  /-- The port a socket bound to port 0 receives. -/
  ephemeralPort : Nat
  /-- Why binding a socket to a given address fails, if it does. -/
  bindRefusal : IpAddr → Option IoError

/-- A machine without a usable interface: a datagram to port 0 is an invalid
argument, every other destination is unreachable, and no IPv6 address is
assigned. -/
def Network.isolated : Network where
  attempts dest := [some (.os (if dest.port = 0 then 22 else 101))]
  ephemeralPort := 49152
  bindRefusal
    | .v4 _ => none
    | .v6 _ => some (.os 99)

/-- Timings of a link. -/
structure LinkOptions where
  sendTimeoutMs : Nat
  retryIntervalMs : Nat
  deriving DecidableEq, Repr

/-- One second to send, a tenth of a second between attempts. -/
def LinkOptions.standard : LinkOptions := ⟨1000, 100⟩

/-- A UDP link to one destination. -/
structure UdpLink where
  dest : SocketAddr
  /-- The address the link's socket is bound to. -/
  boundTo : SocketAddr
  isOpen : Bool
  /-- Retries spent by successful sends so far. -/
  retries : Nat
  options : LinkOptions
  deriving DecidableEq, Repr

namespace UdpLink

/-- The unspecified address of an address's family. -/
def unspecifiedLike : IpAddr → IpAddr
  | .v4 _ => .v4 Ipv4.unspecified
  | .v6 _ => .v6 Ipv6.unspecified

/-- Open a link to `ip` and `port`, bound to an ephemeral port. -/
def open? (net : Network) (ip : IpAddr) (port : Nat) (options : LinkOptions) :
    Except LinkError UdpLink :=
  .ok ⟨⟨ip, port⟩, ⟨unspecifiedLike ip, net.ephemeralPort⟩, true, 0, options⟩

/-- Send one payload; on success the datagram reached the destination. -/
def send (net : Network) (l : UdpLink) : UdpLink × Except LinkError Unit :=
  if !l.isOpen then (l, .error .closed)
  else
    match (sendWithRetry (net.attempts l.dest)).outcome with
    | .ok n => ({ l with retries := l.retries + n }, .ok ())
    | .error e => (l, .error (.send l.dest e))

def close (l : UdpLink) : UdpLink := { l with isOpen := false }

/-- The bound address, while the link is open. -/
def localAddr? (l : UdpLink) : Except IoError SocketAddr :=
  if l.isOpen then .ok l.boundTo else .error (.custom .notConnected "transport closed")

theorem send_closed (net : Network) (l : UdpLink) :
    (l.close.send net).2 = .error .closed := by
  simp [send, close]

end UdpLink

end SyslogRelay.Net
