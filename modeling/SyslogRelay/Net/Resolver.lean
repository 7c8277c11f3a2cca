import SyslogRelay.Net.Link
import SyslogRelay.Dns.Message
import SyslogRelay.Diagnostic

namespace SyslogRelay.Net

open SyslogRelay.Diagnostic

/-- Why a host could not be resolved. -/
inductive ResolveError
  | notFound (host : String)
  | timedOut (host : String)
  | io (e : IoError)
  | malformed (f : Dns.Fault)
  deriving DecidableEq, Repr

def ResolveError.message : ResolveError → String
  | .notFound host => "host '" ++ host ++ "' was not found"
  | .timedOut host => "mDNS query for '" ++ host ++ ".local' timed out"
  | .io e => "resolver I/O error: " ++ e.message
  | .malformed f => "DNS message error: " ++ f.message

/-- Names with fixed addresses, as a hosts file lists them. -/
structure HostTable where
  entries : List (String × List IpAddr)
  deriving DecidableEq, Repr

/-- ASCII letters in lower case. -/
def lowerAscii (s : String) : String :=
  String.ofList (s.toList.map Char.toLower)

/-- The addresses listed for a name; names match without regard to ASCII case. -/
def HostTable.lookup (t : HostTable) (host : String) : List IpAddr :=
  ((t.entries.find? fun e => lowerAscii e.1 = lowerAscii host).map Prod.snd).getD []

/-- `localhost` is the IPv4 and the IPv6 loopback address. -/
def HostTable.standard : HostTable :=
  ⟨[("localhost", [.v4 Ipv4.localhost, .v6 Ipv6.localhost])]⟩

/-- What the program sees of the machine it runs on. -/
structure Machine where
  network : Network
  hosts : HostTable
  processId : Nat
  /-- The name the kernel gives the machine, if any. -/
  name : Option String

/-- A machine with no usable network and the standard host table. -/
def Machine.isolated : Machine := ⟨Network.isolated, HostTable.standard, 1, some "localhost"⟩

/-- The multicast DNS group. -/
def mdnsGroup : SocketAddr := ⟨.v4 ⟨224, 0, 0, 251⟩, 5353⟩

/-- How long a local-link query waits by default, in milliseconds. -/
def defaultLocalLinkTimeoutMs : Nat := 2000

/-- How a host is resolved. -/
inductive Resolver
  /-- Literals and the host table. -/
  | system
  /-- The system first, then a multicast query that waits `timeoutMs`. -/
  | withLocalLink (timeoutMs : Nat)
  deriving DecidableEq, Repr

/-- The error of a name the host table does not know. -/
def lookupFailure : IoError :=
  .custom .uncategorized "failed to lookup address information: Name or service not known"

private def resolveTarget : String := "logfwd::resolve"

/-- Resolve with the system resolver. -/
def resolveSystem (m : Machine) (host : String) : Except ResolveError IpAddr × List Event :=
  match IpAddr.parse? host with
  | some ip => (.ok ip, [])
  | none =>
    let addrs := m.hosts.lookup host
    match (addrs.find? IpAddr.isIpv4).orElse fun _ => addrs.head? with
    | some ip =>
      (.ok ip, [Event.say .debug resolveTarget "dns result" [⟨"host", .text host⟩, ⟨"ip", .text ip.text⟩]])
    | none => (.error (.io lookupFailure), [])

/-- Ask the local link for `<host>.local`, with any `.local` suffix of `host` removed. -/
def resolveLocalLink (m : Machine) (host : String) : Except ResolveError IpAddr × List Event :=
  let name := if host.endsWith ".local" then String.ofList (host.toList.take (host.length - 6)) else host
  let asked := ⟨.debug, resolveTarget, [⟨"message", .parts ["Query A: ", name, ".local"]⟩]⟩
  match Dns.buildQuery (m.processId % 65536) name with
  | .error f => (.error (.malformed f), [asked])
  | .ok _ =>
    match (m.network.attempts mdnsGroup).head? with
    | some (some e) => (.error (.io e), [asked])
    | _ =>
      (.error (.timedOut name),
        [asked, ⟨.error, resolveTarget, [⟨"message", .parts ["Host '", name, "' was not found!"]⟩]⟩])

/-- Resolve a host. -/
def Resolver.resolve (m : Machine) (host : String) : Resolver → Except ResolveError IpAddr × List Event
  | .system => resolveSystem m host
  | .withLocalLink _ =>
    match resolveSystem m host with
    | (.ok ip, events) => (.ok ip, events)
    | (.error e, events) =>
      let fallback := Event.say .debug resolveTarget "DNS lookup failed, trying mDNS"
        [⟨"host", .text host⟩, ⟨"error", .text e.message⟩]
      let (result, more) := resolveLocalLink m host
      (result, events ++ fallback :: more)

end SyslogRelay.Net
