import SecretLayers.Cli.Program
import SecretLayers.Store.Wire
import SecretLayers.Timestamp
import Std.Async.DNS
import Std.Async.TCP
import Std.Async.Timer
import Std.Internal.UV.System
import Std.Internal.UV.UDP
/-!
The program on a real machine: its files, its environment, its clock and its network.

Files are read before the program runs. What it reads depends on what stands in the files
before, so they are gathered in rounds.
-/
open Std.Async Std.Net

namespace SecretLayers.Main

/-! ## Files -/

def faultOf : IO.Error → FileFault
  | .noFileOrDirectory .. => .notFound
  | .inappropriateType _ _ details =>
    if details.toLower.startsWith "not a" then .notDirectory else .isDirectory
  | .permissionDenied .. => .other "Permission denied (os error 13)"
  | .userError _ => .notText
  | e => .other (toString e)

def readText (path : String) : IO (Except FileFault String) := do
  try
    return .ok (← IO.FS.readFile path)
  catch e => return .error (faultOf e)

abbrev Gathered := List (String × Except FileFault String)

def gather (paths : List String) : IO Gathered :=
  paths.mapM fun path => do return (path, ← readText path)

/-- The files that have been gathered, and the list of interfaces. -/
def filesOf (gathered : Gathered) (interfaces : List String) : Files where
  read path := (gathered.lookup path).getD (.error .notFound)
  list path := if path = Auth.interfaceRoot then .ok interfaces else .error .notFound

/-- The names of the network interfaces. -/
def interfaceNames : IO (List String) := do
  match ← readText "/proc/net/dev" with
  | .error _ => return []
  | .ok table =>
    let lines := (Text.splitAt '\n' table).filter fun line => line.toList.contains ':'
    return lines.map fun line => Text.trim (String.ofList (line.toList.takeWhile (· ≠ ':')))

/-! ## Clock and addresses -/

def now : IO Instant := do
  let i ← Std.Time.Timestamp.now
  return i.toNanosecondsSinceUnixEpoch.val.toNat

/-- The address from which the machine reaches others. -/
def hostAddress : IO String := do
  try
    let socket ← Std.Internal.UV.UDP.Socket.new
    socket.connect (.v4 ⟨.ofParts 192 0 2 1, 9⟩)
    match ← socket.getSockName with
    | .v4 a => return (IPAddr.v4 a.addr).toString
    | .v6 a => return (IPAddr.v6 a.addr).toString
  catch _ => return "127.0.0.1"

/-! ## Network -/

def connectFault (url : String) (reason : String) : NetworkFault :=
  .unreachable [NetworkFault.unsent url, "client error (Connect)", reason]

def addressesOf : Url.Host → Async (List IPAddr)
  | .name text => do return (← DNS.getAddrInfo (String.ofList text) "").toList
  | host => return ((IPv4Addr.ofString (String.ofList host.chars)).map IPAddr.v4).toList ++
      ((IPv6Addr.ofString (String.ofList (host.chars.filter fun c => c ≠ '[' ∧ c ≠ ']'))).map
        IPAddr.v6).toList

def socketAddress (a : IPAddr) (port : Nat) : SocketAddress :=
  match a with
  | .v4 addr => .v4 ⟨addr, port.toUInt16⟩
  | .v6 addr => .v6 ⟨addr, port.toUInt16⟩

partial def receive (c : TCP.Socket.Client) (sofar : ByteArray) : Async ByteArray := do
  match ← c.recv? 65536 with
  | none => return sofar
  | some bytes => receive c (sofar ++ bytes)

/-- Runs something for a limited time. -/
def within {α : Type} (seconds : Nat) (late : NetworkFault) (act : Async (Except NetworkFault α)) :
    Async (Except NetworkFault α) :=
  have : Inhabited (Except NetworkFault α) := ⟨.error late⟩
  Async.race act do
    sleep (Std.Time.Millisecond.Offset.ofNat (1000 * seconds))
    return .error late

def connect (url : Url) (shown : String) : Async (Except NetworkFault TCP.Socket.Client) := do
  try
    let host := (url.authority.bind (·.host)).getD (.name [])
    let port := ((url.authority.bind (·.port)).or (Url.defaultPort? url.scheme)).getD 80
    match ← addressesOf host with
    | [] => return .error (connectFault shown "dns error")
    | a :: _ =>
      let socket ← TCP.Socket.Client.mk
      socket.connect (socketAddress a port)
      return .ok socket
  catch e => return .error (connectFault shown (toString e))

/-- How long the program waits for a connection, and for a whole answer. -/
structure Patience where
  connection : Nat
  answer : Nat

def exchangeOnce (p : Patience) (r : Request) : Async (Except NetworkFault Wire.Reply) := do
  let shown := r.url.withoutCredentials.render
  if r.url.scheme ≠ "http".toList then
    return .error (connectFault shown "secure connections are not supported")
  match ← within p.connection (.timedOut shown) (connect r.url shown) with
  | .error fault => return .error fault
  | .ok socket =>
    try
      socket.send (Wire.requestText r).toUTF8
      let bytes ← receive socket ByteArray.empty
      return match Wire.Reply.parse? bytes.toList with
        | some reply => .ok reply
        | none => .error (.interrupted shown)
    catch _ => return .error (.interrupted shown)

/-- A request with the redirections that follow it. -/
def exchange (p : Patience) : Nat → Request → Async (Except NetworkFault Wire.Reply)
  | 0, r => exchangeOnce p r
  | n + 1, r => do
    match ← exchangeOnce p r with
    | .error fault => return .error fault
    | .ok reply => match reply.redirect? r with
      | some next => exchange p n next
      | none => return .ok reply

def arrival (p : Patience) (r : Request) : IO Arrival := do
  let late : NetworkFault := .timedOut r.url.withoutCredentials.render
  let outcome ← (within p.answer late (exchange p Wire.redirectLimit r)).block
  return { outcome := outcome.map Wire.Reply.answer, instant := ← now }

/-- Carries a dialogue on with the answers of the network. -/
def converse {α : Type} (p : Patience) : Dialogue α → IO α
  | .done a => return a
  | .send r next => do converse p (next (← arrival p r))

/-! ## The program -/

def nonce : IO String := do
  let bytes ← IO.getRandomBytes 16
  let hex := bytes.toList.flatMap fun b =>
    [Json.hexDigit (b.toNat / 16), Json.hexDigit (b.toNat % 16)]
  let part (start length : Nat) := String.ofList ((hex.drop start).take length)
  return "-".intercalate [part 0 8, part 8 4, "4" ++ part 13 3, "a" ++ part 17 3, part 20 12]

def place (gathered : Gathered) (interfaces : List String) : IO Cli.Place := do
  return {
    machine := { files := filesOf gathered interfaces, hostAddress := ← hostAddress }
    environment := (← Std.Internal.UV.System.osEnviron).toList
    nonce := ← nonce
    now := ← now
    timeText := Timestamp.render }

/-- The place once all files are at hand: each round may name files for the next. -/
def survey (args interfaces : List String) : Nat → Gathered → IO Cli.Place
  | 0, gathered => place gathered interfaces
  | rounds + 1, gathered => do
    let p ← place gathered interfaces
    survey args interfaces rounds (← gather (Cli.filesRead p args interfaces))

def patienceOf (p : Cli.Place) (args : List String) : Patience :=
  match Cli.outlook p args with
  | some (_, .ok c) => { connection := c.connectionTimeout, answer := c.readTimeout }
  | _ => { connection := 5, answer := 15 }

end SecretLayers.Main

open SecretLayers in
def main (args : List String) : IO UInt32 := do
  let interfaces ← Main.interfaceNames
  let place ← Main.survey args interfaces 3 []
  let outcome ← Main.converse (Main.patienceOf place args) (Cli.run place args)
  IO.print outcome.output
  IO.eprint outcome.errors
  return outcome.exit.toUInt32
