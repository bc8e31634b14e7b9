import Rehearsal.Command.Ending
import Rehearsal.Command.Perform
import Rehearsal.Transport.Message
import Std.Async.DNS
import Std.Async.TCP
import Std.Async.Timer
import Std.Time.DateTime.Timestamp

/-! The program: commands at work on the files, the servers and the clock of the machine. -/
namespace Rehearsal.Main
open Std.Async
open Transport (Post Reply)

/-- Does the path lead through a file? The system's number for that comes with one sign or the other. -/
def isThroughFile (code : UInt32) : Bool := code = 20 || code = 0 - 20

def find (path : String) : IO Settings.Found := do
  try
    return .bytes (← IO.FS.readBinFile path).toList
  catch
    | .noFileOrDirectory .. => return .missing
    | .inappropriateType _ code detail => return if isThroughFile code then .missing else .unreadable detail
    | e => return .unreadable (toString e)

def addressOf (ip : Std.Net.IPAddr) (service : UInt16) : Std.Net.SocketAddress :=
  match ip with
  | .v4 addr => .v4 ⟨addr, service⟩
  | .v6 addr => .v6 ⟨addr, service⟩

partial def receiveAll (client : TCP.Socket.Client) (received : ByteArray) : Async ByteArray := do
  match ← client.recv? 65536 with
  | some more => receiveAll client (received ++ more)
  | none => return received

def connect (service : UInt16) : List Std.Net.IPAddr → Async TCP.Socket.Client
  | [] => throw (IO.userError "no address for the host")
  | ip :: rest => do
    let client ← TCP.Socket.Client.mk
    try
      client.connect (addressOf ip service)
      return client
    catch e => if rest.isEmpty then throw e else connect service rest

def converse (p : Post) : Async ByteArray := do
  let service := UInt16.ofNat p.address.service
  let ips ← DNS.getAddrInfo p.address.host (toString p.address.service)
  let client ← connect service ips.toList
  client.send (ByteArray.mk p.toBytes.toArray)
  receiveAll client .empty

def timeOut (limit : Span) : Async ByteArray := do
  sleep (.ofNat (limit.nanos / 1000000))
  throw (IO.userError "operation timed out")

def exchange (limit : Span) : Transport.Exchange IO := fun p => do
  if p.address.secure then return .error "no encrypted connections"
  try
    return Reply.ofBytes (← (Async.race (converse p) (timeOut limit)).block).toList
  catch e => return .error (toString e)

def now : IO (Int × Nat) := do
  let nanos := (← Std.Time.Timestamp.now).toNanosecondsSinceUnixEpoch.toInt
  return (Int.fdiv nanos nanosPerSecond, (Int.fmod nanos nanosPerSecond).toNat)

/-- With sixteen bytes more than the bound has, all numbers below it are as good as equally likely. -/
def draw (bound : Nat) : IO Nat := do
  let bytes ← IO.getRandomBytes (USize.ofNat (bound.log2 / 8 + 17))
  return bytes.foldl (fun n b => 256 * n + b.toNat) 0 % bound

partial def wait (s : Span) : IO Unit := loop ((s.nanos + 1000000 - 1) / 1000000)
where
  loop (millis : Nat) : IO Unit := do
    let step := min millis 1000000000
    IO.sleep step.toUInt32
    if step < millis then loop (millis - step)

def configDirectory : IO (Option String) := do
  match ← IO.getEnv "XDG_CONFIG_HOME" with
  | some d => if d.startsWith "/" then return some d
  | none => pure ()
  return (← IO.getEnv "HOME").map (· ++ "/.config")

def host : IO (Command.Host IO) := do
  let pairs ← Settings.knownVariables.filterMapM fun name => return (← IO.getEnv name).map (name, ·)
  let globalPath := (← configDirectory).map (· ++ "/skillcheck/config.toml")
  let projectPath := toString (← IO.currentDir) ++ "/skillcheck.toml"
  return {
    now := return (← now).1
    draw, wait
    sources := { find, environment := (List.lookup · pairs), globalPath, projectPath }
    net := fun limit => exchange limit }

def ending (arguments : List String) : IO Command.Ending := do
  match Command.Invocation.ofArguments arguments with
  | .error stop => return .ofStop stop
  | .ok i =>
    let x ← Command.perform (← host) i
    let (seconds, nanos) ← now
    return .ofResult (Calendar.fineStamp seconds nanos) i (x.mapError fun f => (f.code, f.message.full))

end Rehearsal.Main

def main (arguments : List String) : IO UInt32 := do
  let e ← Rehearsal.Main.ending arguments
  (← IO.getStdout).putStr e.output
  (← IO.getStderr).putStr e.errors
  return e.code.toUInt32
