import FacetSearch.CommandLine.Run
import FacetSearch.Elastic.Http
import Std.Async.DNS
import Std.Async.TCP
import Std.Async.Timer

/-!
# The program

The host of command lines is the machine: its files, its standard input and
connections to the engine.
-/

namespace FacetSearch.Machine

open Std.Async

/-- The fault that an error of the system stands for. -/
def faultOf (error : IO.Error) : FileFault :=
  match error with
  | .noFileOrDirectory .. => .notFound
  | .noSuchThing _ code details =>
      if code = 20 then .notADirectory
      else if code = 2 then .notFound
      else .other details
  | .inappropriateType _ code details =>
      if code = 20 then .notADirectory
      else if code = 21 then .isADirectory
      else .other details
  | other => .other (toString other)

/-- Turn the errors of an action into faults. -/
def guard {α : Type} (action : IO α) : IO (Except FileFault α) := do
  try
    let value ← action
    pure (.ok value)
  catch error => pure (.error (faultOf error))

/-- The text that bytes encode. -/
def decode (bytes : ByteArray) : Except FileFault String :=
  match String.fromUTF8? bytes with
  | some text => .ok text
  | none => .error .notText

/-- The text of a file. -/
def readText (path : String) : IO (Except FileFault String) := do
  let bytes ← guard (IO.FS.readBinFile path)
  pure (bytes.bind decode)

/-- The entries of a directory.  A link to a directory is none itself. -/
def entries (path : String) : IO (Except FileFault (List DirectoryEntry)) :=
  guard do
    let found ← (System.mkFilePath [path]).readDir
    found.toList.mapM fun entry => do
      let metadata ← entry.path.symlinkMetadata
      pure { name := entry.fileName, isDirectory := metadata.type == .dir }

/-- The directory that a path lies in, if it names any. -/
def parent? (path : String) : Option String :=
  match path.toList.reverse.dropWhile (· != '/') with
  | [] => none
  | ['/'] => none
  | _ :: above => some (String.ofList above.reverse)

/-- Write a file and the directories that it lies in. -/
def writeText (path text : String) : IO (Except FileFault Unit) :=
  guard do
    match parent? path with
    | some directory => IO.FS.createDirAll directory
    | none => pure ()
    IO.FS.writeFile path text

/-- All bytes of a stream. -/
partial def readAll (stream : IO.FS.Stream) (bytes : ByteArray) : IO ByteArray := do
  let more ← stream.read 65536
  if more.isEmpty then pure bytes else readAll stream (bytes ++ more)

/-- All bytes that the other side of a connection sends. -/
partial def receiveAll (socket : TCP.Socket.Client) (bytes : ByteArray) : Async ByteArray := do
  match ← socket.recv? 65536 with
  | none => pure bytes
  | some more => receiveAll socket (bytes ++ more)

/-- A socket address. -/
def socketAddress (host : Std.Net.IPAddr) (service : UInt16) : Std.Net.SocketAddress :=
  match host with
  | .v4 host => .v4 ⟨host, service⟩
  | .v6 host => .v6 ⟨host, service⟩

/-- Send a request to an address, and read the reply. -/
def talk (address : Elastic.Http.Address) (request : Elastic.Request) :
    Async Elastic.Exchange := do
  let hosts ← DNS.getAddrInfo address.host ""
  match hosts.toList with
  | [] => pure (Elastic.Http.unreachable request)
  | host :: _ =>
      let socket ← TCP.Socket.Client.mk
      socket.connect (socketAddress host address.service)
      socket.send (Elastic.Http.requestText address request).toUTF8
      let bytes ← receiveAll socket ByteArray.empty
      pure (Elastic.Http.outcomeOf bytes.toList)

/-- Wait, and give up an exchange. -/
def giveUp (patience : UInt64) : Async Elastic.Exchange := do
  sleep (Std.Time.Millisecond.Offset.ofNat patience.toNat)
  pure .timedOut

/-- Exchange a request, for a limited time. -/
def exchange (patience : UInt64) (request : Elastic.Request) :
    IO CommandLine.TimedExchange := do
  match Elastic.Http.Address.ofUrl? request.url with
  | none => pure { delay := 0, exchange := Elastic.Http.unreachable request }
  | some address =>
      if address.isSecure then
        pure { delay := 0, exchange := .failed "secure connections are not supported" }
      else
        let start ← IO.monoMsNow
        let outcome ←
          try (Async.race (talk address request) (giveUp patience)).block
          catch _ => pure (Elastic.Http.unreachable request)
        let elapsed := (← IO.monoMsNow) - start
        pure {
          delay := if outcome = .timedOut then patience.toNat + 1 else min elapsed patience.toNat
          exchange := outcome
        }

instance : FileAccess IO where
  readText := readText
  entries := entries
  isPresent path := (System.mkFilePath [path]).pathExists
  writeText := writeText

instance : CommandLine.Host IO where
  readInput := do
    let bytes ← guard do readAll (← IO.getStdin) ByteArray.empty
    pure (bytes.bind decode)
  exchange := exchange

end FacetSearch.Machine

/-- Run the command line, print what it reports and exit with its code. -/
def main (arguments : List String) : IO UInt32 := do
  let environment : FacetSearch.CommandLine.Environment := {
    home := ← IO.getEnv "HOME"
    settingsFile := ← IO.getEnv "QUIVER_CONFIG"
  }
  let report ← FacetSearch.CommandLine.run (m := IO) environment arguments
  (← IO.getStdout).putStr report.output
  (← IO.getStderr).putStr report.errors
  pure report.code.toUInt32
