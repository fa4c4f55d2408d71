import Replay.CommandLine
import Replay.Http.ScriptedPeer

/-!
The program: files are read from the disk, and neither a WebDriver server nor a display is within reach.
-/

namespace Replay

def fileErrorOfCode (code : UInt32) : Files.FileError :=
  if code = 20 then .notADirectory
  else if code = 21 then .isADirectory
  else .notFound

def fileError : IO.Error → Files.FileError
  | .inappropriateType _ code _ => fileErrorOfCode code
  | .illegalOperation code _ => fileErrorOfCode code
  | .otherError code _ => fileErrorOfCode code
  | _ => .notFound

def readDisk : FileReader IO := fun path => do
  try
    return .ok (← IO.FS.readBinFile path)
  catch error =>
    return .error (fileError error)

end Replay

def main (words : List String) : IO UInt32 := do
  let peer := Replay.Http.ScriptedPeer.peer
  let state := Replay.Http.ScriptedPeer.start false []
  let device := Replay.Input.Device.refusing _
    "no connection could be established: (no successful connection)"
  let result ← Replay.CommandLine.run Replay.readDisk peer device state words
  let out ← IO.getStdout
  out.putStr result.output
  out.flush
  let err ← IO.getStderr
  for report in result.reports do
    err.putStrLn (report.fields.foldl (fun line field => line ++ " " ++ field.1 ++ "=" ++ field.2)
      report.message)
  if let some error := result.error then
    err.putStrLn error
  return UInt32.ofNat result.exit
