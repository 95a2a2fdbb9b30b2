import Std.Time.DateTime.Timestamp
import UsageWatch.Program
import UsageWatch.TestData
/-!
# The program

Reads the files that a run may need, decides the run, and then prints, writes
and ends as it says. A server answers requests that come in on standard input,
one on a line with its method and its target.
-/

namespace UsageWatch

def readEntry (path : String) : IO FileEntry := do
  try
    pure (.file (← IO.FS.readBinFile path))
  catch
    | .noFileOrDirectory .. => pure .absent
    | _ => pure .unreadable

def readFiles (paths : List String) : IO Files := do
  let entries ← paths.mapM fun path => do pure (path, ← readEntry path)
  pure fun path => (entries.lookup path).getD .absent

def currentTime : IO Timestamp := do
  let now ← Std.Time.Timestamp.now
  pure ((Timestamp.ofNanos? now.toNanosecondsSinceUnixEpoch.val).getD .epoch)

def lookAround (words : List String) : IO Surroundings := do
  let files ← readFiles (Program.paths words)
  let now ← currentTime
  let stamp := now.civil?.elim "" (·.isoText)
  let seed := now.nanos.toNat
  let synthetic samples packages processes :=
    ((TestData.make TestData.random stamp samples packages processes).run (mkStdGen seed)).1
  pure { files, now, synthetic }

def writeFile (file : OutputFile) : IO Bool := do
  try
    IO.FS.writeBinFile file.path file.content
    IO.print file.notice
    pure true
  catch e =>
    IO.eprintln (toString e)
    pure false

def printResponse (r : Response) : IO Unit := do
  IO.println (toString r.status ++ " " ++ r.contentType.getD "-")
  let output ← IO.getStdout
  match r.body with
  | .text s => output.putStrLn s
  | .bytes bs => output.write ⟨bs.toArray⟩
  output.flush

/-- Answers requests until the input ends. -/
partial def answerRequests (input : IO.FS.Stream) (server : Server) (lastTick : Timestamp) :
    IO Unit := do
  let line ← input.getLine
  if line.isEmpty then return
  let now ← currentTime
  let (server, lastTick) := server.tickIfDue lastTick now
  match (Text.fields ' ' (Text.trim line.toList)).map String.ofList with
  | [method, target] =>
    let (server, response) := server.respond method target now
    printResponse response
    let spent := (← currentTime).since now
    let server :=
      if target = "/metrics" then server.recordScrape (spent.toFloat / 1000000000) else server
    answerRequests input server lastTick
  | _ =>
    printResponse (.bare 400)
    answerRequests input server lastTick

def carryOut (outcome : Outcome) : IO UInt32 := do
  IO.print outcome.printed
  let written ← outcome.file.elim (pure true) writeFile
  if let some reason := outcome.complaint then IO.eprintln ("Error: " ++ reason)
  match outcome.ending with
  | .exit code => pure (if written then UInt32.ofNat code else 1)
  | .serve endpoint server =>
    IO.eprintln ("serving " ++ endpoint.address.text ++ " port " ++ toString endpoint.port.toNat)
    answerRequests (← IO.getStdin) server (← currentTime)
    pure 0

end UsageWatch

def main (words : List String) : IO UInt32 := do
  let surroundings ← UsageWatch.lookAround words
  UsageWatch.carryOut (UsageWatch.Program.run surroundings words)
