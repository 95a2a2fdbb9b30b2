import UsageWatch.Server
/-!
# Runs of a server

What reaches a server, one thing after the other: its own regular events, and
requests.
-/

namespace UsageWatch

inductive Incident where
  | tick (now : Timestamp)
  | request (method uri : String) (now : Timestamp)

namespace Server

def handle (s : Server) : Incident → Server × Option Response
  | .tick now => (s.tick now, none)
  | .request method uri now =>
    let (s, response) := s.respond method uri now
    (s, some response)

def run (s : Server) : List Incident → Server × List (Option Response)
  | [] => (s, [])
  | incident :: rest =>
    let (next, response) := s.handle incident
    let (last, responses) := next.run rest
    (last, response :: responses)

end Server

end UsageWatch
