import ComponentCompiler.Discovery
import ComponentCompiler.Task

/-!
Sessions: a disk in memory together with everything that was reported and printed. A session answers every request of a
task.
-/

namespace ComponentCompiler

/-- a disk, the log and the two output streams -/
structure Session where
  disk : Disk
  log : List LogEntry := []
  out : String := ""
  err : String := ""
  deriving DecidableEq, Repr

namespace Session

/-- put a changed disk in place, or keep the disk if the change failed -/
def update (s : Session) (result : Except Disk.Fault Disk) : Except Disk.Fault Unit × Session :=
  match result with
  | .ok disk => (.ok (), { s with disk })
  | .error fault => (.error fault, s)

/-- the answer to a request, and the session after it -/
def answer (s : Session) : (request : Request) → request.Answer × Session
  | .readText p => (s.disk.readText p, s)
  | .isPresent p => (s.disk.isPresent p, s)
  | .isDirectory p => (s.disk.isDirectory p, s)
  | .sourcesBelow dir => (Discovery.sources s.disk dir, s)
  | .makeDirs p => ((s.disk.makeDirs p).1, { s with disk := (s.disk.makeDirs p).2 })
  | .writeText p text => s.update (s.disk.writeText p text)
  | .note entry => ((), { s with log := s.log ++ [entry] })
  | .print line => ((), { s with out := s.out ++ line ++ "\n" })
  | .complain line => ((), { s with err := s.err ++ line ++ "\n" })

def host : Host (StateM Session) := fun request => do
  let s ← get
  let (answer, s) := s.answer request
  set s
  return answer

def run {α : Type} (s : Session) (task : Task α) : α × Session :=
  (task.runIn host).run s

end Session

end ComponentCompiler
