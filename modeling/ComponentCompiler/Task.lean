import ComponentCompiler.Disk.Tree
import ComponentCompiler.Log
import ComponentCompiler.Path

/-!
Tasks: programs that ask the world for one thing at a time. A task is done, or it waits for the answer to a request, or
more than one request is under way and it is not for the task to say which one is served first. A host answers requests.
It does so at once, so that nothing is ever under way with it, and a task goes the first way at every choice.

The same task runs against a disk held in memory, against a sink that only takes notes, and against the real file
system. `gather` puts tasks side by side, with their requests in any order; `tryBoth` two that end together when one of
them fails.
-/

namespace ComponentCompiler

/-- what a task can ask for -/
inductive Request where
  | readText (path : Path)
  | isPresent (path : Path)
  | isDirectory (path : Path)
  | sourcesBelow (dir : Path)
  | makeDirs (path : Path)
  | writeText (path : Path) (text : String)
  | note (entry : LogEntry)
  | print (line : String)
  | complain (line : String)
  deriving DecidableEq, Repr

@[reducible]
def Request.Answer : Request → Type
  | .readText _ => Except Disk.Fault String
  | .isPresent _ => Bool
  | .isDirectory _ => Bool
  | .sourcesBelow _ => List Path
  | .makeDirs _ => Except Disk.Fault Unit
  | .writeText _ _ => Except Disk.Fault Unit
  | .note _ => Unit
  | .print _ => Unit
  | .complain _ => Unit

/-- a program that ends with an `α`; at a `pick` it goes on in one of two ways -/
inductive Task (α : Type) where
  | done (result : α)
  | ask (request : Request) (next : request.Answer → Task α)
  | pick (next : Bool → Task α)

namespace Task

variable {α β γ ε : Type}

def bind : Task α → (α → Task β) → Task β
  | done result, f => f result
  | ask request next, f => ask request fun answer => (next answer).bind f
  | pick next, f => pick fun way => (next way).bind f

instance : Monad Task where
  pure := done
  bind := bind

def send (request : Request) : Task request.Answer :=
  ask request done

def readText (p : Path) : Task (Except Disk.Fault String) := send (.readText p)

def isPresent (p : Path) : Task Bool := send (.isPresent p)

def isDirectory (p : Path) : Task Bool := send (.isDirectory p)

def sourcesBelow (dir : Path) : Task (List Path) := send (.sourcesBelow dir)

def makeDirs (p : Path) : Task (Except Disk.Fault Unit) := send (.makeDirs p)

def writeText (p : Path) (text : String) : Task (Except Disk.Fault Unit) := send (.writeText p text)

def note (level : Level) (text : String) : Task Unit := send (.note ⟨level, text⟩)

def print (line : String) : Task Unit := send (.print line)

def complain (line : String) : Task Unit := send (.complain line)

/-! ## Side by side -/

/-- a step that is taken before another task goes on, or later -/
def sooner (step : Task α → Task β) : Task α → Task β
  | done result => step (done result)
  | ask request next => pick fun now =>
    if now then step (ask request next) else ask request fun answer => sooner step (next answer)
  | pick next => pick fun now => if now then step (pick next) else pick fun way => sooner step (next way)

/-- two tasks side by side, with their requests in any order -/
def beside : Task α → Task β → Task (α × β)
  | done a, other => other.bind fun b => done (a, b)
  | ask request next, other => sooner (fun other => ask request fun answer => (next answer).beside other) other
  | pick next, other => sooner (fun other => pick fun way => (next way).beside other) other

/-- tasks side by side, with their requests in any order; the results have the order of the tasks -/
def gather : List (Task α) → Task (List α)
  | [] => done []
  | t :: tasks => (t.beside (gather tasks)).bind fun (a, results) => done (a :: results)

/-- end without waiting for a task that is under way: it is still served, or not any more -/
def leave (t : Task β) (result : α) : Task α :=
  pick fun unserved => if unserved then done result else t.bind fun _ => done result

/-- two tasks of one request each, the first of which is served first; when it fails, the other one is left -/
def tryInTurn (t : ExceptT ε Task α) (u : ExceptT ε Task β) : ExceptT ε Task (α × β) := ExceptT.mk <| t.run.bind fun
  | .ok a => u.run.bind fun result => done (result.map (a, ·))
  | .error e => leave u.run (.error e)

/-- two tasks of one request each that are under way at once -/
def tryBoth (t : ExceptT ε Task α) (u : ExceptT ε Task β) : ExceptT ε Task (α × β) := ExceptT.mk <| pick fun inOrder =>
  if inOrder then (tryInTurn t u).run else (tryInTurn u t).run.bind fun result => done (result.map Prod.swap)

end Task

abbrev Host (m : Type → Type) := (request : Request) → m request.Answer

/-- run a task to its end -/
def Task.runIn {m : Type → Type} [Monad m] {α : Type} (host : Host m) : Task α → m α
  | .done result => pure result
  | .ask request next => do (next (← host request)).runIn host
  | .pick next => (next true).runIn host

end ComponentCompiler
