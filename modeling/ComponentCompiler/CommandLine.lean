import ComponentCompiler.Command

/-!
The command line: words are read from left to right as options, values and positional words. Options may be written long
or short, with their value in the same word or in the next one, and short ones may share a word. No option may be given
twice.
-/

namespace ComponentCompiler.CommandLine

/-- an option: its long and its short name, and whether a value belongs to it -/
structure OptionSpec where
  long : String
  short : Char
  takesValue : Bool
  deriving DecidableEq, Repr

/-- one thing that was read: an option by its long name, an option with a value, or a positional word -/
inductive Item where
  | flag (long : String)
  | option (long value : String)
  | word (text : String)
  deriving DecidableEq, Repr

/-- how reading went on -/
inductive Ending where
  | done
  | awaiting (long : String)
  | malformed
  deriving DecidableEq, Repr

/-- what was read, and how it ended -/
structure Scan where
  items : List Item
  ending : Ending
  deriving DecidableEq, Repr

/-- the command line is not understood -/
structure Usage where
  deriving DecidableEq, Repr

/-! ## Reading words -/

/-- a text up to its first equals sign, and what follows that sign if there is one -/
def splitEquals : List Char → List Char × Option (List Char)
  | [] => ([], none)
  | c :: rest =>
    if c == '=' then ([], some rest)
    else
      let (before, after) := splitEquals rest
      (c :: before, after)

/-- an option in its long form, behind the two dashes -/
def longOption (specs : List OptionSpec) (text : List Char) : Scan :=
  let (name, attached) := splitEquals text
  match specs.find? (·.long == String.ofList name), attached with
  | none, _ => ⟨[], .malformed⟩
  | some spec, none => if spec.takesValue then ⟨[], .awaiting spec.long⟩ else ⟨[.flag spec.long], .done⟩
  | some spec, some value =>
    if spec.takesValue then ⟨[.option spec.long (String.ofList value)], .done⟩ else ⟨[], .malformed⟩

/-- the value behind a short option in the same word: one equals sign does not belong to it -/
def attachedValue (text : List Char) : String :=
  match text with
  | '=' :: value => String.ofList value
  | value => String.ofList value

/-- options in their short form, behind the dash -/
def shortOptions (specs : List OptionSpec) : List Char → Scan
  | [] => ⟨[], .done⟩
  | c :: rest =>
    match specs.find? (·.short == c) with
    | none => ⟨[], .malformed⟩
    | some spec =>
      if spec.takesValue then
        if rest.isEmpty then ⟨[], .awaiting spec.long⟩ else ⟨[.option spec.long (attachedValue rest)], .done⟩
      else
        let later := shortOptions specs rest
        ⟨.flag spec.long :: later.items, later.ending⟩

/-- whether a word is a value or a positional word: a single dash is one -/
def isPlainWord (word : List Char) : Bool :=
  match word with
  | '-' :: _ :: _ => false
  | _ => true

/-- read one word that is no positional word -/
def readOptions (specs : List OptionSpec) (word : List Char) : Scan :=
  match word with
  | '-' :: '-' :: text => longOption specs text
  | '-' :: text => shortOptions specs text
  | _ => ⟨[], .malformed⟩

/-- read words up to the first positional word that `stops` the reading: what was read, and the words from there on.
Behind a word of two dashes all words are positional and none stops. -/
def scan (specs : List OptionSpec) (stops : Bool) : (awaiting : Option String) → List String → Scan × List String
  | none, [] => (⟨[], .done⟩, [])
  | some long, [] => (⟨[], .awaiting long⟩, [])
  | some long, word :: rest =>
    if isPlainWord word.toList then
      let (later, left) := scan specs stops none rest
      (⟨.option long word :: later.items, later.ending⟩, left)
    else (⟨[], .malformed⟩, [])
  | none, word :: rest =>
    if word == "--" then (⟨rest.map .word, .done⟩, [])
    else if isPlainWord word.toList then
      if stops then (⟨[], .done⟩, word :: rest)
      else
        let (later, left) := scan specs stops none rest
        (⟨.word word :: later.items, later.ending⟩, left)
    else
      let read := readOptions specs word.toList
      match read.ending with
      | .malformed => (read, [])
      | .done =>
        let (later, left) := scan specs stops none rest
        (⟨read.items ++ later.items, later.ending⟩, left)
      | .awaiting long =>
        let (later, left) := scan specs stops (some long) rest
        (⟨read.items ++ later.items, later.ending⟩, left)

/-! ## Invocations -/

/-- options of every command -/
structure General where
  config : Path := .ofString "webcc.toml"
  verbose : Bool := false
  deriving DecidableEq, Repr

inductive Invocation where
  | version
  | help
  | targets (general : General)
  | compile (general : General) (options : Command.Options)
  deriving DecidableEq, Repr

/-- items end a reading early when they ask for the version or for help -/
inductive Early where
  | version
  | help
  | usage
  deriving DecidableEq, Repr

/-- what an early end leads to -/
def Early.result : Early → Except Usage Invocation
  | .version => .ok .version
  | .help => .ok .help
  | .usage => .error ⟨⟩

/-- the options before the command -/
def generalSpecs : List OptionSpec :=
  [⟨"config", 'c', true⟩, ⟨"verbose", 'v', false⟩, ⟨"version", 'V', false⟩, ⟨"help", 'h', false⟩]

def compileSpecs : List OptionSpec :=
  [⟨"source", 's', true⟩, ⟨"output", 'o', true⟩, ⟨"props", 'p', true⟩, ⟨"debug", 'd', false⟩, ⟨"help", 'h', false⟩]

def targetsSpecs : List OptionSpec := [⟨"help", 'h', false⟩]

/-- set a value that is not set yet -/
def setOnce {α : Type} (slot : Option α) (value : α) : Except Early (Option α) :=
  if slot.isSome then .error .usage else .ok (some value)

/-- set a path that is not set yet; the empty path is none -/
def setPath (slot : Option Path) (value : String) : Except Early (Option Path) :=
  if value.isEmpty then .error .usage else setOnce slot (.ofString value)

/-- what the options before the command say so far -/
structure GeneralSlots where
  config : Option Path := none
  verbose : Option Unit := none
  deriving DecidableEq, Repr

def GeneralSlots.set (slots : GeneralSlots) : Item → Except Early GeneralSlots
  | .option "config" value => do return { slots with config := ← setPath slots.config value }
  | .flag "verbose" => do return { slots with verbose := ← setOnce slots.verbose () }
  | .flag "version" => .error .version
  | .flag "help" => .error .help
  | _ => .error .usage

def GeneralSlots.general (slots : GeneralSlots) : General where
  config := slots.config.getD (.ofString "webcc.toml")
  verbose := slots.verbose.isSome

/-- what the words of a compile command say so far -/
structure CompileSlots where
  target : Option String := none
  source : Option Path := none
  output : Option Path := none
  props : Option Path := none
  debug : Option Unit := none
  deriving DecidableEq, Repr

def CompileSlots.set (slots : CompileSlots) : Item → Except Early CompileSlots
  | .word text => do return { slots with target := ← setOnce slots.target text }
  | .option "source" value => do return { slots with source := ← setPath slots.source value }
  | .option "output" value => do return { slots with output := ← setPath slots.output value }
  | .option "props" value => do return { slots with props := ← setPath slots.props value }
  | .flag "debug" => do return { slots with debug := ← setOnce slots.debug () }
  | .flag "help" => .error .help
  | _ => .error .usage

/-- the options of a compile command; a source is required -/
def CompileSlots.options (slots : CompileSlots) : Except Early Command.Options :=
  match slots.source with
  | none => .error .usage
  | some source => .ok {
      target := slots.target, source, output := slots.output, props := slots.props, debug := slots.debug.isSome }

/-- the slots after everything that was read; a reading that did not come to its end is refused after what it read -/
def fill {σ : Type} (set : σ → Item → Except Early σ) (start : σ) (read : Scan) : Except Early σ := do
  let slots ← read.items.foldlM set start
  match read.ending with
  | .done => return slots
  | _ => .error .usage

def readCompile (general : General) (words : List String) : Except Early Invocation := do
  let slots ← fill CompileSlots.set {} (scan compileSpecs false none words).1
  return .compile general (← slots.options)

def readTargets (general : General) (words : List String) : Except Early Invocation := do
  fill (fun _ item => .error (if item == .flag "help" then .help else .usage)) () (scan targetsSpecs false none words).1
  return .targets general

/-- the words of a command line as an invocation, or an early end -/
def readWords (words : List String) : Except Early Invocation := do
  let (read, command) := scan generalSpecs true none words
  let slots ← fill GeneralSlots.set {} read
  match command with
  | "compile" :: rest => readCompile slots.general rest
  | "targets" :: rest => readTargets slots.general rest
  | ["help"] | ["help", "compile"] | ["help", "targets"] => .error .help
  | _ => .error .usage

def parse (words : List String) : Except Usage Invocation :=
  match readWords words with
  | .ok invocation => .ok invocation
  | .error early => early.result

/-! ## Running an invocation -/

/-- whether an invocation shows log entries of a level -/
def Invocation.shows : Invocation → Level → Bool
  | .targets general, .debug => general.verbose
  | .compile general _, .debug => general.verbose
  | _, _ => true

def versionLine : String := "webcc 0.1.0"

def usageLines : List String := [
  "Usage: webcc [-c PATH] [-v] compile [TARGET] -s PATH [-o PATH] [-p PATH] [-d]",
  "       webcc [-c PATH] [-v] targets"]

/-- end with an error -/
def fail (message : String) : Task Nat := do
  Task.complain ("Error: " ++ message)
  return 1

def withSettings (general : General) (command : Settings → Task Nat) : Task Nat := do
  match ← (Settings.load general.config).run with
  | .error fault => fail fault.message
  | .ok settings => command settings

def exitCode : Command.Outcome → Nat
  | .unsupportedTarget => 2
  | _ => 0

def execute : Invocation → Task Nat
  | .version => do
    Task.print versionLine
    return 0
  | .help => do
    usageLines.forM Task.print
    return 0
  | .targets general => withSettings general fun _ => do
    Registry.builtin.lines.forM Task.print
    return 0
  | .compile general options => withSettings general fun settings => do
    match ← (Command.run options settings).run with
    | .ok outcome => return exitCode outcome
    | .error fault => fail fault.message

end ComponentCompiler.CommandLine
