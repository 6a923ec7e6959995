import CacheKeys.CommandLine.Program

/-! # The executable

Reads what the program needs from the system, runs it and writes what it leaves behind. -/

open CacheKeys CacheKeys.CommandLine

def readEntry (path : String) : IO Entry := do
  try
    return .file (← IO.FS.readFile path)
  catch
    | .inappropriateType _ code _ => return if code = 21 then .directory else .beyondFile
    | .invalidArgument .. => return .tooLong
    | _ => return .missing

/-- The workspace of the current directory, with the paths that an invocation can ask for. -/
def readWorkspace (named : Option String) : IO Workspace := do
  let here : Workspace := ⟨(← IO.currentDir).toString, fun _ => .missing, .noTerminal⟩
  let paths := named.toList ++ Session.configCandidates here
  let entries ← paths.mapM fun path => do return (path, ← readEntry path)
  return { here with entry := fun path => (entries.lookup path).getD .missing }

/-- Asks on the terminal whether a file is to be replaced. -/
def ask (path : String) : IO Answer := do
  let terminal ← IO.getStderr
  if !(← terminal.isTty) then return .noTerminal
  terminal.putStr (path ++ " already exists. Overwrite? [y/N] ")
  terminal.flush
  let line ← (← IO.getStdin).getLine
  return if line.startsWith "y" || line.startsWith "Y" then .replace else .keep

/-- The answer that an invocation needs; it is asked for only where a file would be replaced. -/
def readAnswer (w : Workspace) (i : Invocation) : IO Answer := do
  let path := initialConfigPath w
  match i.command, Session.start w i.config with
  | .initConfig false, .ok _ => if (w.entry path).isPresent then ask path else return .noTerminal
  | _, _ => return .noTerminal

def durationOf (nanoseconds : Nat) : Duration := ⟨0, nanoseconds⟩

/-- Evaluates a template again and again, and tells how long each time took. -/
def timeWorker (t : Template.Compiled) (values : List String) (iterations : Nat) :
    IO (Array Duration) :=
  (List.range iterations).foldlM (fun durations _ => do
    let start ← IO.monoNanosNow
    let _ ← IO.lazyPure fun _ => t.evaluate ⟨values⟩
    let stop ← IO.monoNanosNow
    return durations.push (durationOf (stop - start))) #[]

/-- The readings of the clock for a benchmark. -/
def timeBenchmark (s : Session) (template : String) (values : List String)
    (iterations threads : Nat) : IO Clock := do
  match s.compiler.compile template with
  | .error _ => return ⟨fun _ _ => durationOf 0, durationOf 0⟩
  | .ok t =>
    let start ← IO.monoNanosNow
    let tasks ← (List.range threads).mapM fun _ => IO.asTask (timeWorker t values iterations)
    let workers ← tasks.mapM fun task => IO.ofExcept task.get
    let stop ← IO.monoNanosNow
    let evaluation := fun worker i =>
      ((workers[worker]?).bind fun durations => durations[i]?).getD (durationOf 0)
    return ⟨evaluation, durationOf (stop - start)⟩

/-- The readings of the clock that an invocation needs. -/
def readClock (w : Workspace) (i : Invocation) : IO Clock := do
  match i.command, Session.start w i.config with
  | .bench template values iterations threads, .ok s =>
    timeBenchmark s template values iterations threads
  | _, _ => return ⟨fun _ _ => durationOf 0, durationOf 0⟩

/-- Runs the program. -/
def main (args : List String) : IO UInt32 := do
  let result : Outcome ← match Invocation.read args with
    | .error refusal => pure refusal.outcome
    | .ok i => do
      let found ← readWorkspace i.config
      let workspace := { found with answer := ← readAnswer found i }
      let clock ← readClock workspace i
      let environment : Environment := ⟨workspace, ← IO.getEnv "RUST_LOG", clock⟩
      pure ((i.report environment).outcome i.mode)
  (← IO.getStdout).putStr result.out
  (← IO.getStderr).putStr result.err
  if let some (path, text) := result.written then IO.FS.writeFile path text
  return result.exit.toUInt32
