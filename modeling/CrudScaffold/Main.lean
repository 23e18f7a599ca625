import CrudScaffold.Command.Run

/-!
# The command-line program

Reads the settings file that the arguments name, if there is one, runs the command, writes
the generated code to standard output and ends with the run's exit code. A failure that is
not the generator's own is written to standard error and ends the program with code 1.
No model modules are importable from here, so a model path reads as a module that is not
found.
-/

open CrudScaffold

/-- The settings file that a command line names, read from disk, if it exists. -/
def namedFiles (args : List String) : IO (List (String × String)) := do
  match Command.Request.ofArgs args with
  | .run o =>
    match Command.given o.config with
    | some path =>
      try
        let text ← IO.FS.readFile path
        pure [(path, text)]
      catch _ => pure []
    | none => pure []
  | _ => pure []

/-- Runs the generator's command line. -/
def main (args : List String) : IO UInt32 := do
  let files ← namedFiles args
  match Command.run files {} args with
  | .ok out =>
    IO.print out.stdout
    (← IO.getStdout).flush
    pure out.exitCode.toUInt32
  | .error e =>
    IO.eprintln (e.kindName ++ ": " ++ e.message)
    pure 1
