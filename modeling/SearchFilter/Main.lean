import SearchFilter.Cli.CommandLine

/-!
# The command line program

Passes the arguments and the environment on to `Cli.run` and prints the outcome.  The program opens
no connections itself: to it every server is unreachable, so `search` ends with an error.
-/

open SearchFilter

/-- No server answers. -/
def offline : Http.Server Unit := fun _ state => (.unreachable, state)

/-- Runs the program. -/
def main (arguments : List String) : IO UInt32 := do
  let environment : Environment :=
    ⟨← IO.getEnv "ELASTICSEARCH_URL", ← IO.getEnv "ELASTICSEARCH_API_KEY"⟩
  match (Cli.run offline environment arguments ()).1 with
  | .ok outcome =>
    IO.print outcome.stdout
    IO.eprint outcome.stderr
    return UInt32.ofNat outcome.exitCode
  | .error e =>
    IO.eprintln e.message
    return 1
