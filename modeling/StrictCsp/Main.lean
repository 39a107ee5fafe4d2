import StrictCsp.Cli.Run

/-!
# The command

The program entry: it gathers what a run can see (the arguments, the
standard input when the page comes from there, the files a run may read and
the variables it may consult), seeds the random source, runs the command and
prints what the run leaves behind, ending with its exit code.
-/

namespace StrictCsp.Cli

open StrictCsp.Entropy

/-- The system's message for a failed read, in the form the command prints. -/
def ioMessage : IO.Error → String
  | .noFileOrDirectory _ code _ => s!"No such file or directory (os error {code})"
  | .inappropriateType _ 21 _ => "Is a directory (os error 21)"
  | .permissionDenied _ code _ => s!"Permission denied (os error {code})"
  | e => toString e

/-- Reads a file, keeping the system's message when it cannot be read. -/
def readPath (path : String) : IO (Except String String) := do
  try
    pure (.ok (← IO.FS.readFile path))
  catch e =>
    pure (.error (ioMessage e))

/-- Reads a stream to its end. -/
partial def readAll (stream : IO.FS.Stream) (acc : String) : IO String := do
  let line ← stream.getLine
  if line.isEmpty then pure acc else readAll stream (acc ++ line)

/-- The paths a run may read: the configuration file, from the command line or the
environment, and the input. -/
def candidatePaths (o : Options) (env : String → Option String) : List String :=
  o.config.toList ++ o.input.toList ++
    ((env Config.configPathVar).map Text.trimString).toList

/-- Seeds a random source from the system. -/
def systemSource : IO Source := do
  let bytes ← IO.getRandomBytes 8
  let seed := bytes.toList.foldl (fun acc b => acc * 256 + b.toNat) 0
  pure (Source.ofSeed (UInt64.ofNat seed))

end StrictCsp.Cli

open StrictCsp StrictCsp.Cli in
/-- Runs the command. -/
def main (args : List String) : IO UInt32 := do
  let vars ← Config.variableNames.filterMapM fun n => do
    pure ((← IO.getEnv n).map (n, ·))
  let env := fun n => (vars.find? (·.1 == n)).map (·.2)
  let options := (parse args).toOption
  let stdin ← match options with
    | some o => if o.input.isNone then readAll (← IO.getStdin) "" else pure ""
    | none => pure ""
  let paths := match options with
    | some o => candidatePaths o env
    | none => []
  let contents ← paths.mapM fun p => do pure (p, ← readPath p)
  let read : Config.Reader := fun p =>
    match contents.find? (·.1 == p) with
    | some (_, r) => r
    | none => .error Config.noSuchFile
  let src ← systemSource
  let exit := match ((run ⟨args, stdin, read, env⟩).run src).1 with
    | .ok e => e
    | .error _ => ⟨1, "", "Error: the run stopped\n", none⟩
  IO.print exit.stdout
  IO.eprint exit.stderr
  pure exit.code.toUInt32
