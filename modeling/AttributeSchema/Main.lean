import AttributeSchema.Command.Run

/-!
# The command line program
-/

open AttributeSchema Command

/-- The text of a file, if it can be read. -/
def readText? (path : String) : IO (Option String) := do
  try return some (← IO.FS.readFile path)
  catch _ => return none

/-- The text of the input, if it can be read. -/
def readInput? : IO (Option String) := do
  try return some (← (← IO.getStdin).readToEnd)
  catch _ => return none

/-- The variables of the environment in their order, which the system offers as a file of its own. -/
def readEnvironment : IO (List (String × String)) := do
  match ← readText? "/proc/self/environ" with
  | some text => return Variable.ofBlock text
  | none =>
    let values ← Variable.names.mapM fun name => do
      return (← IO.getEnv name).map fun text => (name, text)
    return values.filterMap id

/-- Read what a command line refers to. -/
def surroundings (words : List String) : IO Surroundings := do
  let environment ← readEnvironment
  match meaning {} words with
  | .run args =>
    let paths := [args.schema, args.body] ++ args.config?.toList
    let texts ← paths.mapM fun path => do return (path, ← readText? path)
    let input? ← if args.body == "-" then readInput? else pure none
    return { file? := fun path => (texts.lookup path).join, input?, environment }
  | _ => return { file? := fun _ => none, input? := none, environment }

def main (words : List String) : IO UInt32 := do
  let r := reply (← surroundings words) words
  IO.print r.output
  match r.reason? with
  | some reason => IO.eprint reason
  | none => pure ()
  return r.status.toUInt32
