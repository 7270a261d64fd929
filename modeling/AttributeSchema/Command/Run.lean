import AttributeSchema.Command.Arguments
import AttributeSchema.Command.Settings
import AttributeSchema.Document.Format
import AttributeSchema.Registry.Bundled
import AttributeSchema.Request.Basic

/-!
# Running the command

The command prepares one request body against a schema document and prints the prepared body. It ends
with status 2 if the request is rejected or the arguments are wrong, and with status 1 if what it reads
cannot be used.
-/

namespace AttributeSchema.Command

/-- One request with the texts that it needs. A text that cannot be read is missing. -/
structure Job where
  format : Format
  document? : Option String
  resource : String
  body? : Option String
  action : Action
  project? : Option String
  admin : Bool
  roles : List String

/-- How a job ends. -/
inductive Result where
  | prepared (members : List (String × Json))
  | rejected (e : RequestError)
  | unusable

namespace Job

/-- Who sends the request. -/
def caller (job : Job) (config : Config) : Caller :=
  { Caller.anonymous with
    project? := job.project?
    roles := job.roles
    adminFlag := job.admin
    serviceRoles := config.serviceRoles }

/-- The registries of the command: what is built in and the bundled validators. -/
def registries : Registries := ⟨⟨∅⟩, Bundled.registry⟩

/-- The schema of the job, if it can be loaded. -/
def schema? (job : Job) : Option Schema := do
  let text ← job.document?
  let set ← (registries.loadText job.format text).toOption
  (set.schema? job.resource).toOption

/-- The members of a text that is a JSON object. -/
def members? (text : String) : Option (List (String × Json)) :=
  match Json.parse? text with
  | some (.object members) => some members
  | _ => none

/-- Prepare the request of a job. -/
def run (job : Job) (config : Config) : Result :=
  match job.schema?, job.body?.bind members? with
  | some schema, some members =>
    let o := Request.prepare schema config (job.caller config) job.action (Body.ofObject members)
    match o.error? with
    | none => .prepared o.body.toObject
    | some e => .rejected e
  | _, _ => .unusable

end Job

/-- What the command prints, and the status with which it ends. -/
structure Reply where
  status : Nat
  output : String := ""
  /-- The reason of a rejected request. -/
  reason? : Option String := none

/-- The reply to a result. -/
def Result.reply : Result → Reply
  | .prepared members => { status := 0, output := (Json.object members).renderIndented 0 ++ "\n" }
  | .rejected e => { status := 2, reason? := some (e.message ++ "\n") }
  | .unusable => { status := 1 }

/-- What the command can read: files by name, its input, and the environment. -/
structure Surroundings where
  file? : String → Option String
  input? : Option String
  environment : List (String × String)

/-- The name of the last part of a path. -/
def fileName (path : String) : List Char :=
  let cs := (path.toList.reverse.dropWhile (· == '/')).reverse
  (Text.splitOn '/' cs).getLast?.getD []

/-- The text after the last dot of a name, unless the dot comes first. -/
def extension? (name : List Char) : Option (List Char) :=
  match (Text.splitOn '.' name).reverse with
  | last :: first :: more => if first.isEmpty && more.isEmpty then none else some last
  | _ => none

/-- The format of a schema document, by the name of its file. -/
def formatOf (path : String) : Format :=
  match extension? (fileName path) with
  | some ext => if (String.ofList ext).toLower == "json" then .json else .yaml
  | none => .yaml

/-- The job that arguments describe. A body with the name of a dash is the input. -/
def Arguments.job (args : Arguments) (around : Surroundings) : Job where
  format := formatOf args.schema
  document? := around.file? args.schema
  resource := args.resource
  body? := if args.body == "-" then around.input? else around.file? args.body
  action := if args.update then .update else .create
  project? := args.project?
  admin := args.admin
  roles := args.roles

/-- The settings that arguments name; a missing file makes them unusable. -/
def Arguments.settings? (args : Arguments) (around : Surroundings) : Option Config :=
  match args.config? with
  | none => Settings.load? none around.environment
  | some path =>
    match around.file? path with
    | some text => Settings.load? (some text) around.environment
    | none => none

/-- The name and the version of the command. -/
def versionText : String := "attrkit-validator 0.2.13\n"

/-- How the command is called. -/
def helpText : String :=
  "Usage: attrkit-validator [OPTIONS] --schema <SCHEMA> --resource <RESOURCE> --body <BODY>\n"

/-- The reply to a command line. -/
def reply (around : Surroundings) (words : List String) : Reply :=
  match meaning {} words with
  | .misuse => { status := 2 }
  | .version => { status := 0, output := versionText }
  | .help => { status := 0, output := helpText }
  | .run args =>
    match args.settings? around with
    | some config => ((args.job around).run config).reply
    | none => { status := 1 }

end AttributeSchema.Command
