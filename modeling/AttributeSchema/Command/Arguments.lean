import AttributeSchema.Text.Pieces

/-!
# Arguments of the command line

An option takes a value, as the next argument or after an equals sign, or is a flag. Each is given at
most once except a role. Asking for the version or for help ends the reading of arguments.
-/

namespace AttributeSchema.Command

/-- The options that take a value. -/
inductive ValueOption where
  | schema
  | resource
  | body
  | project
  | role
  | config
  deriving DecidableEq, Repr

/-- The options without a value. -/
inductive FlagOption where
  | update
  | admin
  | jsonLogs
  deriving DecidableEq, Repr

/-- What a word of the command line refers to. -/
inductive OptionKind where
  | valued (o : ValueOption)
  | flag (o : FlagOption)
  | version
  | help

/-- The option with a long name. -/
def OptionKind.ofName? : String → Option OptionKind
  | "schema" => some (.valued .schema)
  | "resource" => some (.valued .resource)
  | "body" => some (.valued .body)
  | "project-id" => some (.valued .project)
  | "role" => some (.valued .role)
  | "config" => some (.valued .config)
  | "update" => some (.flag .update)
  | "admin" => some (.flag .admin)
  | "json-logs" => some (.flag .jsonLogs)
  | "version" => some .version
  | "help" => some .help
  | _ => none

namespace ValueOption

/-- Whether the option may be repeated. -/
def isRepeatable (o : ValueOption) : Bool := o = .role

/-- Whether the value is the name of a file, which may not be empty. -/
def isPath (o : ValueOption) : Bool := o = .schema || o = .config

end ValueOption

/-- The options that have been read. -/
structure Given where
  values : List (ValueOption × String) := []
  flags : List FlagOption := []

namespace Given

/-- Add a value, if the option may have it. -/
def addValue? (g : Given) (o : ValueOption) (value : String) : Option Given :=
  if o.isPath && value.isEmpty then none
  else if !o.isRepeatable && g.values.any (·.1 = o) then none
  else some { g with values := g.values ++ [(o, value)] }

/-- Add a flag, if it is not there yet. -/
def addFlag? (g : Given) (o : FlagOption) : Option Given :=
  if g.flags.contains o then none else some { g with flags := g.flags ++ [o] }

/-- The value of an option. -/
def value? (g : Given) (o : ValueOption) : Option String :=
  (g.values.find? (·.1 = o)).map Prod.snd

end Given

/-- What a command line asks for. -/
structure Arguments where
  schema : String
  resource : String
  body : String
  update : Bool
  project? : Option String
  admin : Bool
  roles : List String
  config? : Option String
  deriving DecidableEq, Repr

/-- The meaning of a command line. -/
inductive Meaning where
  | run (args : Arguments)
  | version
  | help
  | misuse
  deriving DecidableEq, Repr

/-- The arguments that the options amount to, if no mandatory one is missing. -/
def Given.meaning (g : Given) : Meaning :=
  match g.value? .schema, g.value? .resource, g.value? .body with
  | some schema, some resource, some body =>
    .run
      { schema, resource, body
        update := g.flags.contains .update
        project? := g.value? .project
        admin := g.flags.contains .admin
        roles := (g.values.filter (·.1 = .role)).map Prod.snd
        config? := g.value? .config }
  | _, _, _ => .misuse

/-- Whether a word would be read as an option. -/
def isOption (word : String) : Bool :=
  match word.toList with
  | '-' :: _ :: _ => true
  | _ => false

/-- A word as a long option: its name and the value after an equals sign. -/
def longOption? (word : String) : Option (String × Option String) :=
  match word.toList with
  | '-' :: '-' :: cs =>
    match Text.splitOnce? '=' cs with
    | some (name, value) => some (String.ofList name, some (String.ofList value))
    | none => some (String.ofList cs, none)
  | _ => none

/-- The meaning of a word with one dash: only the first letter counts. -/
def shortOption (word : String) : Meaning :=
  match word.toList with
  | '-' :: 'V' :: _ => .version
  | '-' :: 'h' :: _ => .help
  | _ => .misuse

/-- Read the words of a command line. -/
def meaning (g : Given) : List String → Meaning
  | [] => g.meaning
  | "--" :: rest => if rest.isEmpty then g.meaning else .misuse
  | word :: rest =>
    match longOption? word with
    | none => shortOption word
    | some (name, value?) =>
      match OptionKind.ofName? name, value? with
      | some .version, none => .version
      | some .help, none => .help
      | some (.flag o), none =>
        match g.addFlag? o with
        | some g => meaning g rest
        | none => .misuse
      | some (.valued o), some value =>
        match g.addValue? o value with
        | some g => meaning g rest
        | none => .misuse
      | some (.valued o), none =>
        match rest with
        | [] => .misuse
        | value :: rest =>
          if isOption value then .misuse
          else match g.addValue? o value with
            | some g => meaning g rest
            | none => .misuse
      | _, _ => .misuse

end AttributeSchema.Command
