import AttributeSchema.Config
import AttributeSchema.Conversion
import AttributeSchema.Population
import AttributeSchema.Request.Ownership

/-!
# Preparation of requests

A request is prepared in stages, each of which reads the attributes in ascending order. Creation
settles the owner, fills in defaults, converts and checks the values and rejects what is not declared;
an update rejects what may not be updated in place of filling in defaults. Main definition:
`Request.prepare`.
-/

namespace AttributeSchema

/-- What a request does to a resource. -/
inductive Action where
  | create
  | update
  deriving DecidableEq, Repr

/-- The word for an action. -/
def Action.name : Action → String
  | .create => "create"
  | .update => "update"

namespace Request

/-- Fill in the nested defaults of an attribute, if it is structured and asks for that. -/
def populateNested (name : String) (spec : Spec) (b : Body) : Body :=
  if spec.populateMembers && spec.isStructured then
    match spec.populate (b.slot name) with
    | .value v => b.insert name (.ofJson v)
    | _ => b
  else b

/-- Fill in the defaults of an attribute that may be given on creation. -/
def fillAttribute (name : String) (spec : Spec) (b : Body) : Outcome :=
  let b := populateNested name spec b
  if spec.default?.isNone && !b.isSupplied name then .fail b (.missing name)
  else .done (b.fillDefault name spec)

/-- Treat one attribute on creation. -/
def createAttribute (checkAllowPost : Bool) (name : String) (spec : Spec) (b : Body) : Outcome :=
  if spec.allowPost then fillAttribute name spec b
  else if checkAllowPost && b.isSupplied name then .fail b (.notOnCreate name)
  else .done b

/-- Fill in the defaults of some attributes. All are treated; the first error counts. -/
def fillAll (checkAllowPost : Bool) : List (String × Spec) → Body → Outcome
  | [], b => .done b
  | (name, spec) :: rest, b =>
    (createAttribute checkAllowPost name spec b).andAlso (fillAll checkAllowPost rest)

/-- Fill in the defaults for a creation. -/
def fillDefaults (schema : Schema) (checkAllowPost : Bool) (b : Body) : Outcome :=
  fillAll checkAllowPost schema.attributes.entries b

/-- Convert and check the value of one attribute. A value that is rejected is stored nevertheless. -/
def convertAttribute (name : String) (spec : Spec) (b : Body) : Outcome :=
  match (b.slot name).toJson? with
  | none => .done b
  | some raw =>
    match spec.convert raw with
    | .error e => .fail b (.conversion e)
    | .ok v =>
      match spec.check v with
      | .ok _ => .done (b.set name v)
      | .error reason => .fail (b.set name v) (.rejected name reason)

/-- Convert and check some attributes in turn, up to the first error. -/
def convertAll : List (String × Spec) → Body → Outcome
  | [], b => .done b
  | (name, spec) :: rest, b => (convertAttribute name spec b).andThen (convertAll rest)

/-- Convert and check the values of a body. -/
def convertValues (schema : Schema) (b : Body) : Outcome :=
  convertAll schema.attributes.entries b

/-- Reject attributes that the schema does not declare. -/
def verifyAttributes (schema : Schema) (b : Body) : Outcome :=
  match b.keys.filter fun key => !schema.declares key with
  | [] => .done b
  | unknown => .fail b (.undeclared unknown)

/-- Reject the first attribute that is supplied and may not be updated. -/
def checkUpdatable (schema : Schema) (b : Body) : Outcome :=
  match schema.attributes.entries.find? fun (name, spec) => !spec.allowPut && b.isSupplied name with
  | some (name, _) => .fail b (.notOnUpdate name)
  | none => .done b

/-- Prepare the body of a request. -/
def prepare (schema : Schema) (config : Config) (caller : Caller) (action : Action) (b : Body) :
    Outcome :=
  ((Ownership.settle schema caller (action = .create) b).andThen fun b =>
    match action with
    | .create => fillDefaults schema config.checkAllowPost b
    | .update => checkUpdatable schema b).andThen fun b =>
  (convertValues schema b).andThen fun b =>
  if config.verifyAttributes then verifyAttributes schema b else .done b

end Request

end AttributeSchema
