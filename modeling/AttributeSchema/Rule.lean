import AttributeSchema.Check.Leaf
import AttributeSchema.Converter.Basic
import AttributeSchema.Dict
import AttributeSchema.Json.Members
import AttributeSchema.Slot

/-!
# Rules and attribute specifications

The specification of an attribute says who may set it, what it is converted to and which rules its
value has to pass. A leaf rule judges the value as a whole; a structured rule holds the specifications
of the members of an object, so specifications nest. A structured validator is shown what is specified,
at every depth, and judges by it. Main definitions: `Rule.view`, what is shown of a rule, by recursion
over rules and specifications, and `Rule.check`, the verdict of a rule.
-/

namespace AttributeSchema

/-- A leaf validator that was registered by name. -/
structure CustomLeaf where
  name : String
  check : Json → Option Json → Verdict

/-- The validator of a leaf rule. -/
inductive LeafKind where
  | builtin (v : LeafValidator)
  | custom (v : CustomLeaf)

namespace LeafKind

def name : LeafKind → String
  | .builtin v => v.name
  | .custom v => v.name

/-- Judge a value. -/
def check (kind : LeafKind) (param : Option Json) (regex : Option Regex) (v : Json) : Verdict :=
  match kind with
  | .builtin b => b.check param regex v
  | .custom c => c.check v param

end LeafKind

/-- The specification of an attribute, over the type of its rules. -/
structure SpecOf (ρ : Type) where
  /-- The attribute may be given when a resource is created. -/
  allowPost : Bool := false
  /-- The attribute may be given when a resource is updated. -/
  allowPut : Bool := false
  default? : Option Default := none
  /-- An explicit null is replaced by the default. -/
  defaultOverridesNull : Bool := false
  /-- The converters that are applied in turn, if any are declared. -/
  convertTo : Option (List Converter) := none
  convertListTo : Option ListConverter := none
  /-- The rules in the order in which they are applied. -/
  rules : List ρ := []
  /-- The defaults of nested members are filled in. -/
  populateMembers : Bool := false
  required : Bool := false
  enforcePolicy : Bool := false
  requiredByPolicy : Bool := false
  isVisible : Bool := false
  isFilter : Bool := false
  isSortKey : Bool := false
  primaryKey : Bool := false

/-- What a structured validator is shown of a rule. -/
inductive RuleView where
  | leaf (kind : LeafKind) (param : Option Json) (regex : Option Regex)
  /-- A structured rule by its name, by what is shown of its members and by its verdicts. -/
  | structured (name : String) (members : List (String × SpecOf RuleView))
      (verdict : Json → Verdict)

namespace RuleView

/-- Judge a value by a rule. -/
def check : RuleView → Json → Verdict
  | .leaf kind param regex, v => kind.check param regex v
  | .structured _ _ verdict, v => verdict v

/-- Judge a value by some rules in turn; the first rejection counts. -/
def checkAll (rules : List RuleView) (v : Json) : Verdict := Verdict.all (fun r => r.check v) rules

end RuleView

/-- What a built-in structured validator makes of the specification of one member. -/
structure MemberCheck where
  key : String
  required : Bool
  check : Json → Verdict

namespace MemberCheck

/-- The check of a member: it passes the rules of its specification. -/
def ofMember (m : String × SpecOf RuleView) : MemberCheck where
  key := m.1
  required := m.2.required
  check := RuleView.checkAll m.2.rules

/-- Judge the member of an object, if it is there. -/
def onObject (members : List (String × Json)) (m : MemberCheck) : Verdict :=
  match members.lookup m.key with
  | some v => m.check v
  | none => Verdict.pass

/-- Strings in ascending order. -/
def ascending (keys : List String) : List String := keys.mergeSort fun a b => !(b < a)

/-- Judge an object by the checks of its members: required keys are present, and each present member
that has a check passes it. Without checks every object is fine, and so are members without one. -/
def object (checks : List MemberCheck) (v : Json) : Verdict :=
  match v with
  | .object members =>
    let required := (checks.filter (·.required)).map (·.key)
    if required.all fun k => Members.contains k members then
      Verdict.all (onObject members) checks
    else .error (.missingKeys required (ascending (Members.keys members)))
  | v => .error (.notDictionary v)

end MemberCheck

/-- The built-in structured validators. -/
inductive StructuredValidator where
  | object
  | objectOrNull
  | objectOrEmpty
  | objectOrNothing
  | listOfObjects
  deriving DecidableEq, Repr

namespace StructuredValidator

def all : List StructuredValidator :=
  [.object, .objectOrNull, .objectOrEmpty, .objectOrNothing, .listOfObjects]

/-- The name by which documents refer to the validator. -/
def name : StructuredValidator → String
  | .object => "type:dict"
  | .objectOrNull => "type:dict_or_none"
  | .objectOrEmpty => "type:dict_or_empty"
  | .objectOrNothing => "type:dict_or_nodata"
  | .listOfObjects => "type:list_of_dict"

/-- The validator with a given name. -/
def ofName? (name : String) : Option StructuredValidator := all.find? fun v => v.name == name

/-- Whether a value is the empty object. -/
def isEmptyObject : Json → Bool
  | .object [] => true
  | _ => false

/-- Judge a value by the checks of its members. -/
def check (kind : StructuredValidator) (checks : List MemberCheck) (v : Json) : Verdict :=
  match kind with
  | .object => MemberCheck.object checks v
  | .objectOrNull => if v.isNull then Verdict.pass else MemberCheck.object checks v
  | .objectOrEmpty => if isEmptyObject v then Verdict.pass else MemberCheck.object checks v
  | .objectOrNothing =>
    if v.isNull || isEmptyObject v then Verdict.pass else MemberCheck.object checks v
  | .listOfObjects =>
    match v with
    | .array items => Verdict.all (MemberCheck.object checks) items
    | v => .error (.notList v)

end StructuredValidator

/-- A structured validator that was registered by name. It is shown the members that a rule
specifies, in ascending order of keys. -/
structure CustomStructured where
  name : String
  check : List (String × SpecOf RuleView) → Json → Verdict

/-- The validator of a structured rule. -/
inductive StructuredKind where
  | builtin (v : StructuredValidator)
  | custom (v : CustomStructured)

namespace StructuredKind

def name : StructuredKind → String
  | .builtin v => v.name
  | .custom v => v.name

/-- Judge a value by what is shown of the members. -/
def check : StructuredKind → List (String × SpecOf RuleView) → Json → Verdict
  | .builtin v, members => v.check (members.map MemberCheck.ofMember)
  | .custom v, members => v.check members

/-- What is shown of the rule that the validator makes. -/
def view (kind : StructuredKind) (members : List (String × SpecOf RuleView)) : RuleView :=
  .structured kind.name members (kind.check members)

end StructuredKind

/-- A rule that the value of an attribute has to pass. -/
inductive Rule where
  /-- A leaf validator with its parameter and, for a pattern validator, the compiled pattern. -/
  | leaf (kind : LeafKind) (param : Option Json) (regex : Option Regex)
  /-- A structured validator with the specifications of members, in ascending order of keys. -/
  | structured (kind : StructuredKind) (members : List (String × SpecOf Rule))

/-- The specification of an attribute. -/
abbrev Spec := SpecOf Rule

namespace Rule

def name : Rule → String
  | .leaf kind _ _ => kind.name
  | .structured kind _ => kind.name

/-- The specifications of members, for a structured rule. -/
def members? : Rule → Option (List (String × Spec))
  | .leaf _ _ _ => none
  | .structured _ members => some members

/-- The compiled pattern of a pattern validator whose parameter compiles. -/
def patternOf (v : LeafValidator) (param : Option Json) : Option Regex :=
  if v.isPattern then (LeafValidator.compile param).toOption else none

/-- A built-in leaf rule whose parameter is not checked; without its pattern it rejects every value. -/
def ofLeaf (v : LeafValidator) (param : Option Json) : Rule :=
  .leaf (.builtin v) param (patternOf v param)

/-- A built-in leaf rule whose parameter is checked. -/
def ofLeaf? (v : LeafValidator) (param : Option Json) : Except ParamFault Rule :=
  match v.checkParam param with
  | .ok _ => .ok (ofLeaf v param)
  | .error fault => .error fault

/-- A leaf rule with a validator that was registered by name. -/
def ofCustom (v : CustomLeaf) (param : Option Json) : Rule := .leaf (.custom v) param none

mutual

/-- What is shown of a rule. -/
def view : Rule → RuleView
  | .leaf kind param regex => .leaf kind param regex
  | .structured kind members => kind.view (viewMembers members)

/-- What is shown of some rules. -/
def viewAll : List Rule → List RuleView
  | [] => []
  | r :: rs => view r :: viewAll rs

/-- What is shown of a specification. -/
def viewSpec : SpecOf Rule → SpecOf RuleView
  | ⟨allowPost, allowPut, default?, defaultOverridesNull, convertTo, convertListTo, rules,
      populateMembers, required, enforcePolicy, requiredByPolicy, isVisible, isFilter, isSortKey,
      primaryKey⟩ =>
    { allowPost, allowPut, default?, defaultOverridesNull, convertTo, convertListTo,
      populateMembers, required, enforcePolicy, requiredByPolicy, isVisible, isFilter, isSortKey,
      primaryKey
      rules := viewAll rules }

/-- What is shown of the members that a structured rule specifies. -/
def viewMembers : List (String × SpecOf Rule) → List (String × SpecOf RuleView)
  | [] => []
  | (key, spec) :: members => (key, viewSpec spec) :: viewMembers members

end

/-- Judge a value by a rule. -/
def check (r : Rule) (v : Json) : Verdict := r.view.check v

/-- Judge a value by some rules in turn; the first rejection counts. -/
def checkAll (rules : List Rule) (v : Json) : Verdict := Verdict.all (fun r => r.check v) rules

/-- The checks of the members that a structured rule specifies. -/
def memberChecks (members : List (String × Spec)) : List MemberCheck :=
  (viewMembers members).map MemberCheck.ofMember

end Rule

namespace SpecOf

/-- The member specifications of the structured rules, in order. -/
def structuredMembers (spec : Spec) : List (List (String × Spec)) :=
  spec.rules.filterMap Rule.members?

/-- Whether some rule is structured. -/
def isStructured (spec : Spec) : Bool := !spec.structuredMembers.isEmpty

/-- Judge a value by the rules of the specification. -/
def check (spec : Spec) (v : Json) : Verdict := Rule.checkAll spec.rules v

end SpecOf

end AttributeSchema
