import AttributeSchema.Body
import AttributeSchema.Rule

/-!
# Filling in defaults

A default is filled in where nothing is specified, and over an explicit null where the specification
says so. The same rule serves the attributes of a body and the members of an object; a member is
unspecified when it is absent. Main definitions: `Population.fillMembers`, which fills in the nested
defaults of an object, and `SpecOf.populate`, which does so for the state of an attribute.
-/

namespace AttributeSchema

/-- The state that the default puts in place of another one, if it applies to that. -/
def SpecOf.defaultOver? (spec : Spec) (current : Slot) : Option Slot :=
  match spec.default? with
  | none => none
  | some d =>
    match current with
    | .unspecified => some d.slot
    | .null => if spec.defaultOverridesNull then some d.slot else none
    | .value _ => none

/-- Fill in the default of an attribute. -/
def Body.fillDefault (b : Body) (key : String) (spec : Spec) : Body :=
  match spec.defaultOver? (b.slot key) with
  | some s => b.insert key s
  | none => b

namespace Members

/-- The state of a member. -/
def slot (key : String) (ms : List (String × Json)) : Slot :=
  match ms.lookup key with
  | some v => .ofJson v
  | none => .unspecified

/-- Put a member into a state; an unspecified member is removed. -/
def setSlot (key : String) (s : Slot) (ms : List (String × Json)) : List (String × Json) :=
  match s.toJson? with
  | some v => insert key v ms
  | none => swapRemove key ms

/-- Fill in the default of a member. -/
def fillDefault (key : String) (spec : Spec) (ms : List (String × Json)) : List (String × Json) :=
  match spec.defaultOver? (slot key ms) with
  | some s => setSlot key s ms
  | none => ms

end Members

/-- Change the members of an object, where an unspecified state counts as the empty object and any
other state stays as it is. -/
def Slot.onMembers (change : List (String × Json) → List (String × Json)) : Slot → Slot
  | .unspecified => .value (.object (change []))
  | .value (.object ms) => .value (.object (change ms))
  | s => s

namespace Population

mutual

/-- Fill in the defaults of the members of an object, from the inside out for each member. -/
def fillMembers : List (String × SpecOf Rule) → List (String × Json) → List (String × Json)
  | [], ms => ms
  | (key, spec) :: specs, ms =>
    fillMembers specs (Members.fillDefault key spec (fillInside key spec ms))

/-- Fill in the defaults inside one member, if its specification asks for that. -/
def fillInside (key : String) : SpecOf Rule → List (String × Json) → List (String × Json)
  | ⟨_, _, _, overridesNull, _, _, rules, populates, _, _, _, _, _, _, _⟩, ms =>
    if populates then fillByFirst key overridesNull rules ms else ms

/-- Fill in the defaults that the first structured rule specifies. Where the default overrides null, a
null member counts as absent. -/
def fillByFirst (key : String) (overridesNull : Bool) :
    List Rule → List (String × Json) → List (String × Json)
  | [], ms => ms
  | .leaf _ _ _ :: rules, ms => fillByFirst key overridesNull rules ms
  | .structured _ specs :: _, ms =>
    let current := Members.slot key ms
    let current := if overridesNull && current.isNull then .unspecified else current
    match current.onMembers (fillMembers specs) with
    | .value (.object inner) => Members.insert key (.object inner) ms
    | _ => ms

end

end Population

/-- Fill in the nested defaults of an attribute, if its specification asks for that. -/
def SpecOf.populate (spec : Spec) (s : Slot) : Slot :=
  if spec.populateMembers then
    s.onMembers fun ms =>
      spec.structuredMembers.foldl (fun ms specs => Population.fillMembers specs ms) ms
  else s

end AttributeSchema
