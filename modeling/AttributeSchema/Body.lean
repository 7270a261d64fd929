import AttributeSchema.Dict
import AttributeSchema.Slot

/-!
# Request bodies

A request body maps attributes to their states. An attribute that is not mentioned reads as
unspecified; the mark that nothing was specified may also be stored.
-/

namespace AttributeSchema

/-- A request body. -/
abbrev Body := Dict Slot

namespace Body

/-- The state of an attribute. -/
def slot (b : Body) (key : String) : Slot := (b.get? key).getD .unspecified

/-- Whether the body gives a value or null for an attribute. -/
def isSupplied (b : Body) (key : String) : Bool := (b.slot key).isSupplied

/-- The body of an object. -/
def ofObject (members : List (String × Json)) : Body :=
  Dict.ofPairs (members.map fun (k, v) => (k, Slot.ofJson v))

/-- The members of the body in ascending order, without the unspecified ones. -/
def toObject (b : Body) : List (String × Json) :=
  b.entries.filterMap fun (k, s) => s.toJson?.map fun v => (k, v)

/-- Set the value of an attribute. -/
def set (b : Body) (key : String) (v : Json) : Body := b.insert key (.ofJson v)

theorem slot_insert (b : Body) (key k : String) (s : Slot) :
    slot (b.insert key s) k = if k = key then s else b.slot k := by
  unfold slot
  rw [Dict.get?_insert]
  split <;> rfl

@[simp] theorem slot_insert_self (b : Body) (key : String) (s : Slot) :
    slot (b.insert key s) key = s := by simp [slot_insert]

theorem slot_erase (b : Body) (key k : String) :
    slot (b.erase key) k = if k = key then .unspecified else b.slot k := by
  unfold slot
  rw [Dict.get?_erase]
  split <;> rfl

theorem slot_set (b : Body) (key k : String) (v : Json) :
    (b.set key v).slot k = if k = key then .ofJson v else b.slot k := slot_insert b key k _

end Body

end AttributeSchema
