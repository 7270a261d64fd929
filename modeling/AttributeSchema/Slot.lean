import AttributeSchema.Json.Basic

/-!
# Slots

The state of one attribute in a request: a value, an explicit null, or nothing specified.
-/

namespace AttributeSchema

/-- The state of one attribute in a request. -/
inductive Slot where
  | value (v : Json)
  | null
  | unspecified
  deriving Inhabited

namespace Slot

/-- The state in which an attribute was given a value, where null has a state of its own. -/
def ofJson : Json → Slot
  | .null => .null
  | v => .value v

/-- The value that was given, if anything was. -/
def toJson? : Slot → Option Json
  | .value v => some v
  | .null => some .null
  | .unspecified => none

/-- Whether a value or null was given. -/
def isSupplied : Slot → Bool
  | .unspecified => false
  | _ => true

def isNull : Slot → Bool
  | .null => true
  | _ => false

/-- Whether a value other than null was given. -/
def isSet : Slot → Bool
  | .value _ => true
  | _ => false

/-- The value other than null that was given, if there is one. -/
def value? : Slot → Option Json
  | .value v => some v
  | _ => none

/-- Equality of states, the values compared as values. -/
def same : Slot → Slot → Bool
  | .value v, .value w => v == w
  | .null, .null => true
  | .unspecified, .unspecified => true
  | _, _ => false

instance : BEq Slot := ⟨same⟩

/-- Null is kept in its own state and not as a value. -/
def Proper (s : Slot) : Prop := s ≠ .value .null

theorem proper_ofJson (v : Json) : (ofJson v).Proper := by
  cases v <;> simp [ofJson, Proper]

@[simp] theorem toJson?_ofJson (v : Json) : (ofJson v).toJson? = some v := by
  cases v <;> rfl

theorem ofJson_of_toJson? {s : Slot} {v : Json} (hs : s.Proper) (h : s.toJson? = some v) :
    ofJson v = s := by
  cases s with
  | value w =>
    obtain rfl : w = v := by simpa [toJson?] using h
    cases w <;> first | rfl | exact absurd rfl hs
  | null =>
    obtain rfl : Json.null = v := by simpa [toJson?] using h
    rfl
  | unspecified => simp [toJson?] at h

@[simp] theorem isSupplied_ofJson (v : Json) : (ofJson v).isSupplied = true := by
  cases v <;> rfl

end Slot

/-- The default of an attribute: a value, or the mark that nothing was specified. -/
inductive Default where
  | value (v : Json)
  | unspecified

namespace Default

/-- The text that stands for the mark in documents. -/
def unspecifiedText : String := "ATTR_NOT_SPECIFIED"

/-- The default that a document declares. -/
def ofDeclared (v : Json) : Default :=
  match v with
  | .string s => if s = unspecifiedText then .unspecified else .value v
  | v => .value v

/-- The state that filling in the default produces. -/
def slot : Default → Slot
  | .value v => .ofJson v
  | .unspecified => .unspecified

theorem proper_slot (d : Default) : d.slot.Proper := by
  cases d with
  | value v => exact Slot.proper_ofJson v
  | unspecified => simp [slot, Slot.Proper]

end Default

end AttributeSchema
