import AttributeSchema.Request.Basic

/-!
# Provider segments

A network may consist of several segments, each described by an object. Each is prepared like a small
resource of its own.
-/

namespace AttributeSchema.Segment

/-- An attribute that may be given on creation and is marked as unspecified by default. -/
def optional (rule : Rule) : Spec :=
  { allowPost := true, default? := some .unspecified, rules := [rule] }

/-- The specification of the number of a segment. -/
def idSpec : Spec :=
  { optional (.ofLeaf .nonNegative none) with
    defaultOverridesNull := true
    convertTo := some [.builtin .integer] }

/-- The schema of segments. -/
def schema : Schema where
  resource := "segments"
  attributes := Dict.ofPairs
    [("provider:network_type", optional (.ofLeaf .textOrNull (some (.ofInt 255)))),
      ("provider:physical_network", optional (.ofLeaf .textOrNull (some (.ofInt 64)))),
      ("provider:segmentation_id", idSpec)]

/-- Prepare one segment. -/
def prepareOne (schema : Schema) (v : Json) : Except RequestError Body :=
  match v with
  | .object members =>
    let o := ((Request.verifyAttributes schema (.ofObject members)).andThen
      (Request.fillDefaults schema true)).andThen (Request.convertValues schema)
    match o.error? with
    | none => .ok o.body
    | some e => .error e
  | v => .error (.notSegment v)

/-- Prepare segments in turn, up to the first error. -/
def prepare (schema : Schema) (segments : List Json) : Except RequestError (List Body) :=
  segments.mapM (prepareOne schema)

end AttributeSchema.Segment
