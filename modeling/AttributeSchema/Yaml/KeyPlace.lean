import AttributeSchema.Yaml.Cursor

/-!
# Places of possible keys

A scalar, an alias or a flow collection is a key if a colon follows it. Until that is known, the scanner
remembers where it started.
-/

namespace AttributeSchema.Yaml

/-- A place where a key may have started. -/
structure KeyPlace where
  /-- A colon would still make it a key. -/
  possible : Bool := false
  /-- Nothing but a key can stand there. -/
  required : Bool := false
  /-- The number of tokens before it. -/
  token : Nat := 0
  index : Nat := 0
  line : Nat := 0
  column : Nat := 0
  deriving Inhabited

namespace KeyPlace

/-- A key that may start at a place after some tokens. -/
def ofCursor (p : Cursor) (token : Nat) (required : Bool) : KeyPlace :=
  { possible := true, required, token, index := p.index, line := p.line, column := p.column }

/-- The place, where no key can have started. -/
def forget (k : KeyPlace) : KeyPlace := { k with possible := false }

/-- The greatest number of characters before the colon of a key. -/
def maxLength : Nat := 1024

/-- Whether a key can no longer end at a place: it is a line or too many characters away. -/
def isStale (p : Cursor) (k : KeyPlace) : Bool :=
  k.possible && (k.line < p.line || k.index + maxLength < p.index)

/-- Forget a key, unless nothing else can stand there. -/
def drop? (k : KeyPlace) : Option KeyPlace :=
  if k.possible && k.required then none else some k.forget

/-- Forget a key that can no longer end at a place. -/
def dropStale? (p : Cursor) (k : KeyPlace) : Option KeyPlace :=
  if k.isStale p then k.drop? else some k

end KeyPlace

end AttributeSchema.Yaml
