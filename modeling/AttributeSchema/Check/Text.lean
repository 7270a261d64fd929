import AttributeSchema.Diagnostic
import AttributeSchema.Regex.Match
import AttributeSchema.Text.Blank
import AttributeSchema.Uuid

/-!
# Checks of texts and lists of texts

Strings with a greatest length in characters, patterns, UUIDs, values from a list, and lists whose items
differ from each other. Two items differ if their compact texts do.
-/

namespace AttributeSchema.Check

/-- The greatest length that a parameter gives. -/
def limit? (param : Option Json) : Option Nat := param.bind Json.toUInt64?

/-- A string of at most the given length. -/
def text (param : Option Json) (v : Json) : Verdict :=
  match v with
  | .string s =>
    match limit? param with
    | some limit => Verdict.require (s.length ≤ limit) (.tooLong s limit)
    | none => Verdict.pass
  | v => .error (.notString v)

/-- A string of at most the given length that is not blank. -/
def textNotBlank (param : Option Json) (v : Json) : Verdict :=
  match text param v, v with
  | .error reason, _ => .error reason
  | .ok _, .string s => Verdict.require (Text.trim s.toList ≠ []) (.blank s)
  | .ok _, v => .error (.notString v)

/-- The values that a parameter allows. -/
def allowed (param : Option Json) : List Json :=
  match param with
  | some (.array vs) => vs
  | _ => []

/-- A value equal to one of the allowed ones. -/
def among (param : Option Json) (v : Json) : Verdict :=
  Verdict.require ((allowed param).any fun w => w == v) (.notAmong v (allowed param))

/-- A string that the pattern matches from its start; without a pattern nothing matches. -/
def pattern (regex : Option Regex) (v : Json) : Verdict :=
  match v, regex with
  | .string s, some r => Verdict.require (r.matchesAtStart s.toList) (.noMatch v)
  | v, _ => .error (.noMatch v)

/-- A UUID in any of its spellings. -/
def uuid (v : Json) : Verdict :=
  match v with
  | .string s => Verdict.require (Uuid.read? s.toList).isSome (.notUuid v)
  | v => .error (.notUuid v)

/-- The items whose compact text is among the seen ones or is that of an earlier item. -/
def repeatsAfter (seen : List String) : List Json → List Json
  | [] => []
  | x :: xs =>
    if seen.contains x.render then x :: repeatsAfter seen xs
    else repeatsAfter (x.render :: seen) xs

/-- The items that equal an earlier one. -/
def repeats (xs : List Json) : List Json := repeatsAfter [] xs

/-- Items that differ from each other. -/
def distinct (xs : List Json) : Verdict :=
  match repeats xs with
  | [] => Verdict.pass
  | rs => .error (.repeated rs)

/-- A list whose items pass a check and differ from each other. -/
def distinctList (item : Json → Verdict) (v : Json) : Verdict :=
  match v with
  | .array xs =>
    match Verdict.all item xs with
    | .ok _ => distinct xs
    | .error reason => .error reason
  | v => .error (.notList v)

end AttributeSchema.Check
