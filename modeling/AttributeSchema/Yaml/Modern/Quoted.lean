import AttributeSchema.Yaml.Escape
import AttributeSchema.Yaml.Folding
import AttributeSchema.Yaml.Modern.Space

/-!
# Quoted scalars

A quoted scalar may span lines. Blanks around a line break are dropped, and breaks are folded as in a
plain scalar; a backslash before a break joins the lines. Main definition: `quoted?`.
-/

namespace AttributeSchema.Yaml.Modern

/-- Read characters up to a blank, a line break or the closing quote. The last part of the result says
whether an escaped line break has been passed. -/
def quotedRun? (quote : Char) : Nat → List Char → Cursor → Option (List Char × Cursor × Bool)
  | 0, text, p => some (text, p, false)
  | fuel + 1, text, p =>
    match p.rest with
    | [] => some (text, p, false)
    | c :: cs =>
      if isBlank c || c == '\n' then some (text, p, false)
      else if c == quote then
        if quote == '\'' && cs.head? == some '\'' then
          quotedRun? quote fuel ('\'' :: text) (p.skip 2)
        else some (text, p, false)
      else if quote == '"' && c == '\\' then
        if cs.head? == some '\n' then some (text, (p.skip 1).skipBreak, true)
        else
          match escape? cs with
          | some (d, n) => quotedRun? quote fuel (d :: text) (p.skip (n + 1))
          | none => none
      else quotedRun? quote fuel (c :: text) (p.skip 1)

/-- Skip blanks and line breaks. A tab may not indent a line. -/
def quotedPause? (indent : Int) : Nat → Pause → Cursor → Option (Pause × Cursor)
  | 0, pause, p => some (pause, p)
  | fuel + 1, pause, p =>
    match p.peek? with
    | none => some (pause, p)
    | some c =>
      if c == '\n' then quotedPause? indent fuel (pause.lineBreak c) p.skipBreak
      else if !isBlank c then some (pause, p)
      else if pause.isBroken && c == '\t' && p.column < indent then none
      else quotedPause? indent fuel (pause.blank c) (p.skipBlanks 1)

/-- Read up to the closing quote. In block context each further line has to be indented, unless it
starts with that quote. -/
def quotedText? (quote : Char) (m : Margin) : Nat → List Char → Cursor → Option (List Char × Cursor)
  | 0, _, _ => none
  | fuel + 1, text, p =>
    if p.column == 0 && isMarker p.rest then none
    else if p.rest.isEmpty then none
    else
      match quotedRun? quote (p.rest.length + 1) text p with
      | none => none
      | some (text, p, joined) =>
        if p.isAt quote then some (text, p)
        else
          let pause := if joined then .joined [] else .blanks []
          match quotedPause? m.indent (p.rest.length + 1) pause p with
          | none => none
          | some (pause, p) =>
            if pause.isBroken && !m.inFlow && !p.isAt quote && p.column ≤ m.indent then none
            else quotedText? quote m fuel (pause.text ++ text) p

/-- Whether a character may follow a quoted scalar and the space after it. -/
def mayFollowQuoted (inFlow sameLine : Bool) : Option Char → Bool
  | none => true
  | some c => c == '\n' || (c == ':' && (inFlow || sameLine))
      || (inFlow && (c == ',' || c == ']' || c == '\x7d'))

/-- Read a quoted scalar with the space after it: its text and the place after that. -/
def quoted? (m : Margin) (quote : Char) (p : Cursor) : Option (String × Cursor) := do
  let (text, q) ← quotedText? quote m (p.rest.length + 1) [] (p.skip 1)
  let (q, _) ← skipToLineEnd? true (q.skip 1)
  if mayFollowQuoted m.inFlow (p.line == q.line) q.peek? then
    return (String.ofList text.reverse, q)
  else none

end AttributeSchema.Yaml.Modern
