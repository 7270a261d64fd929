import AttributeSchema.Yaml.Classic.Space
import AttributeSchema.Yaml.Escape
import AttributeSchema.Yaml.Folding

/-!
# Quoted scalars of the classic dialect

A quoted scalar may span lines, whatever their indentation. Blanks around a line break are dropped, and
breaks are folded as in a plain scalar; a backslash before a break joins the lines. Main definition:
`quoted?`.
-/

namespace AttributeSchema.Yaml.Classic

/-- Read characters up to a blank, a line break or the closing quote. The last part of the result says
whether an escaped line break has been passed. -/
def quotedRun? (quote : Char) : Nat → List Char → Cursor → Option (List Char × Cursor × Bool)
  | 0, text, p => some (text, p, false)
  | fuel + 1, text, p =>
    match p.rest with
    | [] => some (text, p, false)
    | c :: cs =>
      if endsWord (some c) then some (text, p, false)
      else if c == quote then
        if quote == '\'' && cs.head? == some '\'' then
          quotedRun? quote fuel ('\'' :: text) (p.skip 2)
        else some (text, p, false)
      else if quote == '"' && c == '\\' then
        if cs.head?.any isBreak then some (text, (p.skip 1).skipBreak, true)
        else
          match escape? cs with
          | some (d, n) => quotedRun? quote fuel (d :: text) (p.skip (n + 1))
          | none => none
      else quotedRun? quote fuel (c :: text) (p.skip 1)

/-- Skip blanks and line breaks. -/
def quotedPause : Nat → Pause → Cursor → Pause × Cursor
  | 0, pause, p => (pause, p)
  | fuel + 1, pause, p =>
    match p.peek? with
    | none => (pause, p)
    | some c =>
      if isBreak c then quotedPause fuel (pause.lineBreak c) p.skipBreak
      else if isBlank c then quotedPause fuel (pause.blank c) (p.skip 1)
      else (pause, p)

/-- Read up to the closing quote. -/
def quotedText? (quote : Char) : Nat → List Char → Cursor → Option (List Char × Cursor)
  | 0, _, _ => none
  | fuel + 1, text, p =>
    if (p.column == 0 && isMarker p.rest) || p.rest.isEmpty then none
    else
      match quotedRun? quote (p.rest.length + 1) text p with
      | none => none
      | some (text, p, joined) =>
        if p.isAt quote then some (text, p)
        else
          let (pause, p) :=
            quotedPause (p.rest.length + 1) (if joined then .joined [] else .blanks []) p
          quotedText? quote fuel (pause.text ++ text) p

/-- Read a quoted scalar: its text and the place after it. -/
def quoted? (quote : Char) (p : Cursor) : Option (String × Cursor) :=
  (quotedText? quote (p.rest.length + 1) [] (p.skip 1)).map fun (text, p) =>
    (String.ofList text.reverse, p.skip 1)

end AttributeSchema.Yaml.Classic
