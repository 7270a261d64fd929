import AttributeSchema.Yaml.Folding
import AttributeSchema.Yaml.Modern.Space

/-!
# Plain scalars

A plain scalar is a sequence of runs of characters. Blanks between two runs of a line are kept, and
line breaks between them are folded. Main definition: `plain?`.
-/

namespace AttributeSchema.Yaml.Modern

/-- Whether a plain scalar goes on with the first of some characters. -/
def continuesPlain (inFlow : Bool) : List Char → Bool
  | [] => false
  | c :: cs =>
    if c == ':' then
      !(endsWord cs.head? || (inFlow && cs.head?.any isFlowIndicator))
    else !(endsWord (some c) || (inFlow && isFlowIndicator c))

/-- The length of the run at the start of some characters. -/
def runLength (inFlow : Bool) : List Char → Nat
  | [] => 0
  | c :: cs => if continuesPlain inFlow (c :: cs) then runLength inFlow cs + 1 else 0

/-- Skip the blanks and the line breaks after a run. A tab may indent an empty line only. -/
def plainPause? (indent : Int) : Nat → Pause → Cursor → Option (Pause × Cursor)
  | 0, pause, p => some (pause, p)
  | fuel + 1, pause, p =>
    match p.peek? with
    | none => some (pause, p)
    | some c =>
      if c == '\n' then plainPause? indent fuel (pause.lineBreak c) p.skipBreak
      else if !isBlank c then some (pause, p)
      else if p.leading && p.column < indent && c == '\t' then
        match skipToLineEnd? true p with
        | some (p, _) => if endsLine p.peek? then plainPause? indent fuel pause p else none
        | none => none
      else plainPause? indent fuel (pause.blank c) (p.skipBlanks 1)

/-- Read runs and the pauses between them, after some text in reverse. Outside of flow collections each
line has to be indented. -/
def plainRuns? (inFlow : Bool) (indent : Int) :
    Nat → List Char → Pause → Cursor → Option (List Char × Cursor)
  | 0, text, _, p => some (text, p)
  | fuel + 1, text, pause, p =>
    if (p.leading && isMarker p.rest) || p.isAt '#' then some (text, p)
    else if inFlow && p.isAt '-' && (p.peekAt? 1).any isFlowIndicator then none
    else
      let n := runLength inFlow p.rest
      if n = 0 then some (text, p)
      else
        let text := (p.rest.take n).reverse ++ pause.text ++ text
        let p := p.skip n
        if endsWord p.peek? && !p.rest.isEmpty then
          match plainPause? indent (p.rest.length + 1) (.blanks []) p with
          | some (pause, p) =>
            if !inFlow && p.column < indent then some (text, p)
            else plainRuns? inFlow indent fuel text pause p
          | none => none
        else some (text, p)

/-- Read a plain scalar whose lines have to be indented by the given number of columns: its text and
the place after it. -/
def plain? (inFlow : Bool) (indent : Int) (p : Cursor) : Option (String × Cursor) :=
  if inFlow && p.column < indent then none
  else
    match plainRuns? inFlow indent (p.rest.length + 1) [] (.blanks []) p with
    | some (text, p) => if text.isEmpty then none else some (String.ofList text.reverse, p)
    | none => none

end AttributeSchema.Yaml.Modern
