import AttributeSchema.Yaml.Classic.Space
import AttributeSchema.Yaml.Folding

/-!
# Plain scalars of the classic dialect

A plain scalar is a sequence of runs of characters. Blanks between two runs of a line are kept, and
line breaks between them are folded. Main definition: `plain?`.
-/

namespace AttributeSchema.Yaml.Classic

/-- Whether a colon before a character is a fault in a flow collection. -/
def isLostColon (inFlow : Bool) (next : Option Char) : Bool :=
  inFlow && next.any fun c => isFlowIndicator c || c == '?'

/-- The length of the run at the start of some characters. -/
def runLength? (inFlow : Bool) : List Char → Option Nat
  | [] => some 0
  | c :: cs =>
    if endsWord (some c) then some 0
    else if c == ':' && isLostColon inFlow cs.head? then none
    else if c == ':' && endsWord cs.head? then some 0
    else if inFlow && isFlowIndicator c then some 0
    else (runLength? inFlow cs).map (· + 1)

/-- Skip the blanks and the line breaks after a run. A tab may not stand in the indentation of a
line. -/
def plainPause? (indent : Int) : Nat → Pause → Cursor → Option (Pause × Cursor)
  | 0, pause, p => some (pause, p)
  | fuel + 1, pause, p =>
    match p.peek? with
    | none => some (pause, p)
    | some c =>
      if isBreak c then plainPause? indent fuel (pause.lineBreak c) p.skipBreak
      else if !isBlank c then some (pause, p)
      else if pause.isBroken && p.column < indent && c == '\t' then none
      else plainPause? indent fuel (pause.blank c) (p.skip 1)

/-- What has been read of a plain scalar. -/
structure PlainText where
  /-- The characters so far, latest first. -/
  text : List Char := []
  pause : Pause := .blanks []

/-- Read runs and the pauses between them. Outside of flow collections each line has to be indented. -/
def plainRuns? (inFlow : Bool) (indent : Int) : Nat → PlainText → Cursor → Option (PlainText × Cursor)
  | 0, t, p => some (t, p)
  | fuel + 1, t, p =>
    if (p.column == 0 && isMarker p.rest) || p.isAt '#' then some (t, p)
    else
      match runLength? inFlow p.rest with
      | none => none
      | some n =>
        let t : PlainText := if n = 0 then t else
          { text := (p.rest.take n).reverse ++ t.pause.text ++ t.text }
        let p := p.skip n
        if p.rest.isEmpty || !endsWord p.peek? then some (t, p)
        else
          match plainPause? indent (p.rest.length + 1) t.pause p with
          | none => none
          | some (pause, p) =>
            let t := { t with pause }
            if !inFlow && p.column < indent then some (t, p) else plainRuns? inFlow indent fuel t p

/-- Read a plain scalar whose lines have to be indented by the given number of columns: its text, the
place after it and after the space behind it, and whether that space holds a line break. -/
def plain? (inFlow : Bool) (indent : Int) (p : Cursor) : Option (String × Cursor × Bool) :=
  (plainRuns? inFlow indent (p.rest.length + 1) {} p).map fun (t, p) =>
    (String.ofList t.text.reverse, p, t.pause.isBroken)

end AttributeSchema.Yaml.Classic
