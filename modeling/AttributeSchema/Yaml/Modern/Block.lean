import AttributeSchema.Yaml.BlockHeader
import AttributeSchema.Yaml.Modern.Space

/-!
# Block scalars

A block scalar is a header and lines with a common indentation. Its line breaks are kept or folded, and
the header says what becomes of those at its end. Main definition: `block?`.
-/

namespace AttributeSchema.Yaml.Modern

/-- Skip the blank lines before the first line, and its spaces: the number of blank lines, the greatest
column that has been reached, and the first character that is neither space nor break. -/
def firstLine : Nat → Nat → Nat → Cursor → Nat × Nat × Cursor
  | 0, breaks, width, p => (breaks, width, p)
  | fuel + 1, breaks, width, p =>
    let p := p.skipBlanks (p.rest.takeWhile (· == ' ')).length
    let width := max width p.column
    if p.isAt '\n' then firstLine fuel (breaks + 1) width p.skipBreak else (breaks, width, p)

/-- Skip blank lines, and the spaces that indent the next line: the number of blank lines, and the place
after them. -/
def indentation (indent : Nat) : Nat → Nat → Cursor → Nat × Cursor
  | 0, breaks, p => (breaks, p)
  | fuel + 1, breaks, p =>
    let spaces := (p.rest.takeWhile (· == ' ')).length
    let p := p.skipBlanks (min spaces (indent - p.column))
    if p.isAt '\n' then indentation indent fuel (breaks + 1) p.skipBreak else (breaks, p)

/-- What has been read of a block scalar. -/
structure BlockText where
  /-- The lines so far, in reverse. -/
  text : List Char := []
  /-- The last line has ended. -/
  pending : Bool := false
  /-- The blank lines after it. -/
  blankLines : Nat := 0
  /-- It starts with a blank. -/
  indented : Bool := false

/-- Add a line. The break between two lines becomes a space if lines are folded and neither of them
starts with a blank; before blank lines it is dropped. -/
def BlockText.add (folds : Bool) (b : BlockText) (line : List Char) : BlockText :=
  let indented := line.head?.any isBlank
  let lineBreak :=
    if !b.pending then []
    else if folds && !b.indented && !indented then if b.blankLines = 0 then [' '] else []
    else ['\n']
  { text := line.reverse ++ List.replicate b.blankLines '\n' ++ lineBreak ++ b.text, indented }

/-- Read the lines that start at a given column. -/
def blockLines (folds : Bool) (indent : Nat) : Nat → BlockText → Cursor → BlockText × Cursor
  | 0, b, p => (b, p)
  | fuel + 1, b, p =>
    if p.column != indent || p.rest.isEmpty || (indent = 0 && p.isAt '.' && isMarker p.rest) then
      (b, p)
    else
      let line := p.rest.takeWhile (· != '\n')
      let b := b.add folds line
      let p := p.skipBlanks line.length
      if p.rest.isEmpty then (b, p)
      else
        let (blankLines, p) := indentation indent (p.rest.length + 1) 0 p.skipBreak
        blockLines folds indent fuel { b with pending := true, blankLines } p

/-- The text of a block scalar that ends before the given place. -/
def BlockText.close (b : BlockText) (chomping : Chomping) (indent : Nat) (p : Cursor) : List Char :=
  let last := if b.pending then ['\n'] else []
  let missing := if p.rest.isEmpty && max indent 1 ≤ p.column then ['\n'] else []
  match chomping with
  | .strip => b.text.reverse
  | .clip => b.text.reverse ++ last ++ missing
  | .keep => b.text.reverse ++ last ++ missing ++ List.replicate b.blankLines '\n'

/-- The text of a block scalar without lines at the end of the text. -/
def emptyBlock (chomping : Chomping) (broken : Bool) (blankLines : Nat) : List Char :=
  match chomping with
  | .strip => []
  | .clip => if broken then ['\n'] else []
  | .keep => if blankLines = 0 then (if broken then ['\n'] else []) else
      List.replicate blankLines '\n'

/-- Read a block scalar from its first character on. The number is the indentation of the collection
that it belongs to. -/
def block? (folds : Bool) (outer : Int) (p : Cursor) : Option (String × Cursor) := do
  let start := p.skip 1
  let header ← BlockHeader.read? start.rest
  let (p, _) ← skipToLineEnd? true (start.skip (BlockHeader.length start.rest))
  if !endsLine p.peek? then none
  else
    let broken := !p.rest.isEmpty
    let p := if broken then p.skipBreak else p
    if p.isAt '\t' then none
    else
      let fuel := p.rest.length + 1
      let (indent, blankLines, p) := match header.increment? with
        | some n =>
          let indent := if outer < 0 then n else outer.toNat + n
          let (breaks, p) := indentation indent fuel 0 p
          (indent, breaks, p)
        | none =>
          let (breaks, width, p) := firstLine fuel 0 0 p
          let indent := max width (outer + 1).toNat
          (if 0 < outer then max indent 1 else indent, breaks, p)
      if p.rest.isEmpty then
        return (String.ofList (emptyBlock header.chomping broken blankLines), p)
      else if p.column < indent && outer < p.column then none
      else
        let (b, p) := blockLines folds indent fuel { blankLines } p
        return (String.ofList (b.close header.chomping indent p), p)

end AttributeSchema.Yaml.Modern
