import AttributeSchema.Yaml.BlockHeader
import AttributeSchema.Yaml.Classic.Space

/-!
# Block scalars of the classic dialect

A block scalar is a header and lines with a common indentation. Its line breaks are kept or folded, and
the header says what becomes of those at its end. Main definition: `block?`.
-/

namespace AttributeSchema.Yaml.Classic

/-- Skip the spaces that indent a line, and blank lines before it: the breaks, latest first, the
greatest column that has been reached, and the place after them. Without a known indentation all spaces
are skipped. A tab may not stand where a line is indented. -/
def indentation? (indent? : Option Nat) :
    Nat → List Char → Nat → Cursor → Option (List Char × Nat × Cursor)
  | 0, breaks, width, p => some (breaks, width, p)
  | fuel + 1, breaks, width, p =>
    let spaces := (p.rest.takeWhile (· == ' ')).length
    let p := p.skip (match indent? with
      | some indent => min spaces (indent - p.column)
      | none => spaces)
    let width := max width p.column
    if p.isAt '\t' && indent?.all fun indent => p.column < indent then none
    else
      match p.peek? with
      | some c =>
        if isBreak c then indentation? indent? fuel (c :: breaks) width p.skipBreak
        else some (breaks, width, p)
      | none => some (breaks, width, p)

/-- What has been read of a block scalar. -/
structure BlockText where
  /-- The lines so far, latest character first. -/
  text : List Char := []
  /-- The break at the end of the last line. -/
  lineBreak : List Char := []
  /-- The breaks of the blank lines after it, latest first. -/
  blankLines : List Char := []
  /-- The last line starts with a blank. -/
  indented : Bool := false

/-- Add a line. A line feed between two lines becomes a space if lines are folded and neither of them
starts with a blank; before blank lines it is dropped. -/
def BlockText.add (folds : Bool) (b : BlockText) (line : List Char) : BlockText :=
  let indented := line.head?.any isBlank
  let between :=
    if folds && b.lineBreak == ['\n'] && !b.indented && !indented then
      if b.blankLines.isEmpty then [' '] else []
    else b.lineBreak
  { text := line.reverse ++ b.blankLines ++ between ++ b.text, indented }

/-- Read the lines that start at a given column. -/
def blockLines? (folds : Bool) (indent : Nat) : Nat → BlockText → Cursor → Option (BlockText × Cursor)
  | 0, b, p => some (b, p)
  | fuel + 1, b, p =>
    if p.column != indent || p.rest.isEmpty then some (b, p)
    else
      let line := p.rest.takeWhile fun c => !isBreak c
      let b := b.add folds line
      let p := p.skip line.length
      match p.peek? with
      | none => some (b, p)
      | some c =>
        match indentation? (some indent) (p.rest.length + 1) [] 0 p.skipBreak with
        | none => none
        | some (blankLines, _, p) =>
          blockLines? folds indent fuel { b with lineBreak := [c], blankLines } p

/-- The text of a block scalar. -/
def BlockText.close (chomping : Chomping) (b : BlockText) : List Char :=
  match chomping with
  | .strip => b.text.reverse
  | .clip => (b.lineBreak ++ b.text).reverse
  | .keep => (b.blankLines ++ b.lineBreak ++ b.text).reverse

/-- Read a block scalar from its first character on. The number is the indentation of the collection
that it belongs to. -/
def block? (folds : Bool) (outer : Int) (p : Cursor) : Option (String × Cursor) := do
  let start := p.skip 1
  let header ← BlockHeader.read? start.rest
  let p ← lineEnd? (start.skip (BlockHeader.length start.rest))
  let fuel := p.rest.length + 1
  let indent? := header.increment?.map fun n => if 0 ≤ outer then outer.toNat + n else n
  let (blankLines, width, p) ← indentation? indent? fuel [] 0 p
  let indent := indent?.getD (max (max width (outer + 1).toNat) 1)
  let (b, p) ← blockLines? folds indent fuel { blankLines } p
  return (String.ofList (b.close header.chomping), p)

end AttributeSchema.Yaml.Classic
