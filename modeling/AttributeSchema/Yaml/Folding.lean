/-!
# Folding of lines

Inside of a plain or a quoted scalar, blanks around a line break are dropped. One break between two
pieces of text becomes a space, and of several breaks each but the first is kept. Main definitions:
`foldBreaks` and `Pause`.
-/

namespace AttributeSchema.Yaml

/-- What line breaks between two pieces of text become. Only a line feed is folded. -/
def foldBreaks : List Char → List Char
  | ['\n'] => [' ']
  | '\n' :: breaks => breaks
  | breaks => breaks

/-- What has been passed since the last character of a scalar that counts. -/
inductive Pause where
  /-- Blanks, latest first. -/
  | blanks (reversed : List Char)
  /-- Line breaks, latest first, and blanks around them. -/
  | broken (reversed : List Char)
  /-- The same after a line break that does not count. -/
  | joined (reversed : List Char)

namespace Pause

/-- What a pause becomes before further text, latest character first. -/
def text : Pause → List Char
  | blanks reversed => reversed
  | broken reversed => (foldBreaks reversed.reverse).reverse
  | joined reversed => reversed

/-- Whether a line break has been passed. -/
def isBroken : Pause → Bool
  | blanks _ => false
  | _ => true

/-- Pass a blank. -/
def blank (c : Char) : Pause → Pause
  | blanks reversed => blanks (c :: reversed)
  | pause => pause

/-- Pass a line break. -/
def lineBreak (c : Char) : Pause → Pause
  | blanks _ => broken [c]
  | broken reversed => broken (c :: reversed)
  | joined reversed => joined (c :: reversed)

end Pause

end AttributeSchema.Yaml
