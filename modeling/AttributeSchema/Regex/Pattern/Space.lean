import AttributeSchema.Text.Blank

/-!
# Space in patterns

In verbose mode, white space and comments may stand between most parts of a pattern, also between the
digits of a number and the letters of a name. A comment goes from a number sign to the end of the line.
-/

namespace AttributeSchema.Regex.Pattern

/-- Drop white space and, inside a comment, everything up to the end of the line. -/
def dropSpace (inComment : Bool) : List Char → List Char
  | [] => []
  | c :: cs =>
    if inComment then dropSpace (c != '\n') cs
    else if c = '#' then dropSpace true cs
    else if Text.isBlank c then dropSpace false cs
    else c :: cs

/-- In verbose mode, drop white space and comments. -/
def skip (verbose : Bool) (cs : List Char) : List Char :=
  if verbose then dropSpace false cs else cs

/-- Take characters with a property, at most `limit` if that is given, and in verbose mode the white space
and the comments between and after them. -/
def takeSpaced (verbose : Bool) (p : Char → Bool) (inComment : Bool) (limit : Option Nat) :
    List Char → List Char × List Char
  | [] => ([], [])
  | c :: cs =>
    if inComment then takeSpaced verbose p (c != '\n') limit cs
    else if verbose ∧ c = '#' then takeSpaced verbose p true limit cs
    else if verbose ∧ Text.isBlank c then takeSpaced verbose p false limit cs
    else if limit ≠ some 0 ∧ p c then
      let (taken, rest) := takeSpaced verbose p false (limit.map (· - 1)) cs
      (c :: taken, rest)
    else ([], c :: cs)

/-- The first character that is neither white space nor the sign of a first comment. Inside of comments
everything but white space counts. -/
def firstVisible (inComment : Bool) : List Char → Option Char
  | [] => none
  | c :: cs =>
    if Text.isBlank c then firstVisible inComment cs
    else if c = '#' ∧ !inComment then firstVisible true cs
    else some c

/-- The next character that counts. If there is none in verbose mode, it is the next one of any kind. -/
def peek (verbose : Bool) (cs : List Char) : Option Char :=
  if verbose then firstVisible false cs <|> cs.head? else cs.head?

end AttributeSchema.Regex.Pattern
