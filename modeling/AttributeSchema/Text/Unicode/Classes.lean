import AttributeSchema.Text.Unicode.Category
import AttributeSchema.Text.Unicode.Property

/-!
# Classes of characters

The characters of words, digits and white space in texts of any script.
-/

namespace AttributeSchema.Text.Unicode

/-- The characters of words: letters and what stands for letters, marks, decimal digits, connecting
punctuation and joiners. -/
def word : CharSet :=
  .unions (ofCategories ["mn", "mc", "me", "nd", "pc"]
    :: ["alphabetic", "joincontrol"].filterMap property?)

/-- Decimal digits. -/
def digit : CharSet := ofCategories ["nd"]

/-- White space. -/
def space : CharSet := (property? "whitespace").getD .empty

/-- Letters and what stands for letters. -/
def alphabetic : CharSet := (property? "alphabetic").getD .empty

/-- Numbers. -/
def numeric : CharSet := ofCategories ["nd", "nl", "no"]

end AttributeSchema.Text.Unicode
