import AttributeSchema.Json.Printer
import AttributeSchema.Json.Token

/-!
# Written strings read back

Between its quotes a string is written character by character, and what is written of a character reads
back as that character whatever follows it. So different strings have different texts. Main statements:
`Token.unescape?_escape` and `quoted_inj`.
-/

namespace AttributeSchema.Json

/-- A control character is written with the code that is read. -/
theorem Token.hexUnit?_hexDigit : ∀ n < 0x20,
    hexUnit? '0' '0' (hexDigit (n / 16)) (hexDigit n) = some n := by
  decide

/-- What is written of a character reads back as the character. -/
theorem Token.unescape?_escape (c : Char) (rest : List Char) :
    unescape? (escape c ++ rest) = (unescape? rest).map (c :: ·) := by
  rw [escape]
  split
  case isTrue h => simp [h, unescape?, simpleEscape?]
  case isFalse =>
  split
  case isTrue h => simp [h, unescape?, simpleEscape?]
  case isFalse hbackslash =>
  split
  case isTrue h => simp [h, unescape?, simpleEscape?]
  case isFalse =>
  split
  case isTrue h => simp [h, unescape?, simpleEscape?]
  case isFalse =>
  split
  case isTrue h => simp [h, unescape?, simpleEscape?]
  case isFalse =>
  split
  case isTrue h => simp [h, unescape?, simpleEscape?]
  case isFalse =>
  split
  case isTrue h => simp [h, unescape?, simpleEscape?]
  case isFalse =>
  split
  case isTrue hcontrol =>
    have hhigh : ¬ (0xd800 ≤ c.toNat ∧ c.toNat < 0xdc00) := by omega
    have hlow : ¬ (0xdc00 ≤ c.toNat ∧ c.toNat < 0xe000) := by omega
    simp [unescape?, hexUnit?_hexDigit c.toNat hcontrol, hhigh, hlow, Char.ofNat_toNat]
  case isFalse hplain =>
    simp [unescape?, hbackslash, hplain]

/-- A string reads back from what is written between its quotes. -/
theorem Token.unescape?_flatMap_escape (cs : List Char) :
    unescape? (cs.flatMap escape) = some cs := by
  induction cs with
  | nil => rfl
  | cons c cs ih => rw [List.flatMap_cons, unescape?_escape, ih, Option.map_some]

/-- Different strings are written differently. -/
theorem quoted_inj {s t : String} : quoted s = quoted t ↔ s = t := by
  constructor
  · intro h
    have hwritten : s.toList.flatMap escape = t.toList.flatMap escape := by
      simpa [quoted] using congrArg String.toList h
    have hread := Token.unescape?_flatMap_escape s.toList
    rw [hwritten, Token.unescape?_flatMap_escape, Option.some.injEq, String.toList_inj] at hread
    exact hread.symm
  · rintro rfl
    rfl

end AttributeSchema.Json
