import AttributeSchema.Text.CharSet

/-!
# Spans in encoded text

The encoding of a character in UTF-8 has one to four bytes. A span of characters is cut into pieces
such that the encodings of a piece are all texts with a byte of a given span at each place.
-/

namespace AttributeSchema.Text

/-- The bytes of the encoding of a code point. -/
def encode (n : Nat) : List Nat :=
  if n < 0x80 then [n]
  else if n < 0x800 then [0xc0 + n / 64, 0x80 + n % 64]
  else if n < 0x10000 then [0xe0 + n / 4096, 0x80 + n / 64 % 64, 0x80 + n % 64]
  else [0xf0 + n / 262144, 0x80 + n / 4096 % 64, 0x80 + n / 64 % 64, 0x80 + n % 64]

namespace Span

/-- Leave out the surrogates. -/
def withoutSurrogates (s : Span) : List Span :=
  if s.low < 0xe000 ∧ 0xd7ff < s.high then
    [⟨s.low, 0xd7ff⟩, ⟨0xe000, s.high⟩].filter fun s => s.low ≤ s.high
  else [s]

/-- Cut a span after a code point. -/
def cutAfter (n : Nat) (s : Span) : List Span :=
  if s.low ≤ n ∧ n < s.high then [⟨s.low, n⟩, ⟨n + 1, s.high⟩] else [s]

/-- Cut a span where blocks of `size` code points start, such that each piece lies within one block or
consists of whole ones. -/
def cutBlocks (size : Nat) (s : Span) : List Span :=
  let first := s.low / size
  let last := s.high / size
  if s.high ≤ 0x7f ∨ first = last then [s]
  else
    let whole : Span :=
      ⟨if s.low % size = 0 then s.low else (first + 1) * size,
        if s.high % size = size - 1 then s.high else last * size - 1⟩
    (if s.low % size = 0 then [] else [⟨s.low, (first + 1) * size - 1⟩])
      ++ (if whole.low ≤ whole.high then [whole] else [])
      ++ (if s.high % size = size - 1 then [] else [⟨last * size, s.high⟩])

/-- The spans of bytes at each place of the encodings, for each piece of a span. -/
def encodings (s : Span) : List (List Span) :=
  let pieces := [0x7f, 0x7ff, 0xffff].foldl (fun spans n => spans.flatMap (cutAfter n))
    s.withoutSurrogates
  let pieces := [64, 4096, 262144].foldl (fun spans size => spans.flatMap (cutBlocks size)) pieces
  pieces.map fun p => List.zipWith Span.mk (encode p.low) (encode p.high)

end Span

end AttributeSchema.Text
