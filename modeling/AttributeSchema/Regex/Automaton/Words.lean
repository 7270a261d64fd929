import AttributeSchema.Regex.Automaton.Draft

/-!
# Automata of lists of words

An alternation of words becomes a tree in which words with the same start share a path. Since earlier
words are preferred to later ones, the words after one that ends in a node do not share the branches of
the words before it: each such end starts another chunk of branches.
-/

namespace AttributeSchema.Regex

/-- The chunks of words, cut where a word ends. -/
def chunksFrom : List (List Nat) → List (List (List Nat))
  | [] => [[]]
  | word :: words =>
    match word, chunksFrom words with
    | [], chunks => [] :: chunks
    | word, first :: rest => (word :: first) :: rest
    | word, [] => [[word]]

/-- The chunks of words at a node. Several ends before the first branch count as one. -/
def chunks : List (List Nat) → List (List (List Nat))
  | [] :: words => [] :: chunksFrom (words.dropWhile (·.isEmpty))
  | words => chunksFrom words

/-- The first bytes of the words of a chunk, each once. -/
def firstBytes (words : List (List Nat)) : List Nat := (words.filterMap (·.head?)).eraseDups

/-- What follows a first byte in the words of a chunk. -/
def following (byte : Nat) (words : List (List Nat)) : List (List Nat) :=
  words.filterMap fun
    | b :: rest => if b = byte then some rest else none
    | [] => none

/-- Add the states of the tree below a node. A chunk of several branches is a state with a list of
transitions, one of a single branch a plain state, and the node offers the chunks and the ends between
them. A node without branches has no state of its own. -/
def addWords? : Nat → Draft → List (List Nat) → Option Draft
  | 0, d, _ => some d
  | length + 1, d, words =>
    let all := chunks words
    let full := all.filter (!·.isEmpty)
    if full.isEmpty then some d
    else do
      let d ← full.foldlM (fun d chunk => (firstBytes chunk).foldlM
        (fun d byte => addWords? length d (following byte chunk)) d) d
      let d ← full.foldlM (fun d chunk =>
        match firstBytes chunk with
        | [_] => d.plain? 1
        | bytes => d.table? bytes.length) d
      d.fork? (full.length + (all.length - 1))

/-- Build an alternation of words. -/
def buildWords? (d : Draft) (words : List (List Nat)) : Option Part := do
  let d ← d.plain? 1
  let longest := words.foldl (fun n word => max n word.length) 0
  let d ← addWords? longest d words
  return .closed d

end AttributeSchema.Regex
