import Emend.Regex.Footprint.Basic

/-! # The footprint of a choice between words

An alternation of texts is compiled to a tree in which words with the same first bytes
share their states. A word that ends where others go on parts those before it from those
behind it, because earlier words are preferred.
-/

namespace Emend.Regex

abbrev Word := List UInt8

namespace Word

/-- What is left of the words that start with a byte. -/
def behind (b : UInt8) (words : List Word) : List Word :=
  words.filterMap fun
    | c :: rest => if c = b then some rest else none
    | [] => none

def firstBytes (words : List Word) : List UInt8 :=
  (words.filterMap List.head?).eraseDups

/-- Words as runs between the empty ones. -/
def runs : List Word → List (List Word)
  | [] => [[]]
  | [] :: rest => [] :: runs rest
  | word :: rest =>
      match runs rest with
      | run :: more => (word :: run) :: more
      | [] => [[word]]

/-- Words with no more than one empty word in front. Before any word goes on, it does not
matter how often one has ended. -/
def trimFront : List Word → List Word
  | [] :: rest => [] :: rest.dropWhile List.isEmpty
  | words => words

end Word

namespace Footprint

/-- The states for a run of words that are not empty: one for their first bytes, and what
`grow` adds for the rests of the words with each of them. -/
def addRun (grow : List Word → Footprint → Footprint) (f : Footprint) (run : List Word) :
    Footprint :=
  match Word.firstBytes run with
  | [] => f
  | [b] => (grow (Word.behind b run) f).add 1 0
  | bytes => (bytes.foldl (fun f b => grow (Word.behind b run) f) f).add 1
      (rangeSize * bytes.length)

/-- The states of a tree below a place from which words go on. A place where no word goes
on has none of its own. `depth` bounds the lengths of the words. -/
def addWords : (depth : Nat) → List Word → Footprint → Footprint
  | 0, _, f => f
  | depth + 1, words, f =>
      if words.all List.isEmpty then f
      else
        let runs := Word.runs (Word.trimFront words)
        let links := (runs.filter (!·.isEmpty)).length + (runs.length - 1)
        (runs.foldl (addRun (addWords depth)) f).add 1 (linkSize * links)

/-- Adds the states for a choice between words: the end, and the tree. -/
def addChoice (f : Footprint) (words : List Word) : Footprint :=
  addWords (words.foldl (fun n word => max n word.length) 0) words (f.add 1 0)

end Footprint

end Emend.Regex
