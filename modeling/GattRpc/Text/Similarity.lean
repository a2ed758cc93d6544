/-! # Similarity of words

How alike two words are, from zero to one: the share of their characters that match, and of those
the share that come in the same order. Characters match if they are equal and not too far from
each other, each at most once. -/

namespace GattRpc

/-- The characters of a word, each with whether it is matched. -/
abbrev Marked := List (Char × Bool)

/-- Marks the first free `c` among the places from `low` on, `size` of them. -/
def Marked.mark? (c : Char) (low size : Nat) : Marked → Option Marked
  | [] => none
  | (d, taken) :: rest =>
    match low, size with
    | low + 1, size => (mark? c low size rest).map ((d, taken) :: ·)
    | 0, 0 => none
    | 0, size + 1 =>
      if d = c ∧ !taken then some ((d, true) :: rest)
      else (mark? c 0 size rest).map ((d, taken) :: ·)

def Marked.chosen (m : Marked) : List Char := (m.filter Prod.snd).map Prod.fst

/-- Matches the characters of a word, of which those before are matched, and gives the matched
ones. -/
def matchWord (reach : Nat) : Nat → List Char → Marked → List Char × Marked
  | _, [], m => ([], m)
  | i, c :: cs, m =>
    let low := i - reach
    match m.mark? c low (i + reach + 1 - low) with
    | some m =>
      let (found, m) := matchWord reach (i + 1) cs m
      (c :: found, m)
    | none => matchWord reach (i + 1) cs m

/-- How alike two words are. -/
def similarity (s t : String) : Float :=
  let s := s.toList
  let t := t.toList
  let reach := max s.length t.length / 2 - 1
  let (found, marked) := matchWord reach 0 s (t.map fun c => (c, false))
  let moved := ((found.zip marked.chosen).filter fun p => p.1 ≠ p.2).length / 2
  let count := found.length
  if count = 0 then if s.isEmpty && t.isEmpty then 1 else 0
  else
    (count.toFloat / s.length.toFloat + count.toFloat / t.length.toFloat
      + (count - moved).toFloat / count.toFloat) / 3

/-- The words that are much like a given one, the most similar last. -/
def similarWords (word : String) (choices : List String) : List String :=
  let scored := (choices.map fun c => (similarity word c, c)).filter fun p => 0.7 < p.1
  (scored.mergeSort fun a b => a.1 ≤ b.1).map Prod.snd

end GattRpc
