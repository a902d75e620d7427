/-!
How similar two names are, to suggest what may have been meant.

The similarity is Jaro's: characters match if they are equal and not far apart; it grows
with the share of matching characters on both sides and shrinks with the matches that stand
in a different order.
-/

namespace TwinRun.CommandLine

/-- Marks the characters of `b` that match one of `a`, each character of `a` taking the
first one that is free and at most `reach` places away. Results in the matched characters of
`a`, in order, and the marked `b`. -/
def matching (reach : Nat) (a : List Char) (b : List (Char × Bool)) :
    List Char × List (Char × Bool) :=
  let (matched, b) := a.zipIdx.foldl (fun (matched, b) (c, i) =>
    let isPartner := fun ((d, taken), j) => i ≤ j + reach && j ≤ i + reach && c == d && !taken
    match b.zipIdx.find? isPartner with
    | some (_, j) => (c :: matched, b.set j (c, true))
    | none => (matched, b)) ([], b)
  (matched.reverse, b)

/-- The similarity of two names, between 0 and 1. -/
def similarity (a b : List Char) : Float :=
  if a.isEmpty ∧ b.isEmpty then 1
  else
    let reach := max a.length b.length / 2 - 1
    let (fromA, marked) := matching reach a (b.map (·, false))
    let fromB := (marked.filter (·.2)).map (·.1)
    let count := fromA.length
    if count = 0 then 0
    else
      let swapped := ((fromA.zip fromB).filter fun (c, d) => c != d).length / 2
      let m := count.toFloat
      (m / a.length.toFloat + m / b.length.toFloat + (count - swapped).toFloat / m) / 3

/-- Names with at least this similarity are suggested. -/
def similarityBound : Float := 0.7

/-- The candidate most similar to a name, if one is similar enough; the last of several. -/
def mostSimilar? (name : String) (candidates : List String) : Option String :=
  let best := candidates.foldl (fun (best : Option (Float × String)) candidate =>
    let s := similarity name.toList candidate.toList
    if s > similarityBound ∧ best.all (fun (t, _) => t ≤ s) then some (s, candidate) else best) none
  best.map (·.2)

end TwinRun.CommandLine
