/-!
# Ascending association lists

Entries under keys, in ascending order of the keys and at most one for each.

## Main definitions

* `Sorted.insert` — puts an entry under a key
* `Sorted.ofList` — enters the elements of a list one after the other
-/

namespace ShiftReduce.Sorted

variable {κ α : Type} [DecidableEq κ]

/-- Puts an entry under a key. It takes the place of the one there, if there is one. -/
def insert (precedes : κ → κ → Bool) (key : κ) (value : α) : List (κ × α) → List (κ × α)
  | [] => [(key, value)]
  | (first, entry) :: rest =>
    if key = first then (key, value) :: rest
    else if precedes key first then (key, value) :: (first, entry) :: rest
    else (first, entry) :: insert precedes key value rest

/-- Enters the elements of a list one after the other. Of those with one key, the last stays. -/
def ofList (precedes : κ → κ → Bool) (entries : List (κ × α)) : List (κ × α) :=
  entries.foldl (fun sorted (key, value) => insert precedes key value sorted) []

end ShiftReduce.Sorted
