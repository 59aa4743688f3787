/-!
# Entries under keys

Association lists in the order their keys were first used, with at most one entry for each key.

## Main definitions

* `Entries.put` — puts an entry under a key
-/

namespace ShiftReduce.Entries

variable {κ α : Type} [DecidableEq κ]

/-- Puts an entry under a key. It takes the place of the one there, or stands behind all others. -/
def put (key : κ) (value : α) : List (κ × α) → List (κ × α)
  | [] => [(key, value)]
  | (first, entry) :: rest =>
    if first = key then (key, value) :: rest else (first, entry) :: put key value rest

end ShiftReduce.Entries
