/-!
# Ordered entries

A list of keys and values in which a key keeps the place of its first entry when it is given a new
value.
-/

namespace ByteMachine
namespace Entries

variable {κ α : Type} [DecidableEq κ]

/-- The entries after a key was given a value. -/
def put (key : κ) (value : α) : List (κ × α) → List (κ × α)
  | [] => [(key, value)]
  | entry :: rest => if entry.1 = key then (key, value) :: rest else entry :: put key value rest

/-- The entries after the pairs of a list were put one after another. -/
def putAll (entries pairs : List (κ × α)) : List (κ × α) :=
  pairs.foldl (fun entries pair => put pair.1 pair.2 entries) entries

end Entries
end ByteMachine
