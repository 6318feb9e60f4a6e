/-!
# Entries in order

A map is a list of entries without two equal keys, in the order in which the keys came first.  `put`
replaces the value of a key in its place, or adds the key at the end.  Looking a key up is
`List.lookup`.
-/

namespace SearchFilter.Entries

variable {κ α : Type}

/-- Gives `key` the value `value`, keeping the place of a key that is already there. -/
def put [BEq κ] (key : κ) (value : α) : List (κ × α) → List (κ × α)
  | [] => [(key, value)]
  | (k, v) :: rest => if k == key then (k, value) :: rest else (k, v) :: put key value rest

/-- Puts a list of pairs one after the other. -/
def putAll [BEq κ] (entries pairs : List (κ × α)) : List (κ × α) :=
  pairs.foldl (fun built pair => put pair.1 pair.2 built) entries

/-- The entries that result from putting a list of pairs one after the other. -/
def ofPairs [BEq κ] (pairs : List (κ × α)) : List (κ × α) :=
  putAll [] pairs

/-- The entries without those of one key. -/
def erase [BEq κ] (key : κ) (entries : List (κ × α)) : List (κ × α) :=
  entries.filter (fun entry => !(entry.1 == key))

end SearchFilter.Entries
