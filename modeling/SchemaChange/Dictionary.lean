/-!
# Dictionaries

Values under text keys, one value for each key, as a list in ascending order of the keys. Texts are
ordered by their characters, which is also the order of their UTF-8 bytes.
-/

namespace SchemaChange

/-- Values under text keys, in ascending order of the keys. -/
abbrev Dictionary (α : Type) := List (String × α)

namespace Dictionary

variable {α : Type}

/-- Puts a value under a key, in place of the one that was there. -/
def insert (key : String) (value : α) : Dictionary α → Dictionary α
  | [] => [(key, value)]
  | (k, v) :: rest =>
    if key < k then (key, value) :: (k, v) :: rest
    else if key = k then (key, value) :: rest
    else (k, v) :: insert key value rest

/-- The dictionary of the pairs; of several values under one key the last one is kept. -/
def ofList (pairs : List (String × α)) : Dictionary α :=
  pairs.foldl (fun d (k, v) => insert k v d) []

/-- The value under a key. -/
def get? (d : Dictionary α) (key : String) : Option α :=
  d.lookup key

end Dictionary

end SchemaChange
