/-!
# Entries in the order of their keys

* `insertSorted`: add an entry, or replace the one with its key.
* `sortEntries`, `sortByName`: sort entries.
-/

namespace Listfile

/-- Insert an entry into a list that is sorted by its keys; an entry with the same key is replaced. -/
def insertSorted {α β : Type} (before : α → α → Bool) (key : α) (value : β) :
    List (α × β) → List (α × β)
  | [] => [(key, value)]
  | (k, v) :: rest =>
    if before key k then (key, value) :: (k, v) :: rest
    else if before k key then (k, v) :: insertSorted before key value rest
    else (key, value) :: rest

/-- The entries in the order of their keys. Of entries with the same key the last counts. -/
def sortEntries {α β : Type} (before : α → α → Bool) (entries : List (α × β)) : List (α × β) :=
  entries.foldl (fun sorted e => insertSorted before e.1 e.2 sorted) []

/-- The entries in the order of their names. -/
def sortByName {β : Type} (entries : List (String × β)) : List (String × β) :=
  sortEntries (fun a b => decide (a < b)) entries

end Listfile
