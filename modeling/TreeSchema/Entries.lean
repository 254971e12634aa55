/-!
# Entries in insertion order

A schema keeps its declarations under keys, in the order in which the keys were first written. A
key that is written again replaces the value and keeps its place.
-/
namespace TreeSchema

/-- Values under keys, in order. `Entries.insert` keeps the keys distinct. -/
abbrev Entries (α : Type) := List (String × α)

namespace Entries

variable {α : Type}

def get? (entries : Entries α) (key : String) : Option α := List.lookup key entries

/-- Replaces the value of `key` where it stands, or adds the entry at the end. -/
def insert : Entries α → String → α → Entries α
  | [], key, value => [(key, value)]
  | (k, v) :: rest, key, value =>
    if k = key then (key, value) :: rest else (k, v) :: insert rest key value

def keys (entries : Entries α) : List String := entries.map (·.1)

/-- The place of a key, if it has one. -/
def position? (entries : Entries α) (key : String) : Option Nat := (keys entries).idxOf? key

end Entries

end TreeSchema
