import ChannelGraph.Decimal.Binary64
import ChannelGraph.OrderedMap

/-!
# TOML values

The values of TOML documents, and how a document grows statement by statement. A table knows
its standing, that is, how it came about, since that decides what may still be added to it:

* a closed table was written as a value and never changes;
* a table that was only passed by a header may get a header of its own, once;
* a table with a header grows below that header alone;
* a table made by a dotted key grows by dotted keys of the same section.

A header leads through tables of any standing but closed, and into the last table of an array
of tables. A document counts its sections, so "the same section" is a comparison of numbers.
-/

namespace ChannelGraph

namespace Toml

/-- How a table came about. -/
inductive Standing where
  /-- The table was written as a value. -/
  | closed
  /-- The table was passed by a header. -/
  | passed
  /-- The table has a header of its own. -/
  | headed
  /-- The table was made by a dotted key in a section. -/
  | dotted (part : Nat)
deriving DecidableEq

end Toml

/-- A TOML value. -/
inductive Toml where
  | string (s : String)
  | integer (n : Int)
  | float (x : Binary64)
  | boolean (b : Bool)
  /-- A date, a time of day or both, as written. -/
  | moment (s : String)
  /-- An array, with whether it is one of tables that grows by headers. -/
  | array (grows : Bool) (items : List Toml)
  | table (standing : Toml.Standing) (entries : List (String × Toml))

namespace Toml

instance : Inhabited Toml :=
  ⟨boolean false⟩

/-- The entries of a table. -/
abbrev Entries := List (String × Toml)

/-- Change the entries at the end of a path of headers. Tables on the way that are missing are
made. -/
def under (change : Entries → Option Entries) : List String → Entries → Option Entries
  | [], entries => change entries
  | key :: path, entries =>
    let put (v : Toml) : Entries := OrderedMap.insertEntry key v entries
    match entries.lookup key with
    | none => (under change path []).map fun es ↦ put (table .passed es)
    | some (table .closed _) => none
    | some (table standing es) => (under change path es).map fun es ↦ put (table standing es)
    | some (array true items) =>
      match items.reverse with
      | table standing es :: before =>
        (under change path es).map fun es ↦
          put (array true (table standing es :: before).reverse)
      | _ => none
    | some _ => none

/-- Give a table its header. -/
def declare (key : String) (entries : Entries) : Option Entries :=
  match entries.lookup key with
  | none => some (OrderedMap.insertEntry key (table .headed []) entries)
  | some (table .passed es) => some (OrderedMap.insertEntry key (table .headed es) entries)
  | some _ => none

/-- Add an empty table to an array of tables. -/
def append (key : String) (entries : Entries) : Option Entries :=
  match entries.lookup key with
  | none => some (OrderedMap.insertEntry key (array true [table .headed []]) entries)
  | some (array true items) =>
    some (OrderedMap.insertEntry key (array true (items ++ [table .headed []])) entries)
  | some _ => none

/-- Whether a dotted key of a section may lead through a table. -/
def Standing.admits (part : Nat) : Standing → Bool
  | passed => true
  | dotted made => made == part
  | closed | headed => false

/-- Give a dotted key a value, in the section with the given number. -/
def assign (part : Nat) (value : Toml) : List String → Entries → Option Entries
  | [], _ => none
  | [key], entries =>
    match entries.lookup key with
    | none => some (OrderedMap.insertEntry key value entries)
    | some _ => none
  | key :: path, entries =>
    let put (es : Entries) : Entries := OrderedMap.insertEntry key (table (.dotted part) es) entries
    match entries.lookup key with
    | none => (assign part value path []).map put
    | some (table standing es) =>
      if standing.admits part then (assign part value path es).map put else none
    | some _ => none

/-- Apply a change to the last key of a path, below the tables that the keys in front lead to. -/
def atLast (change : String → Entries → Option Entries) (path : List String)
    (entries : Entries) : Option Entries :=
  match path.getLast? with
  | none => none
  | some key => under (change key) path.dropLast entries

/-- The value of a key. -/
def member? (key : String) (entries : Entries) : Option Toml :=
  entries.lookup key

end Toml

end ChannelGraph
