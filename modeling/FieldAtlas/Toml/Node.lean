import FieldAtlas.Decimal.Double

/-!
# TOML documents

The tree that a document stands for. Tables remember how they came about, since only some may be
added to later.
-/

namespace FieldAtlas.Toml

inductive Node where
  | text (s : String)
  | integer (n : Int)
  | double (d : Double)
  | bool (b : Bool)
  | datetime
  | array (items : List Node)
  /-- A table in braces, which nothing can be added to. -/
  | inlined (entries : List (String × Node))
  /-- A table without a header of its own is implicit; one that dotted keys made is dotted. -/
  | table (implicit dotted : Bool) (entries : List (String × Node))
  /-- The tables under one repeated header. -/
  | tables (items : List (List (String × Node)))

/-- The entries of a table, in the order in which they were made. -/
abbrev Entries := List (String × Node)

namespace Entries

def get? (key : String) : Entries → Option Node
  | [] => none
  | (k, n) :: es => if k = key then some n else get? key es

/-- Puts another node into the place of the one under `key`. -/
def replace (key : String) (node : Node) (es : Entries) : Entries :=
  es.map fun e => if e.1 = key then (key, node) else e

def remove (key : String) (es : Entries) : Entries := es.filter fun e => e.1 ≠ key

/-- A new last entry; the key must be free. -/
def add? (key : String) (node : Node) (es : Entries) : Option Entries :=
  match es.get? key with
  | some _ => none
  | none => some (es ++ [(key, node)])

/-- Follows `path` from a table, making tables where there are none, and puts what `change` makes of
the table at its end in its place. `change` also gets to know whether that table is dotted. Dotted
keys may not enter a table that has a header. -/
def within (byDots : Bool) (change : Bool → Entries → Option Entries) :
    (path : List String) → (dotted : Bool) → Entries → Option Entries
  | [], dotted, es => change dotted es
  | key :: path, _, es =>
    match es.get? key with
    | none =>
      (within byDots change path byDots []).map fun inner => es ++ [(key, .table true byDots inner)]
    | some (.table implicit dotted inner) =>
      if byDots && !implicit then none
      else (within byDots change path dotted inner).map fun inner =>
        es.replace key (.table implicit dotted inner)
    | some (.tables items) =>
      match items.getLast? with
      | none => none
      | some last => (within byDots change path false last).map fun inner =>
          es.replace key (.tables (items.dropLast ++ [inner]))
    | some _ => none

/-- Adds the entry under a dotted key. Such a key goes through tables made by dots alone. -/
def addAt? (path : List String) (key : String) (node : Node) (es : Entries) : Option Entries :=
  within true (fun dotted inner => if dotted == path.isEmpty then none else inner.add? key node)
    path false es

end Entries

/-! ## Statements -/

/-- A key with dots: the way to a table and the name in it. -/
structure Key where
  path : List String
  name : String

/-- One line of a document. -/
inductive Statement where
  | entry (key : Key) (node : Node)
  | header (key : Key)
  | repeatedHeader (key : Key)

/-- A document under construction: the table that lines go into is apart until it is closed. -/
structure Draft where
  root : Entries
  /-- The key of the open table and whether it is a repeated one, or none for the root. -/
  opened : Option (Key × Bool)
  current : Entries

namespace Draft

def start : Draft := ⟨[], none, []⟩

/-- Puts the open table into its place. -/
def close (d : Draft) : Option Entries :=
  match d.opened with
  | none => some d.current
  | some (key, false) =>
    Entries.within false (fun _ es => es.add? key.name (.table false false d.current)) key.path
      false d.root
  | some (key, true) =>
    Entries.within false (fun _ es =>
      match es.get? key.name with
      | some (.tables items) => some (es.replace key.name (.tables (items ++ [d.current])))
      | some _ => none
      | none => some (es ++ [(key.name, .tables [d.current])])) key.path false d.root

/-- The table that a header opens again, from the table that the rest of its path starts in: only an
implicit one that dots did not make. The inner `none` is for a new table. -/
def reopened? (name : String) : (path : List String) → Entries → Option (Option Entries)
  | [], es =>
    match es.get? name with
    | none => some none
    | some (.table true false inner) => some (some inner)
    | some _ => none
  | k :: path, es =>
    match es.get? k with
    | none => some none
    | some (.table _ _ inner) => reopened? name path inner
    | some (.tables items) => items.getLast?.bind (reopened? name path)
    | some _ => none

def openHeader (d : Draft) (key : Key) : Option Draft := do
  let root ← d.close
  let inner ← reopened? key.name key.path root
  let root ← Entries.within false (fun _ es => some (es.remove key.name)) key.path false root
  some ⟨root, some (key, false), inner.getD []⟩

def openRepeated (d : Draft) (key : Key) : Option Draft := do
  let root ← d.close
  let root ← Entries.within false (fun _ es =>
    match es.get? key.name with
    | some (.tables _) => some es
    | some _ => none
    | none => some (es ++ [(key.name, .tables [])])) key.path false root
  some ⟨root, some (key, true), []⟩

def put (d : Draft) : Statement → Option Draft
  | .entry key node =>
    (Entries.addAt? key.path key.name node d.current).map fun es => { d with current := es }
  | .header key => d.openHeader key
  | .repeatedHeader key => d.openRepeated key

end Draft

/-- The document that the lines make up, unless they contradict each other. -/
def assemble (statements : List Statement) : Option Entries :=
  (statements.foldlM Draft.put Draft.start).bind Draft.close

end FieldAtlas.Toml
