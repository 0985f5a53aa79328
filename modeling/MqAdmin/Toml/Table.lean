import MqAdmin.Document.Basic

/-!
How the tables of a TOML document come about. A table is defined by its own header, or only implied
by the header of a table inside it, or by dotted keys; what was defined in one way cannot be
extended in another.
-/

namespace MqAdmin.Toml

/-- How a table came about. -/
inductive Origin where
  /-- By its header, or by standing in braces. -/
  | header
  /-- As part of the path in another table's header. -/
  | implied
  | dotted
deriving DecidableEq

inductive Node where
  /-- A value, which nothing can extend. -/
  | value (content : Document)
  | table (origin : Origin) (entries : List (String × Node))
  /-- Tables that share one header; the last is the one that can be extended. -/
  | tables (elements : List (List (String × Node)))

abbrev Entries := List (String × Node)

def Entries.put (key : String) (node : Node) : Entries → Entries
  | [] => [(key, node)]
  | (other, kept) :: rest =>
    if other = key then (key, node) :: rest else (other, kept) :: Entries.put key node rest

/-- Changes the table at the end of a path. Missing tables come about on the way: as dotted ones if
the path belongs to a dotted key, which then does not lead into tables with a header. -/
def changeAt (byKey : Bool) (change : Origin → Entries → Option Entries) :
    (path : List String) → Origin → Entries → Option Entries
  | [], origin, entries => change origin entries
  | key :: path, _, entries =>
    match entries.lookup key with
    | none => do
      let origin := if byKey then Origin.dotted else .implied
      let inner ← changeAt byKey change path origin []
      return entries.put key (.table origin inner)
    | some (.value _) => none
    | some (.table origin inner) =>
      if byKey && origin = .header then none
      else do
        let inner ← changeAt byKey change path origin inner
        return entries.put key (.table origin inner)
    | some (.tables elements) => do
      let last ← elements.getLast?
      let last ← changeAt byKey change path .header last
      return entries.put key (.tables (elements.dropLast ++ [last]))

structure Assignment where
  path : List String
  key : String
  value : Document

/-- Assigns a value. The key must be new, and a path leads to a table of dotted keys only. -/
def assign (entries : Entries) (a : Assignment) : Option Entries :=
  changeAt true (fun origin inner =>
    if (origin = .dotted) = a.path.isEmpty || (inner.lookup a.key).isSome then none
    else some (inner.put a.key (.value a.value))) a.path .header entries

structure Section where
  /-- Whether the header adds to a list of tables. -/
  repeated : Bool
  path : List String
  key : String
  assignments : List Assignment

/-- Adds a section to a document. A table may have been implied before, but not defined. -/
def addSection (root : Entries) (s : Section) : Option Entries :=
  changeAt false (fun _ entries =>
    if s.repeated then do
      let elements ← match entries.lookup s.key with
        | none => some []
        | some (.tables elements) => some elements
        | some _ => none
      let added ← s.assignments.foldlM assign []
      return entries.put s.key (.tables (elements ++ [added]))
    else do
      let start ← match entries.lookup s.key with
        | none => some []
        | some (.table .implied inner) => some inner
        | some _ => none
      let defined ← s.assignments.foldlM assign start
      return entries.put s.key (.table .header defined)) s.path .header root

mutual

def Node.document : Node → Document
  | .value content => content
  | .table _ entries => .object (documentFields entries)
  | .tables elements => .array (documentTables elements)

def documentFields : List (String × Node) → List (Option String × Document)
  | [] => []
  | (key, node) :: rest => (some key, node.document) :: documentFields rest

def documentTables : List (List (String × Node)) → List Document
  | [] => []
  | entries :: rest => .object (documentFields entries) :: documentTables rest

end

end MqAdmin.Toml
