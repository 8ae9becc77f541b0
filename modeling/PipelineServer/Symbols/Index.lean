import PipelineServer.Compiler.Frontend

/-!
The declarations of all files, ready to be asked.

The index is made anew from a new session. As long as a session is kept, only the files of the
current change are brought up to date.
-/

namespace PipelineServer

/-- A declaration in editor coordinates, with the file it is in. -/
structure Symbol where
  uri : Uri
  name : String
  kind : Kind
  range : Range
  parent : Option String
  detail : Option String
deriving DecidableEq, Repr

namespace Symbol

def ofDeclaration (uri : Uri) (d : Declaration) : Symbol :=
  ⟨uri, d.name, d.kind, d.span.toRange, d.parent, d.detail⟩

/-- By name, then by kind. -/
def order (a b : Symbol) : Ordering :=
  (compare a.name b.name).then (compare a.kind.rank b.kind.rank)

/-- Whether two symbols are one in a list of completions. -/
def alike (a b : Symbol) : Bool := a.name == b.name && a.kind == b.kind

end Symbol

/-- What the last update of the index was. -/
inductive IndexUpdate
  | full
  | incremental (changed : UriSet)
deriving DecidableEq

/-- Symbols by file. -/
structure Index where
  files : SortedMap Uri (List Symbol)
  built : Bool
  lastUpdate : Option IndexUpdate
deriving DecidableEq

namespace Index

/-- The index before anything has been compiled. -/
def empty : Index := ⟨∅, false, none⟩

instance : Inhabited Index := ⟨empty⟩

/-- The symbols of a file, if it is part of the session. -/
def derive? (forest : Forest) (uri : Uri) : Option (List Symbol) :=
  (forest.declarations uri).map fun ds => ds.map (Symbol.ofDeclaration uri)

/-- The symbols of every file of a session. -/
def filesOf (forest : Forest) : SortedMap Uri (List Symbol) :=
  forest.sources.foldl (fun files uri => files.insert uri ((derive? forest uri).getD [])) ∅

/-- The index of a session, made from nothing. -/
def rebuild (forest : Forest) : Index := ⟨filesOf forest, true, some .full⟩

/-- Brings one file up to date; a file the session does not have is forgotten. -/
def refreshFile (forest : Forest) (files : SortedMap Uri (List Symbol)) (uri : Uri) :
    SortedMap Uri (List Symbol) :=
  match derive? forest uri with
  | some symbols => files.insert uri symbols
  | none => files.erase uri

/-- Brings the changed files up to date. An index that was never built is made from nothing. -/
def update (index : Index) (forest : Forest) (changed : UriSet) : Index :=
  if index.built then
    { index with
      files := changed.keys.foldl (refreshFile forest) index.files
      lastUpdate := some (.incremental changed) }
  else rebuild forest

/-- The symbols of a file. -/
def symbols (index : Index) (uri : Uri) : List Symbol := (index.files.get? uri).getD []

/-- Whether the range of `a` is at most as large as that of `b`. -/
def noLarger (a b : Symbol) : Bool := a.range.extent ≤ b.range.extent

/-- The first of the smallest symbols. -/
def smallest? : List Symbol → Option Symbol
  | [] => none
  | s :: rest =>
      match smallest? rest with
      | none => some s
      | some t => if noLarger s t then some s else some t

/-- The innermost symbol of a file around a position. -/
def symbolAt? (index : Index) (uri : Uri) (p : Position) : Option Symbol :=
  smallest? ((index.symbols uri).filter fun s => s.range.contains p)

/-- Keeps the first of all symbols that are alike, apart from those like one in `seen`. -/
def distinct (seen : List Symbol) : List Symbol → List Symbol
  | [] => []
  | s :: rest =>
      if seen.any s.alike then distinct seen rest else s :: distinct (s :: seen) rest

/-- The symbols of some files whose names start with `start`, one for each name and kind, in the
order of names and kinds. The files may be given in any order; of symbols that are alike the first
is taken. -/
def candidatesOf (files : List (Uri × List Symbol)) (start : String) : List Symbol :=
  let matching := (files.flatMap Prod.snd).filter fun s => start.toList.isPrefixOf s.name.toList
  (distinct [] matching).mergeSort fun a b => (Symbol.order a b).isLE

/-- The symbols whose names start with `start`. -/
def candidates (index : Index) (start : String) : List Symbol :=
  candidatesOf index.files.entries start

end Index

end PipelineServer
