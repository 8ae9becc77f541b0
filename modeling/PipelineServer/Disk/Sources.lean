import PipelineServer.Disk.Tree

/-!
Finding the source files of a workspace.

The search goes at most eight levels down, follows no link except the root itself, and leaves out
the directories in which pipelines and tools keep their own files. A directory that cannot be
listed only hides what is in it.
-/

namespace PipelineServer.FileTree

/-- How many levels below the root are searched. -/
def searchDepth : Nat := 8

/-- Names of directories that are not searched. -/
def skippedNames : List String := [".git", "work", ".nextflow", "node_modules", "target"]

/-- Whether an open directory is at a location. -/
def isOpen (tree : FileTree) (dir : Location) : Bool := tree.entry? dir == some (.directory false)

/-- The source files at most `depth` levels below the directory `dir`, in the order of their
names; `shown` is the path under which `dir` was reached. A directory is listed by that path, so
it has to be one that can be looked up. -/
def sourcesBelow (tree : FileTree) : Nat → Location → Path → List Path
  | 0, _, _ => []
  | depth + 1, dir, shown =>
      if tree.isOpen dir && (refusal? shown).isNone then
        (tree.children dir).flatMap fun (name, entry) =>
          let p := shown.join name
          match entry with
          | .file _ _ => if p.isSource then [p] else []
          | .directory _ =>
              if (skippedNames.map Text.encodeUtf8).contains name then []
              else sourcesBelow tree depth (dir ++ [name]) p
          | .link _ => []
      else []

/-- The source files of the workspace at `root`, in the order of their components. A root that is
itself a source file is the only one. -/
def sourceFiles (tree : FileTree) (root : Path) : List Path :=
  match tree.lookup? false root with
  | some (.file _ _) => if root.isSource then [root] else []
  | some _ =>
      match tree.resolve true root with
      | .ok dir => sourcesBelow tree searchDepth dir root
      | .error _ => []
  | none => []

end PipelineServer.FileTree
