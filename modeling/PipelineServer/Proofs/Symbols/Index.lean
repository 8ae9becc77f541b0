import PipelineServer.Proofs.SortedMap
import PipelineServer.Symbols.Index

/-!
An index that is brought up to date for some files only is the index made from nothing, as long as
no other file has changed.
-/

namespace PipelineServer

/-- The files of a forest are those it has declarations for. -/
def Forest.Closed (forest : Forest) : Prop :=
  ∀ uri, uri ∈ forest.sources ↔ (forest.declarations uri).isSome

namespace Index

theorem derive?_eq_none_of_not_mem {forest : Forest} (hclosed : forest.Closed) {uri : Uri}
    (h : uri ∉ forest.sources) : derive? forest uri = none := by
  rw [hclosed, Option.not_isSome_iff_eq_none] at h
  rw [derive?, h]
  rfl

theorem get?_filesOf {forest : Forest} (hclosed : forest.Closed) (uri : Uri) :
    (filesOf forest).get? uri = derive? forest uri := by
  have hother : ∀ (files : SortedMap Uri (List Symbol)) {k k' : Uri}, k' ≠ k →
      (files.insert k ((derive? forest k).getD [])).get? k' = files.get? k' :=
    fun files _ _ hne => files.get?_insert_of_ne _ hne
  by_cases h : uri ∈ forest.sources
  · have hsome : (derive? forest uri).isSome := by
      rw [derive?, Option.isSome_map]
      exact (hclosed uri).1 h
    obtain ⟨symbols, hsymbols⟩ := Option.isSome_iff_exists.1 hsome
    rw [hsymbols]
    apply foldl_lookup_of_mem (fun (files : SortedMap Uri (List Symbol)) key => files.get? key)
      _ hother _ h
    intro files
    rw [SortedMap.get?_insert_self, hsymbols, Option.getD_some]
  · rw [derive?_eq_none_of_not_mem hclosed h]
    exact foldl_lookup_of_not_mem (fun (files : SortedMap Uri (List Symbol)) key => files.get? key)
      _ hother h ∅

theorem get?_refreshFile_self (forest : Forest) (files : SortedMap Uri (List Symbol)) (uri : Uri) :
    (refreshFile forest files uri).get? uri = derive? forest uri := by
  unfold refreshFile
  split
  · rename_i symbols h
    rw [SortedMap.get?_insert_self, h]
  · rename_i h
    rw [SortedMap.get?_erase_self, h]

theorem get?_refreshFile_of_ne (forest : Forest) (files : SortedMap Uri (List Symbol))
    {uri other : Uri} (hne : other ≠ uri) :
    (refreshFile forest files uri).get? other = files.get? other := by
  unfold refreshFile
  split
  · exact files.get?_insert_of_ne _ hne
  · exact files.get?_erase_of_ne hne

/-- Bringing files up to date decides anew for each file that is named, in whatever order they are
named. -/
theorem get?_foldl_refreshFile (forest : Forest) (uris : List Uri)
    (files : SortedMap Uri (List Symbol)) (uri : Uri) :
    (uris.foldl (refreshFile forest) files).get? uri =
      if uri ∈ uris then derive? forest uri else files.get? uri := by
  split
  · rename_i hmem
    exact foldl_lookup_of_mem (fun (files : SortedMap Uri (List Symbol)) key => files.get? key)
      (refreshFile forest) (fun files _ _ => get?_refreshFile_of_ne forest files)
      (fun files => get?_refreshFile_self forest files uri) hmem files
  · rename_i hmem
    exact foldl_lookup_of_not_mem (fun (files : SortedMap Uri (List Symbol)) key => files.get? key)
      (refreshFile forest) (fun files _ _ => get?_refreshFile_of_ne forest files) hmem files

/-- Bringing an index up to date leaves the files outside `changed` alone, if there are any. -/
theorem get?_update {forest : Forest} (hclosed : forest.Closed) (index : Index) (changed : UriSet)
    (uri : Uri) :
    (index.update forest changed).files.get? uri =
      if index.built = true ∧ uri ∉ changed then index.files.get? uri else derive? forest uri := by
  by_cases hbuilt : index.built = true
  · rw [update, if_pos hbuilt, get?_foldl_refreshFile]
    by_cases huri : uri ∈ changed <;> simp [SortedMap.mem_keys, hbuilt, huri]
  · rw [update, if_neg hbuilt, if_neg fun h => hbuilt h.1, rebuild, get?_filesOf hclosed]

/-- The order in which the files of a set are brought up to date does not matter. -/
theorem update_files_of_enumerates {index : Index} (hbuilt : index.built = true) (forest : Forest)
    {uris : List Uri} {changed : UriSet} (hmem : ∀ uri, uri ∈ uris ↔ uri ∈ changed) :
    (index.update forest changed).files = uris.foldl (refreshFile forest) index.files := by
  rw [update, if_pos hbuilt]
  apply SortedMap.ext_get?
  intro uri
  rw [get?_foldl_refreshFile, get?_foldl_refreshFile]
  simp only [SortedMap.mem_keys, hmem]

/-- If all files outside `changed` derive what they derived before, bringing `changed` up to date
is enough. -/
theorem update_files_eq {index : Index} {old new : Forest} {changed : UriSet}
    (hfiles : index.files = filesOf old) (hold : old.Closed) (hnew : new.Closed)
    (hagree : ∀ uri, uri ∉ changed → derive? new uri = derive? old uri) :
    (index.update new changed).files = filesOf new := by
  apply SortedMap.ext_get?
  intro uri
  rw [get?_update hnew, get?_filesOf hnew, hfiles, get?_filesOf hold]
  split
  · rename_i hkept
    exact (hagree uri hkept.2).symm
  · rfl

end Index

end PipelineServer
