import Mathlib.Data.List.Perm.Basic
import PipelineServer.Proofs.SortedMap
import PipelineServer.Proofs.Text.Utf8
import PipelineServer.Symbols.Present

/-!
What completion proposes.

All symbols that share a name and a kind make one proposal, and the first of them in the enumeration
of the files stands for all of them. So names and kinds are the same in whatever order the files are
gone through, but what is shown beside a name may come from one file or from another.
-/

namespace PipelineServer

/-- Proposals are told apart by name and kind. -/
abbrev Offer := String × Kind

namespace Offer

/-- By name, and then by kind. -/
def order (a b : Offer) : Ordering := (compare a.1 b.1).then (compare a.2.rank b.2.rank)

/-- In front in the order of the bytes of the names, and of the kinds under one name. -/
def Before (a b : Offer) : Prop :=
  Text.encodeUtf8 a.1 < Text.encodeUtf8 b.1 ∨ a.1 = b.1 ∧ a.2.rank < b.2.rank

theorem rank_injective {a b : Kind} (h : a.rank = b.rank) : a = b := by
  revert h
  cases a <;> cases b <;> decide

instance : Std.TransCmp order :=
  inferInstanceAs (Std.TransCmp (compareLex (compareOn Prod.fst)
    (compareOn fun o : Offer => o.2.rank)))

theorem order_isLE_trans {a b c : Offer} (hab : (a.order b).isLE = true)
    (hbc : (b.order c).isLE = true) : (a.order c).isLE = true :=
  Std.TransCmp.isLE_trans hab hbc

theorem order_total (a b : Offer) : (a.order b).isLE = true ∨ (b.order a).isLE = true := by
  cases h : a.order b with
  | lt => exact .inl rfl
  | eq => exact .inl rfl
  | gt =>
      have hlt : b.order a = .lt := Std.OrientedCmp.gt_iff_lt.1 h
      exact .inr (by rw [hlt]; rfl)

theorem order_eq_eq_iff {a b : Offer} : order a b = .eq ↔ a = b := by
  constructor
  · intro h
    obtain ⟨hname, hrank⟩ := Ordering.then_eq_eq.1 h
    apply Prod.ext
    · exact Std.LawfulEqCmp.eq_of_compare hname
    · exact rank_injective (Std.LawfulEqCmp.eq_of_compare hrank)
  · rintro rfl
    exact Std.ReflCmp.compare_self

theorem before_of_order {a b : Offer} (h : order a b = .lt) : Before a b := by
  rcases Ordering.then_eq_lt.1 h with hname | ⟨hname, hrank⟩
  · left
    exact Text.encodeUtf8_lt (compareOfLessAndEq_eq_lt.1 hname)
  · right
    exact ⟨Std.LawfulEqCmp.eq_of_compare hname, Nat.compare_eq_lt.1 hrank⟩

end Offer

namespace Symbol

/-- The offer that a symbol makes. -/
def offer (s : Symbol) : Offer := (s.name, s.kind)

/-- What is shown beside the name of a proposal. -/
def remark (s : Symbol) : Option String := s.detail <|> s.parent

theorem alike_iff {a b : Symbol} : a.alike b = true ↔ b.offer = a.offer := by
  simp only [alike, offer, Bool.and_eq_true, beq_iff_eq, Prod.mk.injEq]
  exact and_congr eq_comm eq_comm

theorem completionItem_eq_iff {a b : Symbol} (h : a.offer = b.offer) :
    a.completionItem = b.completionItem ↔ a.remark = b.remark := by
  obtain ⟨hname, hkind⟩ := Prod.ext_iff.1 h
  have hname : a.name = b.name := hname
  have hkind : a.kind = b.kind := hkind
  simp [completionItem, remark, hname, hkind]

end Symbol

namespace Index

/-- The first symbol that makes an offer. -/
def firstOf? (symbols : List Symbol) (offer : Offer) : Option Symbol :=
  symbols.find? fun s => s.offer = offer

theorem offer_of_firstOf? {symbols : List Symbol} {offer : Offer} {s : Symbol}
    (h : firstOf? symbols offer = some s) : s.offer = offer := by
  simpa using List.find?_some h

/-- Leaving out symbols by their names leaves out whole offers. -/
theorem firstOf?_filter (keep : String → Bool) (symbols : List Symbol) (offer : Offer) :
    firstOf? (symbols.filter fun s => keep s.name) offer =
      if keep offer.1 then firstOf? symbols offer else none := by
  have hname : ∀ {s : Symbol}, s.offer = offer → keep s.name = keep offer.1 :=
    fun h => congrArg (fun o : Offer => keep o.1) h
  rw [firstOf?, List.find?_filter]
  split
  · rename_i hkeep
    apply congrArg (symbols.find? ·)
    funext s
    by_cases hoffer : s.offer = offer
    · simp [hoffer, hname hoffer, hkeep]
    · simp [hoffer]
  · rename_i hkeep
    apply List.find?_eq_none.2
    intro s _ hs
    obtain ⟨hkept, hoffer⟩ := of_decide_eq_true hs
    exact hkeep (hname (of_decide_eq_true hoffer) ▸ hkept)

/-- Of the symbols that make an offer the first one is kept, unless the offer was seen before. -/
theorem mem_distinct_iff {seen symbols : List Symbol} {s : Symbol} :
    s ∈ distinct seen symbols ↔
      s.offer ∉ seen.map Symbol.offer ∧ firstOf? symbols s.offer = some s := by
  induction symbols generalizing seen with
  | nil => simp [distinct, firstOf?]
  | cons t rest ih =>
      have hkept : seen.any t.alike = true ↔ t.offer ∈ seen.map Symbol.offer := by
        simp [Symbol.alike_iff]
      rw [distinct, firstOf?, List.find?_cons]
      by_cases hold : t.offer ∈ seen.map Symbol.offer
      · rw [if_pos (hkept.2 hold), ih]
        by_cases hoffer : t.offer = s.offer
        · simp [← hoffer, hold]
        · simp [hoffer, firstOf?]
      · rw [if_neg (mt hkept.1 hold), List.mem_cons, ih, List.map_cons, List.mem_cons]
        by_cases hoffer : t.offer = s.offer
        · rw [hoffer] at hold
          simp [hoffer, hold, eq_comm]
        · have hother : s ≠ t := fun h => hoffer (congrArg Symbol.offer h.symm)
          simp [hoffer, Ne.symm hoffer, hother, firstOf?]

theorem nodup_offers_distinct (seen symbols : List Symbol) :
    ((distinct seen symbols).map Symbol.offer).Nodup := by
  induction symbols generalizing seen with
  | nil => simp [distinct]
  | cons s rest ih =>
      rw [distinct]
      split
      · exact ih seen
      · refine List.nodup_cons.2 ⟨?_, ih (s :: seen)⟩
        intro hagain
        obtain ⟨t, ht, hoffer⟩ := List.mem_map.1 hagain
        apply (mem_distinct_iff.1 ht).1
        rw [hoffer]
        exact List.mem_cons_self

section Candidates

variable {files : List (Uri × List Symbol)} {start : String}

/-- The files are gone through in their order, and the first symbol that makes an offer stands for
it. -/
theorem mem_candidatesOf_iff {s : Symbol} :
    s ∈ candidatesOf files start ↔
      start.toList <+: s.name.toList ∧ firstOf? (files.flatMap Prod.snd) s.offer = some s := by
  rw [candidatesOf, List.mem_mergeSort, mem_distinct_iff,
    firstOf?_filter fun name => start.toList.isPrefixOf name.toList]
  simp [Symbol.offer]

theorem nodup_offers_candidatesOf (files : List (Uri × List Symbol)) (start : String) :
    ((candidatesOf files start).map Symbol.offer).Nodup :=
  ((List.mergeSort_perm _ _).map Symbol.offer).nodup_iff.2 (nodup_offers_distinct _ _)

/-- Names and kinds are in order. -/
theorem candidatesOf_ordered (files : List (Uri × List Symbol)) (start : String) :
    ((candidatesOf files start).map Symbol.offer).Pairwise fun a b => a.order b = .lt := by
  have hsorted : ((candidatesOf files start).map Symbol.offer).Pairwise fun a b =>
      (a.order b).isLE = true := by
    apply List.pairwise_map.2
    apply List.pairwise_mergeSort
    · intro a b c hab hbc
      exact Offer.order_isLE_trans (a := a.offer) (b := b.offer) hab hbc
    · intro a b
      rw [Bool.or_eq_true]
      exact Offer.order_total a.offer b.offer
  refine (hsorted.and (nodup_offers_candidatesOf files start)).imp ?_
  rintro a b ⟨hle, hne⟩
  cases horder : a.order b with
  | lt => rfl
  | eq => exact absurd (Offer.order_eq_eq_iff.1 horder) hne
  | gt =>
      rw [horder] at hle
      cases hle

theorem mem_offers_candidatesOf_iff {offer : Offer} :
    offer ∈ (candidatesOf files start).map Symbol.offer ↔
      start.toList <+: offer.1.toList ∧ ∃ file ∈ files, ∃ s ∈ file.2, s.offer = offer := by
  rw [List.mem_map]
  constructor
  · rintro ⟨s, hs, rfl⟩
    obtain ⟨hstart, hfirst⟩ := mem_candidatesOf_iff.1 hs
    obtain ⟨file, hfile, hmem⟩ := List.mem_flatMap.1 (List.mem_of_find?_eq_some hfirst)
    exact ⟨hstart, file, hfile, s, hmem, rfl⟩
  · rintro ⟨hstart, file, hfile, s, hs, rfl⟩
    have hsome : (firstOf? (files.flatMap Prod.snd) s.offer).isSome := by
      apply List.find?_isSome.2
      exact ⟨s, List.mem_flatMap.2 ⟨file, hfile, hs⟩, by simp⟩
    obtain ⟨t, ht⟩ := Option.isSome_iff_exists.1 hsome
    have hoffer := offer_of_firstOf? ht
    refine ⟨t, mem_candidatesOf_iff.2 ⟨?_, hoffer ▸ ht⟩, hoffer⟩
    rw [show t.name = s.name from congrArg Prod.fst hoffer]
    exact hstart

/-- The candidates are the one list of the symbols found that is in order. -/
theorem candidatesOf_eq_of_perm {found : List Symbol} (h : (candidatesOf files start).Perm found)
    (hordered : (found.map Symbol.offer).Pairwise fun a b => a.order b = .lt) :
    candidatesOf files start = found := by
  apply List.Perm.eq_of_pairwise ?_ (List.pairwise_map.1 (candidatesOf_ordered files start))
    (List.pairwise_map.1 hordered) h
  intro a b _ _ hab hba
  exact absurd hba (Std.OrientedCmp.not_lt_of_lt hab)

/-- The order of the files does not show in the names and kinds that are offered. -/
theorem offers_candidatesOf_of_perm {other : List (Uri × List Symbol)} (h : files.Perm other) :
    (candidatesOf files start).map Symbol.offer = (candidatesOf other start).map Symbol.offer := by
  apply List.Perm.eq_of_pairwise ?_ (candidatesOf_ordered files start)
    (candidatesOf_ordered other start)
  · apply (List.perm_ext_iff_of_nodup (nodup_offers_candidatesOf files start)
      (nodup_offers_candidatesOf other start)).2
    intro offer
    simp only [mem_offers_candidatesOf_iff, h.mem_iff]
  · intro a b _ _ hab hba
    exact absurd hba (Std.OrientedCmp.not_lt_of_lt hab)

end Candidates

/-- The proposals when the files are gone through in this order. -/
def proposals (files : List (Uri × List Symbol)) (start : String) : List CompletionItem :=
  (candidatesOf files start).map Symbol.completionItem

/-- Files that make the same offer show the same remark beside it, each in its first symbol. -/
def Agree (files : List (Uri × List Symbol)) (start : String) : Prop :=
  ∀ file ∈ files, ∀ other ∈ files, ∀ s t, firstOf? file.2 s.offer = some s →
    firstOf? other.2 s.offer = some t → start.toList <+: s.name.toList → s.remark = t.remark

section Orders

variable {files other : List (Uri × List Symbol)} {start : String}

theorem exists_file_of_firstOf? {offer : Offer} {s : Symbol}
    (h : firstOf? (files.flatMap Prod.snd) offer = some s) :
    ∃ file ∈ files, firstOf? file.2 offer = some s := by
  rw [firstOf?, List.find?_flatMap] at h
  exact List.exists_of_findSome?_eq_some h

/-- The file that comes first decides about the offers it makes. -/
theorem firstOf?_in_front {file : Uri × List Symbol} {offer : Offer} {s : Symbol}
    (h : firstOf? file.2 offer = some s) :
    firstOf? ((file :: files).flatMap Prod.snd) offer = some s := by
  rw [firstOf?, List.flatMap_cons, List.find?_append, ← firstOf?, h, Option.some_or]

theorem exists_order_in_front {file : Uri × List Symbol} (h : file ∈ files) :
    ∃ rest, (file :: rest).Perm files := by
  obtain ⟨above, below, rfl⟩ := List.append_of_mem h
  exact ⟨above ++ below, List.perm_middle.symm⟩

theorem map_some_proposals (files : List (Uri × List Symbol)) (start : String) :
    (proposals files start).map some = ((candidatesOf files start).map Symbol.offer).map fun o =>
      (firstOf? (files.flatMap Prod.snd) o).map Symbol.completionItem := by
  rw [proposals, List.map_map, List.map_map]
  apply List.map_congr_left
  intro s hs
  simp [(mem_candidatesOf_iff.1 hs).2]

/-- Two orders offer the same, so it is for the first symbols of each offer to be shown alike. -/
theorem proposals_eq_iff_of_perm (h : files.Perm other) :
    proposals files start = proposals other start ↔
      ∀ offer ∈ (candidatesOf files start).map Symbol.offer,
        (firstOf? (files.flatMap Prod.snd) offer).map Symbol.completionItem =
          (firstOf? (other.flatMap Prod.snd) offer).map Symbol.completionItem := by
  rw [← List.map_inj_right fun _ _ => Option.some.inj, map_some_proposals, map_some_proposals,
    ← offers_candidatesOf_of_perm h, List.map_inj_left]

theorem exists_firstOf?_of_offered {offer : Offer}
    (h : offer ∈ (candidatesOf files start).map Symbol.offer) :
    ∃ s, firstOf? (files.flatMap Prod.snd) offer = some s ∧ ∃ file ∈ files,
      firstOf? file.2 offer = some s := by
  obtain ⟨s, hs, rfl⟩ := List.mem_map.1 h
  have hfirst := (mem_candidatesOf_iff.1 hs).2
  exact ⟨s, hfirst, exists_file_of_firstOf? hfirst⟩

theorem proposals_eq_of_agree (hagree : Agree files start) {order order' : List (Uri × List Symbol)}
    (h : order.Perm files) (h' : order'.Perm files) :
    proposals order start = proposals order' start := by
  apply (proposals_eq_iff_of_perm (h.trans h'.symm)).2
  intro offer hoffer
  obtain ⟨s, hs, file, hfile, hfirst⟩ := exists_firstOf?_of_offered hoffer
  rw [offers_candidatesOf_of_perm (h.trans h'.symm)] at hoffer
  obtain ⟨t, ht, file', hfile', hfirst'⟩ := exists_firstOf?_of_offered hoffer
  have hstart := (mem_offers_candidatesOf_iff.1 hoffer).1
  obtain rfl := offer_of_firstOf? hs
  have hremark : s.remark = t.remark :=
    hagree file (h.mem_iff.1 hfile) file' (h'.mem_iff.1 hfile') s t hfirst hfirst' hstart
  rw [hs, ht, Option.map_some, Option.map_some,
    (Symbol.completionItem_eq_iff (offer_of_firstOf? ht).symm).2 hremark]

theorem agree_of_proposals_eq
    (h : ∀ order order', order.Perm files → order'.Perm files →
      proposals order start = proposals order' start) : Agree files start := by
  intro file hfile file' hfile' s t hs ht hstart
  obtain ⟨rest, hrest⟩ := exists_order_in_front hfile
  obtain ⟨rest', hrest'⟩ := exists_order_in_front hfile'
  have hoffered : s.offer ∈ (candidatesOf (file :: rest) start).map Symbol.offer := by
    apply mem_offers_candidatesOf_iff.2
    exact ⟨hstart, file, List.mem_cons_self, s, List.mem_of_find?_eq_some hs, rfl⟩
  have hitems := (proposals_eq_iff_of_perm (hrest.trans hrest'.symm)).1
    (h _ _ hrest hrest') s.offer hoffered
  rw [firstOf?_in_front hs, firstOf?_in_front ht, Option.map_some, Option.map_some,
    Option.some_inj] at hitems
  exact (Symbol.completionItem_eq_iff (offer_of_firstOf? ht).symm).1 hitems

end Orders

/-- However the files are enumerated, the proposals have the same labels and kinds, and each of them
is that of the first symbol of its name and kind in some file. All of them are the same in every
enumeration exactly if the files agree on what they show. -/
theorem proposals_of_enumerations (index : Index) (start : String) :
    (∀ order order', order.Perm index.files.entries → order'.Perm index.files.entries →
      (proposals order start).map (fun item => (item.label, item.kind)) =
        (proposals order' start).map fun item => (item.label, item.kind)) ∧
    (∀ order, order.Perm index.files.entries → ∀ item ∈ proposals order start,
      ∃ uri symbols s, index.files.get? uri = some symbols ∧
        symbols.find? (fun t => t.name = s.name ∧ t.kind = s.kind) = some s ∧
        start.toList <+: s.name.toList ∧ item = s.completionItem) ∧
    ((∀ order order', order.Perm index.files.entries → order'.Perm index.files.entries →
      proposals order start = proposals order' start) ↔ Agree index.files.entries start) := by
  refine ⟨?_, ?_, agree_of_proposals_eq, fun h _ _ => proposals_eq_of_agree h⟩
  · intro order order' h h'
    have hshown : ∀ files : List (Uri × List Symbol),
        (proposals files start).map (fun item => (item.label, item.kind)) =
          ((candidatesOf files start).map Symbol.offer).map fun o => (o.1, o.2.completionKind) := by
      intro files
      rw [proposals, List.map_map, List.map_map]
      rfl
    rw [hshown, hshown, offers_candidatesOf_of_perm (h.trans h'.symm)]
  · intro order h item hitem
    obtain ⟨s, hs, rfl⟩ := List.mem_map.1 hitem
    obtain ⟨hstart, hfirst⟩ := mem_candidatesOf_iff.1 hs
    obtain ⟨⟨uri, symbols⟩, hfile, hfirst⟩ := exists_file_of_firstOf? hfirst
    refine ⟨uri, symbols, s, SortedMap.get?_eq_some_iff.2 (h.mem_iff.1 hfile), ?_, hstart, rfl⟩
    simpa [firstOf?, Symbol.offer, Prod.ext_iff] using hfirst

namespace CompletionWitness

/-- A variable of one name in two files, each time of another type. -/
def counted : Uri × List Symbol :=
  (⟨"file:///w/a.nf"⟩, [⟨⟨"file:///w/a.nf"⟩, "sample", .var, ⟨⟨0, 4⟩, ⟨0, 10⟩⟩, none, some "int"⟩])

def named : Uri × List Symbol :=
  (⟨"file:///w/b.nf"⟩,
    [⟨⟨"file:///w/b.nf"⟩, "sample", .var, ⟨⟨0, 7⟩, ⟨0, 13⟩⟩, none, some "String"⟩])

def index : Index :=
  ⟨(SortedMap.empty.insert counted.1 counted.2).insert named.1 named.2, true, some .full⟩

/-- The type that is shown is that of the file that comes first. -/
theorem detail_follows_order :
    [counted, named].Perm index.files.entries ∧ [named, counted].Perm index.files.entries ∧
      proposals [counted, named] "sam" = [⟨"sample", 6, some "int"⟩] ∧
      proposals [counted, named] "sam" ≠ proposals [named, counted] "sam" := by
  decide +kernel

end CompletionWitness

end Index

end PipelineServer
