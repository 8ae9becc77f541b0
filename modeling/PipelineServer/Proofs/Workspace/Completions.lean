import Mathlib.Data.List.DropRight
import PipelineServer.Compiler.Scanning
import PipelineServer.Proofs.Editor.Decoding
import PipelineServer.Proofs.Symbols.Completion
import PipelineServer.Proofs.Workspace.Run
import PipelineServer.Workspace.Requests

/-!
What is proposed for the name being typed.

The name is typed in front of the cursor: it is the longest run of identifier characters that ends
there. Proposed is every symbol of the index whose name goes on from it.
-/

namespace PipelineServer

namespace Text

/-- The runs of identifier characters in a text that end at a byte offset. -/
def runsTo (text : List Char) (offset : Nat) : Set (List Char) :=
  {run | ∃ front rest, text = front ++ run ++ rest ∧ utf8Width (front ++ run) = offset ∧
    ∀ c ∈ run, isIdentifierChar c = true}

/-- The start of a name that is typed at a position: the longest run that ends at its offset, and
nothing if the position is in no line of the text. -/
structure Typed (text : List Char) (p : Position) (start : List Char) : Prop where
  outside : text.count '\n' < p.line → start = []
  longest : p.line ≤ text.count '\n' → ∃ offset, offset? text p = some offset ∧
    start ∈ runsTo text offset ∧ ∀ run ∈ runsTo text offset, run.length ≤ start.length

/-- A place of a text is known by its offset. -/
theorem prefix_eq_of_utf8Width {text front other : List Char} (h : front <+: text)
    (hother : other <+: text) (hwidth : utf8Width front = utf8Width other) : front = other := by
  have hshort : ∀ {short long : List Char}, short <+: long → utf8Width short = utf8Width long →
      short = long := by
    rintro short _ ⟨rest, rfl⟩ hsame
    rw [utf8Width_append] at hsame
    cases rest with
    | nil => rw [List.append_nil]
    | cons c rest =>
        have := c.utf8Size_pos
        rw [utf8Width] at hsame
        omega
  rcases List.prefix_or_prefix_of_prefix h hother with hshorter | hlonger
  · exact hshort hshorter hwidth
  · exact (hshort hlonger hwidth.symm).symm

theorem identifierBefore_typed (text : List Char) (p : Position) :
    Typed text p (identifierBefore text p) := by
  constructor
  · intro houtside
    have hnone : after? text p = none :=
      Option.map_eq_none_iff.1 (offset?_eq_none_iff.2 houtside)
    rw [identifierBefore, hnone]
  · intro hinside
    obtain ⟨offset, hoffset⟩ : ∃ offset, offset? text p = some offset := by
      apply Option.ne_none_iff_exists'.1
      intro hnone
      exact Nat.not_lt.2 hinside (offset?_eq_none_iff.1 hnone)
    obtain ⟨front, rest, hlands, hafter, rfl⟩ := exists_lands_of_offset? hoffset
    have hbefore : before text rest = front := by rw [hlands.split, before_append]
    have hcut : front = (front.reverse.dropWhile isIdentifierChar).reverse ++
        (front.reverse.takeWhile isIdentifierChar).reverse :=
      (List.rdropWhile_append_rtakeWhile (p := isIdentifierChar) (l := front)).symm
    rw [identifierBefore, hafter]
    simp only [hbefore]
    refine ⟨utf8Width front, hoffset, ⟨_, rest, ?_, congrArg utf8Width hcut.symm, ?_⟩, ?_⟩
    · rw [← hcut]
      exact hlands.split
    · intro c hc
      exact List.mem_rtakeWhile_imp (l := front) hc
    · rintro run ⟨front', rest', hsplit, hwidth, hrun⟩
      have hfront : front' ++ run = front :=
        prefix_eq_of_utf8Width ⟨rest', hsplit.symm⟩ ⟨rest, hlands.split.symm⟩ hwidth
      rw [← hfront, List.reverse_append,
        List.takeWhile_append_of_pos fun c hc => hrun c (List.mem_reverse.1 hc)]
      simp

end Text

namespace Workspace

variable {F : Frontend}

theorem typedAt_of_open {w : Workspace F} {uri : Uri} {text : String}
    (h : w.documents.text? uri = some text) (p : Position) :
    (w.typedAt uri p).toList = Text.identifierBefore text.toList p := by
  rw [typedAt, h]
  exact String.toList_ofList

/-- In an open document, a completion offers each name and kind of the index once, in order, whose
name starts with what is typed, and nothing else, in whatever order the files of the index are
enumerated. -/
theorem completions_offer_matching (w : Workspace F) (uri : Uri) (p : Position) (text : String)
    (hopen : w.documents.text? uri = some text) :
    let start := w.typedAt uri p
    let offers := (w.index.candidates start).map Symbol.offer
    Text.Typed text.toList p start.toList ∧
      (w.completions uri p).map (fun item => (item.label, item.kind)) =
        offers.map (fun o => (o.1, o.2.completionKind)) ∧
      offers.Pairwise Offer.Before ∧ offers.Nodup ∧
      (∀ name kind, (name, kind) ∈ offers ↔
        ∃ file symbols s, w.index.files.get? file = some symbols ∧ s ∈ symbols ∧ s.name = name ∧
          s.kind = kind ∧ start.toList <+: name.toList) ∧
      ∀ order, order.Perm w.index.files.entries →
        (Index.candidatesOf order start).map Symbol.offer = offers := by
  intro start offers
  have hordered := Index.candidatesOf_ordered w.index.files.entries start
  refine ⟨?_, ?_, hordered.imp Offer.before_of_order, ?_, ?_, ?_⟩
  · rw [typedAt_of_open hopen]
    exact Text.identifierBefore_typed text.toList p
  · rw [completions, List.map_map, List.map_map]
    rfl
  · exact Index.nodup_offers_candidatesOf w.index.files.entries start
  · intro name kind
    apply Index.mem_offers_candidatesOf_iff.trans
    constructor
    · rintro ⟨hstart, ⟨file, symbols⟩, hfile, s, hs, hoffer⟩
      obtain ⟨hname, hkind⟩ := Prod.ext_iff.1 hoffer
      exact ⟨file, symbols, s, SortedMap.get?_eq_some_iff.2 hfile, hs, hname, hkind, hstart⟩
    · rintro ⟨file, symbols, s, hfile, hs, rfl, rfl, hstart⟩
      exact ⟨hstart, (file, symbols), SortedMap.get?_eq_some_iff.1 hfile, s, hs, rfl⟩
  · intro order horder
    exact Index.offers_candidatesOf_of_perm horder

namespace CompletionsWitness

def text : String := "process ALIGN \x7b\n\x7d\ndef ALIGN = 1\nAL"

/-- The document in which a name is typed, and another one. -/
def opened : Workspace Scanning.frontend :=
  (new Scanning.frontend (.new ⟨[0x2F]⟩) ⟨none, []⟩).after
    [⟨.bare, .opened ⟨"file:///b.nf"⟩ "process SORT \x7b\n\x7d\nprocess ALTER \x7b\n\x7d\n" 1⟩,
      ⟨.bare, .opened ⟨"file:///a.nf"⟩ text 1⟩]

def sort : Symbol := ⟨⟨"file:///b.nf"⟩, "SORT", .process, ⟨⟨0, 8⟩, ⟨1, 1⟩⟩, none, none⟩

def alter : Symbol := ⟨⟨"file:///b.nf"⟩, "ALTER", .process, ⟨⟨2, 8⟩, ⟨3, 1⟩⟩, none, none⟩

/-- The process of the document, and the variable of the same name. -/
def align : List Symbol :=
  [⟨⟨"file:///a.nf"⟩, "ALIGN", .process, ⟨⟨0, 8⟩, ⟨1, 1⟩⟩, none, none⟩,
    ⟨⟨"file:///a.nf"⟩, "ALIGN", .var, ⟨⟨2, 4⟩, ⟨2, 9⟩⟩, none, none⟩]

/-- One of the processes of the other document is offered, and the other one is not; the variable
and the process of one name are two items. -/
theorem completions_offer_matching_elsewhere :
    opened.documents.text? ⟨"file:///a.nf"⟩ = some text ∧
      opened.typedAt ⟨"file:///a.nf"⟩ ⟨3, 2⟩ = "AL" ∧
      opened.completions ⟨"file:///a.nf"⟩ ⟨3, 2⟩ =
        [⟨"ALIGN", Kind.var.completionKind, none⟩, ⟨"ALIGN", Kind.process.completionKind, none⟩,
          ⟨"ALTER", Kind.process.completionKind, none⟩] ∧
      alter.offer ∈ (opened.index.candidates "AL").map Symbol.offer ∧
      sort.offer ∉ (opened.index.candidates "AL").map Symbol.offer := by
  have hopen : opened.documents.text? ⟨"file:///a.nf"⟩ = some text := by decide +kernel
  have htyped : opened.typedAt ⟨"file:///a.nf"⟩ ⟨3, 2⟩ = "AL" := by decide +kernel
  have hfile : opened.index.files.get? ⟨"file:///b.nf"⟩ = some [sort, alter] := by decide +kernel
  have hmatching : Index.distinct [] ((opened.index.files.entries.flatMap Prod.snd).filter
      fun s => "AL".toList.isPrefixOf s.name.toList) = align ++ [alter] := by decide +kernel
  have hcandidates : opened.index.candidates "AL" = align.reverse ++ [alter] := by
    apply Index.candidatesOf_eq_of_perm
    · rw [Index.candidatesOf, hmatching]
      exact (List.mergeSort_perm _ _).trans ((List.reverse_perm align).symm.append_right [alter])
    · decide +kernel
  obtain ⟨-, -, -, -, hoffered, -⟩ := completions_offer_matching opened _ ⟨3, 2⟩ text hopen
  rw [htyped] at hoffered
  refine ⟨hopen, htyped, ?_, ?_, ?_⟩
  · rw [completions, htyped, hcandidates]
    rfl
  · exact (hoffered "ALTER" .process).2
      ⟨_, _, alter, hfile, by decide +kernel, rfl, rfl, by decide +kernel⟩
  · intro hsort
    obtain ⟨_, _, _, _, _, _, _, hstart⟩ := (hoffered "SORT" .process).1 hsort
    exact absurd hstart (by decide +kernel)

end CompletionsWitness

end Workspace

end PipelineServer
