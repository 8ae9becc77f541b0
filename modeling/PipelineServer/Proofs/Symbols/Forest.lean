import Mathlib.Data.List.Forall2
import Mathlib.Data.List.Induction
import Mathlib.Data.Set.Function
import Mathlib.Order.Bounds.Basic
import PipelineServer.Proofs.Symbols.Outline
import PipelineServer.Protocol.Encode

/-!
The outline as a forest of places.

A place in a forest is an address: which tree to take, then which child of its root, and so on. The
tree that an outline makes for a symbol has below it the trees of the symbols that belong under it,
in their order (`Grown`). A symbol belongs under an earlier one, so following the parents upwards
ends, and gives every symbol an address of its own that leads to it (`address`).
-/

namespace PipelineServer

namespace OutlineNode

def symbol : OutlineNode → Symbol
  | .node s _ _ => s

def selection : OutlineNode → Range
  | .node _ selection _ => selection

def children : OutlineNode → List OutlineNode
  | .node _ _ children => children

end OutlineNode

namespace Outline

/-! ### Parents -/

/-- The symbol with the index `j` comes before that with the index `i`, has the name of its parent
and encloses it. -/
def FitsUnder (symbols : List Symbol) (i j : Nat) : Prop :=
  j < i ∧ ∃ outer inner, symbols[j]? = some outer ∧ symbols[i]? = some inner ∧
    inner.parent = some outer.name ∧ outer.range.encloses inner.range

/-- The index of the symbol that the one with the index `i` belongs under. -/
def parentIn (symbols : List Symbol) (i : Nat) : Option Nat :=
  (symbols[i]?).bind (parentOf? (symbols.take i).reverse)

theorem holds_iff {outer inner : Symbol} :
    holds outer inner ↔ inner.parent = some outer.name ∧ outer.range.encloses inner.range := by
  rw [holds, Bool.and_eq_true, beq_iff_eq]

theorem parentIn_lt {symbols : List Symbol} {i j : Nat} (h : parentIn symbols i = some j) :
    j < i := by
  obtain ⟨s, -, hfound⟩ := Option.bind_eq_some_iff.mp h
  have hbound := parentOf?_lt hfound
  rw [List.length_reverse, List.length_take] at hbound
  omega

theorem parentIn_append (earlier rest : List Symbol) (s : Symbol) :
    parentIn (earlier.reverse ++ s :: rest) earlier.length = parentOf? earlier s := by
  simp [parentIn]

theorem getElem?_reverse_take {symbols : List Symbol} {i k : Nat} (hknown : i ≤ symbols.length)
    (hbefore : k < i) : (symbols.take i).reverse[k]? = symbols[i - 1 - k]? := by
  have hlength : (symbols.take i).length = i := List.length_take_of_le hknown
  rw [List.getElem?_reverse (by omega), hlength, List.getElem?_take_of_lt (by omega)]

/-- The parent is the latest of the symbols that fit. -/
theorem isGreatest_of_parentIn {symbols : List Symbol} {i j : Nat}
    (h : parentIn symbols i = some j) : IsGreatest {j | FitsUnder symbols i j} j := by
  have hbefore := parentIn_lt h
  obtain ⟨s, hget, hfound⟩ := Option.bind_eq_some_iff.mp h
  have hknown : i < symbols.length := (List.getElem?_eq_some_iff.mp hget).1
  obtain ⟨back, hfirst, rfl⟩ := Option.map_eq_some_iff.mp hfound
  obtain ⟨hinside, hfits, hothers⟩ := List.findIdx?_eq_some_iff_getElem.mp hfirst
  have hlength : (symbols.take i).reverse.length = i := by
    rw [List.length_reverse, List.length_take_of_le hknown.le]
  refine ⟨⟨hbefore, (symbols.take i).reverse[back], s, ?_, hget, holds_iff.mp hfits⟩, ?_⟩
  · rw [hlength, ← getElem?_reverse_take hknown.le (hlength ▸ hinside), List.getElem?_eq_getElem]
  · rintro k ⟨hearly, outer, inner, houter, hinner, hfitsOuter⟩
    -- a later symbol that fits would have been found first
    by_contra hlater
    rw [hget] at hinner
    cases hinner
    have hplace : (symbols.take i).reverse[i - 1 - k]? = some outer := by
      rw [getElem?_reverse_take hknown.le (by omega), ← houter]
      congr 1
      omega
    obtain ⟨_, hsame⟩ := List.getElem?_eq_some_iff.mp hplace
    exact hothers (i - 1 - k) (by omega) (hsame ▸ holds_iff.mpr hfitsOuter)

theorem parentIn_eq_none_iff {symbols : List Symbol} {i : Nat} :
    parentIn symbols i = none ↔ ∀ j, ¬ FitsUnder symbols i j := by
  constructor
  · rintro h j ⟨hbefore, outer, inner, houter, hinner, hfits⟩
    rw [parentIn, hinner, Option.bind_some, parentOf?, Option.map_eq_none_iff,
      List.findIdx?_eq_none_iff] at h
    have hmem : outer ∈ (symbols.take i).reverse := by
      rw [List.mem_reverse]
      exact List.mem_of_getElem? ((List.getElem?_take_of_lt hbefore).trans houter)
    have hrefused := h outer hmem
    rw [holds_iff.mpr hfits] at hrefused
    cases hrefused
  · intro h
    rw [Option.eq_none_iff_forall_ne_some]
    intro j hfound
    exact h j (isGreatest_of_parentIn hfound).1

theorem parentIn_eq_some_iff {symbols : List Symbol} {i j : Nat} :
    parentIn symbols i = some j ↔ IsGreatest {j | FitsUnder symbols i j} j := by
  refine ⟨isGreatest_of_parentIn, fun hlatest => ?_⟩
  cases h : parentIn symbols i with
  | none => exact absurd hlatest.1 (parentIn_eq_none_iff.mp h j)
  | some k => rw [(isGreatest_of_parentIn h).unique hlatest]

/-! ### Trees -/

/-- The indices of the symbols that belong under `above`, or under none, in order. -/
def under (symbols : List Symbol) (above : Option Nat) : List Nat :=
  (List.range symbols.length).filter fun i => parentIn symbols i == above

/-- The tree of the symbol with the index `i`: below it are the trees of those that belong under it,
in order. -/
inductive Grown (symbols : List Symbol) : Nat → OutlineNode → Prop
  | node {i : Nat} {s : Symbol} {children : List OutlineNode} (hget : symbols[i]? = some s)
      (hrest : List.Forall₂ (Grown symbols) (under symbols (some i)) children) :
      Grown symbols i (.node s (selection s) children)

/-- The indices from `first` on of symbols that belong under one before `first`, or under none. -/
def waiting (symbols : List Symbol) (first : Nat) : List Nat :=
  (List.range' first (symbols.length - first)).filter fun i =>
    (parentIn symbols i).all (· < first)

theorem waiting_length (symbols : List Symbol) : waiting symbols symbols.length = [] := by
  rw [waiting, Nat.sub_self]
  rfl

theorem range_split {n i : Nat} (hknown : i < n) :
    List.range n = List.range (i + 1) ++ List.range' (i + 1) (n - (i + 1)) := by
  have hjoined := @List.range'_append_1 0 (i + 1) (n - (i + 1))
  rw [Nat.zero_add, Nat.add_sub_cancel' hknown] at hjoined
  rw [List.range_eq_range', List.range_eq_range', hjoined]

/-- The next symbol waits, and those that wait for it do not any more. -/
theorem waiting_cons {symbols : List Symbol} {i : Nat} (hknown : i < symbols.length) :
    waiting symbols i =
      i :: (waiting symbols (i + 1)).filter fun k => parentIn symbols k != some i := by
  obtain ⟨more, hcount⟩ : ∃ more, symbols.length - i = more + 1 :=
    ⟨symbols.length - i - 1, by omega⟩
  have hwaits : (parentIn symbols i).all (· < i) = true := by
    cases h : parentIn symbols i with
    | none => rfl
    | some j => simpa using parentIn_lt h
  have hfewer : symbols.length - (i + 1) = more := by omega
  rw [waiting, waiting, hcount, hfewer, List.range'_succ, List.filter_cons, if_pos hwaits,
    List.filter_filter]
  congr 1
  apply List.filter_congr
  intro k _
  cases parentIn symbols k with
  | none => rfl
  | some j =>
    rw [Bool.eq_iff_iff]
    simp only [Option.all_some, decide_eq_true_eq, Bool.and_eq_true, bne_iff_ne, ne_eq,
      Option.some.injEq]
    omega

/-- What belongs under a symbol has waited for it. -/
theorem under_eq_filter_waiting {symbols : List Symbol} {i : Nat} (hknown : i < symbols.length) :
    under symbols (some i) =
      (waiting symbols (i + 1)).filter fun k => parentIn symbols k == some i := by
  have hnone : (List.range (i + 1)).filter (fun k => parentIn symbols k == some i) = [] := by
    rw [List.filter_eq_nil_iff]
    intro k hk hfound
    have := parentIn_lt (beq_iff_eq.mp hfound)
    rw [List.mem_range] at hk
    omega
  rw [under, range_split hknown, List.filter_append, hnone, List.nil_append, waiting,
    List.filter_filter]
  apply List.filter_congr
  intro k _
  cases parentIn symbols k with
  | none => rfl
  | some j =>
    rw [Bool.eq_iff_iff]
    simp only [Option.all_some, decide_eq_true_eq, Bool.and_eq_true, beq_iff_eq,
      Option.some.injEq]
    omega

theorem under_none (symbols : List Symbol) : under symbols none = waiting symbols 0 := by
  rw [under, waiting, List.range_eq_range', Nat.sub_zero]
  apply List.filter_congr
  intro k _
  cases parentIn symbols k <;> rfl

/-- The trees that wait are those of the symbols that wait, in order. -/
theorem gather_grown (earlier rest : List Symbol) :
    List.Forall₂
      (fun i p => p.1 = parentIn (earlier.reverse ++ rest) i ∧
        Grown (earlier.reverse ++ rest) i p.2)
      (waiting (earlier.reverse ++ rest) earlier.length) (gather earlier rest) := by
  induction rest generalizing earlier with
  | nil =>
    have hnone := waiting_length earlier.reverse
    rw [List.length_reverse] at hnone
    rw [List.append_nil, hnone]
    exact .nil
  | cons s rest ih =>
    have ih := ih (s :: earlier)
    rw [List.reverse_cons, List.append_assoc, List.singleton_append, List.length_cons] at ih
    have hparent := parentIn_append earlier rest s
    have hget : (earlier.reverse ++ s :: rest)[earlier.length]? = some s := by simp
    generalize earlier.reverse ++ s :: rest = symbols at *
    have hknown : earlier.length < symbols.length := (List.getElem?_eq_some_iff.mp hget).1
    have hkept (q : Option Nat → Bool) := List.rel_filter (p := fun k => q (parentIn symbols k))
      (q := fun p => q p.1) (fun k p h => by simp only [h.1]) ih
    rw [gather, attach, waiting_cons hknown]
    refine .cons ⟨hparent.symm, .node hget ?_⟩ (hkept (· != some earlier.length))
    rw [under_eq_filter_waiting hknown, List.forall₂_map_right_iff]
    exact (hkept (· == some earlier.length)).imp fun _ _ h => h.2

/-- The outline consists of the trees of the symbols that belong under none, in order. -/
theorem outline_grown (symbols : List Symbol) :
    List.Forall₂ (Grown symbols) (under symbols none) (outline symbols) := by
  rw [under_none, outline, List.forall₂_map_right_iff]
  exact (gather_grown [] symbols).imp fun _ _ h => h.2

/-! ### Addresses -/

/-- The node of a forest at an address: the index of a tree, then that of a child of its root, and
so on. -/
def nodeAt? : List OutlineNode → List Nat → Option OutlineNode
  | _, [] => none
  | forest, [k] => forest[k]?
  | forest, k :: next :: rest => (forest[k]?).bind fun node => nodeAt? node.children (next :: rest)

theorem nodeAt?_concat (forest : List OutlineNode) {address : List Nat} (hfilled : address ≠ [])
    (k : Nat) :
    nodeAt? forest (address ++ [k]) =
      (nodeAt? forest address).bind fun node => node.children[k]? := by
  fun_induction nodeAt? forest address with
  | case1 => exact absurd rfl hfilled
  | case2 forest first => rfl
  | case3 forest first next rest ih =>
    rw [List.cons_append, List.cons_append, nodeAt?, Option.bind_assoc]
    congr 1
    funext node
    exact ih node (List.cons_ne_nil _ _)

/-- How many symbols before the one with the index `i` belong under the same one. -/
def rank (symbols : List Symbol) (i : Nat) : Nat :=
  ((List.range i).filter fun k => parentIn symbols k == parentIn symbols i).length

/-- The address of a symbol: behind that of the symbol it belongs under, and behind those that come
before it there. -/
def address (symbols : List Symbol) (i : Nat) : List Nat :=
  match _h : parentIn symbols i with
  | none => [rank symbols i]
  | some j => address symbols j ++ [rank symbols i]
termination_by i
decreasing_by exact parentIn_lt ‹_›

theorem address_eq (symbols : List Symbol) (i : Nat) :
    address symbols i = (parentIn symbols i).elim [] (address symbols) ++ [rank symbols i] := by
  rw [address]
  split
  · next h => rw [h]; rfl
  · next j h => rw [h]; rfl

theorem address_ne_nil (symbols : List Symbol) (i : Nat) : address symbols i ≠ [] := by
  rw [address_eq]
  exact List.concat_ne_nil _ _

theorem mem_under_iff {symbols : List Symbol} {i : Nat} {above : Option Nat} :
    i ∈ under symbols above ↔ i < symbols.length ∧ parentIn symbols i = above := by
  rw [under, List.mem_filter, List.mem_range, beq_iff_eq]

/-- Among those that belong under the same one, a symbol stands where its rank says. -/
theorem under_rank {symbols : List Symbol} {i : Nat} (hknown : i < symbols.length) :
    (under symbols (parentIn symbols i))[rank symbols i]? = some i := by
  rw [under, rank, range_split hknown, List.range_succ, List.append_assoc, List.filter_append,
    List.getElem?_append_right (Nat.le_refl _), Nat.sub_self, List.singleton_append,
    List.filter_cons, if_pos (beq_self_eq_true _)]
  rfl

theorem rank_eq {symbols : List Symbol} {i k : Nat} {above : Option Nat}
    (h : (under symbols above)[k]? = some i) : rank symbols i = k := by
  obtain ⟨hknown, rfl⟩ := mem_under_iff.mp (List.mem_of_getElem? h)
  have hget := under_rank hknown
  have honce : (under symbols (parentIn symbols i)).Nodup := List.nodup_range.filter _
  exact (List.getElem?_inj (List.getElem?_eq_some_iff.mp hget).1 honce).mp (hget.trans h.symm)

theorem rank_lt {symbols : List Symbol} {i j : Nat}
    (hsame : parentIn symbols i = parentIn symbols j) (hbefore : i < j) :
    rank symbols i < rank symbols j := by
  rw [rank, rank, hsame, range_split hbefore, List.range_succ, List.append_assoc,
    List.filter_append, List.length_append, List.singleton_append, List.filter_cons,
    if_pos (by simp [hsame])]
  exact Nat.lt_add_of_pos_right (Nat.succ_pos _)

/-- Symbols that belong under the same one are ranked in their order. -/
theorem rank_lt_iff {symbols : List Symbol} {i j : Nat}
    (hsame : parentIn symbols i = parentIn symbols j) :
    rank symbols i < rank symbols j ↔ i < j := by
  refine ⟨fun hless => ?_, rank_lt hsame⟩
  rcases Nat.lt_trichotomy i j with hbefore | rfl | hafter
  · exact hbefore
  · exact absurd hless (Nat.lt_irrefl _)
  · exact absurd (rank_lt hsame.symm hafter) (Nat.lt_asymm hless)

/-- Related lists have related members at the same index. -/
theorem exists_getElem?_of_forall₂ {α β : Type} {R : α → β → Prop} {l : List α} {m : List β}
    (h : List.Forall₂ R l m) {k : Nat} {a : α} (hget : l[k]? = some a) :
    ∃ b, m[k]? = some b ∧ R a b := by
  induction h generalizing k with
  | nil => cases hget
  | cons hrelated _ ih =>
    cases k with
    | zero =>
      cases hget
      exact ⟨_, rfl, hrelated⟩
    | succ k => exact ih hget

/-- At the address of a symbol stands its tree. -/
theorem exists_nodeAt?_address {symbols : List Symbol} {i : Nat} (hknown : i < symbols.length) :
    ∃ node, nodeAt? (outline symbols) (address symbols i) = some node ∧ Grown symbols i node := by
  induction i using Nat.strong_induction_on with
  | h i ih =>
    have hget := under_rank hknown
    rw [address_eq]
    cases h : parentIn symbols i with
    | none =>
      rw [h] at hget
      exact exists_getElem?_of_forall₂ (outline_grown symbols) hget
    | some j =>
      rw [h] at hget
      have hbefore := parentIn_lt h
      obtain ⟨above, hfound, hgrown⟩ := ih j hbefore (by omega)
      rw [Option.elim_some, nodeAt?_concat _ (address_ne_nil symbols j), hfound, Option.bind_some]
      cases hgrown with
      | node _ hbelow => exact exists_getElem?_of_forall₂ hbelow hget

/-- Among the trees of the symbols that belong under `above`, each stands where the address of its
symbol says. -/
theorem exists_of_getElem?_grown {symbols : List Symbol} {above : Option Nat}
    {forest : List OutlineNode} {k : Nat} {node : OutlineNode}
    (htrees : List.Forall₂ (Grown symbols) (under symbols above) forest)
    (hget : forest[k]? = some node) :
    ∃ i < symbols.length, address symbols i = above.elim [] (address symbols) ++ [k] ∧
      Grown symbols i node := by
  obtain ⟨i, hget, hgrown⟩ := exists_getElem?_of_forall₂ htrees.flip hget
  obtain ⟨hknown, hparent⟩ := mem_under_iff.mp (List.mem_of_getElem? hget)
  exact ⟨i, hknown, by rw [address_eq, hparent, rank_eq hget], hgrown⟩

/-- Whatever stands at an address is the tree of the symbol that has this address. -/
theorem exists_of_nodeAt? {symbols : List Symbol} {path : List Nat} {node : OutlineNode}
    (h : nodeAt? (outline symbols) path = some node) :
    ∃ i < symbols.length, address symbols i = path ∧ Grown symbols i node := by
  induction path using List.reverseRecOn generalizing node with
  | nil => cases h
  | append_singleton path k ih =>
    by_cases houtermost : path = []
    · subst houtermost
      exact exists_of_getElem?_grown (outline_grown symbols) h
    · rw [nodeAt?_concat _ houtermost] at h
      obtain ⟨above, habove, hget⟩ := Option.bind_eq_some_iff.mp h
      obtain ⟨j, -, rfl, hgrown⟩ := ih habove
      cases hgrown with
      | node _ hbelow => exact exists_of_getElem?_grown hbelow hget

/-- Symbols whose addresses differ in the last step only belong under the same one, if addresses
further up are not shared. -/
theorem eq_of_elim_address {symbols : List Symbol} {a b : Option Nat}
    (hapart : ∀ i ∈ a, ∀ j ∈ b, address symbols i = address symbols j → i = j)
    (hsame : a.elim [] (address symbols) = b.elim [] (address symbols)) : a = b := by
  cases a with
  | none =>
    cases b with
    | none => rfl
    | some j => exact absurd hsame.symm (address_ne_nil symbols j)
  | some i =>
    cases b with
    | none => exact absurd hsame (address_ne_nil symbols i)
    | some j => rw [hapart i rfl j rfl hsame]

/-- No two symbols have the same address. -/
theorem address_injective {symbols : List Symbol} {i j : Nat} (hi : i < symbols.length)
    (hj : j < symbols.length) (hsame : address symbols i = address symbols j) : i = j := by
  induction i using Nat.strong_induction_on generalizing j with
  | h i ih =>
    rw [address_eq symbols i, address_eq symbols j] at hsame
    obtain ⟨habove, hlast⟩ := List.append_inj' hsame rfl
    have hparent : parentIn symbols i = parentIn symbols j := by
      refine eq_of_elim_address (fun i' hi' j' hj' => ?_) habove
      have := parentIn_lt hi'
      have := parentIn_lt hj'
      exact ih i' (by omega) (by omega) (by omega)
    have hrank := under_rank hi
    rw [hparent, List.singleton_inj.mp hlast, under_rank hj] at hrank
    exact (Option.some.inj hrank).symm

/-- The address of a symbol is right below that of the symbol it belongs under. -/
theorem exists_address_iff {symbols : List Symbol} {i : Nat} (above : Option Nat)
    (hi : i < symbols.length) (habove : ∀ j ∈ above, j < symbols.length) :
    (∃ k, address symbols i = above.elim [] (address symbols) ++ [k]) ↔
      parentIn symbols i = above := by
  constructor
  · rintro ⟨k, haddress⟩
    rw [address_eq] at haddress
    refine eq_of_elim_address (fun j hj k hk => ?_) (List.append_inj' haddress rfl).1
    exact address_injective ((parentIn_lt hj).trans hi) (habove k hk)
  · rintro rfl
    exact ⟨_, address_eq symbols i⟩

/-- Next to each other, addresses are in the order of the symbols. -/
theorem lt_iff_of_address {symbols : List Symbol} {i j k l : Nat} {above : List Nat}
    (hi : i < symbols.length) (hj : j < symbols.length)
    (haddressI : address symbols i = above ++ [k]) (haddressJ : address symbols j = above ++ [l]) :
    k < l ↔ i < j := by
  obtain ⟨-, hlastI⟩ := List.append_inj' ((address_eq symbols i).symm.trans haddressI) rfl
  obtain ⟨haboveJ, hlastJ⟩ := List.append_inj' ((address_eq symbols j).symm.trans haddressJ) rfl
  have hparent : parentIn symbols i = parentIn symbols j := by
    refine (exists_address_iff _ hi fun k hk => (parentIn_lt hk).trans hj).mp ⟨k, ?_⟩
    rw [haboveJ, haddressI]
  rw [← List.singleton_inj.mp hlastI, ← List.singleton_inj.mp hlastJ, rank_lt_iff hparent]

/-! ### What is written -/

theorem outlineNodes_eq_map (nodes : List OutlineNode) :
    Encode.outlineNodes nodes = nodes.map Encode.outlineNode := by
  induction nodes with
  | nil => rw [Encode.outlineNodes, List.map_nil]
  | cons node rest ih => rw [Encode.outlineNodes, ih, List.map_cons]

/-- A node of an outline is written with its symbol, and with its children if it has some. -/
structure Written (node : OutlineNode) : Prop where
  name : (Encode.outlineNode node).get? "name" = some (.text node.symbol.name)
  detail : (Encode.outlineNode node).get? "detail" = node.symbol.detail.map .text
  kind : (Encode.outlineNode node).get? "kind" = some (.nat node.symbol.kind.symbolKind)
  range : (Encode.outlineNode node).get? "range" = some (Encode.range node.symbol.range)
  selection : (Encode.outlineNode node).get? "selectionRange" = some (Encode.range node.selection)
  children : (Encode.outlineNode node).get? "children" =
    if node.children = [] then none else some (.array (node.children.map Encode.outlineNode))

theorem written (node : OutlineNode) : Written node := by
  obtain ⟨s, selected, children⟩ := node
  cases hd : s.detail <;> cases children <;>
    constructor <;> simp [Encode.outlineNode, Json.ofFields, Json.get?, Json.member?, hd,
      OutlineNode.symbol, OutlineNode.selection, OutlineNode.children, outlineNodes_eq_map]

/-- The selected part of a symbol lies within it. -/
theorem encloses_selection (s : Symbol) : s.range.encloses (selection s) := by
  rw [Range.encloses_iff, selection]
  split
  · next hfits => exact ⟨Position.le_refl _, hfits⟩
  · exact ⟨Position.le_refl _, Position.le_refl _⟩

/-- A forest shows some symbols: every symbol has one place in it and every place one symbol, right
below the latest earlier symbol that it fits under, and at the top if there is none. -/
structure Shows (forest : List OutlineNode) (symbols : List Symbol) (place : Nat → List Nat) :
    Prop where
  bijective : Set.BijOn place {i | i < symbols.length} {path | (nodeAt? forest path).isSome}
  symbol : ∀ i < symbols.length,
    (nodeAt? forest (place i)).map OutlineNode.symbol = symbols[i]?
  below : ∀ i < symbols.length, ∀ j < symbols.length,
    (∃ k, place i = place j ++ [k]) ↔ IsGreatest {j | FitsUnder symbols i j} j
  top : ∀ i < symbols.length, (∃ k, place i = [k]) ↔ ∀ j, ¬ FitsUnder symbols i j
  ordered : ∀ i < symbols.length, ∀ j < symbols.length, ∀ above k l,
    place i = above ++ [k] → place j = above ++ [l] → (k < l ↔ i < j)

theorem bijOn_address (symbols : List Symbol) :
    Set.BijOn (address symbols) {i | i < symbols.length}
      {path | (nodeAt? (outline symbols) path).isSome} := by
  refine ⟨fun i hi => ?_, fun i hi j hj => address_injective hi hj, fun path hfilled => ?_⟩
  · obtain ⟨node, hfound, -⟩ := exists_nodeAt?_address hi
    exact Option.isSome_iff_exists.mpr ⟨node, hfound⟩
  · obtain ⟨node, hfound⟩ := Option.isSome_iff_exists.mp hfilled
    obtain ⟨i, hi, hget, -⟩ := exists_of_nodeAt? hfound
    exact ⟨i, hi, hget⟩

theorem outline_shows (symbols : List Symbol) :
    Shows (outline symbols) symbols (address symbols) where
  bijective := bijOn_address symbols
  symbol i hi := by
    obtain ⟨node, hfound, hgrown⟩ := exists_nodeAt?_address hi
    cases hgrown with
    | node hget _ => rw [hfound, hget]; rfl
  below i hi j hj := by
    rw [← parentIn_eq_some_iff]
    exact exists_address_iff (some j) hi (by rintro _ ⟨⟩; exact hj)
  top i hi := by
    rw [← parentIn_eq_none_iff]
    exact exists_address_iff none hi (by rintro _ ⟨⟩)
  ordered i hi j hj above k l := lt_iff_of_address hi hj

/-- An outline shows the symbols it is made from. Every node of it is written with its symbol,
selects a part of it, and has a list of children only if there are some. -/
theorem outline_faithful (symbols : List Symbol) :
    (∃ place, Shows (outline symbols) symbols place) ∧
      ∀ path node, nodeAt? (outline symbols) path = some node →
        node.symbol.range.encloses node.selection ∧ Written node := by
  refine ⟨⟨address symbols, outline_shows symbols⟩, fun path node hfound => ⟨?_, written node⟩⟩
  obtain ⟨i, -, -, hgrown⟩ := exists_of_nodeAt? hfound
  cases hgrown with
  | node _ _ => exact encloses_selection _

end Outline

end PipelineServer
