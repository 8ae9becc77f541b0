/-!
Finite maps kept as their entries in strictly increasing key order.

The order is part of the type, so two maps with the same lookups are the same map
(`SortedMap.ext_get?`), and listing a map always yields the same list.
-/

namespace PipelineServer

universe u v w

/-- A finite map: entries in strictly increasing key order. -/
@[ext]
structure SortedMap (κ : Type u) (α : Type v) [Ord κ] where
  entries : List (κ × α)
  ordered : entries.Pairwise (fun a b => compare a.1 b.1 = .lt)

/-- A finite set, as the keys of a map. -/
abbrev SortedSet (κ : Type u) [Ord κ] := SortedMap κ Unit

namespace SortedMap

variable {κ : Type u} {α : Type v} {β : Type w} [Ord κ]

instance [DecidableEq κ] [DecidableEq α] : DecidableEq (SortedMap κ α) := fun m n =>
  decidable_of_iff (m.entries = n.entries) SortedMap.ext_iff.symm

/-- The map without entries. -/
def empty : SortedMap κ α := ⟨[], List.Pairwise.nil⟩

instance : EmptyCollection (SortedMap κ α) := ⟨empty⟩

instance : Inhabited (SortedMap κ α) := ⟨empty⟩

/-- The value stored under `key`. -/
def get? (m : SortedMap κ α) (key : κ) : Option α :=
  (m.entries.find? (fun e => compare key e.1 == .eq)).map Prod.snd

def contains (m : SortedMap κ α) (key : κ) : Bool := (m.get? key).isSome

instance : Membership κ (SortedMap κ α) := ⟨fun m key => m.contains key = true⟩

instance (key : κ) (m : SortedMap κ α) : Decidable (key ∈ m) :=
  inferInstanceAs (Decidable (m.contains key = true))

def keys (m : SortedMap κ α) : List κ := m.entries.map Prod.fst

def values (m : SortedMap κ α) : List α := m.entries.map Prod.snd

def size (m : SortedMap κ α) : Nat := m.entries.length

def isEmpty (m : SortedMap κ α) : Bool := m.entries.isEmpty

/-- Puts `value` under `key` into an entry list, at its place in the order or over the entry
that already has this key. -/
def insertEntry (key : κ) (value : α) : List (κ × α) → List (κ × α)
  | [] => [(key, value)]
  | (key', value') :: rest =>
      match compare key key' with
      | .lt => (key, value) :: (key', value') :: rest
      | .eq => (key, value) :: rest
      | .gt => (key', value') :: insertEntry key value rest

theorem mem_insertEntry {key : κ} {value : α} {e : κ × α} {l : List (κ × α)}
    (h : e ∈ insertEntry key value l) : e = (key, value) ∨ e ∈ l := by
  induction l with
  | nil => simpa [insertEntry] using h
  | cons head tail ih =>
      obtain ⟨key', value'⟩ := head
      rw [insertEntry] at h
      split at h
      · simpa using h
      · rcases List.mem_cons.1 h with h | h
        · exact .inl h
        · exact .inr (List.mem_cons_of_mem _ h)
      · rcases List.mem_cons.1 h with h | h
        · exact .inr (h ▸ List.mem_cons_self)
        · exact (ih h).imp id (List.mem_cons_of_mem _)

theorem pairwise_insertEntry [Std.TransOrd κ] (key : κ) (value : α) {l : List (κ × α)}
    (h : l.Pairwise (fun a b => compare a.1 b.1 = .lt)) :
    (insertEntry key value l).Pairwise (fun a b => compare a.1 b.1 = .lt) := by
  induction l with
  | nil => simp [insertEntry]
  | cons head tail ih =>
      obtain ⟨key', value'⟩ := head
      rw [List.pairwise_cons] at h
      rw [insertEntry]
      split
      · rename_i hlt
        refine List.pairwise_cons.2 ⟨fun e he => ?_, List.pairwise_cons.2 h⟩
        rcases List.mem_cons.1 he with rfl | he
        · exact hlt
        · exact Std.TransCmp.lt_trans hlt (h.1 e he)
      · rename_i heq
        refine List.pairwise_cons.2 ⟨fun e he => ?_, h.2⟩
        exact Std.TransCmp.lt_of_eq_of_lt heq (h.1 e he)
      · rename_i hgt
        refine List.pairwise_cons.2 ⟨fun e he => ?_, ih h.2⟩
        rcases mem_insertEntry he with rfl | he
        · exact Std.OrientedCmp.lt_of_gt hgt
        · exact h.1 e he

/-- The map with `value` under `key`. -/
def insert [Std.TransOrd κ] (m : SortedMap κ α) (key : κ) (value : α) : SortedMap κ α :=
  ⟨insertEntry key value m.entries, pairwise_insertEntry key value m.ordered⟩

/-- Keeps the entries that satisfy `p`. -/
def filter (m : SortedMap κ α) (p : κ → α → Bool) : SortedMap κ α :=
  ⟨m.entries.filter (fun e => p e.1 e.2), m.ordered.filter _⟩

/-- The map without `key`. -/
def erase (m : SortedMap κ α) (key : κ) : SortedMap κ α :=
  m.filter (fun key' _ => compare key key' != .eq)

/-- Replaces every value; the keys stay. -/
def mapValues (m : SortedMap κ α) (f : κ → α → β) : SortedMap κ β :=
  ⟨m.entries.map (fun e => (e.1, f e.1 e.2)), List.pairwise_map.2 m.ordered⟩

/-- Inserts the pairs in order: of two values for one key the later stays. -/
def ofList [Std.TransOrd κ] (l : List (κ × α)) : SortedMap κ α :=
  l.foldl (fun m e => m.insert e.1 e.2) empty

/-- The map with `key` present: its value is kept, or `value` is stored. -/
def insertIfNew [Std.TransOrd κ] (m : SortedMap κ α) (key : κ) (value : α) : SortedMap κ α :=
  if m.contains key then m else m.insert key value

@[simp] theorem get?_empty (key : κ) : (∅ : SortedMap κ α).get? key = none := rfl

theorem get?_insert_self [Std.TransOrd κ] (m : SortedMap κ α) (key : κ) (value : α) :
    (m.insert key value).get? key = some value := by
  have haux : ∀ l : List (κ × α),
      ((insertEntry key value l).find? (fun e => compare key e.1 == .eq)).map Prod.snd =
        some value := by
    intro l
    induction l with
    | nil => simp [insertEntry, Std.ReflCmp.compare_self]
    | cons head tail ih =>
        obtain ⟨key', value'⟩ := head
        rw [insertEntry]
        split
        · simp [Std.ReflCmp.compare_self]
        · simp [Std.ReflCmp.compare_self]
        · rename_i hgt
          simpa [List.find?_cons, hgt] using ih
  exact haux m.entries

theorem get?_insert_of_ne [Std.TransOrd κ] [Std.LawfulEqOrd κ] (m : SortedMap κ α)
    {key other : κ} (value : α) (h : other ≠ key) :
    (m.insert key value).get? other = m.get? other := by
  have hne : ∀ {k : κ}, compare other k = .eq → k ≠ key := by
    intro k hk hkey
    exact h ((Std.LawfulEqCmp.eq_of_compare hk).trans hkey)
  have hkey : (compare other key == Ordering.eq) = false := by
    rw [beq_eq_false_iff_ne]
    exact fun hc => hne hc rfl
  have haux : ∀ l : List (κ × α),
      (insertEntry key value l).find? (fun e => compare other e.1 == .eq) =
        l.find? (fun e => compare other e.1 == .eq) := by
    intro l
    induction l with
    | nil => simp [insertEntry, hkey]
    | cons head tail ih =>
        obtain ⟨key', value'⟩ := head
        rw [insertEntry]
        split
        · simp [List.find?_cons, hkey]
        · rename_i heq
          have hsame : key = key' := Std.LawfulEqCmp.eq_of_compare heq
          subst hsame
          simp [hkey]
        · simp [List.find?_cons, ih]
  simp only [get?, insert, haux]

theorem get?_insert [Std.TransOrd κ] [Std.LawfulEqOrd κ] [DecidableEq κ] (m : SortedMap κ α)
    (key other : κ) (value : α) :
    (m.insert key value).get? other = if other = key then some value else m.get? other := by
  split
  · rename_i h
    exact h ▸ get?_insert_self m key value
  · rename_i h
    exact get?_insert_of_ne m value h

theorem get?_eq_some_iff [Std.TransOrd κ] [Std.LawfulEqOrd κ] {m : SortedMap κ α} {key : κ}
    {value : α} : m.get? key = some value ↔ (key, value) ∈ m.entries := by
  rw [get?, Option.map_eq_some_iff]
  constructor
  · rintro ⟨⟨key', value'⟩, hfind, rfl⟩
    have hmem := List.mem_of_find?_eq_some hfind
    have hcmp := List.find?_some hfind
    have hkey : key = key' := by simpa using hcmp
    exact hkey ▸ hmem
  · intro hmem
    have hsome : (m.entries.find? (fun e => compare key e.1 == .eq)).isSome := by
      rw [List.find?_isSome]
      exact ⟨_, hmem, by simp [Std.ReflCmp.compare_self]⟩
    obtain ⟨⟨key', value'⟩, hfind⟩ := Option.isSome_iff_exists.1 hsome
    have hmem' := List.mem_of_find?_eq_some hfind
    have hkey : key = key' := by simpa using List.find?_some hfind
    subst hkey
    refine ⟨_, hfind, ?_⟩
    have hp := m.ordered
    have huniq : ∀ l : List (κ × α), l.Pairwise (fun a b => compare a.1 b.1 = .lt) →
        (key, value') ∈ l → (key, value) ∈ l → value' = value := by
      intro l hl h1 h2
      induction l with
      | nil => simp at h1
      | cons head tail ih =>
          rw [List.pairwise_cons] at hl
          rcases List.mem_cons.1 h1 with h1 | h1 <;> rcases List.mem_cons.1 h2 with h2 | h2
          · exact congrArg Prod.snd (h1.trans h2.symm)
          · have := hl.1 _ h2
            rw [← h1] at this
            simp [Std.ReflCmp.compare_self] at this
          · have := hl.1 _ h1
            rw [← h2] at this
            simp [Std.ReflCmp.compare_self] at this
          · exact ih hl.2 h1 h2
    exact huniq _ hp hmem' hmem

theorem get?_filter [Std.TransOrd κ] [Std.LawfulEqOrd κ] (m : SortedMap κ α)
    (p : κ → α → Bool) (key : κ) :
    (m.filter p).get? key = (m.get? key).filter (p key) := by
  ext value
  simp only [Option.filter_eq_some_iff, get?_eq_some_iff, filter, List.mem_filter]

theorem get?_erase_self [Std.TransOrd κ] [Std.LawfulEqOrd κ] (m : SortedMap κ α) (key : κ) :
    (m.erase key).get? key = none := by
  simp [erase, get?_filter, Std.ReflCmp.compare_self]

theorem get?_erase_of_ne [Std.TransOrd κ] [Std.LawfulEqOrd κ] (m : SortedMap κ α)
    {key other : κ} (h : other ≠ key) : (m.erase key).get? other = m.get? other := by
  have hcmp : compare key other ≠ .eq := fun hc => h (Std.LawfulEqCmp.eq_of_compare hc).symm
  rw [erase, get?_filter]
  cases hget : m.get? other with
  | none => rfl
  | some value => simp [Option.filter, hcmp]

theorem get?_mapValues [Std.LawfulEqOrd κ] (m : SortedMap κ α) (f : κ → α → β) (key : κ) :
    (m.mapValues f).get? key = (m.get? key).map (f key) := by
  have haux : ∀ l : List (κ × α),
      ((l.map (fun e => (e.1, f e.1 e.2))).find? (fun e => compare key e.1 == .eq)).map Prod.snd =
        ((l.find? (fun e => compare key e.1 == .eq)).map Prod.snd).map (f key) := by
    intro l
    induction l with
    | nil => rfl
    | cons head tail ih =>
        obtain ⟨key', value'⟩ := head
        by_cases h : compare key key' = .eq
        · have hkey : key = key' := Std.LawfulEqCmp.eq_of_compare h
          subst hkey
          simp
        · have hb : (compare key key' == Ordering.eq) = false := by simpa using h
          simpa [List.find?_cons, hb] using ih
  exact haux m.entries

theorem mem_keys_iff [Std.TransOrd κ] [Std.LawfulEqOrd κ] {m : SortedMap κ α} {key : κ} :
    key ∈ m.keys ↔ ∃ value, m.get? key = some value := by
  simp only [keys, List.mem_map, get?_eq_some_iff]
  constructor
  · rintro ⟨⟨_, value⟩, hmem, rfl⟩
    exact ⟨value, hmem⟩
  · rintro ⟨value, hmem⟩
    exact ⟨_, hmem, rfl⟩

/-- Maps with the same lookups are equal. -/
theorem ext_get? [Std.TransOrd κ] [Std.LawfulEqOrd κ] {m n : SortedMap κ α}
    (h : ∀ key, m.get? key = n.get? key) : m = n := by
  have hmem : ∀ e : κ × α, e ∈ m.entries ↔ e ∈ n.entries := by
    rintro ⟨key, value⟩
    rw [← get?_eq_some_iff, ← get?_eq_some_iff, h]
  have haux : ∀ (l₁ l₂ : List (κ × α)),
      l₁.Pairwise (fun a b => compare a.1 b.1 = .lt) →
      l₂.Pairwise (fun a b => compare a.1 b.1 = .lt) →
      (∀ e, e ∈ l₁ ↔ e ∈ l₂) → l₁ = l₂ := by
    intro l₁
    induction l₁ with
    | nil =>
        intro l₂ _ _ hm
        cases l₂ with
        | nil => rfl
        | cons b t => exact absurd ((hm b).2 List.mem_cons_self) (by simp)
    | cons a s ih =>
        intro l₂ h₁ h₂ hm
        cases l₂ with
        | nil => exact absurd ((hm a).1 List.mem_cons_self) (by simp)
        | cons b t =>
            rw [List.pairwise_cons] at h₁ h₂
            have hab : a = b := by
              rcases List.mem_cons.1 ((hm a).1 List.mem_cons_self) with hab | hat
              · exact hab
              · rcases List.mem_cons.1 ((hm b).2 List.mem_cons_self) with hba | hbs
                · exact hba.symm
                · have h3 := Std.TransCmp.lt_trans (h₂.1 a hat) (h₁.1 b hbs)
                  simp [Std.ReflCmp.compare_self] at h3
            subst hab
            have hrest : ∀ e, e ∈ s ↔ e ∈ t := by
              intro e
              have hirr : ∀ {l : List (κ × α)},
                  (∀ e' ∈ l, compare a.1 e'.1 = .lt) → a ∉ l := by
                intro l hl ha
                have := hl a ha
                simp [Std.ReflCmp.compare_self] at this
              constructor
              · intro he
                rcases List.mem_cons.1 ((hm e).1 (List.mem_cons_of_mem _ he)) with rfl | ht
                · exact absurd he (hirr h₁.1)
                · exact ht
              · intro he
                rcases List.mem_cons.1 ((hm e).2 (List.mem_cons_of_mem _ he)) with rfl | hs
                · exact absurd he (hirr h₂.1)
                · exact hs
            rw [ih t h₁.2 h₂.2 hrest]
  exact SortedMap.ext (haux _ _ m.ordered n.ordered hmem)

end SortedMap

namespace SortedSet

variable {κ : Type u} [Ord κ]

/-- The set with `key` added. -/
def add [Std.TransOrd κ] (s : SortedSet κ) (key : κ) : SortedSet κ := SortedMap.insert s key ()

/-- The set of a list's members. -/
def ofKeys [Std.TransOrd κ] (l : List κ) : SortedSet κ := l.foldl add ∅

end SortedSet

end PipelineServer
