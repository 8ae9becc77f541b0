import PipelineServer.SortedMap

/-!
Membership in finite maps and sets, and what a sequence of updates does to one key.

Maps here are mostly built by going through a list of keys and updating each of them. Such a
sequence leaves all other keys alone, and the last update of a key decides its value.
-/

namespace PipelineServer

universe u v w

section Updates

variable {σ : Type u} {κ : Type v} {β : Type w}

/-- A sequence of updates that does not name `key` leaves what is found there. -/
theorem foldl_lookup_of_not_mem (look : σ → κ → β) (step : σ → κ → σ)
    (hother : ∀ s {k k'}, k' ≠ k → look (step s k) k' = look s k')
    {l : List κ} {key : κ} (hkey : key ∉ l) (s : σ) :
    look (l.foldl step s) key = look s key := by
  induction l generalizing s with
  | nil => rfl
  | cons k rest ih =>
      simp only [List.mem_cons, not_or] at hkey
      rw [List.foldl_cons, ih hkey.2, hother s hkey.1]

/-- If every update of `key` leaves the same `value`, so does a sequence that names `key`. -/
theorem foldl_lookup_of_mem (look : σ → κ → β) (step : σ → κ → σ)
    (hother : ∀ s {k k'}, k' ≠ k → look (step s k) k' = look s k')
    {l : List κ} {key : κ} {value : β} (hself : ∀ s, look (step s key) key = value)
    (hkey : key ∈ l) (s : σ) :
    look (l.foldl step s) key = value := by
  induction l generalizing s with
  | nil => simp at hkey
  | cons k rest ih =>
      by_cases hrest : key ∈ rest
      · exact ih hrest (step s k)
      · have hk : key = k := by simpa [hrest] using hkey
        subst hk
        rw [List.foldl_cons, foldl_lookup_of_not_mem look step hother hrest, hself]

/-- If an update of a key changes what is found there by `f`, a sequence that names the key once
does so once. The updates may rely on a property `P` that all of them keep. -/
theorem foldl_lookup_update (look : σ → κ → β) (step : σ → κ → σ) (P : σ → Prop) (f : κ → β → β)
    (hkept : ∀ s k, P s → P (step s k))
    (hother : ∀ s {k k'}, k' ≠ k → look (step s k) k' = look s k')
    (hself : ∀ s k, P s → look (step s k) k = f k (look s k))
    {l : List κ} (hl : l.Nodup) {key : κ} (hkey : key ∈ l) {s : σ} (hs : P s) :
    look (l.foldl step s) key = f key (look s key) := by
  induction l generalizing s with
  | nil => cases hkey
  | cons k rest ih =>
      rw [List.nodup_cons] at hl
      rw [List.foldl_cons]
      rcases List.mem_cons.1 hkey with rfl | hrest
      · rw [foldl_lookup_of_not_mem look step hother hl.1, hself s key hs]
      · have hne : key ≠ k := fun heq => hl.1 (heq ▸ hrest)
        rw [ih hl.2 hrest (hkept s k hs), hother s hne]

end Updates

namespace SortedMap

variable {κ : Type u} {α : Type v} {β : Type w} [Ord κ]

theorem mem_iff_isSome {m : SortedMap κ α} {key : κ} : key ∈ m ↔ (m.get? key).isSome := Iff.rfl

theorem mem_iff_exists {m : SortedMap κ α} {key : κ} :
    key ∈ m ↔ ∃ value, m.get? key = some value := by
  rw [mem_iff_isSome, Option.isSome_iff_exists]

theorem not_mem_iff {m : SortedMap κ α} {key : κ} : key ∉ m ↔ m.get? key = none := by
  rw [mem_iff_isSome, Option.not_isSome_iff_eq_none]

@[simp] theorem not_mem_empty (key : κ) : key ∉ (∅ : SortedMap κ α) :=
  not_mem_iff.2 (get?_empty key)

theorem mem_keys [Std.TransOrd κ] [Std.LawfulEqOrd κ] {m : SortedMap κ α} {key : κ} :
    key ∈ m.keys ↔ key ∈ m := by
  rw [mem_keys_iff, mem_iff_exists]

theorem nodup_keys [Std.TransOrd κ] (m : SortedMap κ α) : m.keys.Nodup := by
  rw [keys, List.Nodup, List.pairwise_map]
  apply m.ordered.imp
  intro a b hlt heq
  simp [heq, Std.ReflCmp.compare_self] at hlt

@[simp] theorem keys_mapValues (m : SortedMap κ α) (f : κ → α → β) :
    (m.mapValues f).keys = m.keys := by
  simp [keys, mapValues, Function.comp_def]

@[simp] theorem get?_insertIfNew_self [Std.TransOrd κ] (m : SortedMap κ α) (key : κ) (value : α) :
    (m.insertIfNew key value).get? key = some ((m.get? key).getD value) := by
  unfold insertIfNew contains
  cases h : m.get? key with
  | none => simp [get?_insert_self]
  | some old => simp [h]

theorem get?_insertIfNew_of_ne [Std.TransOrd κ] [Std.LawfulEqOrd κ] (m : SortedMap κ α)
    {key other : κ} (value : α) (hne : other ≠ key) :
    (m.insertIfNew key value).get? other = m.get? other := by
  unfold insertIfNew
  split
  · rfl
  · exact get?_insert_of_ne m value hne

theorem nodup_entries [Std.TransOrd κ] (m : SortedMap κ α) : m.entries.Nodup :=
  m.ordered.imp fun hlt heq => by simp [heq, Std.ReflCmp.compare_self] at hlt

/-- Inserting a value puts one entry beside those of the other keys. -/
theorem entries_insert_perm [Std.TransOrd κ] [Std.LawfulEqOrd κ] (m : SortedMap κ α) (key : κ)
    (value : α) : (m.insert key value).entries.Perm ((key, value) :: (m.erase key).entries) := by
  have hfresh : (key, value) ∉ (m.erase key).entries := by
    rw [← get?_eq_some_iff, get?_erase_self]
    simp
  refine (List.perm_ext_iff_of_nodup (nodup_entries _)
    (List.nodup_cons.2 ⟨hfresh, nodup_entries _⟩)).2 fun (other, v) => ?_
  rw [List.mem_cons, ← get?_eq_some_iff, ← get?_eq_some_iff, Prod.mk.injEq]
  by_cases h : other = key
  · subst h
    simp [get?_insert_self, get?_erase_self, eq_comm]
  · simp [get?_insert_of_ne m value h, get?_erase_of_ne m h, h]

theorem values_insert_perm [Std.TransOrd κ] [Std.LawfulEqOrd κ] (m : SortedMap κ α) (key : κ)
    (value : α) : (m.insert key value).values.Perm (value :: (m.erase key).values) :=
  (m.entries_insert_perm key value).map Prod.snd

/-- The list under a key can be taken out of a map of lists. -/
theorem flatten_values_perm [Std.TransOrd κ] [Std.LawfulEqOrd κ] [DecidableEq κ]
    (m : SortedMap κ (List β)) (key : κ) :
    m.values.flatten.Perm ((m.get? key).getD [] ++ (m.erase key).values.flatten) := by
  cases h : m.get? key with
  | none =>
      have hsame : m.erase key = m := by
        apply ext_get?
        intro other
        by_cases hkey : other = key
        · rw [hkey, get?_erase_self, h]
        · exact get?_erase_of_ne m hkey
      rw [hsame]
      exact List.Perm.refl _
  | some value =>
      have hsame : m.insert key value = m := by
        apply ext_get?
        intro other
        rw [get?_insert]
        split
        · next hkey => rw [hkey, h]
        · rfl
      have hperm := (m.values_insert_perm key value).flatten
      rwa [hsame] at hperm

/-- Picking the entries of one key out of the list of all entries finds what a lookup finds. -/
theorem filterMap_entries [Std.TransOrd κ] [Std.LawfulEqOrd κ] [DecidableEq κ]
    (m : SortedMap κ α) (key : κ) :
    (m.entries.filterMap fun e => if e.1 = key then some e.2 else none) =
      (m.get? key).toList := by
  have hpick : ∀ l : List (κ × α), l.Pairwise (fun a b => compare a.1 b.1 = .lt) →
      (l.filterMap fun e => if e.1 = key then some e.2 else none) =
        ((l.find? fun e => compare key e.1 == .eq).map Prod.snd).toList := by
    intro l hl
    induction l with
    | nil => rfl
    | cons e rest ih =>
        rw [List.pairwise_cons] at hl
        by_cases hkey : e.1 = key
        · -- the entries behind this one have larger keys
          have hrest : (rest.filterMap fun e => if e.1 = key then some e.2 else none) = [] := by
            rw [List.filterMap_eq_nil_iff]
            intro e' he'
            have hlt := hl.1 e' he'
            have hne : e'.1 ≠ key := by
              intro heq
              rw [hkey, heq] at hlt
              simp [Std.ReflCmp.compare_self] at hlt
            simp [hne]
          subst hkey
          simp [hrest, Std.ReflCmp.compare_self]
        · have hne : (compare key e.1 == Ordering.eq) = false := by
            rw [beq_eq_false_iff_ne]
            exact fun hc => hkey (Std.LawfulEqCmp.eq_of_compare hc).symm
          simpa [hkey, hne, List.find?_cons] using ih hl.2
  exact hpick m.entries m.ordered

/-- The entries in front of and behind that of a key are those of the other keys. -/
theorem exists_entries_eq [Std.TransOrd κ] [Std.LawfulEqOrd κ] (m : SortedMap κ α) {key : κ}
    {value : α} (h : m.get? key = some value) :
    ∃ before after, m.entries = before ++ (key, value) :: after ∧
      ∀ e, e ∈ before ++ after ↔ m.get? e.1 = some e.2 ∧ e.1 ≠ key := by
  obtain ⟨before, after, hentries⟩ := List.append_of_mem (get?_eq_some_iff.1 h)
  refine ⟨before, after, hentries, ?_⟩
  intro e
  have hkey : key ∉ (before ++ after).map Prod.fst := by
    have hnodup := m.nodup_keys
    rw [keys, hentries, List.map_append, List.map_cons, List.perm_middle.nodup_iff,
      List.nodup_cons, ← List.map_append] at hnodup
    exact hnodup.1
  rw [get?_eq_some_iff, hentries]
  refine ⟨fun he => ⟨?_, ?_⟩, ?_⟩
  · rcases List.mem_append.1 he with he | he
    · exact List.mem_append_left _ he
    · exact List.mem_append_right _ (List.mem_cons_of_mem _ he)
  · exact fun heq => hkey (heq ▸ List.mem_map.2 ⟨e, he, rfl⟩)
  · rintro ⟨he, hne⟩
    rcases List.mem_append.1 he with he | he
    · exact List.mem_append_left _ he
    · rcases List.mem_cons.1 he with heq | he
      · exact absurd (congrArg Prod.fst heq) hne
      · exact List.mem_append_right _ he

/-- All entries together yield what the entry of one key yields if and only if the others yield
nothing. -/
theorem flatMap_values_eq_iff [Std.TransOrd κ] [Std.LawfulEqOrd κ] (m : SortedMap κ α) {key : κ}
    {value : α} (h : m.get? key = some value) (f : α → List β) :
    m.values.flatMap f = f value ↔
      ∀ other v, m.get? other = some v → other ≠ key → f v = [] := by
  obtain ⟨before, after, hentries, hothers⟩ := m.exists_entries_eq h
  have hvalues : m.values.flatMap f =
      before.flatMap (fun e => f e.2) ++ (f value ++ after.flatMap fun e => f e.2) := by
    rw [values, List.flatMap_map, hentries, List.flatMap_append, List.flatMap_cons]
  have hsilent : m.values.flatMap f = f value ↔ ∀ e ∈ before ++ after, f e.2 = [] := by
    rw [hvalues, ← List.flatMap_eq_nil_iff, List.flatMap_append]
    refine ⟨fun heq => ?_, fun hnil => ?_⟩
    · have hlength := congrArg List.length heq
      simp only [List.length_append] at hlength
      apply List.length_eq_zero_iff.1
      rw [List.length_append]
      omega
    · obtain ⟨hbefore, hafter⟩ := List.append_eq_nil_iff.1 hnil
      rw [hbefore, hafter, List.nil_append, List.append_nil]
  rw [hsilent]
  refine ⟨fun hall other v hget hne => hall (other, v) ((hothers _).2 ⟨hget, hne⟩), ?_⟩
  intro hall e he
  obtain ⟨hget, hne⟩ := (hothers e).1 he
  exact hall e.1 e.2 hget hne

end SortedMap

namespace SortedSet

variable {κ : Type u} [Ord κ] [Std.TransOrd κ] [Std.LawfulEqOrd κ] [DecidableEq κ]

@[simp] theorem mem_add {s : SortedSet κ} {key other : κ} :
    other ∈ add s key ↔ other = key ∨ other ∈ s := by
  rw [SortedMap.mem_iff_isSome, SortedMap.mem_iff_isSome, add, SortedMap.get?_insert]
  by_cases h : other = key <;> simp [h]

theorem mem_foldl_add {l : List κ} {s : SortedSet κ} {key : κ} :
    key ∈ l.foldl add s ↔ key ∈ l ∨ key ∈ s := by
  induction l generalizing s with
  | nil => simp
  | cons k rest ih =>
      rw [List.foldl_cons, ih, mem_add, List.mem_cons]
      constructor
      · rintro (h | h | h)
        · exact .inl (.inr h)
        · exact .inl (.inl h)
        · exact .inr h
      · rintro ((h | h) | h)
        · exact .inr (.inl h)
        · exact .inl h
        · exact .inr (.inr h)

@[simp] theorem mem_ofKeys {l : List κ} {key : κ} : key ∈ ofKeys l ↔ key ∈ l := by
  rw [ofKeys, mem_foldl_add]
  simp

omit [DecidableEq κ] in
theorem ext_mem {s t : SortedSet κ} (h : ∀ key, key ∈ s ↔ key ∈ t) : s = t := by
  apply SortedMap.ext_get?
  intro key
  have hkey := h key
  rw [SortedMap.mem_iff_exists, SortedMap.mem_iff_exists] at hkey
  apply Option.ext
  rintro ⟨⟩
  exact ⟨fun hs => hkey.1 ⟨(), hs⟩ |>.choose_spec, fun ht => hkey.2 ⟨(), ht⟩ |>.choose_spec⟩

end SortedSet

end PipelineServer
