/-! # Maps sorted by key

A map from texts to values, kept as the list of its entries in strictly ascending order of the keys.
Texts are ordered by their code points, which is the order of their UTF-8 bytes. A later entry for a
key replaces an earlier one.

* `KeyMap.find?_insert`: what is written under a key is found there, and nothing else changes.
* `KeyMap.find?_ofList`: a map built from a list of entries holds the last entry of each key.
* `KeyMap.find?_eq_some_iff`: what is found is what the list of entries holds.
* `KeyMap.find?_ofList_eq_some_iff`: the last entry of a key is the one at its last index.
* `KeyMap.perm_toList_ofList`: a map built from entries with different keys holds these entries.
* `KeyMap.eq_of_find?_eq`: a map is determined by what is found in it.
* `KeyMap.ofList_eq_of_filter_eq`: only the order of entries of one key counts. -/

namespace HttpQuery

/-- Put an entry at its place in a list sorted by key, replacing the entry of the same key. -/
def insertEntry {α : Type} (key : String) (value : α) : List (String × α) → List (String × α)
  | [] => [(key, value)]
  | entry :: rest =>
    if key < entry.1 then (key, value) :: entry :: rest
    else if key = entry.1 then (key, value) :: rest
    else entry :: insertEntry key value rest

/-- An entry of the result is the new one or an old one. -/
theorem mem_insertEntry {α : Type} {key : String} {value : α} {entry : String × α}
    {entries : List (String × α)} (h : entry ∈ insertEntry key value entries) :
    entry = (key, value) ∨ entry ∈ entries := by
  induction entries with
  | nil => simpa [insertEntry] using h
  | cons e es ih =>
    unfold insertEntry at h
    split at h
    · simpa using h
    · split at h
      · rcases List.mem_cons.1 h with h | h
        · exact .inl h
        · exact .inr (List.mem_cons_of_mem _ h)
      · rcases List.mem_cons.1 h with h | h
        · exact .inr (h ▸ List.mem_cons_self)
        · exact (ih h).imp id (List.mem_cons_of_mem _)

/-- Inserting keeps the keys strictly ascending. -/
theorem pairwise_insertEntry {α : Type} {key : String} {value : α} {entries : List (String × α)}
    (h : entries.Pairwise (fun a b => a.1 < b.1)) :
    (insertEntry key value entries).Pairwise (fun a b => a.1 < b.1) := by
  induction entries with
  | nil => simp [insertEntry]
  | cons e es ih =>
    obtain ⟨he, hes⟩ := List.pairwise_cons.1 h
    unfold insertEntry
    split
    · next hlt =>
      refine List.pairwise_cons.2 ⟨fun a ha => ?_, h⟩
      rcases List.mem_cons.1 ha with rfl | ha
      · exact hlt
      · exact String.lt_trans hlt (he a ha)
    · split
      · next heq =>
        subst heq
        exact List.pairwise_cons.2 ⟨he, hes⟩
      · next hlt hne =>
        refine List.pairwise_cons.2 ⟨fun a ha => ?_, ih hes⟩
        rcases mem_insertEntry ha with rfl | ha
        · exact Std.lt_of_le_of_ne (String.not_lt.1 hlt) (Ne.symm hne)
        · exact he a ha

/-- **A map from texts to values**, its entries in strictly ascending order of the keys. -/
structure KeyMap (α : Type) where
  entries : List (String × α)
  sorted : entries.Pairwise (fun a b => a.1 < b.1)

namespace KeyMap

variable {α β : Type}

/-- The map without entries. -/
def empty : KeyMap α := ⟨[], .nil⟩

instance : Inhabited (KeyMap α) := ⟨empty⟩

instance [DecidableEq α] : DecidableEq (KeyMap α) := fun a b =>
  decidable_of_iff (a.entries = b.entries)
    ⟨fun h => by cases a; cases b; simp_all, fun h => h ▸ rfl⟩

/-- Write a value under a key; an earlier value is replaced. -/
def insert (map : KeyMap α) (key : String) (value : α) : KeyMap α :=
  ⟨insertEntry key value map.entries, pairwise_insertEntry map.sorted⟩

/-- The map of a list of entries, in which a later entry replaces an earlier one of the same key. -/
def ofList (entries : List (String × α)) : KeyMap α :=
  entries.foldl (fun map entry => map.insert entry.1 entry.2) empty

/-- The entries in ascending order of their keys. -/
def toList (map : KeyMap α) : List (String × α) := map.entries

/-- The keys in ascending order. -/
def keys (map : KeyMap α) : List String := map.entries.map (·.1)

/-- The value under a key. -/
def find? (map : KeyMap α) (key : String) : Option α := map.entries.lookup key

/-- Whether the map has no entries. -/
def isEmpty (map : KeyMap α) : Bool := map.entries.isEmpty

/-! ### What is found -/

theorem lookup_entry_cons (k key : String) (value : α) (entries : List (String × α)) :
    ((key, value) :: entries).lookup k = if k = key then some value else entries.lookup k := by
  by_cases h : k = key
  · simp [h]
  · have hb : (k == key) = false := by simpa using h
    simp [List.lookup_cons, h, hb]

theorem lookup_insertEntry (key : String) (value : α) (entries : List (String × α)) (k : String) :
    (insertEntry key value entries).lookup k =
      if k = key then some value else entries.lookup k := by
  induction entries with
  | nil => simp [insertEntry, lookup_entry_cons]
  | cons e es ih =>
    obtain ⟨k', v'⟩ := e
    unfold insertEntry
    split
    · rw [lookup_entry_cons]
    · split
      · next heq =>
        have heq : key = k' := heq
        subst heq
        simp only [lookup_entry_cons]
        split <;> rfl
      · next hne =>
        have hne : key ≠ k' := hne
        simp only [lookup_entry_cons, ih]
        grind

/-- **What is written under a key is found there, and nothing else changes.** -/
theorem find?_insert (map : KeyMap α) (key : String) (value : α) (k : String) :
    (map.insert key value).find? k = if k = key then some value else map.find? k :=
  lookup_insertEntry key value map.entries k

theorem find?_foldl_insert (entries : List (String × α)) (map : KeyMap α) (k : String) :
    (entries.foldl (fun m e => m.insert e.1 e.2) map).find? k =
      (entries.reverse.lookup k).or (map.find? k) := by
  induction entries generalizing map with
  | nil => simp
  | cons e es ih =>
    obtain ⟨k', v'⟩ := e
    rw [List.foldl_cons, ih, find?_insert, List.reverse_cons, List.lookup_append, Option.or_assoc,
      lookup_entry_cons]
    by_cases h : k = k' <;> simp [h]

/-- **A map built from a list holds the last entry of each key.** -/
theorem find?_ofList (entries : List (String × α)) (k : String) :
    (ofList entries).find? k = entries.reverse.lookup k := by
  have h := find?_foldl_insert entries empty k
  have he : (empty : KeyMap α).find? k = none := rfl
  rw [he, Option.or_none] at h
  exact h

theorem lookup_eq_some_iff_mem {entries : List (String × α)}
    (h : entries.Pairwise (fun a b => a.1 < b.1)) {k : String} {v : α} :
    entries.lookup k = some v ↔ (k, v) ∈ entries := by
  induction entries with
  | nil => simp
  | cons e es ih =>
    obtain ⟨k', v'⟩ := e
    obtain ⟨he, hes⟩ := List.pairwise_cons.1 h
    rw [lookup_entry_cons]
    by_cases hk : k = k'
    · subst hk
      have hn : (k, v) ∉ es := fun hm => String.lt_irrefl k (he _ hm)
      simp [hn, eq_comm]
    · simp [hk, ih hes]

/-- A value is found under a key exactly if that entry is in the list. -/
theorem find?_eq_some_iff {map : KeyMap α} {k : String} {v : α} :
    map.find? k = some v ↔ (k, v) ∈ map.toList :=
  lookup_eq_some_iff_mem map.sorted

/-- An entry is found if there is no other value under its key. -/
theorem lookup_eq_some_of_unique {entries : List (String × α)} {k : String} {v : α}
    (hmem : (k, v) ∈ entries) (hunique : ∀ entry ∈ entries, entry.1 = k → entry.2 = v) :
    entries.lookup k = some v := by
  induction entries with
  | nil => cases hmem
  | cons e es ih =>
    obtain ⟨k', v'⟩ := e
    obtain ⟨hfirst, hrest⟩ := List.forall_mem_cons.1 hunique
    rw [lookup_entry_cons]
    by_cases hk : k = k'
    · have hvalue : v' = v := hfirst hk.symm
      rw [if_pos hk, hvalue]
    · rw [if_neg hk]
      refine ih ((List.mem_cons.1 hmem).resolve_left fun heq => ?_) hrest
      exact hk (Prod.mk.inj heq).1

/-- The last entry of a key is an entry. -/
theorem mem_of_lookup_reverse {entries : List (String × α)} {k : String} {v : α}
    (h : entries.reverse.lookup k = some v) : (k, v) ∈ entries := by
  obtain ⟨before, after, heq, -⟩ := List.lookup_eq_some_iff.1 h
  rw [← List.mem_reverse, heq]
  exact List.mem_append_right before List.mem_cons_self

/-- An entry of a map built from a list is in the list. -/
theorem mem_of_mem_toList_ofList {entries : List (String × α)} {entry : String × α}
    (h : entry ∈ (ofList entries).toList) : entry ∈ entries := by
  have hfind := find?_eq_some_iff.2 h
  rw [find?_ofList] at hfind
  exact mem_of_lookup_reverse hfind

/-! ### Keys and indices -/

/-- A key is one of the keys exactly if a value is found under it. -/
theorem mem_keys_iff {map : KeyMap α} {k : String} : k ∈ map.keys ↔ ∃ v, map.find? k = some v := by
  constructor
  · intro h
    obtain ⟨entry, hmem, rfl⟩ := List.mem_map.1 h
    exact ⟨entry.2, find?_eq_some_iff.2 hmem⟩
  · rintro ⟨v, hfind⟩
    exact List.mem_map.2 ⟨(k, v), find?_eq_some_iff.1 hfind, rfl⟩

/-- A map built from a list has the keys of the list. -/
theorem mem_keys_ofList_iff {entries : List (String × α)} {k : String} :
    k ∈ (ofList entries).keys ↔ ∃ v, (k, v) ∈ entries := by
  rw [mem_keys_iff]
  constructor
  · rintro ⟨v, hfind⟩
    exact ⟨v, mem_of_mem_toList_ofList (find?_eq_some_iff.1 hfind)⟩
  · rintro ⟨v, hmem⟩
    rw [← Option.isSome_iff_exists, find?_ofList, Option.isSome_iff_ne_none]
    intro hnone
    have hne := List.lookup_eq_none_iff.1 hnone (k, v) (List.mem_reverse.2 hmem)
    simp at hne

/-- **A map built from a list holds the entry of each key at its last index.** -/
theorem find?_ofList_eq_some_iff {entries : List (String × α)} {k : String} {v : α} :
    (ofList entries).find? k = some v ↔
      ∃ i : Nat, entries[i]? = some (k, v) ∧
        ∀ (j : Nat) (w : α), i < j → entries[j]? ≠ some (k, w) := by
  rw [find?_ofList, List.lookup_eq_some_iff]
  constructor
  · rintro ⟨later, earlier, hreverse, hlater⟩
    have hentries : entries = earlier.reverse ++ (k, v) :: later.reverse := by
      rw [← entries.reverse_reverse, hreverse]
      simp
    refine ⟨earlier.length, by simp [hentries], fun j w hj hw => ?_⟩
    rw [hentries, List.getElem?_append_right (by rw [List.length_reverse]; omega),
      List.length_reverse] at hw
    obtain ⟨n, hn⟩ : ∃ n, j - earlier.length = n + 1 := ⟨j - earlier.length - 1, by omega⟩
    rw [hn, List.getElem?_cons_succ] at hw
    have hmem : (k, w) ∈ later := List.mem_reverse.1 (List.mem_of_getElem? hw)
    simpa using hlater (k, w) hmem
  · rintro ⟨i, hi, hlater⟩
    obtain ⟨hlt, hget⟩ := List.getElem?_eq_some_iff.1 hi
    refine ⟨(entries.drop (i + 1)).reverse, (entries.take i).reverse, ?_, fun entry hmem => ?_⟩
    · rw [← List.reverse_concat, ← List.reverse_append, List.append_assoc, List.singleton_append,
        ← hget, List.getElem_cons_drop, List.take_append_drop]
    · obtain ⟨j, hj⟩ := List.mem_iff_getElem?.1 (List.mem_reverse.1 hmem)
      rw [List.getElem?_drop] at hj
      have hne : k ≠ entry.1 := fun hk => hlater (i + 1 + j) entry.2 (by omega) (hk ▸ hj)
      simpa using hne

/-! ### Maps by what is found -/

theorem nodup_toList (map : KeyMap α) : map.toList.Nodup := by
  refine List.Pairwise.imp (fun {a b} hlt heq => ?_) map.sorted
  rw [heq] at hlt
  exact String.lt_irrefl _ hlt

/-- **A map built from entries with different keys holds these entries.** -/
theorem perm_toList_ofList {entries : List (String × α)}
    (h : entries.Pairwise fun a b => a.1 ≠ b.1) : (ofList entries).toList.Perm entries := by
  have hnodup : entries.Nodup := h.imp fun hne heq => hne (congrArg Prod.fst heq)
  have hunique : ∀ ⦃a⦄, a ∈ entries → ∀ ⦃b⦄, b ∈ entries → a.1 = b.1 → a.2 = b.2 :=
    List.Pairwise.forall_of_forall_of_flip (fun _ _ _ => rfl)
      (h.imp fun hne heq => absurd heq hne) (h.imp fun hne heq => absurd heq.symm hne)
  rw [List.perm_ext_iff_of_nodup (nodup_toList _) hnodup]
  rintro ⟨k, v⟩
  refine ⟨mem_of_mem_toList_ofList, fun hmem => ?_⟩
  rw [← find?_eq_some_iff, find?_ofList]
  exact lookup_eq_some_of_unique (List.mem_reverse.2 hmem)
    fun entry hentry => hunique (List.mem_reverse.1 hentry) hmem

/-- **A map is determined by what is found in it.** -/
theorem eq_of_find?_eq {first second : KeyMap α} (h : ∀ k, first.find? k = second.find? k) :
    first = second := by
  have hmem : ∀ entry, entry ∈ first.toList ↔ entry ∈ second.toList := by
    rintro ⟨k, v⟩
    rw [← find?_eq_some_iff, ← find?_eq_some_iff, h]
  have hperm : first.entries.Perm second.entries :=
    (List.perm_ext_iff_of_nodup first.nodup_toList second.nodup_toList).2 hmem
  have hentries : first.entries = second.entries :=
    hperm.eq_of_pairwise (fun _ _ _ _ hab hba => absurd hba (String.lt_asymm hab))
      first.sorted second.sorted
  cases first
  cases second
  cases hentries
  rfl

theorem lookup_eq_head?_filter (entries : List (String × α)) (k : String) :
    entries.lookup k = (entries.filter (·.1 = k)).head?.map (·.2) := by
  induction entries with
  | nil => rfl
  | cons e es ih =>
    obtain ⟨k', v'⟩ := e
    rw [lookup_entry_cons, ih, List.filter_cons]
    by_cases h : k = k'
    · simp [h]
    · simp [h, Ne.symm h]

/-- **Only the order of entries of one key counts** in a list from which a map is built. -/
theorem ofList_eq_of_filter_eq {first second : List (String × α)}
    (h : ∀ k, first.filter (·.1 = k) = second.filter (·.1 = k)) : ofList first = ofList second := by
  refine eq_of_find?_eq fun k => ?_
  rw [find?_ofList, find?_ofList, lookup_eq_head?_filter, lookup_eq_head?_filter,
    List.filter_reverse, List.filter_reverse, h]

end KeyMap

end HttpQuery
