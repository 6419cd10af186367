import Rgbd.StreamMap

/-!
Looking up streams in a `StreamMap`.

The order on streams is a total order in which only equal streams compare equal, so
inserting a stream's value makes it the value found for that stream and changes what is
found for no other stream, wherever the entries stand. Changing a stream's value changes
the first value found for it and nothing else; a map holds a stream exactly when a value
is found for it, and the value found is one of its entries.
-/

namespace Rgbd

theorem StreamKey.compare_eq_iff {a b : StreamKey} : Ord.compare a b = .eq ↔ a = b := by
  obtain ⟨ma, ia⟩ := a
  obtain ⟨mb, ib⟩ := b
  show StreamKey.compare _ _ = .eq ↔ _
  unfold StreamKey.compare
  by_cases hm : ma = mb
  · subst hm
    simp
  · have hrank : Ord.compare ma.rank mb.rank ≠ .eq := by
      rw [Ne, Nat.compare_eq_eq]
      cases ma <;> cases mb <;> simp_all [Modality.rank]
    simp only [StreamKey.mk.injEq, hm, false_and, iff_false]
    exact hrank

namespace StreamMap

variable {α : Type}

theorem find?_insertEntry (k : StreamKey) (v : α) (l : List (StreamKey × α)) (k' : StreamKey) :
    ((insertEntry k v l).find? (·.1 == k')).map (·.2) =
      if k' = k then some v else (l.find? (·.1 == k')).map (·.2) := by
  induction l with
  | nil =>
    by_cases h : k' = k
    · subst h; simp [insertEntry]
    · simp [insertEntry, h, Ne.symm h]
  | cons e rest ih =>
    obtain ⟨k₁, v₁⟩ := e
    unfold insertEntry
    split
    · by_cases h : k' = k
      · subst h; simp
      · simp [h, Ne.symm h]
    · rename_i heq
      obtain rfl : k = k₁ := StreamKey.compare_eq_iff.1 heq
      by_cases h : k' = k
      · subst h; simp
      · simp [h, Ne.symm h]
    · rename_i hgt
      have hne : k₁ ≠ k := by
        rintro rfl
        rw [StreamKey.compare_eq_iff.2 rfl] at hgt
        cases hgt
      rw [List.find?_cons, List.find?_cons]
      by_cases h₁ : k₁ = k'
      · subst h₁
        simp [hne]
      · have hb : (k₁ == k') = false := by simpa using h₁
        rw [hb]
        exact ih

@[simp] theorem find?_insert (m : StreamMap α) (k k' : StreamKey) (v : α) :
    (m.insert k v).find? k' = if k' = k then some v else m.find? k' :=
  find?_insertEntry k v m.entries k'

@[simp] theorem find?_modify (m : StreamMap α) (k k' : StreamKey) (f : α → α) :
    (m.modify k f).find? k' = if k' = k then (m.find? k).map f else m.find? k' := by
  obtain ⟨entries⟩ := m
  simp only [modify, find?]
  induction entries with
  | nil => simp
  | cons e rest ih =>
    obtain ⟨k₁, v₁⟩ := e
    rw [List.map_cons, List.find?_cons, List.find?_cons, List.find?_cons]
    have hkey : (if (k₁ == k) = true then (k₁, f v₁) else (k₁, v₁)).1 = k₁ := by split <;> rfl
    dsimp only
    rw [hkey]
    by_cases h₁ : k₁ = k'
    · subst h₁
      by_cases h₂ : k₁ = k <;> simp [h₂]
    · have hb : (k₁ == k') = false := by simpa using h₁
      rw [hb, ih]
      by_cases h₂ : k' = k
      · subst h₂
        simp [hb]
      · simp [h₂]

theorem contains_eq_isSome (m : StreamMap α) (k : StreamKey) :
    m.contains k = (m.find? k).isSome := by
  simp only [contains, find?, Option.isSome_map]
  rw [Bool.eq_iff_iff, List.any_eq_true, List.find?_isSome]

theorem mem_of_find?_eq_some {m : StreamMap α} {k : StreamKey} {v : α} (h : m.find? k = some v) :
    (k, v) ∈ m.entries := by
  simp only [find?, Option.map_eq_some_iff] at h
  obtain ⟨e, he, rfl⟩ := h
  have hk : e.1 = k := by simpa using List.find?_some he
  rw [← hk]
  exact List.mem_of_find?_eq_some he

@[simp] theorem find?_map {β : Type} (f : α → β) (m : StreamMap α) (k : StreamKey) :
    (m.map f).find? k = (m.find? k).map f := by
  obtain ⟨entries⟩ := m
  simp only [map, find?]
  induction entries with
  | nil => rfl
  | cons e rest ih =>
    by_cases h : e.1 = k <;> simp_all

@[simp] theorem find?_empty (k : StreamKey) : ({} : StreamMap α).find? k = none := rfl

end StreamMap

end Rgbd
