/-
A sorted map is its look-ups.

The entries of a map ascend strictly, so a key has one value and two maps that answer every
look-up alike have the same entries.  Everything later that compares two maps goes through
`ext_get?`, and everything that reads a map after a change goes through `get?_insert`.
-/
import RanSlicing.Proofs.Except
import RanSlicing.SortedMap

namespace RanSlicing.SortedMap

variable {κ α : Type} [Ord κ] [BEq κ]

@[simp] theorem get?_empty (k : κ) : (empty : SortedMap κ α).get? k = none := rfl

variable [LawfulBEq κ]

omit [Ord κ] in
theorem mem_of_lookup {es : List (κ × α)} {k : κ} {v : α} (h : es.lookup k = some v) :
    (k, v) ∈ es := by
  obtain ⟨before, after, rfl, -⟩ := List.lookup_eq_some_iff.1 h
  simp

omit [Ord κ] in
theorem lookup_cons_ne {es : List (κ × α)} {e : κ × α} {k : κ} (h : k ≠ e.1) :
    (e :: es).lookup k = es.lookup k := by
  have hbeq : (k == e.1) = false := by simpa using h
  rw [List.lookup_cons, hbeq]

omit [Ord κ] in
/-- Entries left out by their keys are left out of the look-ups. -/
theorem lookup_filter (p : κ → Bool) (es : List (κ × α)) (k : κ) :
    (es.filter fun e => p e.1).lookup k = if p k then es.lookup k else none := by
  induction es with
  | nil => simp
  | cons e rest ih =>
      by_cases hke : k = e.1
      · subst hke
        by_cases hp : p e.1 = true
        · rw [List.filter_cons, if_pos hp, if_pos hp, List.lookup_cons_self, List.lookup_cons_self]
        · rw [List.filter_cons, if_neg hp, ih, if_neg hp, if_neg hp]
      · rw [lookup_cons_ne hke]
        by_cases hp : p e.1 = true
        · rw [List.filter_cons, if_pos hp, lookup_cons_ne hke, ih]
        · rw [List.filter_cons, if_neg hp, ih]

variable [Std.TransOrd κ] [Std.LawfulEqOrd κ]

omit [BEq κ] [LawfulBEq κ] [Std.LawfulEqOrd κ] in
/-- A key that is below another one is not that key. -/
theorem ne_of_compare_lt {a b : κ} (h : compare a b = .lt) : a ≠ b := by
  intro hab
  rw [hab, Std.ReflOrd.compare_self] at h
  exact absurd h (by decide)

omit [Std.LawfulEqOrd κ] in
theorem lookup_eq_none_of_lt {es : List (κ × α)} {k : κ}
    (h : ∀ e ∈ es, compare k e.1 = .lt) : es.lookup k = none := by
  rw [List.lookup_eq_none_iff]
  exact fun e he => bne_iff_ne.2 (ne_of_compare_lt (h e he))

theorem lookup_insertEntry_self (k : κ) (v : α) (es : List (κ × α)) :
    (insertEntry k v es).lookup k = some v := by
  induction es with
  | nil => exact List.lookup_cons_self
  | cons e rest ih =>
      simp only [insertEntry]
      split
      · exact List.lookup_cons_self
      · exact List.lookup_cons_self
      · rename_i hgt
        have hne : k ≠ e.1 := (ne_of_compare_lt (Std.OrientedCmp.lt_of_gt hgt)).symm
        rw [lookup_cons_ne hne, ih]

theorem lookup_insertEntry_ne {k k' : κ} (hne : k' ≠ k) (v : α) (es : List (κ × α)) :
    (insertEntry k v es).lookup k' = es.lookup k' := by
  induction es with
  | nil => exact lookup_cons_ne hne
  | cons e rest ih =>
      simp only [insertEntry]
      split
      · rw [lookup_cons_ne hne]
      · rename_i heq
        have hk : k = e.1 := Std.LawfulEqCmp.eq_of_compare heq
        rw [lookup_cons_ne hne, lookup_cons_ne (hk ▸ hne)]
      · by_cases he : k' = e.1
        · subst he
          rw [List.lookup_cons_self, List.lookup_cons_self]
        · rw [lookup_cons_ne he, ih, lookup_cons_ne he]

@[simp] theorem get?_insert_self (m : SortedMap κ α) (k : κ) (v : α) :
    (m.insert k v).get? k = some v :=
  lookup_insertEntry_self k v m.entries

theorem get?_insert_ne (m : SortedMap κ α) {k k' : κ} (v : α) (h : k' ≠ k) :
    (m.insert k v).get? k' = m.get? k' :=
  lookup_insertEntry_ne h v m.entries

/-- In a list with ascending keys an entry is what its key looks up. -/
theorem lookup_of_mem {es : List (κ × α)}
    (hes : es.Pairwise fun a b => compare a.1 b.1 = .lt) {k : κ} {v : α} (h : (k, v) ∈ es) :
    es.lookup k = some v := by
  induction es with
  | nil => simp at h
  | cons e rest ih =>
      obtain ⟨he, hrest⟩ := List.pairwise_cons.1 hes
      rcases List.mem_cons.1 h with rfl | hmem
      · exact List.lookup_cons_self
      · have hne : k ≠ e.1 := (ne_of_compare_lt (he _ hmem)).symm
        rw [lookup_cons_ne hne]
        exact ih hrest hmem

theorem mem_entries_iff {m : SortedMap κ α} {k : κ} {v : α} :
    (k, v) ∈ m.entries ↔ m.get? k = some v :=
  ⟨lookup_of_mem m.ascending, mem_of_lookup⟩

theorem mem_keys_iff {m : SortedMap κ α} {k : κ} : k ∈ m.keys ↔ ∃ v, m.get? k = some v := by
  simp [keys, ← mem_entries_iff]

omit [BEq κ] [LawfulBEq κ] [Std.LawfulEqOrd κ] in
theorem nodup_keys (m : SortedMap κ α) : m.keys.Nodup :=
  (List.pairwise_map.2 m.ascending).imp ne_of_compare_lt

omit [Std.TransOrd κ] [Std.LawfulEqOrd κ] in
theorem get?_mapValues {β : Type} (f : κ → α → β) (m : SortedMap κ α) (k : κ) :
    (m.mapValues f).get? k = (m.get? k).map (f k) := by
  show (m.entries.map fun e => (e.1, f e.1 e.2)).lookup k = (m.entries.lookup k).map (f k)
  induction m.entries with
  | nil => rfl
  | cons e rest ih =>
      rw [List.map_cons]
      by_cases hk : k = e.1
      · subst hk
        rw [List.lookup_cons_self, List.lookup_cons_self]
        rfl
      · have hhead : k ≠ (e.1, f e.1 e.2).1 := hk
        rw [lookup_cons_ne hhead, lookup_cons_ne hk, ih]

/-! ### Two maps with the same look-ups are one map

The lowest key of a map is the only one that has no key below it, so both maps begin with the
same entry, and what is left of them still has the same look-ups.
-/

omit [BEq κ] [LawfulBEq κ] [Std.LawfulEqOrd κ] in
private theorem head_eq {e f : κ × α} {es fs : List (κ × α)}
    (he : ∀ x ∈ es, compare e.1 x.1 = .lt) (hf : ∀ x ∈ fs, compare f.1 x.1 = .lt)
    (hef : e ∈ f :: fs) (hfe : f ∈ e :: es) : e = f := by
  rcases List.mem_cons.1 hef with heq | hmem
  · exact heq
  · rcases List.mem_cons.1 hfe with heq | hmem'
    · exact heq.symm
    · have hloop := Std.TransCmp.lt_trans (hf e hmem) (he f hmem')
      exact absurd rfl (ne_of_compare_lt hloop)

private theorem entries_eq {es fs : List (κ × α)}
    (hes : es.Pairwise fun a b => compare a.1 b.1 = .lt)
    (hfs : fs.Pairwise fun a b => compare a.1 b.1 = .lt)
    (h : ∀ k, es.lookup k = fs.lookup k) : es = fs := by
  induction es generalizing fs with
  | nil =>
      cases fs with
      | nil => rfl
      | cons f fs =>
          have := h f.1
          rw [List.lookup_cons_self] at this
          simp at this
  | cons e es ih =>
      cases fs with
      | nil =>
          have := h e.1
          rw [List.lookup_cons_self] at this
          simp at this
      | cons f fs =>
          obtain ⟨he, hes'⟩ := List.pairwise_cons.1 hes
          obtain ⟨hf, hfs'⟩ := List.pairwise_cons.1 hfs
          have hefs : e ∈ f :: fs := mem_of_lookup (by rw [← h e.1, List.lookup_cons_self])
          have hfes : f ∈ e :: es := mem_of_lookup (by rw [h f.1, List.lookup_cons_self])
          have hef : e = f := head_eq he hf hefs hfes
          subst hef
          have hrest : ∀ k, es.lookup k = fs.lookup k := by
            intro k
            by_cases hk : k = e.1
            · subst hk
              rw [lookup_eq_none_of_lt he, lookup_eq_none_of_lt hf]
            · have := h k
              rwa [lookup_cons_ne hk, lookup_cons_ne hk] at this
          rw [ih hes' hfs' hrest]

/-- **Maps with the same look-ups are equal.** -/
theorem ext_get? {m n : SortedMap κ α} (h : ∀ k, m.get? k = n.get? k) : m = n := by
  obtain ⟨es, hes⟩ := m
  obtain ⟨fs, hfs⟩ := n
  have : es = fs := entries_eq hes hfs h
  subst this
  rfl

/-! ### Maps of lists -/

/-- Entries that ascend take the place of what the map had for their keys. -/
theorem get?_foldl_insert {es : List (κ × α)}
    (hes : es.Pairwise fun a b => compare a.1 b.1 = .lt) (k : κ) :
    ∀ m : SortedMap κ α,
      (es.foldl (fun m e => m.insert e.1 e.2) m).get? k = (es.lookup k).or (m.get? k) := by
  induction es with
  | nil => intro m; rfl
  | cons e rest ih =>
      intro m
      obtain ⟨he, hrest⟩ := List.pairwise_cons.1 hes
      rw [List.foldl_cons, ih hrest]
      by_cases hk : k = e.1
      · subst hk
        rw [lookup_eq_none_of_lt he, get?_insert_self, List.lookup_cons_self]
        rfl
      · rw [get?_insert_ne m e.2 hk, lookup_cons_ne hk]

theorem get?_ofList {es : List (κ × α)} (hes : es.Pairwise fun a b => compare a.1 b.1 = .lt)
    (k : κ) : (ofList es).get? k = es.lookup k := by
  rw [ofList, get?_foldl_insert hes]
  simp

/-- A list whose keys ascend is the entries of its map. -/
theorem entries_ofList {es : List (κ × α)}
    (hes : es.Pairwise fun a b => compare a.1 b.1 = .lt) : (ofList es).entries = es := by
  have : ofList es = ⟨es, hes⟩ := ext_get? fun k => get?_ofList hes k
  rw [this]

/-- The map that a list of keys has of a function on them, however often it names a key. -/
theorem get?_ofList_filterMap (f : κ → Option α) (ks : List κ) (k : κ) :
    (ofList (ks.filterMap fun k => (f k).map fun v => (k, v))).get? k
      = if k ∈ ks then f k else none := by
  have hfold : ∀ m : SortedMap κ α,
      ((ks.filterMap fun k => (f k).map fun v => (k, v)).foldl
        (fun m e => m.insert e.1 e.2) m).get? k = (if k ∈ ks then f k else none).or (m.get? k) := by
    induction ks with
    | nil => intro m; rfl
    | cons k' rest ih =>
        intro m
        cases hk' : f k' with
        | none =>
            rw [List.filterMap_cons_none (by rw [hk']; rfl), ih]
            by_cases hk : k = k'
            · subst hk
              simp [hk']
            · simp [hk]
        | some v =>
            rw [List.filterMap_cons_some (by rw [hk']; rfl), List.foldl_cons, ih]
            by_cases hk : k = k'
            · subst hk
              by_cases hrest : k ∈ rest <;> simp [hk', hrest]
            · simp [hk, get?_insert_ne m v hk]
  rw [ofList, hfold]
  simp

/-! ### Maps that collect

Values that come in with keys are collected under them.  After any number of entries each key has
its own values in the order they came in, and no key is without one.
-/

/-- The values that a list of entries has for a key, in order. -/
def valuesAt [DecidableEq κ] (k : κ) (es : List (κ × α)) : List α :=
  es.filterMap fun e => if e.1 = k then some e.2 else none

/-- The map has the keys of these entries, each with its values in order. -/
def Collects [DecidableEq κ] (m : SortedMap κ (List α)) (es : List (κ × α)) : Prop :=
  ∀ k vs, m.get? k = some vs ↔ vs = valuesAt k es ∧ vs ≠ []

omit [LawfulBEq κ] [Std.TransOrd κ] [Std.LawfulEqOrd κ] in
theorem collects_empty [DecidableEq κ] : Collects (empty : SortedMap κ (List α)) [] := by
  intro k vs
  refine ⟨fun h => absurd h (by simp), fun ⟨hvs, hne⟩ => absurd hvs hne⟩

omit [LawfulBEq κ] [Std.TransOrd κ] [Std.LawfulEqOrd κ] in
theorem Collects.getD_get? [DecidableEq κ] {m : SortedMap κ (List α)} {es : List (κ × α)}
    (h : m.Collects es) (k : κ) : (m.get? k).getD [] = valuesAt k es := by
  cases hget : m.get? k with
  | some vs => exact ((h k vs).1 hget).1
  | none =>
      by_contra hne
      have hentry := (h k (valuesAt k es)).2 ⟨rfl, Ne.symm hne⟩
      rw [hget] at hentry
      exact absurd hentry (by simp)

/-- A further value joins those of its key. -/
theorem Collects.add [DecidableEq κ] {m : SortedMap κ (List α)} {es : List (κ × α)}
    (h : m.Collects es) (k : κ) (v : α) :
    (m.insert k ((m.get? k).getD [] ++ [v])).Collects (es ++ [(k, v)]) := by
  intro other vs
  have happend : valuesAt other (es ++ [(k, v)]) = valuesAt other es ++ valuesAt other [(k, v)] :=
    List.filterMap_append
  rw [happend]
  by_cases heq : other = k
  · subst heq
    have hlast : valuesAt other [(other, v)] = [v] := by simp [valuesAt]
    rw [get?_insert_self, h.getD_get?, hlast, Option.some.injEq]
    constructor
    · rintro rfl
      exact ⟨rfl, by simp⟩
    · rintro ⟨rfl, -⟩
      rfl
  · have hlast : valuesAt other [(k, v)] = [] := by simp [valuesAt, Ne.symm heq]
    rw [get?_insert_ne _ _ heq, hlast, List.append_nil]
    exact h other vs

/-- The map that collects the values of some entries in one pass. -/
def collect (es : List (κ × α)) : SortedMap κ (List α) :=
  es.foldl (fun m e => m.insert e.1 ((m.get? e.1).getD [] ++ [e.2])) .empty

/-- **One pass collects exactly the values of each key.** -/
theorem collects_collect [DecidableEq κ] (es : List (κ × α)) : (collect es).Collects es := by
  -- The entries already taken grow with each step, so the induction is over any of them.
  have hfold : ∀ (es taken : List (κ × α)) (m : SortedMap κ (List α)), m.Collects taken →
      (es.foldl (fun m e => m.insert e.1 ((m.get? e.1).getD [] ++ [e.2])) m).Collects
        (taken ++ es) := by
    intro es
    induction es with
    | nil =>
        intro taken m h
        rw [List.append_nil]
        exact h
    | cons e rest ih =>
        intro taken m h
        have hrest := ih _ _ (h.add e.1 e.2)
        rwa [List.append_assoc] at hrest
  exact hfold es [] .empty collects_empty

/-! ### Maps of slices -/

/-- The map of what a computation yields for each slice of an ascending list. -/
theorem get?_ofList_mapM {ε : Type} {slices : List Nat} (hslices : slices.Pairwise (· < ·))
    {f : Nat → Except ε α} {entries : List (Nat × α)}
    (h : slices.mapM (fun slice => (f slice).map fun v => (slice, v)) = .ok entries) (slice : Nat) :
    if slice ∈ slices then ∃ v, f slice = .ok v ∧ (ofList entries).get? slice = some v
    else (ofList entries).get? slice = none := by
  rw [mapM_eq_ok_iff] at h
  have hyield : List.Forall₂ (fun slice e => slice = e.1 ∧ f slice = .ok e.2) slices entries := by
    refine h.imp fun slice e he => ?_
    obtain ⟨v, hv, rfl⟩ := map_eq_ok_iff.1 he
    exact ⟨rfl, hv⟩
  have hkeys : slices = entries.map (·.1) := by
    have hsame : List.Forall₂ (· = ·) slices (entries.map (·.1)) :=
      List.forall₂_map_right_iff.2 (hyield.imp fun _ _ hab => hab.1)
    rwa [List.forall₂_eq_eq_eq] at hsame
  have hascending : entries.Pairwise fun a b => compare a.1 b.1 = .lt := by
    rw [hkeys] at hslices
    exact (List.pairwise_map.1 hslices).imp Nat.compare_eq_lt.2
  rw [get?_ofList hascending]
  split
  · rename_i hmem
    rw [hkeys] at hmem
    obtain ⟨⟨named, v⟩, he, rfl⟩ := List.mem_map.1 hmem
    refine ⟨v, ?_, lookup_of_mem hascending he⟩
    obtain ⟨i, hi, hget⟩ := List.getElem_of_mem he
    have hpair := List.forall₂_iff_get.1 hyield
    obtain ⟨hslice, hv⟩ := hpair.2 i (by rw [hpair.1]; exact hi) hi
    simp only [List.get_eq_getElem, hget] at hslice hv
    rwa [hslice] at hv
  · rename_i hmem
    refine List.lookup_eq_none_iff.2 fun e he => bne_iff_ne.2 fun heq => hmem ?_
    rw [hkeys, heq]
    exact List.mem_map_of_mem he

end RanSlicing.SortedMap
