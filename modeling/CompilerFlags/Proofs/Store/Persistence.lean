import CompilerFlags.Proofs.Store.Filling
import CompilerFlags.Proofs.Toml.Document

/-!
# A store is known by its written form

`Store.toToml_congr`: the written form of a store depends only on what is read from it.
`Store.exists_ofToml_toToml`: a store is restored from its written form, up to buckets without
flags, which are not written.

Both go through the list of filled buckets.  Its entries are the buckets that something is read
from, together with what is read (`mem_filled`), and it is sorted, so nothing else determines it.
The written lists are those of the filled buckets (`mem_toLists`), and a store that is filled from
them reads the same because they hold no repetitions.
-/

namespace CompilerFlags

namespace Store

/-! ## Entries -/

/-- In a list with one entry for each bucket, what is found under a bucket is its entry. -/
theorem lookup_eq_some_iff {es : List (Bucket × Flags)} (h : (es.map (·.1)).Nodup) {b : Bucket}
    {fs : Flags} : es.lookup b = some fs ↔ (b, fs) ∈ es := by
  induction es with
  | nil => simp
  | cons e es ih =>
    rw [List.map_cons, List.nodup_cons] at h
    rw [lookup_cons_eq, List.mem_cons]
    by_cases hb : b = e.1
    · have hnot : (b, fs) ∉ es := fun hmem => h.1 (hb ▸ List.mem_map_of_mem hmem)
      rw [if_pos hb, Option.some.injEq]
      constructor
      · rintro rfl
        exact Or.inl (by rw [hb])
      · rintro (heq | hmem)
        · rw [← heq]
        · exact absurd hmem hnot
    · have hne : (b, fs) ≠ e := fun heq => hb (by rw [← heq])
      rw [if_neg hb, ih h.2, or_iff_right hne]

variable (s : Store)

/-- There is one entry for each bucket. -/
theorem nodup_entries : (s.entries.map (·.1)).Nodup := by
  rw [List.Nodup, List.pairwise_map]
  refine s.sorted.imp fun {a b} hlt heq => ?_
  rw [heq] at hlt
  exact Bucket.lt_irrefl _ hlt

theorem sorted_filled : s.filled.Pairwise fun a b => a.1 < b.1 :=
  s.sorted.sublist List.filter_sublist

theorem nodup_filled : (s.filled.map (·.1)).Nodup :=
  s.nodup_entries.sublist (List.filter_sublist.map _)

/-- The filled buckets are those that flags are read from. -/
theorem mem_filled {b : Bucket} {fs : Flags} :
    (b, fs) ∈ s.filled ↔ s.get b = fs ∧ fs.isEmpty = false := by
  rw [filled, List.mem_filter, ← lookup_eq_some_iff s.nodup_entries, get, Bool.not_eq_true']
  refine and_congr_left fun hne => ?_
  cases hlookup : s.entries.lookup b with
  | none =>
    refine iff_of_false (by simp) ?_
    rintro rfl
    cases hne
  | some fs' => rw [Option.getD_some, Option.some.injEq]

variable {s} {t : Store}

/-- Stores from which the same flags are read have the same filled buckets. -/
theorem filled_congr (h : ∀ b, s.get b = t.get b) : s.filled = t.filled := by
  have hmem : ∀ e, e ∈ s.filled ↔ e ∈ t.filled := by
    rintro ⟨b, fs⟩
    rw [mem_filled, mem_filled, h b]
  have hperm := (List.perm_ext_iff_of_nodup s.nodup_filled.of_map t.nodup_filled.of_map).2 hmem
  refine hperm.eq_of_pairwise (fun a b _ _ hab hba => ?_) s.sorted_filled t.sorted_filled
  exact absurd (Bucket.lt_trans hab hba) (Bucket.lt_irrefl _)

/-- The written form of a store depends only on what is read from it. -/
theorem toToml_congr (h : ∀ b, s.get b = t.get b) : s.toToml = t.toToml := by
  rw [toToml, toToml, toLists, toLists, filled_congr h]

/-! ## Named lists -/

/-- An entry as a list with a name. -/
def namedList (e : Bucket × Flags) : String × List String := (e.1.name, e.2.toList)

/-- The filled buckets have different names. -/
theorem nodup_names_filled (s : Store) : ((s.filled.map namedList).map (·.1)).Nodup := by
  have hnames : (s.filled.map namedList).map (·.1) = (s.filled.map (·.1)).map Bucket.name := by
    rw [List.map_map, List.map_map]
    rfl
  rw [hnames]
  exact s.nodup_filled.map fun _ _ => Bucket.name_injective

/-- The lists of a store are what is read from its buckets, unless that is nothing. -/
lemma mem_toLists {b : Bucket} {flags : List String} :
    (b.name, flags) ∈ s.toLists ↔ (s.get b).toList = flags ∧ flags ≠ [] := by
  show _ ∈ sortLists (s.filled.map namedList) ↔ _
  rw [mem_sortLists, List.mem_map]
  constructor
  · rintro ⟨⟨c, fs⟩, hmem, heq⟩
    obtain ⟨hname, rfl⟩ := Prod.mk.inj heq
    obtain rfl := Bucket.name_injective hname
    obtain ⟨rfl, hne⟩ := s.mem_filled.1 hmem
    exact ⟨rfl, List.isEmpty_eq_false_iff.1 hne⟩
  · rintro ⟨rfl, hne⟩
    exact ⟨(b, s.get b), s.mem_filled.2 ⟨rfl, List.isEmpty_eq_false_iff.2 hne⟩, rfl⟩

lemma named_toLists (s : Store) : Named s.toLists := by
  intro l hl
  obtain ⟨e, _, rfl⟩ := List.mem_map.1 (mem_sortLists.1 hl)
  exact ⟨e.1, rfl⟩

lemma nodup_names_toLists (s : Store) : (s.toLists.map (·.1)).Nodup :=
  nodup_names_sortLists s.nodup_names_filled

/-! ## Reading what was written -/

theorem texts?_list_text (flags : List String) :
    (Value.list (flags.map .text)).texts? = some flags := by
  show (flags.map Value.text).mapM Value.text? = _
  induction flags with
  | nil => rfl
  | cons flag flags ih =>
    rw [List.map_cons, List.mapM_cons, ih]
    rfl

theorem flagLists?_map_text (lists : List (String × List String)) :
    Decode.flagLists? (lists.map fun l => (l.1, .list (l.2.map .text))) = some lists := by
  unfold Decode.flagLists?
  induction lists with
  | nil => rfl
  | cons l lists ih =>
    rw [List.map_cons, List.mapM_cons, ih, texts?_list_text]
    rfl

theorem isPlainName_name (b : Bucket) : Toml.IsPlainName b.name :=
  ⟨b.name_ne_empty, fun _ hc => Bucket.isProfileChar_of_mem_name hc⟩

/-- The lists of a store are read from its written form. -/
theorem flagLists?_toToml (s : Store) :
    (Toml.parse? s.toToml).bind Decode.flagLists? = some s.toLists := by
  have hplain : ∀ l ∈ s.toLists, Toml.IsPlainName l.1 := by
    intro l hl
    obtain ⟨b, hb⟩ := s.named_toLists l hl
    exact hb ▸ isPlainName_name b
  rw [toToml, Toml.parse?_printLists hplain s.nodup_names_toLists]
  exact flagLists?_map_text s.toLists

/-- A store is restored from its written form, up to buckets without flags. -/
theorem exists_ofToml_toToml (s : Store) :
    ∃ t, ofToml s.toToml = .ok t ∧ ∀ b, t.get b = s.get b := by
  obtain ⟨t, ht, hlisted, hother⟩ := exists_ofLists s.named_toLists s.nodup_names_toLists
  refine ⟨t, ?_, fun b => OrderedSet.ext ?_⟩
  · rw [ofToml, flagLists?_toToml]
    show (ofLists s.toLists).mapError FileError.bucket = _
    rw [ht]
    rfl
  · by_cases hempty : (s.get b).toList = []
    · have hnot : b.name ∉ s.toLists.map (·.1) := by
        intro hmem
        obtain ⟨⟨_, flags⟩, hl, rfl⟩ := List.mem_map.1 hmem
        obtain ⟨hflags, hne⟩ := mem_toLists.1 hl
        exact hne (hflags ▸ hempty)
      rw [hother b hnot, hempty]
    · rw [hlisted b _ (mem_toLists.2 ⟨rfl, hempty⟩), eraseDups_of_nodup (s.get b).nodup]

end Store

end CompilerFlags
