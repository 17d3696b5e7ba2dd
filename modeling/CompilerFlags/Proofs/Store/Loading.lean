import CompilerFlags.Proofs.Octets
import CompilerFlags.Proofs.Store.Restoring
import CompilerFlags.Proofs.Toml.Names

/-!
# Loading any table of lists

A file of flags may have been written by hand, with repeated flags, empty lists, names in any order
and names that no bucket has.  A document gives no name twice, so the table is filled into a store
list by list, and what is written then is the table in a normal form (`normalLists`,
`toLists_of_loaded`).  Both are lists with different names, so it is enough that they have the same
members.

`ofToml_normalizes` says when a table is refused and what is read if not, and adds that the normal
form is a fixed point: a store that was loaded holds no empty buckets, so that it is known by what
is read from it.
-/

namespace CompilerFlags

namespace Store

variable {s : Store} {lists : List (String × List String)}

/-! ## Writing a loaded table -/

/-- A table without repetitions and without empty lists. -/
def normalLists (lists : List (String × List String)) : List (String × List String) :=
  (lists.map fun l => (l.1, l.2.eraseDups)).filter fun l => !l.2.isEmpty

lemma mem_normalLists {name : String} {flags : List String} :
    (name, flags) ∈ normalLists lists ↔
      (∃ listed, (name, listed) ∈ lists ∧ listed.eraseDups = flags) ∧ flags ≠ [] := by
  rw [normalLists, List.mem_filter, List.mem_map, Bool.not_eq_true', List.isEmpty_eq_false_iff]
  refine and_congr_left fun _ => ?_
  constructor
  · rintro ⟨⟨_, listed⟩, hl, heq⟩
    obtain ⟨rfl, rfl⟩ := Prod.mk.inj heq
    exact ⟨listed, hl, rfl⟩
  · rintro ⟨listed, hl, rfl⟩
    exact ⟨(name, listed), hl, rfl⟩

lemma named_normalLists (hnamed : Named lists) : Named (normalLists lists) := by
  rintro ⟨name, flags⟩ hl
  obtain ⟨⟨listed, hlisted, _⟩, _⟩ := mem_normalLists.1 hl
  exact hnamed (name, listed) hlisted

lemma nodup_names_normalLists (hnodup : (lists.map (·.1)).Nodup) :
    ((normalLists lists).map (·.1)).Nodup := by
  have hnames : (lists.map fun l => (l.1, l.2.eraseDups)).map (·.1) = lists.map (·.1) := by
    rw [List.map_map]
    rfl
  exact (hnames ▸ hnodup).sublist (List.filter_sublist.map _)

/-- Tables of buckets are known by the lists of each bucket. -/
lemma perm_of_named {lists' : List (String × List String)} (hnamed : Named lists)
    (hnamed' : Named lists') (hnodup : (lists.map (·.1)).Nodup) (hnodup' : (lists'.map (·.1)).Nodup)
    (h : ∀ b flags, (Bucket.name b, flags) ∈ lists ↔ (Bucket.name b, flags) ∈ lists') :
    lists.Perm lists' := by
  refine (List.perm_ext_iff_of_nodup hnodup.of_map hnodup'.of_map).2 fun ⟨name, flags⟩ => ?_
  constructor
  · intro hl
    obtain ⟨b, rfl⟩ := hnamed _ hl
    exact (h b flags).1 hl
  · intro hl
    obtain ⟨b, rfl⟩ := hnamed' _ hl
    exact (h b flags).2 hl

/-- A loaded table is written without repetitions and without empty lists. -/
lemma toLists_of_loaded (hnamed : Named lists) (hnodup : (lists.map (·.1)).Nodup)
    (hlisted : ∀ b flags, (Bucket.name b, flags) ∈ lists → (s.get b).toList = flags.eraseDups)
    (hother : ∀ b, Bucket.name b ∉ lists.map (·.1) → (s.get b).toList = []) :
    s.toLists = sortLists (normalLists lists) := by
  have hmem (b : Bucket) (flags : List String) :
      (b.name, flags) ∈ s.toLists ↔ (b.name, flags) ∈ normalLists lists := by
    rw [mem_toLists, mem_normalLists]
    refine and_congr_left fun hne => ⟨fun hread => ?_, ?_⟩
    · by_cases hb : b.name ∈ lists.map (·.1)
      · obtain ⟨⟨_, listed⟩, hl, rfl⟩ := List.mem_map.1 hb
        exact ⟨listed, hl, (hlisted b listed hl).symm.trans hread⟩
      · exact absurd (hread.symm.trans (hother b hb)) hne
    · rintro ⟨listed, hl, heq⟩
      exact (hlisted b listed hl).trans heq
  have hperm : s.toLists.Perm (normalLists lists) :=
    perm_of_named s.named_toLists (named_normalLists hnamed) s.nodup_names_toLists
      (nodup_names_normalLists hnodup) hmem
  have hsorted : (s.filled.map namedList).Perm s.toLists := (List.mergeSort_perm _ _).symm
  exact sortLists_eq_of_perm (hsorted.trans hperm) s.nodup_names_filled

/-- The lists of a document have different names. -/
lemma nodup_names_of_parse? {text : String}
    (h : (Toml.parse? text).bind Decode.flagLists? = some lists) : (lists.map (·.1)).Nodup := by
  have hnames {fields : List (String × Value)} {lists : List (String × List String)}
      (h : Decode.flagLists? fields = some lists) : lists.map (·.1) = fields.map (·.1) := by
    unfold Decode.flagLists? at h
    induction fields generalizing lists with
    | nil =>
      obtain rfl := Option.some.inj h
      rfl
    | cons field fields ih =>
      rw [List.mapM_cons] at h
      obtain ⟨l, hl, h⟩ := Option.bind_eq_some_iff.1 h
      obtain ⟨ls, hls, h⟩ := Option.bind_eq_some_iff.1 h
      obtain ⟨flags, _, rfl⟩ := Option.map_eq_some_iff.1 hl
      obtain rfl := Option.some.inj h
      rw [List.map_cons, List.map_cons, ih hls]
  obtain ⟨fields, hfields, hlists⟩ := Option.bind_eq_some_iff.1 h
  rw [hnames hlists]
  exact Toml.parse?_distinct hfields

/-! ## Loading a text -/

section

variable {text : String} (h : (Toml.parse? text).bind Decode.flagLists? = some lists)
include h

/-- A text that stands for named lists is refused if the lists are. -/
lemma ofToml_eq_error_iff {e : FileError} :
    ofToml text = .error e ↔ ∃ cause, e = .bucket cause ∧ ofLists lists = .error cause := by
  rw [ofToml, h]
  show (ofLists lists).mapError FileError.bucket = _ ↔ _
  cases ofLists lists with
  | ok s => simp [Except.mapError]
  | error cause => simp [Except.mapError, eq_comm]

/-- A text that stands for lists with names of buckets is loaded. -/
lemma exists_ofToml (hnamed : Named lists) : ∃ s, ofToml text = .ok s ∧
    (∀ b flags, (Bucket.name b, flags) ∈ lists → (s.get b).toList = flags.eraseDups) ∧
    ∀ b, Bucket.name b ∉ lists.map (·.1) → (s.get b).toList = [] := by
  obtain ⟨s, hs, hread⟩ := exists_ofLists hnamed (nodup_names_of_parse? h)
  refine ⟨s, ?_, hread⟩
  rw [ofToml, h]
  show (ofLists lists).mapError FileError.bucket = _
  rw [hs]
  rfl

end

/-- What was loaded is written so that it is loaded again. -/
lemma ofToml_toToml_of_ofToml {text : String} (h : ofToml text = .ok s) :
    ofToml s.toToml = .ok s := by
  obtain ⟨t, ht, hread⟩ := s.exists_ofToml_toToml
  rw [ht, (compact_of_ofToml ht).ext_get (compact_of_ofToml h) hread]

/-- A text that stands for named lists is refused exactly if some list has no bucket's name, and
then for the name whose octets come first.  Otherwise each list is read without repetitions and
nothing else is; the table that is written then is the given one without repetitions and without
empty lists, and loading what was written gives the same store again. -/
theorem ofToml_normalizes {text : String}
    (h : (Toml.parse? text).bind Decode.flagLists? = some lists) :
    ((∃ e, ofToml text = .error e) ↔ ∃ l ∈ lists, ∀ b : Bucket, b.name ≠ l.1) ∧
    (∀ e, ofToml text = .error e ↔ ∃ l ∈ lists, ∃ cause, e = .bucket cause ∧
      Bucket.parse l.1 = .error cause ∧
      ∀ l' ∈ lists, (∀ b : Bucket, b.name ≠ l'.1) →
        l.1 = l'.1 ∨ Octets.encode l.1 < Octets.encode l'.1) ∧
    ((∀ l ∈ lists, ∃ b : Bucket, b.name = l.1) → ∃ s, ofToml text = .ok s ∧
      (∀ b flags, (Bucket.name b, flags) ∈ lists → (s.get b).toList = flags.eraseDups) ∧
      (∀ b, Bucket.name b ∉ lists.map (·.1) → (s.get b).toList = []) ∧
      (Toml.parse? s.toToml).bind Decode.flagLists? = some (sortLists (normalLists lists)) ∧
      ofToml s.toToml = .ok s) := by
  refine ⟨⟨?_, ?_⟩, fun e => ?_, fun hnamed => ?_⟩
  · rintro ⟨e, he⟩
    by_contra hgood
    push Not at hgood
    obtain ⟨s, hs, _⟩ := exists_ofToml h hgood
    rw [hs] at he
    cases he
  · rintro ⟨l, hl, hbad⟩
    cases hlists : ofLists lists with
    | ok s =>
      obtain ⟨b, hb⟩ := named_of_ofLists hlists l hl
      exact absurd hb (hbad b)
    | error cause => exact ⟨.bucket cause, (ofToml_eq_error_iff h).2 ⟨cause, rfl, hlists⟩⟩
  · rw [ofToml_eq_error_iff h]
    constructor
    · rintro ⟨cause, rfl, hcause⟩
      obtain ⟨l, hl, he, hleast⟩ := ofLists_eq_error_iff.1 hcause
      refine ⟨l, hl, cause, rfl, he, fun l' hl' hbad => ?_⟩
      exact Octets.eq_or_encode_lt_iff.2 (hleast l' hl' hbad)
    · rintro ⟨l, hl, cause, rfl, he, hleast⟩
      refine ⟨cause, rfl, ofLists_eq_error_iff.2 ⟨l, hl, he, fun l' hl' hbad => ?_⟩⟩
      exact Octets.eq_or_encode_lt_iff.1 (hleast l' hl' hbad)
  · obtain ⟨s, hs, hlisted, hother⟩ := exists_ofToml h hnamed
    refine ⟨s, hs, hlisted, hother, ?_, ofToml_toToml_of_ofToml hs⟩
    rw [flagLists?_toToml, toLists_of_loaded hnamed (nodup_names_of_parse? h) hlisted hother]

/-- A file written by hand with a repeated flag and an empty list is loaded and written without
them.  Of two bad names the lesser one is reported, although the file gives it later. -/
theorem ofToml_normalizes_handwritten :
    (∃ s, ofToml "CFLAGS_debug = ['-g', '-O0', '-g']\nLINKFLAGS = []\nCFLAGS = ['-Wall']" = .ok s ∧
      (s.get ⟨.compile .c, ⟨"debug", rfl⟩⟩).toList = ["-g", "-O0"] ∧
      (Toml.parse? s.toToml).bind Decode.flagLists? =
        some [("CFLAGS", ["-Wall"]), ("CFLAGS_debug", ["-g", "-O0"])] ∧
      ofToml s.toToml = .ok s) ∧
    ofToml "LIBS = ['-lm']\nCFLAGS = []\n\"CFLAGS_a b\" = ['-g', '-g']" =
      .error (.bucket (.invalidProfile "a b")) := by
  constructor
  · have hlists : (Toml.parse?
        "CFLAGS_debug = ['-g', '-O0', '-g']\nLINKFLAGS = []\nCFLAGS = ['-Wall']").bind
          Decode.flagLists? = some
            [("CFLAGS_debug", ["-g", "-O0", "-g"]), ("LINKFLAGS", []), ("CFLAGS", ["-Wall"])] := by
      decide +kernel
    obtain ⟨s, hs, hread, -, hwritten, hagain⟩ := (ofToml_normalizes hlists).2.2 (by
      simp only [List.forall_mem_cons]
      exact ⟨⟨⟨.compile .c, ⟨"debug", rfl⟩⟩, rfl⟩, ⟨⟨.link, .default⟩, rfl⟩,
        ⟨⟨.compile .c, .default⟩, rfl⟩, List.forall_mem_nil _⟩)
    have hdebug := hread ⟨.compile .c, ⟨"debug", rfl⟩⟩ ["-g", "-O0", "-g"] (.head _)
    refine ⟨s, hs, hdebug, hwritten.trans (congrArg some ?_), hagain⟩
    have hnormal : normalLists
        [("CFLAGS_debug", ["-g", "-O0", "-g"]), ("LINKFLAGS", []), ("CFLAGS", ["-Wall"])] =
          [("CFLAGS_debug", ["-g", "-O0"]), ("CFLAGS", ["-Wall"])] := by decide
    simp [hnormal, sortLists, List.mergeSort]
  · have hlists : (Toml.parse? "LIBS = ['-lm']\nCFLAGS = []\n\"CFLAGS_a b\" = ['-g', '-g']").bind
        Decode.flagLists? =
          some [("LIBS", ["-lm"]), ("CFLAGS", []), ("CFLAGS_a b", ["-g", "-g"])] := by
      decide +kernel
    refine ((ofToml_normalizes hlists).2.1 (.bucket (.invalidProfile "a b"))).2
      ⟨("CFLAGS_a b", ["-g", "-g"]), by decide, .invalidProfile "a b", rfl, by decide, ?_⟩
    simp only [List.forall_mem_cons]
    exact ⟨fun _ => by decide, fun h => absurd rfl (h ⟨.compile .c, .default⟩), fun _ => by decide,
      List.forall_mem_nil _⟩

end Store

end CompilerFlags
