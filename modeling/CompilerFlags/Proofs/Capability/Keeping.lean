import CompilerFlags.Proofs.Capability.Alike
import CompilerFlags.Proofs.Store.Growth

/-!
# Flags that stay

The check for threads takes flags out again in one place: when the program does not link with the
user's thread flags.  Flags are taken out by their texts, but only those that were new
(`not_mem_of_mem_addEntries`), and these stand behind everything that was there before
(`toList_addEntries`).  So the store reads as if nothing had been tried (`dropEntries_addEntries`).

Apart from that the check only adds flags.  Hence its phases make the store grow
(`tryUserFlags_grows`, `adjust_grows`), and nothing is lost that was there before.
-/

namespace CompilerFlags

namespace Threads

/-! ## Entries of the user -/

section

variable {P : Bucket → Prop} {entries : List (Bucket × String)} {s : Store} {b : Bucket}

lemma addEntries_grows (hentries : ∀ e ∈ entries, P e.1) :
    s.GrowsWithin P (addEntries entries s).2 := by
  induction entries generalizing s with
  | nil => exact .refl s
  | cons e entries ih =>
    have hadd : s.GrowsWithin P (s.add e.1 e.2).2 :=
      .record s (hentries e List.mem_cons_self) (some e.2)
    exact hadd.trans (ih fun e' he' => hentries e' (List.mem_cons_of_mem e he'))

lemma mem_addEntries {e : Bucket × String} (he : e ∈ entries) (s : Store) :
    e.2 ∈ (addEntries entries s).2.get e.1 := by
  induction entries generalizing s with
  | nil => cases he
  | cons e' entries ih =>
    rcases List.mem_cons.1 he with rfl | he
    · have hgrows : (s.add e.1 e.2).2.GrowsWithin (fun _ => True) (addEntries entries _).2 :=
        addEntries_grows fun _ _ => trivial
      refine hgrows.mem ?_
      rw [Store.get_add, if_pos rfl]
      exact OrderedSet.mem_insert.2 (Or.inr rfl)
    · exact ih he _

/-- New entries were not there before. -/
lemma not_mem_of_mem_addEntries {e : Bucket × String} (he : e ∈ (addEntries entries s).1) :
    e.2 ∉ s.get e.1 := by
  induction entries generalizing s with
  | nil => cases he
  | cons e' entries ih =>
    have hrest (he : e ∈ (addEntries entries (s.add e'.1 e'.2).2).1) : e.2 ∉ s.get e.1 := by
      have hadd : s.GrowsWithin (fun _ => True) (s.add e'.1 e'.2).2 :=
        .record s trivial (some e'.2)
      exact fun hmem => ih he (hadd.mem hmem)
    unfold addEntries at he
    dsimp only at he
    split at he
    · next hnew =>
      rcases List.mem_cons.1 he with rfl | he
      · exact (Store.add_fst s e'.1 e'.2).1 hnew
      · exact hrest he
    · exact hrest he

/-- The new entries of a bucket come after the flags that it held. -/
lemma toList_addEntries (entries : List (Bucket × String)) (s : Store) (b : Bucket) :
    ((addEntries entries s).2.get b).toList =
      (s.get b).toList ++ ((addEntries entries s).1.filter (·.1 = b)).map (·.2) := by
  induction entries generalizing s with
  | nil => exact (List.append_nil _).symm
  | cons e entries ih =>
    obtain ⟨b', flag⟩ := e
    unfold addEntries
    dsimp only
    rw [ih, Store.get_add]
    by_cases hnew : (s.add b' flag).1 = true
    · have hflag : flag ∉ s.get b' := (Store.add_fst s b' flag).1 hnew
      rw [if_pos hnew]
      by_cases hb : b' = b
      · subst hb
        rw [if_pos rfl, OrderedSet.toList_insert, if_neg hflag, List.append_assoc,
          List.filter_cons_of_pos (by simp)]
        rfl
      · rw [if_neg (Ne.symm hb), List.filter_cons_of_neg (by simpa using hb)]
    · have hflag : flag ∈ s.get b' := by
        by_contra hflag
        exact hnew ((Store.add_fst s b' flag).2 hflag)
      rw [if_neg hnew, OrderedSet.insert_of_mem hflag]
      split
      · next hb => rw [hb]
      · rfl

/-- Taking entries out leaves the other flags in their order. -/
lemma toList_dropEntries (entries : List (Bucket × String)) (s : Store) (b : Bucket) :
    ((dropEntries entries s).get b).toList =
      (s.get b).toList.filter fun flag => (b, flag) ∉ entries := by
  induction entries generalizing s with
  | nil => simp [dropEntries]
  | cons e entries ih =>
    show ((dropEntries entries (s.discard e.1 e.2).2).get b).toList = _
    rw [ih, Store.get_discard]
    split
    · next hb =>
      subst hb
      rw [OrderedSet.toList_erase, (s.get e.1).nodup.erase_eq_filter, List.filter_filter]
      refine List.filter_congr fun flag _ => ?_
      rw [Bool.eq_iff_iff]
      simp [Prod.ext_iff, not_or, and_comm]
    · next hb =>
      refine List.filter_congr fun flag _ => ?_
      simp [Prod.ext_iff, hb]

/-- Taking out the entries that were new gives back what was read before they were added. -/
lemma dropEntries_addEntries (entries : List (Bucket × String)) (s : Store) (b : Bucket) :
    (dropEntries (addEntries entries s).1 (addEntries entries s).2).get b = s.get b := by
  apply OrderedSet.ext
  rw [toList_dropEntries, toList_addEntries, List.filter_append]
  have hold : (s.get b).toList.filter (fun flag => (b, flag) ∉ (addEntries entries s).1) =
      (s.get b).toList :=
    List.filter_eq_self.2 fun flag hflag =>
      decide_eq_true fun hnew => not_mem_of_mem_addEntries hnew hflag
  have hnew : (((addEntries entries s).1.filter (·.1 = b)).map (·.2)).filter
      (fun flag => (b, flag) ∉ (addEntries entries s).1) = [] := by
    refine List.filter_eq_nil_iff.2 fun flag hflag => ?_
    obtain ⟨e, he, rfl⟩ := List.mem_map.1 hflag
    obtain ⟨hmem, hb⟩ := List.mem_filter.1 he
    obtain rfl := of_decide_eq_true hb
    simpa using hmem
  rw [hold, hnew, List.append_nil]

end

/-! ## The phases without a search -/

variable {σ : Type} (ctx : Context σ) (targets : Targets) (profile : Profile) (primary : Language)

/-- If the program links with the user's thread flags they are recorded; if not, or if there are none,
the store reads as before. -/
lemma tryUserFlags_store (w : Bench σ) :
    ((tryUserFlags ctx targets profile primary w).1 = true ∧
      (tryUserFlags ctx targets profile primary w).2.store =
        (addEntries (userEntries ctx.threadFlags targets profile) w.store).2) ∨
    ((tryUserFlags ctx targets profile primary w).1 = false ∧
      w.store.AgreeOn (fun _ => True) (tryUserFlags ctx targets profile primary w).2.store) := by
  unfold tryUserFlags
  split
  · dsimp only
    split
    · next hlinks => exact Or.inl ⟨hlinks, rfl⟩
    · exact Or.inr ⟨rfl, fun b _ => (dropEntries_addEntries _ w.store b).symm⟩
  · exact Or.inr ⟨rfl, .refl w.store⟩

section

variable {ctx : Context σ} {targets : Targets} {profile : Profile} {primary : Language} {w : Bench σ}

/-- If the user's thread flags are taken, the table is not searched. -/
lemma findFlags_of_taken (h : (tryUserFlags ctx targets profile primary w).1 = true) :
    findFlags ctx targets profile primary w =
      (true, (tryUserFlags ctx targets profile primary w).2) := by
  unfold findFlags
  dsimp only
  rw [if_pos h]
  exact Prod.ext h rfl

/-- If the user's thread flags are refused, or if there are none, the table is searched. -/
lemma findFlags_of_refused (h : (tryUserFlags ctx targets profile primary w).1 = false) :
    findFlags ctx targets profile primary w =
      searchTable ctx targets profile (tryUserFlags ctx targets profile primary w).2 :=
  if_neg (Bool.eq_false_iff.1 h)

/-- The second phase starts from what the first one has left. -/
lemma detect_of_findFlags {found : Bench σ} (hprimary : targets.primary?.getD .c = primary)
    (h : findFlags ctx targets profile primary w = (true, found)) :
    detect ctx targets profile w = adjust ctx targets profile primary found := by
  unfold detect
  dsimp only
  rw [hprimary, h]
  rfl

end

/-- Trying the user's thread flags takes nothing out that was there before. -/
lemma tryUserFlags_grows (w : Bench σ) :
    w.store.GrowsWithin (·.InScope targets profile)
      (tryUserFlags ctx targets profile primary w).2.store := by
  have hentries : ∀ e ∈ userEntries ctx.threadFlags targets profile, e.1.InScope targets profile := by
    intro e he
    rcases mem_userEntries he with ⟨heq, _⟩ | ⟨l, hl, heq, _⟩
    · exact heq ▸ Bucket.inScope_link
    · exact heq ▸ Bucket.inScope_compile hl
  rcases tryUserFlags_store ctx targets profile primary w with ⟨_, hstore⟩ | ⟨_, hread⟩
  · exact hstore ▸ addEntries_grows hentries
  · exact .of_agree hread

lemma adjustAttribute_grows (w : Bench σ) :
    w.store.GrowsWithin (·.InScope targets profile) (adjustAttribute ctx profile primary w).store := by
  unfold adjustAttribute
  dsimp only
  split
  · exact .refl w.store
  · split
    · exact .record w.store Bucket.inScope_preprocessor (some joinableDefinition)
    · exact .refl w.store

lemma adjustLink_grows (w : Bench σ) :
    w.store.GrowsWithin (·.InScope targets profile)
      (adjustLink ctx targets profile primary w).store := by
  unfold adjustLink
  split
  · dsimp only
    split
    · exact .refl w.store
    · exact .record w.store Bucket.inScope_link (some "-pthread")
  · exact .refl w.store

/-- The second phase only adds flags. -/
lemma adjust_grows (w : Bench σ) :
    w.store.GrowsWithin (·.InScope targets profile)
      (adjust ctx targets profile primary w).2.store := by
  have hdefinition (v : Bench σ) : v.store.GrowsWithin (·.InScope targets profile)
      (v.addFlag ⟨.preprocessor, profile⟩ (platformDefinition? ctx.platform)).2.store := by
    rw [Bench.addFlag_store]
    exact .record v.store Bucket.inScope_preprocessor _
  exact ((adjustAttribute_grows ctx targets profile primary w).trans (hdefinition _)).trans
    (adjustLink_grows ctx targets profile primary _)

end Threads

end CompilerFlags
