import CompilerFlags.Project
import Mathlib.Data.List.Induction
import Mathlib.Tactic.Lemma

/-!
# Layers of settings

`Settings.merge` treats each setting on its own: what the upper layer says, or else what the lower one
says (`Settings.get_merge`).  So one law of `Option.or` gives one of `merge` for all settings at once, and
merging layers one after another looks from the last layer backwards for the first one that says
something (`Settings.get_mergeAll`).

A file from which no settings can be read counts as a layer that says nothing.  Since such a layer
changes nothing wherever it stands, it is the same as no layer (`Settings.mergeAll_map_getD`).
-/

namespace CompilerFlags

/-- One of the settings about the toolchain. -/
inductive Setting
  | cc
  | cxx
  | ccId
  | cxxId
  | target
deriving DecidableEq, Repr

namespace Settings

/-- What a layer says about a setting. -/
def get (layer : Settings) : Setting → Option String
  | .cc => layer.cc
  | .cxx => layer.cxx
  | .ccId => layer.ccId
  | .cxxId => layer.cxxId
  | .target => layer.target

variable {a b : Settings} {layers : List Settings} {x : Setting} {v : String}

/-- Settings that agree on each of the five are the same. -/
lemma eq_of_get (h : ∀ x, a.get x = b.get x) : a = b := by
  cases a with
  | mk cc cxx ccId cxxId target =>
    cases b with
    | mk cc' cxx' ccId' cxxId' target' =>
      rw [mk.injEq]
      exact ⟨h .cc, h .cxx, h .ccId, h .cxxId, h .target⟩

@[simp]
lemma get_none (x : Setting) : none.get x = .none := by
  cases x <;> rfl

@[simp]
lemma get_merge (a b : Settings) (x : Setting) :
    (a.merge b).get x = (b.get x).or (a.get x) := by
  cases x <;> rfl

/-! ## Two layers -/

lemma merge_assoc (a b c : Settings) : (a.merge b).merge c = a.merge (b.merge c) :=
  eq_of_get fun x => by simp only [get_merge, Option.or_assoc]

lemma none_merge (a : Settings) : none.merge a = a :=
  eq_of_get fun x => by rw [get_merge, get_none, Option.or_none]

lemma merge_none (a : Settings) : a.merge none = a :=
  eq_of_get fun x => by rw [get_merge, get_none, Option.none_or]

/-! ## Any number of layers -/

lemma mergeAll_concat (layers : List Settings) (a : Settings) :
    mergeAll (layers ++ [a]) = (mergeAll layers).merge a :=
  List.foldl_append

lemma mergeAll_append (lower upper : List Settings) :
    mergeAll (lower ++ upper) = (mergeAll lower).merge (mergeAll upper) := by
  induction upper using List.reverseRecOn with
  | nil =>
    rw [List.append_nil]
    exact (merge_none _).symm
  | append_singleton upper a ih =>
    rw [← List.append_assoc, mergeAll_concat, mergeAll_concat, ih, merge_assoc]

lemma mergeAll_singleton (a : Settings) : mergeAll [a] = a :=
  none_merge a

/-- Layers may be merged in groups. -/
lemma mergeAll_flatten (groups : List (List Settings)) :
    mergeAll groups.flatten = mergeAll (groups.map mergeAll) := by
  induction groups with
  | nil => rfl
  | cons group groups ih =>
    have hgroups : mergeAll ((group :: groups).map mergeAll) =
        (mergeAll [mergeAll group]).merge (mergeAll (groups.map mergeAll)) :=
      mergeAll_append [mergeAll group] (groups.map mergeAll)
    rw [List.flatten_cons, mergeAll_append, ih, hgroups, mergeAll_singleton]

/-- A setting is looked for from the last layer backwards. -/
lemma get_mergeAll (layers : List Settings) (x : Setting) :
    (mergeAll layers).get x = (layers.map (·.get x)).reverse.findSome? id := by
  induction layers using List.reverseRecOn with
  | nil => exact get_none x
  | append_singleton layers a ih =>
    rw [mergeAll_concat, get_merge, ih, List.map_append, List.reverse_append]
    show _ = List.findSome? id (a.get x :: (layers.map (·.get x)).reverse)
    cases ha : a.get x <;> rfl

lemma get_mergeAll_eq_some_iff :
    (mergeAll layers).get x = some v ↔ ∃ before layer after, layers = before ++ layer :: after ∧
      layer.get x = some v ∧ ∀ later ∈ after, later.get x = .none := by
  rw [get_mergeAll, ← List.map_reverse, List.findSome?_map, List.findSome?_eq_some_iff]
  constructor
  · rintro ⟨later, layer, earlier, hlayers, hlayer, hlater⟩
    refine ⟨earlier.reverse, layer, later.reverse, ?_, hlayer, fun l hl => ?_⟩
    · rw [← List.reverse_eq_iff.2 hlayers.symm]
      simp
    · exact hlater l (List.mem_reverse.1 hl)
  · rintro ⟨earlier, layer, later, rfl, hlayer, hlater⟩
    refine ⟨later.reverse, layer, earlier.reverse, by simp, hlayer, fun l hl => ?_⟩
    exact hlater l (List.mem_reverse.1 hl)

lemma get_mergeAll_eq_none_iff :
    (mergeAll layers).get x = .none ↔ ∀ layer ∈ layers, layer.get x = .none := by
  rw [get_mergeAll, ← List.map_reverse, List.findSome?_map, List.findSome?_eq_none_iff]
  exact forall_congr' fun layer => imp_congr List.mem_reverse Iff.rfl

/-- A layer that is not there is like one that says nothing. -/
lemma mergeAll_map_getD {α : Type} (layer? : α → Option Settings) (places : List α) :
    mergeAll (places.map fun p => (layer? p).getD none) = mergeAll (places.filterMap layer?) := by
  induction places using List.reverseRecOn with
  | nil => rfl
  | append_singleton places p ih =>
    have hlayer : mergeAll [(layer? p).getD none] = mergeAll ([p].filterMap layer?) := by
      rw [mergeAll_singleton]
      cases hp : layer? p with
      | none => rw [List.filterMap_cons_none hp]; rfl
      | some a => rw [List.filterMap_cons_some hp]; exact (mergeAll_singleton a).symm
    rw [List.map_append, List.filterMap_append, mergeAll_append, mergeAll_append, ih,
      List.map_singleton, hlayer]

end Settings

/-! ## Layers in files -/

namespace World

variable {ω : Type} (w : World ω)

/-- What a file says about the toolchain, if the file is there, can be read, is a document, and has the
shape of settings. -/
def settingsIn? (path : String) (s : ω) : Option Settings := do
  guard (w.isPresent path s)
  let text ← (w.readText path s).toOption
  let fields ← Toml.parse? text
  Decode.settingsFile? .toml (.table fields)

lemma settingsLayer_eq (path : String) (s : ω) :
    w.settingsLayer path s = (w.settingsIn? path s).getD .none := by
  unfold settingsLayer settingsIn? loadSettings readToml
  cases w.isPresent path s with
  | false => rfl
  | true =>
    rw [if_pos rfl]
    cases w.readText path s with
    | error e => rfl
    | ok text =>
      dsimp only
      show _ = ((Toml.parse? text).bind fun fields =>
        Decode.settingsFile? .toml (.table fields)).getD .none
      cases (Toml.parse? text).bind fun fields => Decode.settingsFile? .toml (.table fields) <;> rfl

lemma layeredSettings_eq (user : Option String) (project : String) (s : ω) :
    w.layeredSettings user project s =
      .mergeAll ((user.toList ++ [project]).filterMap (w.settingsIn? · s)) := by
  rw [← Settings.mergeAll_map_getD, List.map_append]
  simp only [← settingsLayer_eq]
  rfl

end World

namespace Settings

/-- In merged layers each setting is that of the last layer which has it, and it is missing if no layer
has it, whatever the layers say about other settings.  Layers may be merged in any grouping, and the
layer that says nothing changes nothing.  The settings of a project are merged from the user's file and
the project's file as far as settings can be read there: a file that is missing, or not understood, is
left out. -/
theorem layers_merge_setting_by_setting {ω : Type} (w : World ω) (s : ω) :
    (∀ layers x v, (mergeAll layers).get x = some v ↔
      ∃ before layer after, layers = before ++ layer :: after ∧ layer.get x = some v ∧
        ∀ later ∈ after, later.get x = .none) ∧
    (∀ layers x, (mergeAll layers).get x = .none ↔ ∀ layer ∈ layers, layer.get x = .none) ∧
    (∀ layers layers' x, layers.map (·.get x) = layers'.map (·.get x) →
      (mergeAll layers).get x = (mergeAll layers').get x) ∧
    (∀ a b c : Settings, (a.merge b).merge c = a.merge (b.merge c)) ∧
    (∀ a : Settings, none.merge a = a ∧ a.merge none = a) ∧
    (∀ groups : List (List Settings), mergeAll (groups.map mergeAll) = mergeAll groups.flatten) ∧
    (∀ user project, w.layeredSettings user project s =
      mergeAll ((user.toList ++ [project]).filterMap (w.settingsIn? · s))) ∧
    (∀ user project, w.settingsIn? user s = .none →
      w.layeredSettings (some user) project s = w.layeredSettings .none project s) ∧
    ∀ user project, w.settingsIn? project s = .none →
      w.layeredSettings user project s = mergeAll (user.toList.filterMap (w.settingsIn? · s)) := by
  refine ⟨fun _ _ _ => get_mergeAll_eq_some_iff, fun _ _ => get_mergeAll_eq_none_iff,
    fun layers layers' x h => ?_, merge_assoc, fun a => ⟨none_merge a, merge_none a⟩,
    fun groups => (mergeAll_flatten groups).symm, w.layeredSettings_eq (s := s),
    fun user project h => ?_, fun user project h => ?_⟩
  · rw [get_mergeAll, get_mergeAll, h]
  · have hdropped : (some user).toList.filterMap (w.settingsIn? · s) = [] := by
      simp [h]
    rw [w.layeredSettings_eq, w.layeredSettings_eq, List.filterMap_append, hdropped]
    rfl
  · have hdropped : [project].filterMap (w.settingsIn? · s) = [] := by
      simp [h]
    rw [w.layeredSettings_eq, List.filterMap_append, hdropped, List.append_nil]

-- a setting of a lower layer shows through where the layers above say nothing about it
example : (mergeAll [⟨some "gcc", some "g++", .none, .none, .none⟩,
    ⟨some "clang", .none, some "clang", .none, .none⟩, none]).get .cxx = some "g++" := by decide

end Settings

end CompilerFlags
