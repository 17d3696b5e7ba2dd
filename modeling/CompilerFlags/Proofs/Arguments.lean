import CompilerFlags.Capability.Threads
import CompilerFlags.Proofs.Words

/-!
# Arguments do not depend on how they are grouped

An entry stands for its words, and a list of entries for the words of all of them.  Since a blank
between two texts ends a word, the words of texts joined by blanks are those of the texts one after
another (`Text.words_join`).  So what a list of entries stands for can be read off the one text that
the entries join to (`arguments_eq_words_join`), and where one entry ends and the next one starts makes
no difference.

That nothing gets lost on the way is said by the letters: those of the arguments are those of the
entries, without the blanks (`flatMap_arguments`).
-/

namespace CompilerFlags

/-! ## Words -/

namespace Text

lemma words_append_space (s t : String) : words (s ++ " " ++ t) = words s ++ words t :=
  words_append_blank (b := ' ') rfl s t

lemma words_join (texts : List String) : words (join " " texts) = texts.flatMap words := by
  induction texts with
  | nil => rfl
  | cons s rest ih =>
    cases rest with
    | nil => exact (List.flatMap_singleton words s).symm
    | cons t rest =>
      show words (s ++ " " ++ join " " (t :: rest)) = _
      rw [words_append_space, ih]
      rfl

/-- The letters of the words of a text are those of the text, without the blanks. -/
lemma flatMap_words (s : String) :
    (words s).flatMap String.toList = s.toList.filter (!isBlank ·) := by
  induction s using words_induction with
  | empty => rfl
  | blank b t hb ih =>
    rw [words_blank_append hb, ih, String.toList_append, String.toList_singleton,
      List.singleton_append, List.filter_cons_of_neg (by simp [hb])]
  | word w t hw ht ih =>
    have hletters : w.toList.filter (!isBlank ·) = w.toList :=
      List.filter_eq_self.2 fun c hc => by rw [hw.not_blank c hc]; rfl
    rw [hw.words_append ht, List.flatMap_cons, ih, String.toList_append, List.filter_append,
      hletters]

end Text

/-! ## Entries -/

lemma arguments_append (xs ys : List String) :
    arguments (xs ++ ys) = arguments xs ++ arguments ys :=
  List.flatMap_append

lemma isWord_of_mem_arguments {entries : List String} {a : String} (h : a ∈ arguments entries) :
    Text.IsWord a := by
  obtain ⟨e, -, ha⟩ := List.mem_flatMap.1 h
  exact Text.isWord_of_mem_words ha

/-- Entries that are words stand for themselves. -/
lemma arguments_of_isWord {entries : List String} (h : ∀ e ∈ entries, Text.IsWord e) :
    arguments entries = entries := by
  induction entries with
  | nil => rfl
  | cons e entries ih =>
    obtain ⟨he, hentries⟩ := List.forall_mem_cons.1 h
    show Text.words e ++ arguments entries = e :: entries
    rw [he.words_eq, ih hentries, List.singleton_append]

/-- A list of entries stands for the words of the text that it joins to. -/
lemma arguments_eq_words_join (entries : List String) :
    arguments entries = Text.words (Text.join " " entries) :=
  (Text.words_join entries).symm

lemma flatMap_arguments (entries : List String) :
    (arguments entries).flatMap String.toList =
      (entries.flatMap String.toList).filter (!Text.isBlank ·) := by
  unfold arguments
  rw [List.flatMap_assoc, List.filter_flatMap]
  simp only [Text.flatMap_words]

/-- Neighbouring entries may be joined to a single one. -/
lemma arguments_joined (before group after : List String) :
    arguments (before ++ [Text.join " " group] ++ after) =
      arguments (before ++ group ++ after) := by
  have hgroup : arguments [Text.join " " group] = arguments group := by
    rw [arguments_eq_words_join group]
    exact List.flatMap_singleton Text.words _
  simp only [arguments_append, hgroup]

/-- The entry for the linker that is made of the answers of the thread configuration program stands
for the same arguments as the answers themselves. -/
lemma arguments_configCandidate? (compile linkOptions libraries : Option String)
    (before after : List String) :
    arguments (before ++ ((Threads.configCandidate? compile linkOptions libraries).bind
      Candidate.link).toList ++ after) =
      arguments (before ++ (linkOptions.toList ++ libraries.toList) ++ after) := by
  have hlink : ((Threads.configCandidate? compile linkOptions libraries).bind
      Candidate.link).toList =
      if (linkOptions.toList ++ libraries.toList).isEmpty then []
      else [Text.join " " (linkOptions.toList ++ libraries.toList)] := by
    unfold Threads.configCandidate?
    dsimp only
    cases (linkOptions.toList ++ libraries.toList).isEmpty <;> cases compile <;> rfl
  rw [hlink]
  split
  · next hempty => rw [List.isEmpty_iff.1 hempty]
  · exact arguments_joined before _ after

/-- Entries stand for arguments that are not empty and hold no blank, and that have all the other
letters of the entries in their order.  The arguments of two lists one after another are those of the
one and then those of the other.  Two neighbouring entries may be joined by a blank to a single one,
and this is what happens to the answers of the thread configuration program about linking.  Arguments
that are joined by blanks are found again. -/
theorem arguments_independent_of_grouping :
    (∀ entries, (∀ a ∈ arguments entries, a ≠ "" ∧ ∀ c ∈ a.toList, Text.isBlank c = false) ∧
      (arguments entries).flatMap String.toList =
        (entries.flatMap String.toList).filter (!Text.isBlank ·)) ∧
    (∀ xs ys, arguments (xs ++ ys) = arguments xs ++ arguments ys) ∧
    (∀ before a b after, arguments (before ++ (a ++ " " ++ b) :: after) =
      arguments (before ++ a :: b :: after)) ∧
    (∀ compile linkOptions libraries before after,
      arguments (before ++ ((Threads.configCandidate? compile linkOptions libraries).bind
        Candidate.link).toList ++ after) =
      arguments (before ++ (linkOptions.toList ++ libraries.toList) ++ after)) ∧
    ∀ entries, arguments [Text.join " " (arguments entries)] = arguments entries := by
  refine ⟨fun entries => ⟨fun a ha => ?_, flatMap_arguments entries⟩, arguments_append,
    fun before a b after => ?_, arguments_configCandidate?, fun entries => ?_⟩
  · have hword := isWord_of_mem_arguments ha
    exact ⟨hword.ne_empty, hword.not_blank⟩
  · have hjoined := arguments_joined before [a, b] after
    rw [List.append_assoc, List.append_assoc] at hjoined
    exact hjoined
  · calc arguments [Text.join " " (arguments entries)]
        = arguments (arguments entries) := by
          have hjoined := arguments_joined [] (arguments entries) []
          rwa [List.nil_append, List.append_nil, List.append_nil] at hjoined
      _ = arguments entries := arguments_of_isWord fun _ => isWord_of_mem_arguments

-- blanks of any kind end an argument, and blank entries stand for none
example : arguments ["-L/opt/lib  -lpthread\u00a0", "\t", "", "-lm"] =
    ["-L/opt/lib", "-lpthread", "-lm"] := by decide

end CompilerFlags
