import CompilerFlags.Language

/-!
# Bucket names

Every flag that is found to work goes into a bucket.  The address of a bucket is the kind of its
flags together with the profile that they belong to, and its name is the build variable of the
kind, followed by an underscore and the name of the profile unless the profile is the default
one: `CFLAGS`, `LINKFLAGS_pthread`.

A profile is a text of ASCII letters, digits, underscores and dashes; the empty text is the
default profile.  `Bucket.parse` reads a bucket name.
-/

namespace CompilerFlags

/-- The kind of the flags in a bucket. -/
inductive FlagKind
  /-- Flags for the compiler of one language. -/
  | compile (language : Language)
  /-- Flags for the preprocessor, shared by the languages. -/
  | preprocessor
  /-- Flags for the linker, shared by the languages. -/
  | link
deriving DecidableEq, Repr

namespace FlagKind

/-- The kinds in the order in which buckets are listed. -/
def all : List FlagKind :=
  [compile .c, compile .cpp, preprocessor, link]

/-- The place of a kind among the kinds. -/
def rank : FlagKind → Nat
  | compile .c => 0
  | compile .cpp => 1
  | preprocessor => 2
  | link => 3

/-- The build variable that holds the flags of the kind. -/
def variableName : FlagKind → String
  | compile l => l.flagsVariable
  | preprocessor => "CPPFLAGS"
  | link => "LINKFLAGS"

theorem rank_injective {k k' : FlagKind} (h : k.rank = k'.rank) : k = k' := by
  rcases k with (_ | _) | _ | _ <;> rcases k' with (_ | _) | _ | _ <;> first | rfl | cases h

end FlagKind

/-- Why a text does not name a bucket or a profile. -/
inductive BucketError
  /-- The text holds a character that profile names do not have. -/
  | invalidProfile (name : String)
  /-- No bucket has the name. -/
  | unknownBucket (name : String)
deriving DecidableEq, Repr

/-- The wording of a bucket error. -/
def BucketError.message : BucketError → String
  | invalidProfile name =>
    "invalid profile name `" ++ name ++ "`: use letters, digits, `_` or `-`"
  | unknownBucket name => "unknown flag bucket `" ++ name ++ "`"

/-- The characters of profile names: ASCII letters, digits, underscores and dashes. -/
def isProfileChar (c : Char) : Bool :=
  c.isAlphanum || c = '_' || c = '-'

/-- A named collection of buckets; the empty name is the default profile. -/
structure Profile where
  name : String
  /-- The name holds profile characters only. -/
  valid : name.toList.all isProfileChar = true
deriving DecidableEq

namespace Profile

/-- The profile without a name. -/
def default : Profile := ⟨"", rfl⟩

instance : Inhabited Profile := ⟨default⟩

/-- The profile with a name. -/
def named (name : String) : Except BucketError Profile :=
  if h : name.toList.all isProfileChar = true then .ok ⟨name, h⟩
  else .error (.invalidProfile name)

/-- The profile that an optional setting selects. -/
def select : Option String → Except BucketError Profile
  | none => .ok default
  | some name => named name

/-- Whether this is the default profile. -/
def isDefault (p : Profile) : Bool := p.name.isEmpty

/-- The name of a profile other than the default one. -/
def name? (p : Profile) : Option String :=
  if p.isDefault then none else some p.name

/-- What the profile adds to the names of its buckets. -/
def suffix (p : Profile) : String :=
  if p.isDefault then "" else "_" ++ p.name

@[ext]
theorem ext {p q : Profile} (h : p.name = q.name) : p = q := by
  cases p; cases q; simp_all

end Profile

/-- The address of a bucket. -/
structure Bucket where
  kind : FlagKind
  profile : Profile
deriving DecidableEq

namespace Bucket

/-- The name of a bucket. -/
def name (b : Bucket) : String :=
  b.kind.variableName ++ b.profile.suffix

/-- Reads what stands after the build variable of a kind in a bucket name.  The answer is `none`
if the name may still belong to another kind. -/
def ofRest? (whole : String) (kind : FlagKind) (rest : String) :
    Option (Except BucketError Bucket) :=
  if rest.isEmpty then some (.ok ⟨kind, .default⟩)
  else
    match Text.dropStart? "_" rest with
    | none => none
    | some profile =>
      if profile.isEmpty then some (.error (.unknownBucket whole))
      else some ((Profile.named profile).map (⟨kind, ·⟩))

/-- Reads a bucket name as a name of one of the given kinds. -/
def parseAs (whole : String) : List FlagKind → Except BucketError Bucket
  | [] => .error (.unknownBucket whole)
  | kind :: kinds =>
    match (Text.dropStart? kind.variableName whole).bind (ofRest? whole kind) with
    | some answer => answer
    | none => parseAs whole kinds

/-- The bucket with a name. -/
def parse (name : String) : Except BucketError Bucket :=
  parseAs name FlagKind.all

/-- Buckets are ordered by kind, and those of one kind by the names of their profiles; the default
profile comes first because its name is empty. -/
instance : LT Bucket :=
  ⟨fun a b => a.kind.rank < b.kind.rank ∨
    (a.kind.rank = b.kind.rank ∧ a.profile.name < b.profile.name)⟩

instance (a b : Bucket) : Decidable (a < b) :=
  inferInstanceAs (Decidable (a.kind.rank < b.kind.rank ∨
    (a.kind.rank = b.kind.rank ∧ a.profile.name < b.profile.name)))

theorem lt_iff {a b : Bucket} : a < b ↔ a.kind.rank < b.kind.rank ∨
    (a.kind.rank = b.kind.rank ∧ a.profile.name < b.profile.name) := Iff.rfl

theorem lt_irrefl (a : Bucket) : ¬ a < a := by
  rintro (h | ⟨_, h⟩)
  · exact Nat.lt_irrefl _ h
  · exact String.lt_irrefl _ h

theorem lt_trans {a b c : Bucket} (hab : a < b) (hbc : b < c) : a < c := by
  rw [lt_iff] at *
  rcases hab with h | ⟨h, hn⟩ <;> rcases hbc with h' | ⟨h', hn'⟩
  · exact Or.inl (by omega)
  · exact Or.inl (by omega)
  · exact Or.inl (by omega)
  · exact Or.inr ⟨by omega, String.lt_trans hn hn'⟩

/-- Of two different buckets one comes before the other. -/
theorem lt_of_not_lt_of_ne {a b : Bucket} (h : ¬ a < b) (hne : b ≠ a) : b < a := by
  rw [lt_iff] at *
  rcases Nat.lt_trichotomy a.kind.rank b.kind.rank with hr | hr | hr
  · exact absurd (Or.inl hr) h
  · refine Or.inr ⟨hr.symm, ?_⟩
    have hn : ¬ a.profile.name < b.profile.name := fun hn => h (Or.inr ⟨hr, hn⟩)
    rcases Decidable.em (b.profile.name < a.profile.name) with hlt | hlt
    · exact hlt
    · refine absurd ?_ hne
      have hname := String.le_antisymm (String.not_lt.1 hlt) (String.not_lt.1 hn)
      have hkind := FlagKind.rank_injective hr
      cases a; cases b
      simp only [Bucket.mk.injEq] at *
      exact ⟨hkind.symm, Profile.ext hname.symm⟩
  · exact Or.inl hr

end Bucket

end CompilerFlags
