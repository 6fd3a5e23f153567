import FrontendAtlas.Contract.Counterpart
import FrontendAtlas.Proofs.Text.Search
import Mathlib.Data.List.Basic

namespace FrontendAtlas.Text

theorem eqIgnoringAsciiCase_iff {a b : String} :
    eqIgnoringAsciiCase a b = true ↔ a.toList.map Char.toLower = b.toList.map Char.toLower := by
  simp [eqIgnoringAsciiCase]

@[simp] theorem eqIgnoringAsciiCase_self (a : String) : eqIgnoringAsciiCase a a = true := by
  simp [eqIgnoringAsciiCase]

theorem eqIgnoringAsciiCase_comm (a b : String) : eqIgnoringAsciiCase a b = eqIgnoringAsciiCase b a := by
  rw [Bool.eq_iff_iff, eqIgnoringAsciiCase_iff, eqIgnoringAsciiCase_iff, eq_comm]

theorem length_eq_of_eqIgnoringAsciiCase {a b : String} (same : eqIgnoringAsciiCase a b = true) :
    a.length = b.length := by
  have lengths := congrArg List.length (eqIgnoringAsciiCase_iff.1 same)
  simpa [String.length_toList] using lengths

end FrontendAtlas.Text

namespace FrontendAtlas.Contract

open FrontendAtlas.Text

variable {name other : String} {candidates : List String} {found : String}

def HasEnding (name : String) : Prop :=
  dtoEnding.toList <:+ name.toList

theorem hasEnding_iff : HasEnding name ↔ ∃ base, name = base ++ dtoEnding := by
  constructor
  · rintro ⟨base, split⟩
    refine ⟨String.ofList base, ?_⟩
    rw [← String.toList_inj, String.toList_append, String.toList_ofList, split]
  · rintro ⟨base, rfl⟩
    exact ⟨base.toList, (String.toList_append).symm⟩

@[simp] theorem baseName_append (base : String) : baseName (base ++ dtoEnding) = base := by
  have ends : endsWith dtoEnding.toList (base ++ dtoEnding).toList = true :=
    endsWith_iff.2 (hasEnding_iff.2 ⟨base, rfl⟩)
  rw [baseName, if_pos ends, String.length_append, Nat.add_sub_cancel, ← String.length_toList,
    String.toList_append, List.take_left, String.ofList_toList]

theorem baseName_of_not_hasEnding (plain : ¬ HasEnding name) : baseName name = name := by
  rw [baseName, if_neg]
  rwa [endsWith_iff]

theorem baseName_cases (name : String) :
    HasEnding name ∧ name = baseName name ++ dtoEnding ∨ ¬ HasEnding name ∧ baseName name = name := by
  by_cases ending : HasEnding name
  · obtain ⟨base, rfl⟩ := hasEnding_iff.1 ending
    exact .inl ⟨ending, by rw [baseName_append]⟩
  · exact .inr ⟨ending, baseName_of_not_hasEnding ending⟩

theorem length_baseName_le (name : String) : (baseName name).length ≤ name.length := by
  obtain ⟨-, split⟩ | ⟨-, same⟩ := baseName_cases name
  · conv_rhs => rw [split, String.length_append]
    exact Nat.le_add_right _ _
  · rw [same]

theorem not_hasEnding_of_length (same : name.length ≤ (baseName name).length) : ¬ HasEnding name := by
  obtain ⟨-, split⟩ | ⟨plain, -⟩ := baseName_cases name
  · rw [split, baseName_append, String.length_append] at same
    exact absurd same (by simp [dtoEnding])
  · exact plain

def FirstAlike (alike : String → Prop) (candidates : List String) (found : String) : Prop :=
  ∃ front back, candidates = front ++ found :: back ∧ alike found ∧ ∀ other ∈ front, ¬ alike other

theorem FirstAlike.holds {alike : String → Prop} (first : FirstAlike alike candidates found) : alike found := by
  obtain ⟨-, -, -, holds, -⟩ := first
  exact holds

theorem FirstAlike.mem {alike : String → Prop} (first : FirstAlike alike candidates found) : found ∈ candidates := by
  obtain ⟨front, back, split, -⟩ := first
  simp [split]

def Chosen (alike : String → Prop) (name : String) (candidates : List String) (found : String) : Prop :=
  if name ∈ candidates then found = name
  else if baseName name ∈ candidates then found = baseName name
  else FirstAlike alike candidates found

def AlikeBase (name other : String) : Prop :=
  eqIgnoringAsciiCase other (baseName name) = true

def AlikeEither (name other : String) : Prop :=
  eqIgnoringAsciiCase other name = true ∨ AlikeBase name other

instance (name : String) : DecidablePred (AlikeBase name) :=
  fun other => inferInstanceAs (Decidable (eqIgnoringAsciiCase other (baseName name) = true))

instance (name : String) : DecidablePred (AlikeEither name) :=
  fun other => inferInstanceAs (Decidable (eqIgnoringAsciiCase other name = true ∨ AlikeBase name other))

section FirstAlike

variable {alike : String → Prop} [DecidablePred alike]

theorem find?_eq_some_iff_firstAlike :
    candidates.find? (fun other => decide (alike other)) = some found ↔ FirstAlike alike candidates found := by
  simp only [List.find?_eq_some_iff_append, FirstAlike, decide_eq_true_eq, Bool.not_eq_eq_eq_not, Bool.not_true,
    decide_eq_false_iff_not]
  constructor
  · rintro ⟨holds, front, back, split, none_before⟩
    exact ⟨front, back, split, holds, none_before⟩
  · rintro ⟨front, back, split, holds, none_before⟩
    exact ⟨holds, front, back, split, none_before⟩

theorem exists_firstAlike (listed : other ∈ candidates) (holds : alike other) :
    ∃ found, FirstAlike alike candidates found := by
  simp only [← find?_eq_some_iff_firstAlike, ← Option.isSome_iff_exists, List.find?_isSome]
  exact ⟨other, listed, by simpa using holds⟩

theorem FirstAlike.unique (first : FirstAlike alike candidates found) (second : FirstAlike alike candidates other) :
    found = other := by
  rw [← find?_eq_some_iff_firstAlike] at first second
  exact Option.some.inj (first.symm.trans second)

end FirstAlike

theorem find?_beq (name : String) (candidates : List String) :
    candidates.find? (· == name) = if name ∈ candidates then some name else none := by
  induction candidates with
  | nil => rfl
  | cons first rest ih =>
    by_cases same : first = name
    · simp [same]
    · simp [same, Ne.symm same, ih]

theorem counterpart?_eq (name : String) (candidates : List String) :
    counterpart? name candidates = if name ∈ candidates then some name
      else if baseName name ∈ candidates then some (baseName name)
      else candidates.find? (eqIgnoringAsciiCase · (baseName name)) := by
  rw [counterpart?, find?_beq, find?_beq]
  split
  · rfl
  · split
    · rfl
    · rfl

theorem counterpart?_eq_some_iff :
    counterpart? name candidates = some found ↔ Chosen (AlikeBase name) name candidates found := by
  rw [counterpart?_eq, Chosen]
  split
  · simp [eq_comm]
  · split
    · simp [eq_comm]
    · have same : (fun other => decide (AlikeBase name other)) = (eqIgnoringAsciiCase · (baseName name)) := by
        funext other
        rw [Bool.eq_iff_iff, decide_eq_true_iff, AlikeBase]
      rw [← find?_eq_some_iff_firstAlike, same]

theorem alikeBase_baseName (name : String) : AlikeBase name (baseName name) :=
  eqIgnoringAsciiCase_self _

theorem counterpart?_sound (search : counterpart? name candidates = some found) :
    found ∈ candidates ∧ (found = name ∨ AlikeBase name found) := by
  rw [counterpart?_eq_some_iff, Chosen] at search
  split at search
  case isTrue listed => exact ⟨search ▸ listed, .inl search⟩
  case isFalse =>
    split at search
    case isTrue listed => exact ⟨search ▸ listed, .inr (search ▸ alikeBase_baseName name)⟩
    case isFalse => exact ⟨search.mem, .inr search.holds⟩

theorem isSome_counterpart?_iff : (counterpart? name candidates).isSome = true ↔
    name ∈ candidates ∨ ∃ other ∈ candidates, AlikeBase name other := by
  rw [counterpart?_eq]
  split
  case isTrue listed => simp [listed]
  case isFalse missing =>
    split
    case isTrue listed => simpa [missing] using ⟨_, listed, alikeBase_baseName name⟩
    case isFalse => simp [missing, AlikeBase]

theorem firstAlike_iff_of_base
    (based : ∀ other, FirstAlike (AlikeEither name) candidates other → AlikeBase name other) :
    FirstAlike (AlikeBase name) candidates found ↔ FirstAlike (AlikeEither name) candidates found := by
  have narrow (other : String) (first : FirstAlike (AlikeEither name) candidates other) :
      FirstAlike (AlikeBase name) candidates other := by
    have holds := based other first
    obtain ⟨front, back, split, -, none_before⟩ := first
    exact ⟨front, back, split, holds, fun earlier before alike => none_before earlier before (.inr alike)⟩
  constructor
  · intro first
    obtain ⟨other, wide⟩ : ∃ other, FirstAlike (AlikeEither name) candidates other :=
      exists_firstAlike first.mem (.inr first.holds)
    rw [first.unique (narrow other wide)]
    exact wide
  · exact narrow found

theorem chosen_base_iff_either : (∀ found, Chosen (AlikeBase name) name candidates found ↔
      Chosen (AlikeEither name) name candidates found) ↔
    name ∈ candidates ∨ baseName name ∈ candidates ∨
      ∀ other, FirstAlike (AlikeEither name) candidates other → AlikeBase name other := by
  by_cases full : name ∈ candidates
  · simp [Chosen, full]
  · by_cases base : baseName name ∈ candidates
    · simp [Chosen, base]
    · simp only [Chosen, full, base, if_false, false_or]
      constructor
      · intro agree other first
        exact ((agree other).2 first).holds
      · intro based found
        exact firstAlike_iff_of_base based

/-- The counterpart of a name is the name itself, else the name without its ending, else the first
candidate that equals the latter up to ASCII case, and there is one whenever one of these exists.  A search
up to case for the full name as well would differ just where the first candidate it finds is the full name
in another case. -/
theorem counterpart?_law (name : String) (candidates : List String) :
    (∀ found, counterpart? name candidates = some found ↔ Chosen (AlikeBase name) name candidates found) ∧
      ((counterpart? name candidates).isSome = true ↔
        name ∈ candidates ∨ ∃ other ∈ candidates, AlikeBase name other) ∧
      ((∀ found, counterpart? name candidates = some found ↔ Chosen (AlikeEither name) name candidates found) ↔
        name ∈ candidates ∨ baseName name ∈ candidates ∨
          ∀ other, FirstAlike (AlikeEither name) candidates other → AlikeBase name other) := by
  refine ⟨fun found => counterpart?_eq_some_iff, isSome_counterpart?_iff, ?_⟩
  simp only [counterpart?_eq_some_iff]
  exact chosen_base_iff_either

/-- A candidate that differs from the name only in the case of its ending is overlooked. -/
theorem counterpart?_of_other_ending :
    AlikeEither "PersonDto" "PersonDTO" ∧ counterpart? "PersonDto" ["PersonDTO"] = none := by
  decide +kernel

end FrontendAtlas.Contract
