namespace FrontendAtlas

structure NameSet where
  names : List String
  sorted : names.Pairwise (· < ·)
  deriving DecidableEq

namespace NameSet

def empty : NameSet := ⟨[], .nil⟩

instance : EmptyCollection NameSet := ⟨empty⟩
instance : Inhabited NameSet := ⟨empty⟩

def put (name : String) : List String → List String
  | [] => [name]
  | first :: rest =>
    if name < first then name :: first :: rest
    else if name = first then first :: rest
    else first :: put name rest

theorem mem_put {name other : String} {names : List String} :
    other ∈ put name names ↔ other = name ∨ other ∈ names := by
  induction names with
  | nil => simp [put]
  | cons first rest ih =>
    rw [put]
    split
    · simp
    · split
      case isTrue same => simp [same]
      case isFalse => simp [ih, or_left_comm]

theorem sorted_put (name : String) {names : List String} (h : names.Pairwise (· < ·)) :
    (put name names).Pairwise (· < ·) := by
  induction names with
  | nil => simp [put]
  | cons first rest ih =>
    obtain ⟨least, tail⟩ := List.pairwise_cons.1 h
    rw [put]
    split
    case isTrue below =>
      refine List.pairwise_cons.2 ⟨fun e he => ?_, h⟩
      rcases List.mem_cons.1 he with rfl | he
      · exact below
      · exact String.lt_trans below (least e he)
    case isFalse notBelow =>
      split
      case isTrue => exact h
      case isFalse other =>
        refine List.pairwise_cons.2 ⟨fun e he => ?_, ih tail⟩
        rcases mem_put.1 he with rfl | he
        · refine String.not_le.1 fun le => other ?_
          exact String.le_antisymm le (String.not_lt.1 notBelow)
        · exact least e he

def insert (set : NameSet) (name : String) : NameSet :=
  ⟨put name set.names, sorted_put name set.sorted⟩

def contains (set : NameSet) (name : String) : Bool :=
  set.names.contains name

def ofList (names : List String) : NameSet :=
  names.foldl insert ∅

def union (set other : NameSet) : NameSet :=
  other.names.foldl insert set

def filter (keep : String → Bool) (set : NameSet) : NameSet :=
  ⟨set.names.filter keep, set.sorted.sublist List.filter_sublist⟩

end NameSet

end FrontendAtlas
