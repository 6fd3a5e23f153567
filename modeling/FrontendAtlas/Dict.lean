namespace FrontendAtlas

universe u v

structure Dict (α : Type u) where
  entries : List (String × α)
  sorted : entries.Pairwise fun a b => a.1 < b.1
  deriving DecidableEq

namespace Dict

variable {α : Type u} {β : Type v}

def empty : Dict α := ⟨[], .nil⟩

instance : EmptyCollection (Dict α) := ⟨empty⟩
instance : Inhabited (Dict α) := ⟨empty⟩

def put (name : String) (value : α) : List (String × α) → List (String × α)
  | [] => [(name, value)]
  | entry :: rest =>
    if name < entry.1 then (name, value) :: entry :: rest
    else if name = entry.1 then (name, value) :: rest
    else entry :: put name value rest

theorem fst_of_mem_put {name : String} {value : α} {entries : List (String × α)} {e : String × α}
    (h : e ∈ put name value entries) : e.1 = name ∨ e ∈ entries := by
  induction entries with
  | nil => simp [put] at h; simp [h]
  | cons entry rest ih =>
    rw [put] at h
    split at h
    · rcases List.mem_cons.1 h with rfl | h
      · exact .inl rfl
      · exact .inr h
    · split at h
      · rcases List.mem_cons.1 h with rfl | h
        · exact .inl rfl
        · exact .inr (List.mem_cons_of_mem _ h)
      · rcases List.mem_cons.1 h with rfl | h
        · exact .inr List.mem_cons_self
        · exact (ih h).imp_right (List.mem_cons_of_mem _)

theorem sorted_put (name : String) (value : α) {entries : List (String × α)}
    (h : entries.Pairwise fun a b => a.1 < b.1) :
    (put name value entries).Pairwise fun a b => a.1 < b.1 := by
  induction entries with
  | nil => simp [put]
  | cons entry rest ih =>
    obtain ⟨first, tail⟩ := List.pairwise_cons.1 h
    rw [put]
    split
    case isTrue below =>
      refine List.pairwise_cons.2 ⟨fun e he => ?_, h⟩
      rcases List.mem_cons.1 he with rfl | he
      · exact below
      · exact String.lt_trans below (first e he)
    case isFalse notBelow =>
      split
      case isTrue same => exact List.pairwise_cons.2 ⟨fun e he => same ▸ first e he, tail⟩
      case isFalse other =>
        refine List.pairwise_cons.2 ⟨fun e he => ?_, ih tail⟩
        rcases fst_of_mem_put he with same | he
        · rw [same]
          refine String.not_le.1 fun le => other ?_
          exact String.le_antisymm le (String.not_lt.1 notBelow)
        · exact first e he

def insert (dict : Dict α) (name : String) (value : α) : Dict α :=
  ⟨put name value dict.entries, sorted_put name value dict.sorted⟩

def get? (dict : Dict α) (name : String) : Option α :=
  dict.entries.lookup name

def contains (dict : Dict α) (name : String) : Bool :=
  (dict.get? name).isSome

def insertIfNew (dict : Dict α) (name : String) (value : α) : Dict α :=
  if dict.contains name then dict else dict.insert name value

def ofList (entries : List (String × α)) : Dict α :=
  entries.foldl (fun dict entry => dict.insert entry.1 entry.2) ∅

def ofListFirst (entries : List (String × α)) : Dict α :=
  entries.foldl (fun dict entry => dict.insertIfNew entry.1 entry.2) ∅

def keys (dict : Dict α) : List String :=
  dict.entries.map (·.1)

def values (dict : Dict α) : List α :=
  dict.entries.map (·.2)

def size (dict : Dict α) : Nat :=
  dict.entries.length

def isEmpty (dict : Dict α) : Bool :=
  dict.entries.isEmpty

def mergeFirst (dict other : Dict α) : Dict α :=
  other.entries.foldl (fun dict entry => dict.insertIfNew entry.1 entry.2) dict

end Dict

end FrontendAtlas
