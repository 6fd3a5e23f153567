import FrontendAtlas.Dict
import FrontendAtlas.NameSet
import Mathlib

namespace FrontendAtlas

universe u v

namespace Dict

variable {α : Type u} {κ : Type v} [BEq κ] [LawfulBEq κ]

@[simp] theorem get?_empty (name : String) : (∅ : Dict α).get? name = none := rfl

@[simp] theorem entries_empty : (∅ : Dict α).entries = [] := rfl

theorem lookup_cons_ite [DecidableEq κ] (entry : κ × α) (rest : List (κ × α)) (name : κ) :
    (entry :: rest).lookup name = if name = entry.1 then some entry.2 else rest.lookup name := by
  rw [List.lookup_cons]
  by_cases same : name = entry.1
  · simp [same]
  · rw [beq_eq_false_iff_ne.2 same, if_neg same]

theorem lookup_put (name other : String) (value : α) (entries : List (String × α)) :
    (put name value entries).lookup other =
      if other = name then some value else entries.lookup other := by
  induction entries with
  | nil => simp [put, lookup_cons_ite]
  | cons entry rest ih =>
    rw [put]
    split
    · simp [lookup_cons_ite]
    · split
      case isTrue same =>
        simp only [lookup_cons_ite, same]
        split <;> rfl
      case isFalse differs =>
        simp only [lookup_cons_ite, ih]
        by_cases found : other = entry.1
        · simp [found, Ne.symm differs]
        · simp [found]

@[simp] theorem get?_insert (dict : Dict α) (name other : String) (value : α) :
    (dict.insert name value).get? other = if other = name then some value else dict.get? other :=
  lookup_put name other value dict.entries

theorem contains_iff {dict : Dict α} {name : String} :
    dict.contains name = true ↔ ∃ value, dict.get? name = some value :=
  Option.isSome_iff_exists

@[simp] theorem get?_insertIfNew (dict : Dict α) (name other : String) (value : α) :
    (dict.insertIfNew name value).get? other =
      (dict.get? other).or (if other = name then some value else none) := by
  rw [insertIfNew]
  split
  case isTrue known =>
    obtain ⟨old, known⟩ := contains_iff.1 known
    by_cases same : other = name
    · simp [same, known]
    · simp [same]
  case isFalse new =>
    have absent : dict.get? name = none := by simpa [contains] using new
    by_cases same : other = name
    · simp [same, absent]
    · simp [same]

theorem get?_foldl_insertIfNew (entries : List (String × α)) (dict : Dict α) (name : String) :
    (entries.foldl (fun dict entry => dict.insertIfNew entry.1 entry.2) dict).get? name =
      (dict.get? name).or (entries.lookup name) := by
  induction entries generalizing dict with
  | nil => simp
  | cons entry rest ih =>
    rw [List.foldl_cons, ih, get?_insertIfNew, lookup_cons_ite]
    by_cases same : name = entry.1
    · simp only [same, if_true]
      cases dict.get? entry.1 <;> rfl
    · simp [same]

@[simp] theorem get?_ofListFirst (entries : List (String × α)) (name : String) :
    (ofListFirst entries).get? name = entries.lookup name := by
  simp [ofListFirst, get?_foldl_insertIfNew]

@[simp] theorem get?_mergeFirst (dict other : Dict α) (name : String) :
    (dict.mergeFirst other).get? name = (dict.get? name).or (other.get? name) :=
  get?_foldl_insertIfNew other.entries dict name

theorem get?_foldl_insert (entries : List (String × α)) (dict : Dict α) (name : String) :
    (entries.foldl (fun dict entry => dict.insert entry.1 entry.2) dict).get? name =
      (entries.reverse.lookup name).or (dict.get? name) := by
  induction entries generalizing dict with
  | nil => simp
  | cons entry rest ih =>
    rw [List.foldl_cons, ih, get?_insert, List.reverse_cons, List.lookup_append, lookup_cons_ite]
    by_cases same : name = entry.1
    · simp [same]
    · simp [same]

theorem get?_ofList (entries : List (String × α)) (name : String) :
    (ofList entries).get? name = entries.reverse.lookup name := by
  simp [ofList, get?_foldl_insert]

theorem nodup_keys (dict : Dict α) : dict.keys.Nodup := by
  rw [keys, List.Nodup, List.pairwise_map]
  apply dict.sorted.imp
  intro a b below same
  rw [same] at below
  exact String.lt_irrefl _ below

theorem lookup_eq_some_iff_mem [DecidableEq κ] {entries : List (κ × α)}
    (distinct : (entries.map (·.1)).Nodup) {name : κ} {value : α} : entries.lookup name = some value ↔ (name, value) ∈ entries := by
  induction entries with
  | nil => simp
  | cons entry rest ih =>
    obtain ⟨first, old⟩ := entry
    rw [List.map_cons, List.nodup_cons] at distinct
    obtain ⟨fresh, distinct⟩ := distinct
    rw [lookup_cons_ite, List.mem_cons]
    by_cases same : name = first
    · subst same
      have absent : (name, value) ∉ rest := fun found => fresh (List.mem_map.2 ⟨_, found, rfl⟩)
      simp [absent, eq_comm]
    · simp [same, ih distinct]

theorem mem_of_lookup {entries : List (κ × α)} {name : κ} {value : α}
    (found : entries.lookup name = some value) : (name, value) ∈ entries := by
  obtain ⟨before, after, split, -⟩ := List.lookup_eq_some_iff.1 found
  simp [split]

theorem mem_entries_iff {dict : Dict α} {name : String} {value : α} :
    (name, value) ∈ dict.entries ↔ dict.get? name = some value :=
  (lookup_eq_some_iff_mem dict.nodup_keys).symm

theorem mem_keys_iff {dict : Dict α} {name : String} :
    name ∈ dict.keys ↔ dict.contains name = true := by
  rw [contains_iff, keys, List.mem_map]
  constructor
  · rintro ⟨⟨_, value⟩, found, rfl⟩
    exact ⟨value, mem_entries_iff.1 found⟩
  · rintro ⟨value, found⟩
    exact ⟨(name, value), mem_entries_iff.2 found, rfl⟩

theorem ext_get? {a b : Dict α} (same : ∀ name, a.get? name = b.get? name) : a = b := by
  have nodup (dict : Dict α) : dict.entries.Nodup :=
    List.Pairwise.of_map _ (fun _ _ differ same => differ (congrArg Prod.fst same)) dict.nodup_keys
  have perm : a.entries.Perm b.entries := by
    refine (List.perm_ext_iff_of_nodup (nodup a) (nodup b)).2 ?_
    rintro ⟨name, value⟩
    rw [mem_entries_iff, mem_entries_iff, same]
  have entries : a.entries = b.entries := by
    refine perm.eq_of_pairwise ?_ a.sorted b.sorted
    intro x y _ _ below above
    exact absurd (String.lt_trans below above) (String.lt_irrefl _)
  cases a
  cases b
  simpa using entries

theorem isEmpty_iff {dict : Dict α} : dict.isEmpty = true ↔ dict = ∅ := by
  rw [isEmpty, List.isEmpty_iff]
  constructor
  · intro empty
    apply ext_get?
    intro name
    rw [get?, empty]
    rfl
  · rintro rfl
    rfl

theorem eq_empty_iff {dict : Dict α} : dict = ∅ ↔ ∀ name, dict.get? name = none := by
  constructor
  · rintro rfl name
    rfl
  · exact fun none => ext_get? none

theorem ofList_eq_ofListFirst {entries : List (String × α)} (distinct : (entries.map (·.1)).Nodup) :
    ofList entries = ofListFirst entries := by
  apply ext_get?
  intro name
  have reversed : (entries.reverse.map (·.1)).Nodup := by
    rw [List.map_reverse]
    exact List.pairwise_reverse.2 (distinct.imp Ne.symm)
  rw [get?_ofList, get?_ofListFirst]
  apply Option.ext
  intro value
  rw [lookup_eq_some_iff_mem reversed, lookup_eq_some_iff_mem distinct, List.mem_reverse]

theorem ofListFirst_eq_ofList_of_perm {entries others : List (String × α)} (same : entries.Perm others)
    (distinct : (others.map (·.1)).Nodup) : ofListFirst entries = ofList others := by
  have distinct' : (entries.map (·.1)).Nodup := (same.map _).nodup_iff.2 distinct
  rw [ofList_eq_ofListFirst distinct]
  apply ext_get?
  intro name
  rw [get?_ofListFirst, get?_ofListFirst]
  apply Option.ext
  intro value
  rw [lookup_eq_some_iff_mem distinct', lookup_eq_some_iff_mem distinct, same.mem_iff]

theorem get?_ofList_of_nodup {entries : List (String × α)} (distinct : (entries.map (·.1)).Nodup)
    (name : String) : (ofList entries).get? name = entries.lookup name := by
  rw [ofList_eq_ofListFirst distinct, get?_ofListFirst]

theorem mem_of_mem_entries_ofList {entries : List (String × α)} {entry : String × α}
    (member : entry ∈ (ofList entries).entries) : entry ∈ entries := by
  have found := mem_entries_iff.1 member
  rw [get?_ofList] at found
  exact List.mem_reverse.1 (mem_of_lookup found)

@[simp] theorem ofList_entries (dict : Dict α) : ofList dict.entries = dict := by
  rw [ofList_eq_ofListFirst dict.nodup_keys]
  apply ext_get?
  intro name
  rw [get?_ofListFirst, get?]

end Dict

namespace NameSet

theorem nodup_names (set : NameSet) : set.names.Nodup := by
  apply set.sorted.imp
  intro a b below same
  rw [same] at below
  exact String.lt_irrefl _ below

theorem ext_mem {a b : NameSet} (same : ∀ name, name ∈ a.names ↔ name ∈ b.names) : a = b := by
  have perm : a.names.Perm b.names := (List.perm_ext_iff_of_nodup a.nodup_names b.nodup_names).2 same
  have names : a.names = b.names := by
    refine perm.eq_of_pairwise ?_ a.sorted b.sorted
    intro x y _ _ below above
    exact absurd (String.lt_trans below above) (String.lt_irrefl _)
  cases a
  cases b
  simpa using names

@[simp] theorem names_empty : (∅ : NameSet).names = [] := rfl

@[simp] theorem mem_insert {set : NameSet} {name other : String} :
    other ∈ (set.insert name).names ↔ other = name ∨ other ∈ set.names :=
  mem_put

theorem mem_foldl_insert {names : List String} {set : NameSet} {name : String} :
    name ∈ (names.foldl insert set).names ↔ name ∈ set.names ∨ name ∈ names := by
  induction names generalizing set with
  | nil => simp
  | cons first rest ih =>
    rw [List.foldl_cons, ih, mem_insert, List.mem_cons]
    grind

@[simp] theorem mem_ofList {names : List String} {name : String} :
    name ∈ (ofList names).names ↔ name ∈ names := by
  simp [ofList, mem_foldl_insert]

@[simp] theorem mem_union {set other : NameSet} {name : String} :
    name ∈ (set.union other).names ↔ name ∈ set.names ∨ name ∈ other.names :=
  mem_foldl_insert

@[simp] theorem mem_filter {set : NameSet} {keep : String → Bool} {name : String} :
    name ∈ (set.filter keep).names ↔ name ∈ set.names ∧ keep name = true := by
  simp [filter]

@[simp] theorem ofList_names (set : NameSet) : ofList set.names = set := by
  apply ext_mem
  simp

end NameSet

end FrontendAtlas
