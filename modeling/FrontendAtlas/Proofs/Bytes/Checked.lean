import FrontendAtlas.Dict
import Mathlib

namespace FrontendAtlas.Bytes

inductive Fault where
  | index
  /-- A stretch is cut out whose ends are out of order, past the end or inside a character. -/
  | cut
  | underflow
  | stall

abbrev Checked := Except Fault

variable {α β : Type}

@[simp] theorem ok_bind (a : α) (next : α → Checked β) : (Except.ok a >>= next) = next a := rfl

@[simp] theorem pure_eq_ok (a : α) : (pure a : Checked α) = .ok a := rfl

def subtract (m n : Nat) : Checked Nat :=
  if n ≤ m then return m - n else throw .underflow

def orElse (first second : Checked (Option α)) : Checked (Option α) := do
  match ← first with
  | some found => return some found
  | none => second

theorem orElse_eq {first second : Checked (Option α)} {a b : Option α} (one : first = .ok a)
    (two : second = .ok b) :
    orElse first second = .ok (a <|> b) := by
  rw [one, two]
  cases a <;> rfl

section Lists

variable {items : List α}

theorem anyM_eq {test : α → Checked Bool} {holds : α → Bool}
    (total : ∀ a ∈ items, test a = .ok (holds a)) :
    items.anyM test = .ok (items.any holds) := by
  induction items with
  | nil => rfl
  | cons a items ih =>
    rw [List.forall_mem_cons] at total
    rw [List.anyM, total.1, List.any_cons]
    cases holds a with
    | true => rfl
    | false => exact ih total.2

theorem findM?_eq {test : α → Checked Bool} {holds : α → Bool}
    (total : ∀ a ∈ items, test a = .ok (holds a)) :
    items.findM? test = .ok (items.find? holds) := by
  induction items with
  | nil => rfl
  | cons a items ih =>
    rw [List.forall_mem_cons] at total
    rw [List.findM?, total.1, List.find?]
    cases holds a with
    | true => rfl
    | false => exact ih total.2

theorem findSomeM?_eq {read : α → Checked (Option β)} {value : α → Option β}
    (total : ∀ a ∈ items, read a = .ok (value a)) :
      items.findSomeM? read = .ok (items.findSome? value) := by
  induction items with
  | nil => rfl
  | cons a items ih =>
    rw [List.forall_mem_cons] at total
    rw [List.findSomeM?, total.1, List.findSome?]
    cases value a with
    | some b => rfl
    | none => exact ih total.2

theorem filterM_eq {test : α → Checked Bool} {holds : α → Bool}
    (total : ∀ a ∈ items, test a = .ok (holds a)) :
    items.filterM test = .ok (items.filter holds) := by
  have reversed (kept : List α) :
      items.filterAuxM test kept = .ok ((items.filter holds).reverse ++ kept) := by
    induction items generalizing kept with
    | nil => rfl
    | cons a items ih =>
      rw [List.forall_mem_cons] at total
      rw [List.filterAuxM, total.1]
      cases found : holds a with
      | true =>
        rw [List.filter_cons_of_pos found, List.reverse_cons, List.append_assoc]
        exact ih total.2 (a :: kept)
      | false =>
        rw [List.filter_cons_of_neg (by simp [found])]
        exact ih total.2 kept
  rw [List.filterM, reversed]
  simp

theorem filterMapM_eq {read : α → Checked (Option β)} (value : α → Option β)
    (total : ∀ a ∈ items, read a = .ok (value a)) :
      items.filterMapM read = .ok (items.filterMap value) := by
  have reversed (kept : List β) :
      List.filterMapM.loop read items kept = .ok (kept.reverse ++ items.filterMap value) := by
    induction items generalizing kept with
    | nil => simp [List.filterMapM.loop]
    | cons a items ih =>
      rw [List.forall_mem_cons] at total
      rw [List.filterMapM.loop, total.1, List.filterMap_cons]
      cases value a with
      | none => exact ih total.2 kept
      | some b => simpa using ih total.2 (b :: kept)
  exact reversed []

def meet (name : α → String) (read : α → Checked (Option β)) (dict : Dict β) (item : α) :
    Checked (Dict β) := do
  if dict.contains (name item) then return dict
  else match ← read item with
    | some value => return dict.insert (name item) value
    | none => return dict

def gather (items : List α) (name : α → String) (read : α → Checked (Option β)) :
    Checked (Dict β) :=
  items.foldlM (meet name read) ∅

theorem meet_eq {name : α → String} {read : α → Checked (Option β)} {item : α} {value : Option β}
    (dict : Dict β) (total : read item = .ok value) :
    meet name read dict item = .ok (value.elim dict (dict.insertIfNew (name item))) := by
  rw [meet, total]
  cases known : dict.contains (name item) <;> cases value <;> simp [Dict.insertIfNew, known]

theorem gather_eq (name : α → String) {read : α → Checked (Option β)} (value : α → Option β)
    (total : ∀ a ∈ items, read a = .ok (value a)) :
    gather items name read =
      .ok (Dict.ofListFirst (items.filterMap fun a => (value a).map (name a, ·))) := by
  rw [gather, Dict.ofListFirst]
  generalize (∅ : Dict β) = dict
  induction items generalizing dict with
  | nil => rfl
  | cons a items ih =>
    rw [List.forall_mem_cons] at total
    rw [List.foldlM_cons, List.filterMap_cons, meet_eq dict total.1, ok_bind, ih total.2]
    cases value a <;> rfl

end Lists

end FrontendAtlas.Bytes
