import FrontendAtlas.Proofs.Bytes.Checked
import FrontendAtlas.Text.Utf8

/-! The bytes of a text and the offsets between its characters.  A pass over the bytes checks every
access: it fails where it reads past the end, cuts a character in two, counts below zero or does not
move on.  The rest of this directory shows that the passes which read source text never fail, and
that they find what the readers of characters find. -/

namespace FrontendAtlas.Bytes

open FrontendAtlas.Text

def bytes (text : List Char) : List UInt8 :=
  text.flatMap String.utf8EncodeChar

def byte? (text : List Char) (i : Nat) : Option Char :=
  (bytes text)[i]?.map Char.ofUInt8

def byteAt (text : List Char) (i : Nat) : Checked Char :=
  (byte? text i).elim (.error .index) .ok

def sliceFrom (text : List Char) (i : Nat) : Checked (List Char) :=
  (fromByte? i text).elim (.error .cut) .ok

def slice (text : List Char) (i j : Nat) : Checked (List Char) := do
  let front ← sliceFrom text i
  let back ← sliceFrom text j
  if i ≤ j then return front.take (front.length - back.length) else throw .cut

def At (text : List Char) (i : Nat) (rest : List Char) : Prop :=
  ∃ front, text = front ++ rest ∧ i = byteLength front

@[simp] theorem byteLength_nil : byteLength [] = 0 := rfl

@[simp] theorem byteLength_append (front back : List Char) :
    byteLength (front ++ back) = byteLength front + byteLength back := by
  induction front with
  | nil => simp [byteLength]
  | cons c front ih => simp [byteLength, ih, Nat.add_assoc]

theorem length_bytes (text : List Char) : (bytes text).length = byteLength text := by
  induction text with
  | nil => rfl
  | cons c text ih =>
    rw [bytes, List.flatMap_cons, List.length_append, String.length_utf8EncodeChar]
    exact congrArg (c.utf8Size + ·) ih

variable {text mid rest : List Char} {c : Char} {i j k : Nat}

theorem At.start (text : List Char) : At text 0 text :=
  ⟨[], rfl, rfl⟩

theorem At.append (place : At text i (mid ++ rest)) : At text (i + byteLength mid) rest := by
  obtain ⟨front, rfl, rfl⟩ := place
  exact ⟨front ++ mid, by simp, by simp⟩

theorem At.append_right (place : At text i rest) (more : List Char) :
    At (text ++ more) i (rest ++ more) := by
  obtain ⟨front, rfl, rfl⟩ := place
  exact ⟨front, List.append_assoc .., rfl⟩

theorem At.next (place : At text i (c :: rest)) : At text (i + c.utf8Size) rest := by
  have front : At text i ([c] ++ rest) := place
  exact front.append

theorem At.size (place : At text i rest) : i + byteLength rest = byteLength text := by
  obtain ⟨front, rfl, rfl⟩ := place
  simp

theorem At.of_suffix (part : rest <:+ text) : At text (byteLength text - byteLength rest) rest := by
  obtain ⟨front, rfl⟩ := part
  exact ⟨front, rfl, by simp⟩

theorem At.suffix (place : At text i rest) : rest <:+ text := by
  obtain ⟨front, rfl, -⟩ := place
  exact List.suffix_append front rest

theorem place_byteLength (front rest : List Char) :
    place (byteLength front) (front ++ rest) = .boundary rest := by
  induction front with
  | nil => simp [byteLength, place]
  | cons c front ih =>
    obtain ⟨n, size⟩ : ∃ n, byteLength (c :: front) = n + 1 :=
      Nat.exists_eq_succ_of_ne_zero (by have := c.utf8Size_pos; simp only [byteLength]; omega)
    rw [size, List.cons_append, place, ← size, byteLength, if_pos (Nat.le_add_right _ _),
      Nat.add_sub_cancel_left, ih]

theorem at_of_place (found : place i text = .boundary rest) : At text i rest := by
  fun_induction place i text with
  | case1 text =>
    cases found
    exact .start _
  | case2 => cases found
  | case3 n c back fits ih =>
    obtain ⟨front, split, size⟩ := ih found
    exact ⟨c :: front, by rw [split, List.cons_append], by rw [byteLength]; omega⟩
  | case4 => cases found

theorem exists_at_of_place_inside (found : place i text = .inside rest) :
    ∃ j k c, At text j (c :: rest) ∧ i = j + k ∧ 0 < k ∧ k < c.utf8Size := by
  fun_induction place i text with
  | case1 => cases found
  | case2 => cases found
  | case3 n c back fits ih =>
    obtain ⟨j, k, d, ⟨front, split, size⟩, offset, inside⟩ := ih found
    exact ⟨c.utf8Size + j, k, d,
      ⟨c :: front, by rw [split, List.cons_append], by rw [byteLength, size]⟩, by omega, inside⟩
  | case4 n c back cut =>
    cases found
    exact ⟨0, n + 1, c, .start _, by omega, by omega, by omega⟩

theorem lt_of_place_beyond (found : place i text = .beyond) : byteLength text < i := by
  fun_induction place i text with
  | case1 => cases found
  | case2 n => exact Nat.succ_pos n
  | case3 n c back fits ih =>
    have := ih found
    rw [byteLength]
    omega
  | case4 => cases found

theorem fromByte?_eq_some_iff : fromByte? i text = some rest ↔ At text i rest := by
  constructor
  · intro found
    rw [fromByte?] at found
    split at found
    next at_ => exact at_of_place (at_.trans (congrArg Place.boundary (Option.some.inj found)))
    next => cases found
  · rintro ⟨front, rfl, rfl⟩
    rw [fromByte?, place_byteLength]

theorem At.sliceFrom (place : At text i rest) : sliceFrom text i = .ok rest := by
  rw [Bytes.sliceFrom, fromByte?_eq_some_iff.2 place]
  rfl

theorem At.slice (start : At text i (mid ++ rest)) (stop : At text j rest) :
    slice text i j = .ok mid := by
  have order : i ≤ j := by
    have := start.size
    have := stop.size
    simp only [byteLength_append] at *
    omega
  rw [Bytes.slice, start.sliceFrom, stop.sliceFrom]
  simp [order]

abbrev Ascii (c : Char) : Prop := c.toNat < 128

theorem utf8Size_of_ascii (ascii : Ascii c) : c.utf8Size = 1 :=
  Char.utf8Size_eq_one_iff.2 (UInt32.le_iff_toNat_le.2 (Nat.le_of_lt_succ ascii))

theorem ne_of_wide {a b : Char} (wide : ¬ Ascii b) (ascii : Ascii a) : b ≠ a := by
  rintro rfl
  exact wide ascii

theorem At.succ (place : At text i (c :: rest)) (ascii : Ascii c) : At text (i + 1) rest :=
  utf8Size_of_ascii ascii ▸ place.next

theorem encode_of_ascii (ascii : Ascii c) : (String.utf8EncodeChar c).map Char.ofUInt8 = [c] := by
  rw [String.utf8EncodeChar_eq_singleton (utf8Size_of_ascii ascii), List.map_singleton]
  have small : c.val.toUInt8.toNat = c.toNat := Nat.mod_eq_of_lt (Nat.lt_trans ascii (by decide))
  exact congrArg (fun d => [d]) (Char.toNat_inj.1 small)

theorem not_ascii_of_mem_encode (wide : ¬ Ascii c) {b : UInt8}
    (member : b ∈ String.utf8EncodeChar c) :
    ¬ Ascii (Char.ofUInt8 b) := by
  suffices high : 128 ≤ b.toNat from Nat.not_lt.2 high
  have large : ¬ c.val.toNat ≤ 0x7f := fun small => wide (Nat.lt_succ_of_le small)
  rw [String.utf8EncodeChar] at member
  simp only [if_neg large] at member
  split at member
  case isTrue =>
    simp only [List.mem_cons, List.not_mem_nil, or_false] at member
    rcases member with rfl | rfl
    all_goals simp only [UInt8.toNat_ofNat']
    all_goals omega
  case isFalse =>
    split at member
    · simp only [List.mem_cons, List.not_mem_nil, or_false] at member
      rcases member with rfl | rfl | rfl
      all_goals simp only [UInt8.toNat_ofNat']
      all_goals omega
    · simp only [List.mem_cons, List.not_mem_nil, or_false] at member
      rcases member with rfl | rfl | rfl | rfl
      all_goals simp only [UInt8.toNat_ofNat']
      all_goals omega

theorem byte?_append (front rest : List Char) (k : Nat) :
    byte? (front ++ rest) (byteLength front + k) = byte? rest k := by
  rw [byte?, byte?, bytes, List.flatMap_append, List.getElem?_append_right]
  · simp [bytes, ← length_bytes]
  · simp [← length_bytes, bytes]

theorem At.byte? (place : At text i rest) (k : Nat) : byte? text (i + k) = byte? rest k := by
  obtain ⟨front, rfl, rfl⟩ := place
  exact byte?_append front rest k

theorem byte?_cons (rest : List Char) (inside : k < c.utf8Size) :
    byte? (c :: rest) k = (String.utf8EncodeChar c)[k]?.map Char.ofUInt8 := by
  rw [Bytes.byte?, bytes, List.flatMap_cons, List.getElem?_append_left]
  rwa [String.length_utf8EncodeChar]

theorem At.byte?_ascii (place : At text i (c :: rest)) (ascii : Ascii c) :
    Bytes.byte? text i = some c := by
  have inside : 0 < c.utf8Size := c.utf8Size_pos
  rw [← Nat.add_zero i, place.byte?, byte?_cons rest inside, ← List.getElem?_map,
    encode_of_ascii ascii]
  rfl

theorem At.byte?_wide (place : At text i (c :: rest)) (wide : ¬ Ascii c) (inside : k < c.utf8Size) :
    ∃ b, Bytes.byte? text (i + k) = some b ∧ ¬ Ascii b := by
  have bound : k < (String.utf8EncodeChar c).length := by rwa [String.length_utf8EncodeChar]
  refine ⟨Char.ofUInt8 (String.utf8EncodeChar c)[k], ?_,
    not_ascii_of_mem_encode wide (List.getElem_mem bound)⟩
  rw [place.byte?, byte?_cons rest inside, List.getElem?_eq_getElem bound]
  rfl

theorem At.byte?_within (place : At text i (c :: rest)) (inside : k < c.utf8Size) :
    ∃ b, Bytes.byte? text (i + k) = some b ∧ ∀ a, Ascii a → (b = a ↔ c = a) := by
  by_cases small : Ascii c
  · refine ⟨c, ?_, fun a _ => Iff.rfl⟩
    rw [utf8Size_of_ascii small, Nat.lt_one_iff] at inside
    rw [inside, Nat.add_zero, place.byte?_ascii small]
  · obtain ⟨b, read, high⟩ := place.byte?_wide small inside
    refine ⟨b, read, fun a ascii => ?_⟩
    simp only [ne_of_wide high ascii, ne_of_wide small ascii]

theorem At.byte?_first (place : At text i (c :: rest)) :
    ∃ b, Bytes.byte? text i = some b ∧ ∀ a, Ascii a → (b = a ↔ c = a) :=
  place.byte?_within (k := 0) c.utf8Size_pos

theorem At.byte?_last (place : At text i (c :: rest)) :
    ∃ b, Bytes.byte? text (i + c.utf8Size - 1) = some b ∧ ∀ a, Ascii a → (b = a ↔ c = a) := by
  have size := c.utf8Size_pos
  rw [Nat.add_sub_assoc size]
  exact place.byte?_within (Nat.sub_lt size Nat.one_pos)

theorem At.byte?_eq_iff {a : Char} (place : At text i rest) (ascii : Ascii a) :
    Bytes.byte? text i = some a ↔ rest.head? = some a := by
  cases rest with
  | nil =>
    have past : (bytes text)[i]? = none :=
      List.getElem?_eq_none (by rw [length_bytes, ← place.size]; simp)
    simp [Bytes.byte?, past]
  | cons c rest =>
    obtain ⟨b, read, same⟩ := place.byte?_first
    rw [read, List.head?_cons, Option.some.injEq, Option.some.injEq, same a ascii]

theorem exists_at_of_byte? (read : Bytes.byte? text i = some c) (ascii : Ascii c) :
    ∃ rest, At text i (c :: rest) := by
  induction text generalizing i with
  | nil => simp [Bytes.byte?, bytes] at read
  | cons d text ih =>
    have place := At.start (d :: text)
    by_cases inside : i < d.utf8Size
    · by_cases small : Ascii d
      · rw [utf8Size_of_ascii small, Nat.lt_one_iff] at inside
        rw [inside, place.byte?_ascii small] at read
        cases read
        exact ⟨text, inside ▸ place⟩
      · obtain ⟨b, other, high⟩ := place.byte?_wide small inside
        rw [Nat.zero_add, read] at other
        cases other
        exact absurd ascii high
    · obtain ⟨k, rfl⟩ := Nat.exists_eq_add_of_le (Nat.le_of_not_lt inside)
      have later := place.next.byte? k
      rw [Nat.zero_add] at later
      obtain ⟨rest, front, rfl, rfl⟩ := ih (later.symm.trans read)
      exact ⟨rest, d :: front, rfl, rfl⟩

variable {σ ρ : Type}

inductive Move (σ ρ : Type) where
  | done (result : ρ)
  | next (offset : Nat) (state : σ)

structure Pass (σ ρ : Type) where
  step : Char → Nat → σ → Checked (Move σ ρ)
  finish : Nat → σ → Checked ρ

namespace Pass

def run (pass : Pass σ ρ) (text : List Char) (i : Nat) (state : σ) : Checked ρ :=
  if i < (bytes text).length then do
    match ← pass.step (← byteAt text i) i state with
    | .done result => return result
    | .next j later => if i < j then run pass text j later else throw .stall
  else pass.finish i state
termination_by (bytes text).length - i

variable {pass : Pass σ ρ} {state later : σ} {result : ρ}

theorem run_of_le (past : byteLength text ≤ i) : pass.run text i state = pass.finish i state := by
  rw [run, if_neg (by rw [length_bytes]; omega)]

theorem run_of_end (place : At text i []) : pass.run text i state = pass.finish i state :=
  run_of_le (by rw [← place.size]; simp [byteLength])

theorem lt_of_byte? (read : Bytes.byte? text i = some c) : i < (bytes text).length := by
  rw [Bytes.byte?, Option.map_eq_some_iff] at read
  obtain ⟨b, found, -⟩ := read
  exact (List.getElem?_eq_some_iff.1 found).1

theorem run_of_done (read : Bytes.byte? text i = some c)
    (step : pass.step c i state = .ok (.done result)) :
    pass.run text i state = .ok result := by
  rw [run, if_pos (lt_of_byte? read), byteAt, read]
  simp [step]

theorem run_of_next (read : Bytes.byte? text i = some c)
    (step : pass.step c i state = .ok (.next j later)) (further : i < j) :
    pass.run text i state = pass.run text j later := by
  rw [run, if_pos (lt_of_byte? read), byteAt, read]
  simp [step, further]

theorem run_of_elim {α : Type} {found : Option α} {offset : α → Nat} {state' : α → σ}
    (read : Bytes.byte? text i = some c)
    (step : pass.step c i state =
      .ok (found.elim (.done result) fun a => .next (offset a) (state' a)))
    (further : ∀ a, i < offset a) : pass.run text i state =
      found.elim (.ok result) fun a => pass.run text (offset a) (state' a) := by
  cases found with
  | none => exact run_of_done read step
  | some a => exact run_of_next read step (further a)

/-- Bytes out of the range of ASCII only change the state. -/
def Passes (pass : Pass σ ρ) (state later : σ) : Prop :=
  ∀ b i, ¬ Ascii b → pass.step b i state = .ok (.next (i + 1) later)

theorem run_inside (place : At text i (c :: rest)) (wide : ¬ Ascii c)
    (first : pass.Passes state later) (again : pass.Passes later later) (inside : k < c.utf8Size) :
    pass.run text (i + k) state = pass.run text (i + c.utf8Size) later := by
  -- By induction on the number of bytes that are left; after the first one the state stays the same.
  obtain ⟨left, size⟩ := Nat.exists_eq_add_of_lt inside
  induction left generalizing k state with
  | zero =>
    obtain ⟨b, read, high⟩ := place.byte?_wide wide inside
    rw [run_of_next read (first b (i + k) high) (Nat.lt_succ_self _), size, Nat.add_zero,
      Nat.add_assoc]
  | succ left ih =>
    obtain ⟨b, read, high⟩ := place.byte?_wide wide inside
    rw [run_of_next read (first b (i + k) high) (Nat.lt_succ_self _), Nat.add_assoc]
    exact ih again (by omega) (by omega)

theorem run_char (place : At text i (c :: rest))
    (step : Ascii c → pass.step c i state = .ok (.next (i + 1) later))
    (wide : ¬ Ascii c → pass.Passes state later ∧ pass.Passes later later) :
    pass.run text i state = pass.run text (i + c.utf8Size) later := by
  by_cases small : Ascii c
  · rw [run_of_next (place.byte?_ascii small) (step small) (Nat.lt_succ_self i),
      utf8Size_of_ascii small]
  · exact run_inside (k := 0) place small (wide small).1 (wide small).2 c.utf8Size_pos

theorem run_plain (place : At text i (c :: rest)) (wide : pass.Passes state state)
    (plain : Ascii c → pass.step c i state = .ok (.next (i + 1) state)) :
    pass.run text i state = pass.run text (i + c.utf8Size) state :=
  run_char place plain fun _ => ⟨wide, wide⟩

theorem run_succ (place : At text i (c :: rest)) (wide : pass.Passes state state) :
    pass.run text (i + 1) state = pass.run text (i + c.utf8Size) state := by
  by_cases small : Ascii c
  · rw [utf8Size_of_ascii small]
  · have long : 1 < c.utf8Size := by
      have := c.utf8Size_pos
      have : c.utf8Size ≠ 1 := fun one =>
        small (Nat.lt_succ_of_le (UInt32.le_iff_toNat_le.1 (Char.utf8Size_eq_one_iff.1 one)))
      omega
    exact run_inside place small wide wide long

end Pass

theorem suffix_induction {motive : List Char → Prop} (nil : motive [])
    (cons : ∀ c rest, (∀ later, later <:+ rest → motive later) → motive (c :: rest))
    (text : List Char) : motive text := by
  suffices every : ∀ rest, rest <:+ text → motive rest from every text (List.suffix_refl text)
  induction text with
  | nil =>
    intro rest part
    rw [List.suffix_nil.1 part]
    exact nil
  | cons c text ih =>
    intro rest part
    rcases List.suffix_cons_iff.1 part with rfl | part
    · exact cons c text ih
    · exact ih rest part

end FrontendAtlas.Bytes
