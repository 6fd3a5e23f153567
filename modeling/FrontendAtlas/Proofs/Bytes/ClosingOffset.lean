import FrontendAtlas.Proofs.Bytes.Bracket
import FrontendAtlas.Proofs.Source.Balance

namespace FrontendAtlas.Bytes

open FrontendAtlas.Text FrontendAtlas.Source

variable {d : Delimiters} {text : List Char} {c : Char} {p i e depth : Nat}

def opensAt (d : Delimiters) (text : List Char) (i : Nat) : Bool :=
  byte? text i == some d.opener

def closesAt (d : Delimiters) (text : List Char) (i : Nat) : Bool :=
  byte? text i == some d.closer && !(d.closer == '>' && 0 < i && byte? text (i - 1) == some '=')

def tally (holds : Nat → Bool) (start stop : Nat) : Nat :=
  (List.range' start (stop - start)).countP holds

@[simp] theorem tally_self (holds : Nat → Bool) (start : Nat) : tally holds start start = 0 := by
  simp [tally]

theorem tally_succ {start stop : Nat} (holds : Nat → Bool) (ordered : start ≤ stop) :
    tally holds start (stop + 1) = tally holds start stop + if holds stop then 1 else 0 := by
  rw [tally, Nat.succ_sub ordered, List.range'_1_concat, List.countP_append, List.countP_singleton,
    Nat.add_sub_cancel' ordered, tally]

theorem tally_front {start stop : Nat} (holds : Nat → Bool) (ordered : start < stop) :
    tally holds start stop = tally holds (start + 1) stop + if holds start then 1 else 0 := by
  obtain ⟨n, rfl⟩ := Nat.exists_eq_add_of_lt ordered
  have all : start + n + 1 - start = n + 1 := by omega
  have rest : start + n + 1 - (start + 1) = n := by omega
  rw [tally, all, List.range'_succ, List.countP_cons, tally, rest]

/-- Going on from offset `i`, a scan that began at `p` stops at `e`. -/
structure StopsAt (d : Delimiters) (text : List Char) (p i e : Nat) : Prop where
  reached : i ≤ e
  closes : closesAt d text e = true
  settled : tally (opensAt d text) p (e + 1) = tally (closesAt d text) p (e + 1)
  pending : ∀ j, i ≤ j → j < e → tally (closesAt d text) p (j + 1) < tally (opensAt d text) p (j + 1)

structure ClosedAt (d : Delimiters) (text : List Char) (p e : Nat) : Prop where
  opens : opensAt d text p = true
  later : p < e
  stops : StopsAt d text p p e

theorem stopsAt_succ (pending : tally (closesAt d text) p (i + 1) < tally (opensAt d text) p (i + 1)) :
    StopsAt d text p i e ↔ StopsAt d text p (i + 1) e := by
  constructor
  · intro stops
    have other : e ≠ i := by
      rintro rfl
      exact Nat.ne_of_gt pending stops.settled
    have reached := stops.reached
    exact ⟨by omega, stops.closes, stops.settled, fun j onward => stops.pending j (by omega)⟩
  · intro stops
    refine ⟨Nat.le_of_succ_le stops.reached, stops.closes, stops.settled, fun j onward before => ?_⟩
    rcases Nat.eq_or_lt_of_le onward with rfl | onward
    · exact pending
    · exact stops.pending j onward before

theorem stopsAt_iff_eq (closes : closesAt d text i = true)
    (settled : tally (opensAt d text) p (i + 1) = tally (closesAt d text) p (i + 1)) :
    StopsAt d text p i e ↔ e = i := by
  constructor
  · intro stops
    rcases Nat.eq_or_lt_of_le stops.reached with same | further
    · exact same.symm
    · exact absurd settled (Nat.ne_of_gt (stops.pending i (Nat.le_refl i) further))
  · rintro rfl
    exact ⟨Nat.le_refl e, closes, settled, by omega⟩

theorem exists_byte? (inside : i < (bytes text).length) : ∃ c, byte? text i = some c :=
  ⟨Char.ofUInt8 (bytes text)[i], by simp [byte?, inside]⟩

theorem endsArrow_of_byte? (read : byte? text i = some c) :
    endsArrow d text i = .ok (d.closer == '>' && 0 < i && byte? text (i - 1) == some '=') := by
  by_cases angle : d.closer = '>' ∧ 0 < i
  · obtain ⟨angle, positive⟩ := angle
    have inside := Pass.lt_of_byte? read
    obtain ⟨b, before⟩ : ∃ b, byte? text (i - 1) = some b := exists_byte? (by omega)
    simp [endsArrow, angle, positive, subtract, Nat.succ_le_of_lt positive, byteAt, before]
  · rw [endsArrow, if_neg angle]
    rw [not_and_or] at angle
    rcases angle with other | first
    · simp [other]
    · simp [first]

theorem closePass_step_of_byte? (apart : d.opener ≠ d.closer) (read : byte? text i = some c) :
    (closePass d text).step c i (depth + 1) =
      .ok (if opensAt d text i then .next (i + 1) (depth + 2)
        else if closesAt d text i then if depth = 0 then .done (some i) else .next (i + 1) depth
        else .next (i + 1) (depth + 1)) := by
  by_cases opens : c = d.opener
  · simp [closePass, opensAt, read, opens]
  by_cases closes : c = d.closer
  · subst closes
    simp only [closePass, if_neg opens, if_true, endsArrow_of_byte? read, opensAt, closesAt, read, ok_bind]
    cases d.closer == '>' && decide (0 < i) && byte? text (i - 1) == some '=' with
    | true => simp [apart.symm]
    | false => by_cases flat : depth = 0 <;> simp [apart.symm, subtract, flat]
  · simp [closePass, opensAt, closesAt, read, opens, closes]

theorem not_closesAt_of_opensAt (apart : d.opener ≠ d.closer) (opens : opensAt d text i = true) :
    closesAt d text i = false := by
  rw [opensAt, beq_iff_eq] at opens
  simp [closesAt, opens, apart]

theorem run_closePass_eq_iff (apart : d.opener ≠ d.closer) (begun : p ≤ i)
    (deep : tally (opensAt d text) p i = tally (closesAt d text) p i + (depth + 1)) :
    (closePass d text).run text i (depth + 1) = .ok (some e) ↔ StopsAt d text p i e := by
  obtain ⟨left, size⟩ : ∃ left, (bytes text).length - i = left := ⟨_, rfl⟩
  induction left generalizing i depth with
  | zero =>
    -- past the end nothing closes
    have past : byteLength text ≤ i := by
      rw [← length_bytes]
      omega
    rw [Pass.run_of_le past]
    refine iff_of_false (by simp [closePass]) fun stops => ?_
    have closes := stops.closes
    simp only [closesAt, Bool.and_eq_true, beq_iff_eq] at closes
    have inside := Pass.lt_of_byte? closes.1
    have reached := stops.reached
    omega
  | succ left ih =>
    obtain ⟨c, read⟩ : ∃ c, byte? text i = some c := exists_byte? (by omega)
    have step : (closePass d text).step c i (depth + 1) = _ := closePass_step_of_byte? apart read
    have opened := tally_succ (opensAt d text) begun
    have closed := tally_succ (closesAt d text) begun
    cases opens : opensAt d text i with
    | true =>
      rw [opens, if_pos rfl] at step opened
      rw [not_closesAt_of_opensAt apart opens, if_neg (by simp)] at closed
      rw [Pass.run_of_next read step (Nat.lt_succ_self i), stopsAt_succ (by omega)]
      exact ih (by omega) (by omega) (by omega)
    | false =>
      rw [opens, if_neg (by simp)] at step opened
      cases closes : closesAt d text i with
      | false =>
        rw [closes, if_neg (by simp)] at step closed
        rw [Pass.run_of_next read step (Nat.lt_succ_self i), stopsAt_succ (by omega)]
        exact ih (by omega) (by omega) (by omega)
      | true =>
        rw [closes, if_pos rfl] at step closed
        cases depth with
        | zero =>
          rw [Pass.run_of_done read step, stopsAt_iff_eq closes (by omega)]
          simp [eq_comm]
        | succ depth =>
          rw [Pass.run_of_next read step (Nat.lt_succ_self i), stopsAt_succ (by omega)]
          exact ih (by omega) (by omega) (by omega)

theorem close?_eq_some_iff (ascii : Ascii d.opener ∧ Ascii d.closer) (apart : d.opener ≠ d.closer) :
    d.close? text p = some e ↔ ClosedAt d text p e := by
  have scan : d.close? text p = some e ↔ matchingClose d text p = .ok (some e) := by
    rw [matchingClose_eq ascii, Except.ok.injEq]
  rw [scan, matchingClose]
  by_cases read : byte? text p = some d.opener
  · have opens : opensAt d text p = true := by simp [opensAt, read]
    have opened := tally_succ (opensAt d text) (Nat.le_refl p)
    have closed := tally_succ (closesAt d text) (Nat.le_refl p)
    rw [opens, if_pos rfl, tally_self] at opened
    rw [not_closesAt_of_opensAt apart opens, if_neg (by simp), tally_self] at closed
    have first : (closePass d text).step d.opener p 0 = .ok (.next (p + 1) 1) := by simp [closePass]
    have same : StopsAt d text p p e ↔ StopsAt d text p (p + 1) e := stopsAt_succ (by omega)
    rw [if_pos read, Pass.run_of_next read first (Nat.lt_succ_self p),
      run_closePass_eq_iff (p := p) apart (Nat.le_add_right p 1) (by omega)]
    exact ⟨fun stops => ⟨opens, stops.reached, same.2 stops⟩, fun closed => same.1 closed.stops⟩
  · rw [if_neg read]
    refine iff_of_false (by simp) fun closed => read ?_
    simpa [opensAt] using closed.opens

theorem exists_bodyAt?_of_close? (ascii : Ascii d.opener ∧ Ascii d.closer) (found : d.close? text p = some e) :
    ∃ body, d.bodyAt? text p = some body ∧ slice text (p + 1) e = .ok body := by
  have read := balancedBody_eq ascii text p
  rw [balancedBody, matchingClose_eq ascii, found, ok_bind] at read
  cases cut : slice text (p + 1) e with
  | error fault =>
    simp only [cut] at read
    cases read
  | ok body => exact ⟨body, by simpa [cut, eq_comm] using read, rfl⟩

theorem ClosedAt.tally_body_le (closed : ClosedAt d text p e) (apart : d.opener ≠ d.closer) {j : Nat}
    (after : p < j) (before : j ≤ e) :
    tally (closesAt d text) (p + 1) j ≤ tally (opensAt d text) (p + 1) j := by
  have pending := closed.stops.pending (j - 1) (by omega) (by omega)
  rw [Nat.sub_add_cancel (by omega), tally_front _ after, tally_front _ after, closed.opens,
    not_closesAt_of_opensAt apart closed.opens, if_pos rfl, if_neg (by simp)] at pending
  omega

theorem ClosedAt.tally_body_eq (closed : ClosedAt d text p e) (apart : d.opener ≠ d.closer) :
    tally (closesAt d text) (p + 1) e = tally (opensAt d text) (p + 1) e := by
  have settled := closed.stops.settled
  have last : opensAt d text e = false := by
    cases opens : opensAt d text e with
    | false => rfl
    | true => exact absurd closed.stops.closes (by simp [not_closesAt_of_opensAt apart opens])
  have later := closed.later
  rw [tally_succ _ (by omega), tally_succ _ (by omega), tally_front _ later, tally_front _ later, closed.opens,
    not_closesAt_of_opensAt apart closed.opens, closed.stops.closes, last] at settled
  simpa [eq_comm] using settled

theorem close?_append_right (found : d.close? text p = some e) (more : List Char) :
    d.close? (text ++ more) p = some e ∧ d.bodyAt? (text ++ more) p = d.bodyAt? text p := by
  simp only [Delimiters.close?, Option.bind_eq_bind, Option.bind_eq_some_iff, Option.pure_def] at found
  obtain ⟨rest, start, body, read, offset⟩ := found
  have again := fromByte?_eq_some_iff.2 ((fromByte?_eq_some_iff.1 start).append_right more)
  rw [Delimiters.close?, Delimiters.bodyAt?, Delimiters.bodyAt?, start, again]
  simpa [Delimiters.body?_append_right read, read] using offset

/-- The closer of an opener is found, and it is the first offset at which the counts meet.  The text
between the two is balanced, and what follows is not looked at. -/
theorem close?_exact (ascii : Ascii d.opener ∧ Ascii d.closer) (apart : d.opener ≠ d.closer)
    (text : List Char) (p : Nat) :
    (∀ e, d.close? text p = some e ↔ ClosedAt d text p e) ∧
      (d.close? text p = none ↔ ∀ e, ¬ ClosedAt d text p e) ∧
      ∀ e, d.close? text p = some e →
        (∃ body, d.bodyAt? text p = some body ∧ slice text (p + 1) e = .ok body) ∧
        (∀ j, p < j → j ≤ e →
          tally (closesAt d text) (p + 1) j ≤ tally (opensAt d text) (p + 1) j) ∧
        tally (closesAt d text) (p + 1) e = tally (opensAt d text) (p + 1) e ∧
        ∀ more, d.close? (text ++ more) p = some e ∧ d.bodyAt? (text ++ more) p = d.bodyAt? text p := by
  have counted (e : Nat) : d.close? text p = some e ↔ ClosedAt d text p e := close?_eq_some_iff ascii apart
  refine ⟨counted, ?_, fun e found => ?_⟩
  · rw [Option.eq_none_iff_forall_ne_some]
    exact forall_congr' fun e => not_congr (counted e)
  · have closed := (counted e).1 found
    exact ⟨exists_bodyAt?_of_close? ascii found, fun j => closed.tally_body_le apart, closed.tally_body_eq apart,
      close?_append_right found⟩

theorem close?_exact_arrow :
    let text := "Map<é, () => A<B>> x".toList
    Delimiters.angles.close? text 3 = some 18 ∧ ClosedAt .angles text 3 18 ∧
      Delimiters.angles.bodyAt? text 3 = some "é, () => A<B>".toList ∧
      ∀ more, Delimiters.angles.close? (text ++ more) 3 = some 18 := by
  intro text
  have found : Delimiters.angles.close? text 3 = some 18 := by decide +kernel
  have body : Delimiters.angles.bodyAt? text 3 = some "é, () => A<B>".toList := by decide +kernel
  obtain ⟨closed, -, rest⟩ := close?_exact (d := .angles) (by decide) (by decide) text 3
  exact ⟨found, (closed 18).1 found, body, fun more => ((rest 18 found).2.2.2 more).1⟩

end FrontendAtlas.Bytes
