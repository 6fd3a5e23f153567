import FrontendAtlas.Json.Decode
import Mathlib

namespace FrontendAtlas.Json

theorem bind_eq_ok {ε α β : Type} {x : Except ε α} {f : α → Except ε β} {b : β} :
    (x >>= f) = .ok b ↔ ∃ a, x = .ok a ∧ f a = .ok b := by
  cases x <;> simp [bind, Except.bind]

theorem map_eq_ok {ε α β : Type} {x : Except ε α} {f : α → β} {b : β} :
    x.map f = .ok b ↔ ∃ a, x = .ok a ∧ f a = b := by
  cases x <;> simp [Except.map]

theorem mapError_eq_ok {ε δ α : Type} {x : Except ε α} {f : ε → δ} {a : α} :
    x.mapError f = .ok a ↔ x = .ok a := by
  cases x <;> simp [Except.mapError]

namespace Shape

variable {α β : Type}

theorem build_map_eq_ok {f : α → β} {shape : Shape α} {look : String → Option Draft} {b : β} :
    (f <$> shape).build look = .ok b ↔ ∃ a, shape.build look = .ok a ∧ f a = b :=
  map_eq_ok

theorem build_seq_eq_ok {first : Shape (α → β)} {second : Shape α} {look : String → Option Draft} {b : β} :
    (first <*> second).build look = .ok b ↔
      ∃ f a, first.build look = .ok f ∧ second.build look = .ok a ∧ f a = b := by
  change (first.build look >>= fun f => second.build look >>= fun a => pure (f a)) = .ok b ↔ _
  simp only [bind_eq_ok, pure, Except.pure, Except.ok.injEq]
  constructor
  · rintro ⟨f, hf, a, ha, rfl⟩
    exact ⟨f, a, hf, ha, rfl⟩
  · rintro ⟨f, a, hf, ha, rfl⟩
    exact ⟨f, hf, a, ha, rfl⟩

theorem build_of_decode {shape : Shape α} {draft : Draft} {a : α} (h : shape.decode draft = .ok a) :
    ∃ look, shape.build look = .ok a := by
  cases draft with
  | object fields =>
    obtain ⟨-, -, built⟩ := bind_eq_ok.1 h
    exact ⟨_, built⟩
  | array items =>
    obtain ⟨-, -, built⟩ := bind_eq_ok.1 h
    exact ⟨_, built⟩
  | _ => simp [decode] at h

end Shape

end FrontendAtlas.Json
